import BuckRegulator.Proofs.Bus.Request
import BuckRegulator.Trim.Calibration

namespace BuckRegulator.Trim

open Bus (Procedure Request Transaction Transport readAnswers requests)

variable {ε σ : Type}

def Write.request (w : Write) : Request :=
  .write w.address w.register w.value

def Write.ofRequest? : Request → Option Write
  | .read .. => none
  | .write address register value => some ⟨address, register, value⟩

/-- The writes that a log asks for, whatever they were answered. -/
def written (log : List (Transaction ε)) : List Write :=
  (requests log).filterMap Write.ofRequest?

@[simp] theorem written_append (first second : List (Transaction ε)) :
    written (first ++ second) = written first ++ written second := by
  rw [written, Bus.requests_append, List.filterMap_append]
  rfl

@[simp] theorem written_read (address register : UInt8) (answer : Except ε UInt8)
    (log : List (Transaction ε)) :
    written (.read address register answer :: log) = written log := rfl

@[simp] theorem written_write (address register value : UInt8) (answer : Except ε Unit)
    (log : List (Transaction ε)) :
    written (.write address register value answer :: log) =
      ⟨address, register, value⟩ :: written log := rfl

theorem written_of_reads {log : List (Transaction ε)}
    (h : ∀ entry ∈ log, entry.isWrite = false) : written log = [] := by
  apply List.filterMap_eq_nil_iff.mpr
  intro request member
  obtain ⟨entry, hentry, rfl⟩ := List.mem_map.mp member
  cases entry with
  | read => rfl
  | write => cases h _ hentry

theorem exists_of_mem_written {log : List (Transaction ε)} {w : Write} (h : w ∈ written log) :
    ∃ entry ∈ log, entry.register = w.register := by
  obtain ⟨request, hasked, hrequest⟩ := List.mem_filterMap.mp h
  obtain ⟨entry, member, rfl⟩ := List.mem_map.mp hasked
  refine ⟨entry, member, ?_⟩
  cases entry with
  | read => cases hrequest
  | write =>
      cases hrequest
      rfl

theorem run_detect (t : Transport ε σ) (site : Site) (bus : σ) :
    (detect site).run t bus =
      let answer := t.read site.address statusRegister bus
      ⟨Detection.ofAnswer site answer.1,
        [.read site.address statusRegister answer.1], answer.2⟩ := rfl

theorem run_readEach_cons (t : Transport ε σ) (address register : UInt8)
    (rest : List UInt8) (bus : σ) :
    (readEach address (register :: rest)).run t bus =
      let got := t.read address register bus
      match got.1 with
      | .error e => ⟨none, [.read address register (.error e)], got.2⟩
      | .ok value =>
          let later := (readEach address rest).run t got.2
          ⟨later.result.map ((register, value) :: ·),
            .read address register (.ok value) :: later.log, later.bus⟩ := by
  simp only [readEach, Procedure.run_bind, Bus.run_read]
  cases (t.read address register bus).1 with
  | error e => rfl
  | ok value =>
      simp only [Procedure.run_bind, Procedure.run_pure, List.append_nil]
      rfl

/-- Saving only reads. -/
theorem isWrite_of_mem_readEach (t : Transport ε σ) (address : UInt8)
    (registers : List UInt8) (bus : σ) :
    ∀ entry ∈ ((readEach address registers).run t bus).log, entry.isWrite = false := by
  induction registers generalizing bus with
  | nil =>
      intro entry member
      cases member
  | cons register rest ih =>
      rw [run_readEach_cons]
      cases got : (t.read address register bus).1 with
      | error e => simp [got, Transaction.isWrite]
      | ok value =>
          simp only [got, List.mem_cons, forall_eq_or_imp]
          exact ⟨rfl, ih _⟩

theorem isWrite_of_mem_save (t : Transport ε σ) (site : Site) (bus : σ) :
    ∀ entry ∈ ((save site).run t bus).log, entry.isWrite = false :=
  isWrite_of_mem_readEach t site.address trimRegisters bus

/-- Inspection asks for every register, whatever the answers. -/
theorem requests_inspect (t : Transport ε σ) (address : UInt8)
    (registers : List UInt8) (bus : σ) :
    requests ((inspect address registers).run t bus).log =
      registers.map (.read address) := by
  induction registers generalizing bus with
  | nil => rfl
  | cons register rest ih =>
      simp only [inspect, Procedure.run_bind, Bus.run_read, Bus.requests_append,
        Bus.requests_cons, Bus.requests_nil, ih, List.map_cons]
      rfl

/-- Every planned write is issued, in order, whatever the answers. -/
theorem requests_issue (t : Transport ε σ) (faults : UInt8) (writes : List Write)
    (bus : σ) :
    requests ((issue faults writes).run t bus).log = writes.map Write.request := by
  induction writes generalizing faults bus with
  | nil => rfl
  | cons w rest ih =>
      simp only [issue, Procedure.run_bind, Bus.run_write, Bus.requests_append,
        Bus.requests_cons, Bus.requests_nil, ih, List.map_cons]
      rfl

theorem written_issue (t : Transport ε σ) (faults : UInt8) (writes : List Write)
    (bus : σ) : written ((issue faults writes).run t bus).log = writes := by
  rw [written, requests_issue, List.filterMap_map]
  exact List.filterMap_some

theorem written_inspect (t : Transport ε σ) (address : UInt8) (registers : List UInt8)
    (bus : σ) : written ((inspect address registers).run t bus).log = [] := by
  rw [written, requests_inspect, List.filterMap_map]
  exact List.filterMap_eq_nil_iff.mpr fun _ _ => rfl

theorem readAnswers_issue (t : Transport ε σ) (faults : UInt8) (writes : List Write)
    (bus : σ) : readAnswers ((issue faults writes).run t bus).log = [] := by
  induction writes generalizing faults bus with
  | nil => rfl
  | cons w rest ih =>
      simp only [issue, Procedure.run_bind, Bus.run_write, Bus.readAnswers_append, ih]
      rfl

/-- A lone site is saved, written and inspected; if it cannot be saved, no more
happens. -/
theorem run_perform_solo (t : Transport ε σ) (site : Site) (bus : σ) :
    (Plan.solo site).perform.run t bus =
      let saving := (save site).run t bus
      match saving.result with
      | none => ⟨(.aborted, 0), saving.log, saving.bus⟩
      | some saved =>
          let issuing := (issue 0 (soloWrites site saved)).run t saving.bus
          let inspecting := (inspect site.address inspectedRegisters).run t issuing.bus
          ⟨(.calibrated, issuing.result),
            saving.log ++ (issuing.log ++ inspecting.log), inspecting.bus⟩ := by
  simp only [Plan.perform, Procedure.run_bind]
  cases ((save site).run t bus).result with
  | none =>
      simp only [Procedure.run_pure, List.append_nil]
  | some saved =>
      simp only [Procedure.run_bind, Procedure.run_pure, List.append_nil]

/-- Both sites are saved in any case, and written if both could be saved. -/
theorem run_perform_pair (t : Transport ε σ) (bus : σ) :
    Plan.pair.perform.run t bus =
      let first := (save .primary).run t bus
      let second := (save .secondary).run t first.bus
      match first.result, second.result with
      | some primary, some secondary =>
          let issuing := (issue 0 (pairWrites primary secondary)).run t second.bus
          ⟨(.calibrated, issuing.result),
            first.log ++ (second.log ++ issuing.log), issuing.bus⟩
      | _, _ => ⟨(.aborted, 0), first.log ++ second.log, second.bus⟩ := by
  simp only [Plan.perform, Procedure.run_bind]
  cases ((save .primary).run t bus).result with
  | none =>
      simp only [Procedure.run_pure, List.append_nil]
  | some primary =>
      cases ((save .secondary).run t ((save .primary).run t bus).bus).result with
      | none =>
          simp only [Procedure.run_pure, List.append_nil]
      | some secondary =>
          simp only [Procedure.run_bind, Procedure.run_pure, List.append_nil]

/-- Calibration looks at both sites and carries out the plan that follows. -/
theorem run_calibrate (t : Transport ε σ) (bus : σ) :
    calibrate.run t bus =
      let first := t.read Site.primary.address statusRegister bus
      let second := t.read Site.secondary.address statusRegister first.2
      let primary := Detection.ofAnswer .primary first.1
      let secondary := Detection.ofAnswer .secondary second.1
      let performing := (Plan.ofDetections primary secondary).perform.run t second.2
      ⟨{ primary, secondary
         population := Population.classify primary secondary
         outcome := performing.result.1
         busFaults := performing.result.2 },
        .read Site.primary.address statusRegister first.1 ::
          .read Site.secondary.address statusRegister second.1 :: performing.log,
        performing.bus⟩ := by
  simp only [calibrate, Procedure.run_bind, run_detect, Procedure.run_pure,
    List.append_nil, List.cons_append, List.nil_append]

end BuckRegulator.Trim
