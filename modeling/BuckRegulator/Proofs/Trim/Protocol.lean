import BuckRegulator.Proofs.Trim.Phases

/-!
The wire protocol of calibration, written down once more from its description:
a function from the answers to the reads to everything that is asked of the
bus. It names addresses, registers and bytes as they appear on the wire and
uses neither plans nor procedures. The main theorem says that a calibration
asks exactly this on every transport, whatever fails.
-/

namespace BuckRegulator.Trim

open Bus (Procedure Request Transaction Transport readAnswers requests)

variable {ε σ : Type}

/-- What the answer of a status read tells of a site, where `fresh` and `done`
are the status bytes of an uncalibrated and of a calibrated chip. -/
def reveal (fresh done : UInt8) : Except ε UInt8 → Detection
  | .error _ => .absent
  | .ok status =>
      if status = fresh ∨ status = done then .present (status &&& 0x04 != 0)
      else .foreign status

/-- How the trim bytes of one address are saved: what is asked, the three bytes
if none of the reads failed, and the answers that are left for what follows. -/
structure Saving (ε : Type) where
  asked : List Request
  bytes : Option (UInt8 × UInt8 × UInt8)
  left : List (Except ε UInt8)

def saving (a : UInt8) : List (Except ε UInt8) → Saving ε
  | .ok b :: .ok c :: .ok d :: left =>
      ⟨[.read a 0x0B, .read a 0x0C, .read a 0x0D], some (b, c, d), left⟩
  | .ok _ :: .ok _ :: left =>
      ⟨[.read a 0x0B, .read a 0x0C, .read a 0x0D], none, left.tail⟩
  | .ok _ :: left => ⟨[.read a 0x0B, .read a 0x0C], none, left.tail⟩
  | left => ⟨[.read a 0x0B], none, left.tail⟩

/-- One chip: save it, unlock it, write its status to the first address, write
its bytes back, and read it all once more. -/
def soloRequests (a status : UInt8) (answers : List (Except ε UInt8)) : List Request :=
  (saving a answers).asked ++
    match (saving a answers).bytes with
    | none => []
    | some (b, c, d) => [
        .write a 0x0A 0x5A, .write 0x40 0x0E status,
        .write a 0x0B b, .write a 0x0C c, .write a 0x0D d,
        .read a 0x0A, .read a 0x0B, .read a 0x0C, .read a 0x0D, .read a 0x0E]

/-- Two chips: save both, the second one also when the first one could not be
saved, and write only if both could. -/
def pairRequests (answers : List (Except ε UInt8)) : List Request :=
  let first := saving 0x40 answers
  let second := saving 0x41 first.left
  first.asked ++ (second.asked ++
    match first.bytes, second.bytes with
    | some (b, c, d), some (b', c', d') => [
        .write 0x40 0x0A 0x5A, .write 0x40 0x0E 0x84,
        .write 0x41 0x0A 0x5A, .write 0x40 0x0E 0x44,
        .write 0x41 0x0B b', .write 0x41 0x0C c', .write 0x41 0x0D d',
        .write 0x42 0x0E 0x04,
        .write 0x40 0x0B b, .write 0x40 0x0C c, .write 0x40 0x0D d]
    | _, _ => [])

/-- What is asked after the two status reads. Nothing is, if no chip needs it,
or if the second chip does and another part stands at the first address. -/
def followUp (first second : Detection) (answers : List (Except ε UInt8)) :
    List Request :=
  if (first ≠ .present false ∧ second ≠ .present false) ∨
      (first.isForeign ∧ second = .present false) then []
  else
    match first.isPresent, second.isPresent with
    | true, true => pairRequests answers
    | true, false => soloRequests 0x40 0x04 answers
    | false, _ => soloRequests 0x41 0x44 answers

/-- Everything that is asked, from the answers of the two status reads and
those of the later reads. -/
def protocol (status0 status1 : Except ε UInt8) (later : List (Except ε UInt8)) :
    List Request :=
  .read 0x40 0x0E :: .read 0x41 0x0E ::
    followUp (reveal 0x00 0x04 status0) (reveal 0x40 0x44 status1) later

theorem ofAnswer_primary (answer : Except ε UInt8) :
    Detection.ofAnswer .primary answer = reveal 0x00 0x04 answer := by
  cases answer with
  | error e => rfl
  | ok status =>
      simp only [Detection.ofAnswer, Detection.ofStatus, Site.identifiers, reveal,
        List.mem_cons, List.not_mem_nil, or_false, calibratedBit]

theorem ofAnswer_secondary (answer : Except ε UInt8) :
    Detection.ofAnswer .secondary answer = reveal 0x40 0x44 answer := by
  cases answer with
  | error e => rfl
  | ok status =>
      simp only [Detection.ofAnswer, Detection.ofStatus, Site.identifiers, reveal,
        List.mem_cons, List.not_mem_nil, or_false, calibratedBit]
      simp only [or_comm]

def snapshotOf (bytes : UInt8 × UInt8 × UInt8) : Snapshot :=
  [(0x0B, bytes.1), (0x0C, bytes.2.1), (0x0D, bytes.2.2)]

/-- Saving a site asks and yields what `saving` says, and takes no answer that
belongs to a later phase. -/
theorem saving_of_save (t : Transport ε σ) (site : Site) (bus : σ)
    (later : List (Except ε UInt8)) :
    let run := (save site).run t bus
    ∃ bytes, run.result = bytes.map snapshotOf ∧
      saving site.address (readAnswers run.log ++ later) =
        ⟨requests run.log, bytes, later⟩ := by
  simp only [save, trimRegisters, run_readEach_cons]
  cases (t.read site.address 0x0B bus).1 with
  | error e => exact ⟨none, rfl, rfl⟩
  | ok b =>
      cases (t.read site.address 0x0C (t.read site.address 0x0B bus).2).1 with
      | error e => exact ⟨none, rfl, rfl⟩
      | ok c =>
          cases (t.read site.address 0x0D
            (t.read site.address 0x0C (t.read site.address 0x0B bus).2).2).1 with
          | error e => exact ⟨none, rfl, rfl⟩
          | ok d => exact ⟨some (b, c, d), rfl, rfl⟩

theorem requests_perform_solo (t : Transport ε σ) (site : Site) (bus : σ) :
    requests ((Plan.solo site).perform.run t bus).log =
      soloRequests site.address site.soloStatus
        (readAnswers ((Plan.solo site).perform.run t bus).log) := by
  simp only [run_perform_solo]
  cases hsaved : ((save site).run t bus).result with
  | none =>
      obtain ⟨bytes, hresult, hsaving⟩ := saving_of_save t site bus []
      have hbytes : bytes = none := by
        simpa [hsaved, eq_comm] using hresult
      simp only [List.append_nil] at hsaving
      simp only [soloRequests, hsaving, hbytes, List.append_nil]
  | some saved =>
      let issuing := (issue 0 (soloWrites site saved)).run t ((save site).run t bus).bus
      let inspecting := (inspect site.address inspectedRegisters).run t issuing.bus
      obtain ⟨bytes, hresult, hsaving⟩ :=
        saving_of_save t site bus (readAnswers inspecting.log)
      obtain ⟨three, rfl, rfl⟩ : ∃ three, bytes = some three ∧ snapshotOf three = saved := by
        simpa [hsaved, eq_comm] using hresult
      simp only [Bus.requests_append, Bus.readAnswers_append, readAnswers_issue,
        List.nil_append, requests_issue, requests_inspect]
      simp only [soloRequests]
      rw [hsaving]
      rfl

theorem requests_perform_pair (t : Transport ε σ) (bus : σ) :
    requests (Plan.pair.perform.run t bus).log =
      pairRequests (readAnswers (Plan.pair.perform.run t bus).log) := by
  have hprimary := saving_of_save t .primary bus
  have hsecondary := saving_of_save t .secondary ((save .primary).run t bus).bus []
  simp only [run_perform_pair]
  generalize (save .primary).run t bus = first at hprimary hsecondary ⊢
  generalize (save .secondary).run t first.bus = second at hsecondary ⊢
  obtain ⟨bytes, hfirst, hsaving⟩ := hprimary (readAnswers second.log)
  obtain ⟨bytes', hsecond, hsaving'⟩ := hsecondary
  change saving 0x40 _ = _ at hsaving
  change saving 0x41 _ = _ at hsaving'
  rw [List.append_nil] at hsaving'
  cases bytes with
  | none =>
      rw [Option.map_none] at hfirst
      simp only [hfirst, Bus.requests_append, Bus.readAnswers_append, pairRequests,
        hsaving, hsaving', List.append_nil]
  | some three =>
      rw [Option.map_some] at hfirst
      cases bytes' with
      | none =>
          rw [Option.map_none] at hsecond
          simp only [hfirst, hsecond, Bus.requests_append, Bus.readAnswers_append,
            pairRequests, hsaving, hsaving', List.append_nil]
      | some three' =>
          rw [Option.map_some] at hsecond
          simp only [hfirst, hsecond, Bus.requests_append, Bus.readAnswers_append,
            requests_issue, readAnswers_issue, pairRequests, List.append_nil, hsaving,
            hsaving']
          rfl

/-- The part of the protocol that a plan stands for. -/
def Plan.asks (answers : List (Except ε UInt8)) : Plan → List Request
  | .rest _ => []
  | .solo site => soloRequests site.address site.soloStatus answers
  | .pair => pairRequests answers

/-- The plan made from two detections and the protocol's own case distinction
agree on every pair of detections. -/
theorem followUp_eq_asks (primary secondary : Detection)
    (answers : List (Except ε UInt8)) :
    followUp primary secondary answers =
      (Plan.ofDetections primary secondary).asks answers := by
  rcases primary with _ | status | ⟨_ | _⟩ <;>
    rcases secondary with _ | status' | ⟨_ | _⟩ <;> rfl

theorem requests_perform (t : Transport ε σ) (plan : Plan) (bus : σ) :
    requests (plan.perform.run t bus).log =
      plan.asks (readAnswers (plan.perform.run t bus).log) := by
  cases plan with
  | rest outcome => rfl
  | solo site => exact requests_perform_solo t site bus
  | pair => exact requests_perform_pair t bus

/-- A calibration asks exactly what the protocol asks, in the protocol's order,
on every transport and whatever the transport answers; and its report holds
what the two status reads reveal. -/
theorem calibrate_asks_protocol (t : Transport ε σ) (bus : σ) :
    let run := calibrate.run t bus
    ∃ status0 status1 later,
      readAnswers run.log = status0 :: status1 :: later ∧
      run.result.primary = reveal 0x00 0x04 status0 ∧
      run.result.secondary = reveal 0x40 0x44 status1 ∧
      requests run.log = protocol status0 status1 later := by
  simp only [run_calibrate]
  refine ⟨_, _, _, rfl, ofAnswer_primary _, ofAnswer_secondary _, ?_⟩
  rw [Bus.requests_cons, Bus.requests_cons, requests_perform, protocol,
    followUp_eq_asks, ofAnswer_primary, ofAnswer_secondary]
  rfl

end BuckRegulator.Trim
