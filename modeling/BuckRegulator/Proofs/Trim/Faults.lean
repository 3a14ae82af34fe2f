import BuckRegulator.Board.Basic
import BuckRegulator.Proofs.Trim.Phases

/-!
The count of faults in a report and the log it stands for. Issuing a write and taking its
answer into the count go together, so what the count gains in a run is what failed of the
writes in its log, up to the largest byte. No other phase writes or counts. And as no plan
has more than eleven writes, the count never comes near the largest byte.
-/

namespace BuckRegulator.Trim

open Bus (Failure Procedure Transaction Transport)

variable {ε σ : Type}

def failedWrites (log : List (Transaction ε)) : Nat :=
  log.countP fun entry => entry.isWrite && entry.failed

@[simp] theorem failedWrites_append (first second : List (Transaction ε)) :
    failedWrites (first ++ second) = failedWrites first + failedWrites second :=
  List.countP_append

def misses : Except ε Unit → Nat
  | .ok _ => 0
  | .error _ => 1

theorem failedWrites_write (address register value : UInt8) (answer : Except ε Unit)
    (log : List (Transaction ε)) :
    failedWrites (.write address register value answer :: log) =
      misses answer + failedWrites log := by
  rw [failedWrites, List.countP_cons, Nat.add_comm]
  cases answer with
  | ok done => rfl
  | error e => rfl

/-- No more writes fail than are asked for. -/
theorem failedWrites_le_length_written (log : List (Transaction ε)) :
    failedWrites log ≤ (written log).length := by
  induction log with
  | nil => exact Nat.le_refl 0
  | cons entry rest ih =>
      cases entry with
      | read address register answer => exact ih
      | write address register value answer =>
          have hmisses : misses answer ≤ 1 := by
            cases answer with
            | ok done => exact Nat.zero_le 1
            | error e => exact Nat.le_refl 1
          rw [failedWrites_write, written_write, List.length_cons]
          omega

theorem failedWrites_of_unwritten {log : List (Transaction ε)} (h : written log = []) :
    failedWrites log = 0 := by
  have hle := failedWrites_le_length_written log
  rw [h] at hle
  exact Nat.le_zero.mp hle

/-- One answer is taken into the count, which stops at the largest byte. -/
theorem toNat_tally (faults : UInt8) (answer : Except ε Unit) :
    (tally faults answer).toNat = min 255 (faults.toNat + misses answer) := by
  have hbyte := faults.toNat_lt
  cases answer with
  | ok done =>
      simp only [tally, misses]
      omega
  | error e =>
      simp only [tally, misses]
      split
      · next full =>
          rw [full]
          rfl
      · next room =>
          have hroom : faults.toNat ≠ 255 := fun h => room (UInt8.toNat.inj h)
          rw [UInt8.toNat_add]
          change (faults.toNat + 1) % 2 ^ 8 = _
          omega

/-- What issuing adds to the count is what failed of the writes in the log. -/
theorem toNat_issue (t : Transport ε σ) (faults : UInt8) (writes : List Write) (bus : σ) :
    let run := (issue faults writes).run t bus
    run.result.toNat = min 255 (faults.toNat + failedWrites run.log) := by
  induction writes generalizing faults bus with
  | nil =>
      have hbyte := faults.toNat_lt
      simp only [issue, Procedure.run_pure, failedWrites, List.countP_nil]
      omega
  | cons w rest ih =>
      simp only [issue, Procedure.run_bind, Bus.run_write, List.cons_append, List.nil_append,
        failedWrites_write]
      rw [ih, toNat_tally]
      omega

theorem length_of_save (t : Transport ε σ) (site : Site) (bus : σ) (saved : Snapshot)
    (h : ((save site).run t bus).result = some saved) : saved.length = 3 := by
  have hregisters := registers_of_readEach t site.address trimRegisters bus saved h
  rw [← saved.length_map (·.1), hregisters]
  rfl

def Plan.writeLimit : Plan → Nat
  | .rest _ => 0
  | .solo _ => 5
  | .pair => 11

theorem Plan.writeLimit_le (plan : Plan) : plan.writeLimit ≤ 11 := by
  cases plan with
  | rest outcome => exact Nat.zero_le 11
  | solo site => exact Nat.le_add_right 5 6
  | pair => exact Nat.le_refl 11

/-- What carrying out a plan reports of its faults: all failed writes of the log, no
more than the plan can write, and none unless it ended in a calibration. -/
structure Plan.Accounts (plan : Plan) (result : Outcome × UInt8) (log : List (Transaction ε)) :
    Prop where
  exact : result.2.toNat = failedWrites log
  limit : failedWrites log ≤ plan.writeLimit
  unwritten : result.1 ≠ .calibrated → failedWrites log = 0

/-- A plan that was given up has written nothing and counted nothing. -/
theorem Plan.accounts_of_reads (plan : Plan) (outcome : Outcome) {log : List (Transaction ε)}
    (h : ∀ entry ∈ log, entry.isWrite = false) : plan.Accounts (outcome, 0) log := by
  have hnone : failedWrites log = 0 := failedWrites_of_unwritten (written_of_reads h)
  refine ⟨hnone.symm, ?_, fun _ => hnone⟩
  rw [hnone]
  exact Nat.zero_le _

/-- A plan that was carried out has counted while it issued its writes, and at no other
time. -/
theorem Plan.accounts_of_issue (t : Transport ε σ) (plan : Plan) {writes : List Write}
    (hlength : writes.length = plan.writeLimit) (bus : σ) {before after : List (Transaction ε)}
    (hbefore : written before = []) (hafter : written after = []) :
    plan.Accounts (.calibrated, ((issue 0 writes).run t bus).result)
      (before ++ (((issue 0 writes).run t bus).log ++ after)) := by
  have hexact := toNat_issue t 0 writes bus
  have hwritten := written_issue t 0 writes bus
  generalize (issue 0 writes).run t bus = issuing at hexact hwritten ⊢
  have hlimit : failedWrites issuing.log ≤ plan.writeLimit := by
    rw [← hlength, ← hwritten]
    exact failedWrites_le_length_written issuing.log
  have hroom := plan.writeLimit_le
  have htotal : failedWrites (before ++ (issuing.log ++ after)) = failedWrites issuing.log := by
    rw [failedWrites_append, failedWrites_append, failedWrites_of_unwritten hbefore,
      failedWrites_of_unwritten hafter, Nat.zero_add, Nat.add_zero]
  refine ⟨?_, ?_, fun h => absurd rfl h⟩
  · rw [htotal, hexact, UInt8.toNat_zero]
    omega
  · rw [htotal]
    exact hlimit

theorem accounts_perform_solo (t : Transport ε σ) (site : Site) (bus : σ) :
    let run := (Plan.solo site).perform.run t bus
    (Plan.solo site).Accounts run.result run.log := by
  have hreads := isWrite_of_mem_save t site bus
  have hlength := length_of_save t site bus
  simp only [run_perform_solo]
  generalize (save site).run t bus = saving at hreads hlength ⊢
  cases hresult : saving.result with
  | none => exact Plan.accounts_of_reads _ _ hreads
  | some saved =>
      have hfive : (soloWrites site saved).length = (Plan.solo site).writeLimit := by
        rw [length_soloWrites, hlength saved hresult]
        rfl
      exact Plan.accounts_of_issue t _ hfive saving.bus (written_of_reads hreads)
        (written_inspect t site.address inspectedRegisters _)

theorem accounts_perform_pair (t : Transport ε σ) (bus : σ) :
    let run := Plan.pair.perform.run t bus
    Plan.pair.Accounts run.result run.log := by
  have hreads := isWrite_of_mem_save t .primary bus
  have hlength := length_of_save t .primary bus
  simp only [run_perform_pair]
  generalize (save .primary).run t bus = first at hreads hlength ⊢
  have hreads' := isWrite_of_mem_save t .secondary first.bus
  have hlength' := length_of_save t .secondary first.bus
  generalize (save .secondary).run t first.bus = second at hreads' hlength' ⊢
  have hboth : ∀ entry ∈ first.log ++ second.log, entry.isWrite = false :=
    List.forall_mem_append.mpr ⟨hreads, hreads'⟩
  cases hprimary : first.result with
  | none => exact Plan.accounts_of_reads _ _ hboth
  | some primary =>
      cases hsecondary : second.result with
      | none => exact Plan.accounts_of_reads _ _ hboth
      | some secondary =>
          have heleven : (pairWrites primary secondary).length = Plan.pair.writeLimit := by
            rw [length_pairWrites, hlength primary hprimary, hlength' secondary hsecondary]
            rfl
          have haccounts := Plan.accounts_of_issue t .pair heleven second.bus
            (written_of_reads hboth) (written_of_reads (List.forall_mem_nil _))
          rwa [List.append_nil, List.append_assoc] at haccounts

theorem accounts_perform (t : Transport ε σ) (plan : Plan) (bus : σ) :
    let run := plan.perform.run t bus
    plan.Accounts run.result run.log := by
  cases plan with
  | rest outcome => exact Plan.accounts_of_reads _ outcome (List.forall_mem_nil _)
  | solo site => exact accounts_perform_solo t site bus
  | pair => exact accounts_perform_pair t bus

theorem writeLimit_ofDetections (primary secondary : Detection) :
    (Plan.ofDetections primary secondary).writeLimit ≤
      if Population.classify primary secondary = .both then 11 else 5 := by
  rcases primary with _ | status | ⟨_ | _⟩ <;>
    rcases secondary with _ | status' | ⟨_ | _⟩ <;>
      simp [Plan.ofDetections, Population.classify, Detection.isPresent,
        Detection.isCalibrated, Detection.isForeign, Plan.writeLimit]

/-- The fault count of a report is the number of writes in the log that failed, so no
read is counted. At every point of the run it is below the largest byte, where it would
stop. It is at most eleven, at most five unless both sites hold a chip, and zero if the
run did not end in a calibration. -/
theorem calibrate_counts_failed_writes (t : Transport ε σ) (bus : σ) :
    let run := calibrate.run t bus
    run.result.busFaults.toNat = failedWrites run.log ∧
      (∀ before, before <+: run.log → failedWrites before < 255) ∧
      run.result.busFaults ≤ 11 ∧
      (run.result.population ≠ .both → run.result.busFaults ≤ 5) ∧
      (run.result.outcome ≠ .calibrated → run.result.busFaults = 0) := by
  simp only [run_calibrate]
  generalize Detection.ofAnswer .primary (t.read Site.primary.address statusRegister bus).1 =
    primary
  generalize Detection.ofAnswer .secondary (t.read Site.secondary.address statusRegister
    (t.read Site.primary.address statusRegister bus).2).1 = secondary
  have hplan := writeLimit_ofDetections primary secondary
  have haccounts := accounts_perform t (Plan.ofDetections primary secondary)
    (t.read Site.secondary.address statusRegister
      (t.read Site.primary.address statusRegister bus).2).2
  generalize (Plan.ofDetections primary secondary).perform.run t _ = performing at haccounts ⊢
  obtain ⟨hexact, hlimit, hunwritten⟩ := haccounts
  have heleven : failedWrites performing.log ≤ 11 := by
    split at hplan <;> omega
  refine ⟨hexact, ?_, ?_, ?_, ?_⟩
  · intro before hbefore
    have hle : failedWrites before ≤ failedWrites performing.log := hbefore.sublist.countP_le
    omega
  · rw [UInt8.le_iff_toNat_le, hexact]
    exact heleven
  · intro hpopulation
    rw [if_neg hpopulation] at hplan
    rw [UInt8.le_iff_toNat_le, hexact]
    exact Nat.le_trans hlimit hplan
  · intro houtcome
    apply UInt8.toNat.inj
    rw [hexact, hunwritten houtcome]
    rfl

def deafPair : Board :=
  .ofLayouts [⟨0x40, [(0x0E, 0x00)], [], []⟩, ⟨0x41, [(0x0E, 0x40)], [], []⟩]
    [{ direction := some .write }]

/-- The pair as it is, its primary alone, and the pair with a trim register that cannot
be read. -/
theorem deafPair_counted :
    let pair := calibrate.run Board.transport deafPair
    let lone := calibrate.run Board.transport (deafPair.detach 0x41)
    let stopped := calibrate.run Board.transport
      (deafPair.inject { direction := some .read, register := some 0x0D })
    (failedWrites pair.log = 11 ∧ pair.result.busFaults.toNat = 11) ∧
      (pair.log.take 12 <+: pair.log ∧ failedWrites (pair.log.take 12) < 255) ∧
      (failedWrites lone.log = 5 ∧ lone.result.population ≠ .both ∧
        lone.result.busFaults ≤ 5) ∧
      (stopped.log.length = 8 ∧ stopped.result.outcome ≠ .calibrated ∧
        stopped.result.busFaults = 0) := by
  obtain ⟨hexact, hroom, _⟩ := calibrate_counts_failed_writes Board.transport deafPair
  obtain ⟨_, _, _, hfive, _⟩ :=
    calibrate_counts_failed_writes Board.transport (deafPair.detach 0x41)
  obtain ⟨_, _, _, _, hnone⟩ := calibrate_counts_failed_writes Board.transport
    (deafPair.inject { direction := some .read, register := some 0x0D })
  have heleven : failedWrites (calibrate.run Board.transport deafPair).log = 11 := by decide
  have hbefore := List.take_prefix 12 (calibrate.run Board.transport deafPair).log
  exact ⟨⟨heleven, hexact.trans heleven⟩, ⟨hbefore, hroom _ hbefore⟩,
    ⟨by decide, by decide, hfive (by decide)⟩, by decide, by decide, hnone (by decide)⟩

end BuckRegulator.Trim
