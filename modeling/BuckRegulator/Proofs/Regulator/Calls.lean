import BuckRegulator.Proofs.Bus.Footprint
import BuckRegulator.Proofs.Ramp.Codec
import BuckRegulator.Proofs.Trim.Bank
import BuckRegulator.Regulator.Basic

/-!
What each call of a regulator does on an arbitrary transport, one statement a
case: its result, its log and the bus it leaves. A call that is refused does
not reach the bus. A voltage that is accepted costs one read and, if the read
succeeds, one write of the old enable bit and the new code. Calibration apart,
no call names a register of the trim protocol.
-/

namespace BuckRegulator.Regulator

open Bus (Procedure Transaction Transport)
open Trim (InBank)

variable {ε σ : Type}

theorem new_ok {vendor : Vendor} {config : Config} {r : Regulator}
    (h : Regulator.new (ε := ε) vendor config = .ok r) :
    ∃ roles, config.roles? = some roles ∧
      r = { vendor, roles, address := config.address, calibrate := config.calibrate } := by
  unfold Regulator.new at h
  split at h
  · cases h
  · next roles hroles =>
      cases h
      exact ⟨roles, hroles, rfl⟩

/-- The regulator knows neither a chip nor a report. -/
structure Unprobed (r : Regulator) : Prop where
  chip : r.chip? = none
  report : r.report? = none

theorem unprobed_of_new {vendor : Vendor} {config : Config} {r : Regulator}
    (h : Regulator.new (ε := ε) vendor config = .ok r) : r.Unprobed := by
  obtain ⟨roles, _, rfl⟩ := new_ok h
  exact ⟨rfl, rfl⟩

theorem calibrationDue_iff (r : Regulator) :
    r.calibrationDue = true ↔ r.vendor = .silergy ∧ r.calibrate = true := by
  rw [calibrationDue, Bool.and_eq_true, and_comm]
  cases r.vendor with
  | fairchild => simp [Vendor.needsTrim]
  | silergy => simp [Vendor.needsTrim]

theorem run_identify (t : Transport ε σ) (r : Regulator) (bus : σ) :
    (r.identify).run t bus =
      let first := t.read r.address Register.id1 bus
      match first.1 with
      | .error e => ⟨.error (.bus e), [.read r.address Register.id1 (.error e)], first.2⟩
      | .ok id1 =>
          let second := t.read r.address Register.id2 first.2
          match second.1 with
          | .error e =>
              ⟨.error (.bus e), [.read r.address Register.id1 (.ok id1),
                .read r.address Register.id2 (.error e)], second.2⟩
          | .ok id2 =>
              ⟨match Ramp.resolve r.vendor (.ofRegisters id1 id2) with
                | .error unsupported => .error (.unsupportedVariant unsupported.die)
                | .ok profile => .ok ⟨r.vendor, .ofRegisters id1 id2, profile⟩,
                [.read r.address Register.id1 (.ok id1),
                  .read r.address Register.id2 (.ok id2)], second.2⟩ := by
  simp only [identify, Procedure.run_bind, Bus.run_read]
  cases (t.read r.address Register.id1 bus).1 with
  | error e => rfl
  | ok id1 =>
      simp only [Procedure.run_bind, Bus.run_read]
      cases (t.read r.address Register.id2 (t.read r.address Register.id1 bus).2).1 with
      | error e => rfl
      | ok id2 =>
          simp only
          cases Ramp.resolve r.vendor (.ofRegisters id1 id2) with
          | error unsupported => rfl
          | ok profile => rfl

def idReads (r : Regulator) (id1 id2 : UInt8) : List (Transaction ε) :=
  [.read r.address Register.id1 (.ok id1), .read r.address Register.id2 (.ok id2)]

/-- Identification fails for the bus, with its last transaction, or for the
catalog; otherwise both registers were read and the catalog has the chip. -/
theorem identify_cases (t : Transport ε σ) (r : Regulator) (bus : σ) :
    let run := (r.identify).run t bus
    (∃ failure, run.result = .error (.bus failure) ∧
        run.log.getLast?.bind Transaction.failure? = some failure) ∨
      (∃ id1 id2 unsupported,
        Ramp.resolve r.vendor (.ofRegisters id1 id2) = .error unsupported ∧
        run.result = .error (.unsupportedVariant unsupported.die) ∧
        run.log = r.idReads id1 id2) ∨
      ∃ id1 id2 first second profile,
        t.read r.address Register.id1 bus = (.ok id1, first) ∧
        t.read r.address Register.id2 first = (.ok id2, second) ∧
        Ramp.resolve r.vendor (.ofRegisters id1 id2) = .ok profile ∧
        run = ⟨.ok ⟨r.vendor, .ofRegisters id1 id2, profile⟩, r.idReads id1 id2, second⟩ := by
  simp only [run_identify]
  obtain ⟨answer1, first⟩ := t.read r.address Register.id1 bus
  cases answer1 with
  | error e => exact Or.inl ⟨e, rfl, rfl⟩
  | ok id1 =>
      cases hsecond : t.read r.address Register.id2 first with
      | mk answer2 second =>
          cases answer2 with
          | error e => exact Or.inl ⟨e, rfl, rfl⟩
          | ok id2 =>
              right
              cases hresolve : Ramp.resolve r.vendor (.ofRegisters id1 id2) with
              | error unsupported =>
                  left
                  exact ⟨id1, id2, unsupported, hresolve, by simp only [hresolve], rfl⟩
              | ok profile =>
                  right
                  exact ⟨id1, id2, first, second, profile, rfl, hsecond, hresolve,
                    by simp only [hresolve, idReads]⟩

/-- A chip that was identified is a chip of the catalog, and its address did
answer. -/
theorem identify_ok {t : Transport ε σ} {r : Regulator} {bus : σ} {chip : Chip}
    (h : ((r.identify).run t bus).result = .ok chip) :
    chip.profile ∈ Ramp.catalog ∧
      ∃ id1, (t.read r.address Register.id1 bus).1 = .ok id1 := by
  rcases identify_cases t r bus with ⟨failure, hfailed, _⟩ |
    ⟨id1, id2, unsupported, _, hunsupported, _⟩ |
    ⟨id1, id2, first, second, profile, hfirst, _, hresolve, hrun⟩
  · rw [hfailed] at h
    cases h
  · rw [hunsupported] at h
    cases h
  · rw [hrun] at h
    cases h
    exact ⟨Ramp.mem_of_resolveIn hresolve, id1, by rw [hfirst]⟩

/-- Identification only reads, and only from the regulator's own address. -/
theorem eq_read_of_mem_identify (t : Transport ε σ) (r : Regulator) (bus : σ) :
    ∀ entry ∈ ((r.identify).run t bus).log,
      ∃ register answer, entry = .read r.address register answer := by
  simp only [run_identify]
  cases (t.read r.address Register.id1 bus).1 with
  | error e => simp
  | ok id1 =>
      cases (t.read r.address Register.id2 (t.read r.address Register.id1 bus).2).1 with
      | error e => simp
      | ok id2 => simp

theorem isWrite_of_mem_identify (t : Transport ε σ) (r : Regulator) (bus : σ) :
    ∀ entry ∈ ((r.identify).run t bus).log, entry.isWrite = false := by
  intro entry hentry
  obtain ⟨_, _, rfl⟩ := eq_read_of_mem_identify t r bus entry hentry
  rfl

theorem address_of_mem_identify (t : Transport ε σ) (r : Regulator) (bus : σ) :
    ∀ entry ∈ ((r.identify).run t bus).log, entry.address = r.address := by
  intro entry hentry
  obtain ⟨_, _, rfl⟩ := eq_read_of_mem_identify t r bus entry hentry
  rfl

theorem length_identify (t : Transport ε σ) (r : Regulator) (bus : σ) :
    ((r.identify).run t bus).log.length ≤ 2 := by
  simp only [run_identify]
  cases (t.read r.address Register.id1 bus).1 with
  | error e => exact Nat.le_succ 1
  | ok id1 =>
      cases (t.read r.address Register.id2 (t.read r.address Register.id1 bus).2).1 with
      | error e => exact Nat.le_refl 2
      | ok id2 => exact Nat.le_refl 2

theorem not_inBank_id : ¬InBank Register.id1 ∧ ¬InBank Register.id2 := by
  decide

theorem not_inBank_setting (s : Selector) : ¬InBank s.register := by
  cases s <;> decide

/-- A regulator keeps out of the bank of the trim protocol: identification does,
and so does every access to a voltage. -/
theorem within_identify (r : Regulator) : (r.identify (ε := ε)).Within (¬InBank ·) := by
  refine Bus.within_bind (Bus.within_read not_inBank_id.1 _) fun answer1 => ?_
  cases answer1 with
  | error e => exact Bus.within_pure _
  | ok id1 =>
      refine Bus.within_bind (Bus.within_read not_inBank_id.2 _) fun answer2 => ?_
      cases answer2 with
      | error e => exact Bus.within_pure _
      | ok id2 =>
          simp only
          split
          · exact Bus.within_pure _
          · exact Bus.within_pure _

theorem run_calibrateIfDue (t : Transport ε σ) (r : Regulator) (bus : σ) :
    (r.calibrateIfDue).run t bus =
      if r.calibrationDue && r.report?.isNone then
        let run := Trim.calibrate.run t bus
        ⟨{ r with report? := some run.result }, run.log, run.bus⟩
      else ⟨r, [], bus⟩ := by
  unfold calibrateIfDue
  split
  · simp only [Procedure.run_bind, Procedure.run_pure, List.append_nil]
  · rfl

/-- Calibration changes nothing of a regulator but its report. -/
theorem exists_calibrateIfDue (t : Transport ε σ) (r : Regulator) (bus : σ) :
    ∃ report?, ((r.calibrateIfDue).run t bus).result = { r with report? } := by
  rw [run_calibrateIfDue]
  split
  · exact ⟨_, rfl⟩
  · exact ⟨r.report?, rfl⟩

/-- The chip that was identified is known, however the calibration goes. -/
theorem chip?_calibrateIfDue (t : Transport ε σ) (r : Regulator) (chip : Chip) (bus : σ) :
    (((r.identifiedAs chip).calibrateIfDue).run t bus).result.chip? = some chip := by
  obtain ⟨report?, hafter⟩ := exists_calibrateIfDue t (r.identifiedAs chip) bus
  rw [hafter]
  rfl

/-- A report that is there is not replaced. -/
theorem calibrateIfDue_of_reported (t : Transport ε σ) {r : Regulator} {report : Trim.Report}
    (h : r.report? = some report) (bus : σ) :
    (r.calibrateIfDue).run t bus = ⟨r, [], bus⟩ := by
  rw [run_calibrateIfDue, h, Option.isNone_some, Bool.and_false]
  rfl

/-- Without a report, it depends on vendor and configuration alone. -/
theorem calibrateIfDue_of_unreported (t : Transport ε σ) {r : Regulator}
    (h : r.report? = none) (bus : σ) :
    (r.calibrateIfDue).run t bus =
      if r.calibrationDue then
        let run := Trim.calibrate.run t bus
        ⟨{ r with report? := some run.result }, run.log, run.bus⟩
      else ⟨r, [], bus⟩ := by
  rw [run_calibrateIfDue, h, Option.isNone_none, Bool.and_true]

/-- A first probe identifies the chip, and only then calibrates. -/
theorem run_probe_of_unidentified (t : Transport ε σ) {r : Regulator} (h : r.chip? = none)
    (bus : σ) :
    (r.probe).run t bus =
      let identifying := (r.identify).run t bus
      match identifying.result with
      | .error e => ⟨(.error e, r), identifying.log, identifying.bus⟩
      | .ok chip =>
          let trimming := ((r.identifiedAs chip).calibrateIfDue).run t identifying.bus
          ⟨(.ok chip.profile, trimming.result), identifying.log ++ trimming.log,
            trimming.bus⟩ := by
  simp only [probe, h, Procedure.run_bind]
  cases ((r.identify).run t bus).result with
  | error e => simp only [Procedure.run_pure, List.append_nil]
  | ok chip => simp only [Procedure.run_bind, Procedure.run_pure, List.append_nil]

/-- A probe leaves the regulator as it was, or adds a chip of the catalog whose address
did answer. -/
theorem probe_cases (t : Transport ε σ) (r : Regulator) (bus : σ) :
    let after := ((r.probe).run t bus).result.2
    after = r ∨ ∃ chip report?, after = { r with chip? := some chip, report? } ∧
      chip.profile ∈ Ramp.catalog ∧ ∃ id1, (t.read r.address Register.id1 bus).1 = .ok id1 := by
  cases hchip : r.chip? with
  | some chip =>
      left
      rw [probe_of_identified hchip, Procedure.run_pure]
  | none =>
      rw [run_probe_of_unidentified t hchip]
      cases hresult : ((r.identify).run t bus).result with
      | error e =>
          left
          simp only [hresult]
      | ok chip =>
          right
          obtain ⟨report?, hafter⟩ :=
            exists_calibrateIfDue t (r.identifiedAs chip) ((r.identify).run t bus).bus
          simp only [hresult]
          exact ⟨chip, report?, hafter, identify_ok hresult⟩

theorem run_getVoltage_of_unidentified (t : Transport ε σ) {r : Regulator}
    (h : r.chip? = none) (bus : σ) :
    (r.getVoltage).run t bus = ⟨.error .notProbed, [], bus⟩ := by
  simp only [getVoltage, h, Procedure.run_pure]

theorem run_getVoltage (t : Transport ε σ) {r : Regulator} {chip : Chip}
    (h : r.chip? = some chip) (bus : σ) :
    (r.getVoltage).run t bus =
      let got := t.read r.address r.roles.active.register bus
      ⟨(got.1.mapError .bus).map chip.profile.toVoltage,
        [.read r.address r.roles.active.register got.1], got.2⟩ := by
  simp only [getVoltage, h, Procedure.run_bind, Bus.run_read]
  cases (t.read r.address r.roles.active.register bus).1 with
  | error e => rfl
  | ok raw => rfl

theorem run_setVoltage_of_unidentified (t : Transport ε σ) {r : Regulator}
    (h : r.chip? = none) (uv : UInt32) (bus : σ) :
    (r.setVoltage uv).run t bus = ⟨.error .notProbed, [], bus⟩ := by
  simp only [setVoltage, h, Procedure.run_pure]

theorem run_setVoltage_of_outside (t : Transport ε σ) {r : Regulator} {chip : Chip}
    (h : r.chip? = some chip) {uv : UInt32} (houtside : chip.profile.contains uv = false)
    (bus : σ) :
    (r.setVoltage uv).run t bus = ⟨.error .invalidVoltage, [], bus⟩ := by
  simp only [setVoltage, h, houtside, Bool.false_eq_true, if_false, Procedure.run_pure]

/-- A voltage inside the ramp is set by one read and one write. The byte that is
written has the enable bit of the byte that was read, and the code. -/
theorem run_setVoltage (t : Transport ε σ) {r : Regulator} {chip : Chip}
    (h : r.chip? = some chip) {uv : UInt32} (hinside : chip.profile.contains uv = true)
    (bus : σ) :
    (r.setVoltage uv).run t bus =
      let register := r.roles.active.register
      let got := t.read r.address register bus
      match got.1 with
      | .error e => ⟨.error (.bus e), [.read r.address register (.error e)], got.2⟩
      | .ok old =>
          let byte := (old &&& 0x80) ||| chip.profile.toCode uv
          let put := t.write r.address register byte got.2
          ⟨put.1.mapError .bus, [.read r.address register (.ok old),
            .write r.address register byte put.1], put.2⟩ := by
  have hlt := Ramp.Profile.toCode_lt_of_contains hinside
  simp only [setVoltage, h, hinside, if_true, Procedure.run_bind, Bus.run_updateBits]
  cases (t.read r.address r.roles.active.register bus).1 with
  | error e => rfl
  | ok old =>
      simp only [Procedure.run_pure, List.append_nil, Register.splice_code old hlt]

theorem within_getVoltage (r : Regulator) : (r.getVoltage (ε := ε)).Within (¬InBank ·) := by
  unfold getVoltage
  split
  · exact Bus.within_pure _
  · refine Bus.within_bind (Bus.within_read (not_inBank_setting _) _) fun answer => ?_
    cases answer with
    | error e => exact Bus.within_pure _
    | ok raw => exact Bus.within_pure _

theorem within_setVoltage (r : Regulator) (uv : UInt32) :
    (r.setVoltage (ε := ε) uv).Within (¬InBank ·) := by
  unfold setVoltage
  split
  · exact Bus.within_pure _
  · split
    · refine Bus.within_bind ?_ fun _ => Bus.within_pure _
      exact Bus.within_updateBits (not_inBank_setting _) _ _ _
    · exact Bus.within_pure _

theorem run_serve_probe (t : Transport ε σ) (r : Regulator) (bus : σ) :
    (r.serve .probe).run t bus =
      let run := (r.probe).run t bus
      ⟨(run.result.1.map .profile, run.result.2), run.log, run.bus⟩ := by
  simp only [serve, Procedure.run_bind, Procedure.run_pure, List.append_nil]

theorem run_serve_getVoltage (t : Transport ε σ) (r : Regulator) (bus : σ) :
    (r.serve .getVoltage).run t bus =
      let run := (r.getVoltage).run t bus
      ⟨(run.result.map .voltage, r), run.log, run.bus⟩ := by
  simp only [serve, Procedure.run_bind, Procedure.run_pure, List.append_nil]

theorem run_serve_setVoltage (t : Transport ε σ) (r : Regulator) (uv : UInt32) (bus : σ) :
    (r.serve (.setVoltage uv)).run t bus =
      let run := (r.setVoltage uv).run t bus
      ⟨(run.result.map fun _ => .done, r), run.log, run.bus⟩ := by
  simp only [serve, Procedure.run_bind, Procedure.run_pure, List.append_nil]

end BuckRegulator.Regulator
