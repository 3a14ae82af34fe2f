import BuckRegulator.Proofs.Board.Alike
import BuckRegulator.Proofs.Regulator.Session
import Mathlib.Data.List.Forall2

/-!
Whether a regulator calibrates makes no difference to its caller, also when
calibration fails. Two regulators that differ only in that go through the same
session side by side, on boards that differ only in the registers calibration
is for. A call either keeps out of the bank of the trim protocol, where both
boards answer alike, or it calibrates, which no answer depends on.
-/

namespace BuckRegulator.Regulator

open Board (Alike Confined transport)
open Bus (Failure Procedure)
open Trim (InBank calibrationRegisters inBank_of_mem_calibrationRegisters)

/-- Regulators of the same make and place that know the same chip. They may
differ in whether they calibrate, and in what calibration reported. -/
structure Twins (r s : Regulator) : Prop where
  vendor : r.vendor = s.vendor
  address : r.address = s.address
  roles : r.roles = s.roles
  chip : r.chip? = s.chip?

/-- A calibration hides what it does from whoever does not look at its registers. -/
theorem alike_calibrateIfDue (r : Regulator) {b : Board} (h : b.IsRegisterMap) :
    Alike calibrationRegisters ((r.calibrateIfDue).run transport b).bus b := by
  apply Board.alike_run
  intro a register hseen
  rw [run_calibrateIfDue]
  split
  · exact Trim.value?_calibrate h a register (Or.inl hseen)
  · rfl

section

variable {r s : Regulator} {b c : Board}

theorem Twins.identify (h : r.Twins s) : r.identify (ε := Failure) = s.identify := by
  simp only [Regulator.identify, h.vendor, h.address]

theorem Twins.getVoltage (h : r.Twins s) : r.getVoltage (ε := Failure) = s.getVoltage := by
  simp only [Regulator.getVoltage, h.chip, h.address, h.roles]

theorem Twins.setVoltage (h : r.Twins s) (uv : UInt32) :
    r.setVoltage (ε := Failure) uv = s.setVoltage uv := by
  simp only [Regulator.setVoltage, h.chip, h.address, h.roles]

/-- What two exchanges have in common to a caller who cannot see calibration: the
answer, what is known of the chip, and every register that calibration is not for. -/
structure Exchange.Agree (e f : Exchange Failure Board) : Prop where
  result : e.result = f.result
  chip : e.regulator.chip? = f.regulator.chip?
  roles : e.regulator.roles = f.regulator.roles
  value : ∀ a r, (a, r) ∉ calibrationRegisters → e.after.value? a r = f.after.value? a r

/-- The same answer, to twins, on boards that are alike. -/
structure Exchange.Mirrors (e f : Exchange Failure Board) : Prop where
  result : e.result = f.result
  twins : e.regulator.Twins f.regulator
  alike : Alike calibrationRegisters e.after f.after

theorem Exchange.Mirrors.agree {e f : Exchange Failure Board} (h : e.Mirrors f) :
    e.Agree f :=
  ⟨h.result, h.twins.chip, h.twins.roles, h.alike.value⟩

/-- Twins that do not know the chip learn of the same one or fail alike, and one
of them may calibrate on top. -/
theorem twins_probe_of_unidentified (h : r.Twins s) (hr : r.chip? = none)
    (hs : s.chip? = none) (hb : b.Confined InBank) (hc : c.Confined InBank)
    (halike : Alike calibrationRegisters b c) :
    (r.exchange transport b .probe).Mirrors (s.exchange transport c .probe) := by
  obtain ⟨hresult, hafter⟩ := halike.run inBank_of_mem_calibrationRegisters
    (within_identify s) hb hc
  have hplain := (hb.run (s.identify (ε := Failure))).plain
  have hplain' := (hc.run (s.identify (ε := Failure))).plain
  simp only [exchange_probe, run_probe_of_unidentified transport hr,
    run_probe_of_unidentified transport hs, h.identify, hresult]
  cases ((s.identify).run transport c).result with
  | error e => exact ⟨rfl, h, hafter⟩
  | ok chip =>
      -- Either twin may calibrate: each keeps a report of its own, and leaves a board like
      -- the one it found.
      obtain ⟨report?, hr'⟩ := exists_calibrateIfDue transport (r.identifiedAs chip)
        ((s.identify).run transport b).bus
      obtain ⟨report?', hs'⟩ := exists_calibrateIfDue transport (s.identifiedAs chip)
        ((s.identify).run transport c).bus
      have hleft := alike_calibrateIfDue (r.identifiedAs chip) hplain
      have hright := alike_calibrateIfDue (s.identifiedAs chip) hplain'
      refine ⟨rfl, ?_, (hleft.trans hafter).trans hright.symm⟩
      simp only [hr', hs']
      exact ⟨h.vendor, h.address, h.roles, rfl⟩

theorem twins_probe_of_identified (h : r.Twins s) {chip : Chip} (hr : r.chip? = some chip)
    (hs : s.chip? = some chip) (halike : Alike calibrationRegisters b c) :
    (r.exchange transport b .probe).Mirrors (s.exchange transport c .probe) := by
  simp only [exchange_probe, probe_of_identified hr, probe_of_identified hs, Procedure.run_pure]
  exact ⟨rfl, h, halike⟩

/-- Twins on boards that are alike stay twins on boards that are alike. -/
theorem twins_exchange (h : r.Twins s) (hb : b.Confined InBank) (hc : c.Confined InBank)
    (halike : Alike calibrationRegisters b c) (call : Call) :
    (r.exchange transport b call).Mirrors (s.exchange transport c call) := by
  cases call with
  | probe =>
      cases hr : r.chip? with
      | none => exact twins_probe_of_unidentified h hr (h.chip.symm.trans hr) hb hc halike
      | some chip => exact twins_probe_of_identified h hr (h.chip.symm.trans hr) halike
  | getVoltage =>
      obtain ⟨hresult, hafter⟩ := halike.run inBank_of_mem_calibrationRegisters
        (within_getVoltage s) hb hc
      simp only [exchange_getVoltage, h.getVoltage]
      exact ⟨congrArg (Except.map Reply.voltage) hresult, h, hafter⟩
  | setVoltage uv =>
      obtain ⟨hresult, hafter⟩ := halike.run inBank_of_mem_calibrationRegisters
        (within_setVoltage s uv) hb hc
      simp only [exchange_setVoltage, h.setVoltage]
      exact ⟨congrArg (Except.map fun _ => Reply.done) hresult, h, hafter⟩

theorem confined_exchange (h : b.Confined InBank) (r : Regulator) (call : Call) :
    (r.exchange transport b call).after.Confined InBank :=
  h.run (r.serve call)

/-- Sessions of twins agree in every exchange. -/
theorem twins_session (h : r.Twins s) (hb : b.Confined InBank) (hc : c.Confined InBank)
    (halike : Alike calibrationRegisters b c) (calls : List Call) :
    List.Forall₂ Exchange.Agree
      (r.session transport b (calls.map ({ call := · })))
      (s.session transport c (calls.map ({ call := · }))) := by
  induction calls generalizing r s b c with
  | nil => exact .nil
  | cons call rest ih =>
      have hmirrors := twins_exchange h hb hc halike call
      exact .cons hmirrors.agree (ih hmirrors.twins (confined_exchange hb r call)
        (confined_exchange hc s call) hmirrors.alike)

end

/-- Made from configurations that differ only in whether to calibrate, two
regulators are twins. -/
theorem twins_of_new {vendor : Vendor} {config : Config} {calibrate calibrate' : Bool}
    {r s : Regulator}
    (hr : Regulator.new (ε := Failure) vendor { config with calibrate } = .ok r)
    (hs : Regulator.new (ε := Failure) vendor { config with calibrate := calibrate' } = .ok s) :
    r.Twins s := by
  obtain ⟨roles, hroles, rfl⟩ := new_ok hr
  obtain ⟨roles', hroles', rfl⟩ := new_ok hs
  have hsame : roles = roles' := Option.some.inj (hroles.symm.trans hroles')
  exact ⟨rfl, rfl, hsame, rfl⟩

/-- Take any register map on which transactions fail in the bank of the trim
protocol only, and a regulator that may calibrate on it. Every session has the
same answers, knows the same chip and leaves the same registers as without
calibration, and as without faults, but for the four registers that calibration
is for. -/
theorem calibration_transparent {vendor : Vendor} {config : Config} {on off : Regulator}
    (hon : Regulator.new (ε := Failure) vendor { config with calibrate := true } = .ok on)
    (hoff : Regulator.new (ε := Failure) vendor { config with calibrate := false } = .ok off)
    {b : Board} (hmap : b.IsRegisterMap)
    (hfaults : ∀ f ∈ b.faults, ∀ access, f.covers access = true →
      0x0A ≤ access.register ∧ access.register ≤ 0x0E)
    (calls : List Call) :
    let run (r : Regulator) (b : Board) :=
      r.session Board.transport b (calls.map ({ call := · }))
    List.Forall₂ Exchange.Agree (run on b) (run off b) ∧
      List.Forall₂ Exchange.Agree (run on b) (run on b.clearFaults) ∧
      List.Forall₂ Exchange.Agree (run off b) (run off b.clearFaults) := by
  have hb : b.Confined InBank := ⟨hmap, hfaults⟩
  have hclear : b.clearFaults.Confined InBank := ⟨hmap, nofun⟩
  have hself : Alike calibrationRegisters b b := ⟨fun _ _ _ => rfl, fun _ _ => rfl⟩
  have hcleared : Alike calibrationRegisters b b.clearFaults :=
    ⟨fun _ _ _ => rfl, fun _ _ => rfl⟩
  exact ⟨twins_session (twins_of_new hon hoff) hb hb hself calls,
    twins_session (twins_of_new hon hon) hb hclear hcleared calls,
    twins_session (twins_of_new hoff hoff) hb hclear hcleared calls⟩

/-- A regulator and a fresh trim chip at one address. Every write of its status
fails although it is stored, and no unlock gets through. -/
def stubborn : Board :=
  .ofLayouts [⟨0x40, [(0x00, 0x80), (0x03, 0x88), (0x0B, 0x11), (0x0E, 0x00)], [], []⟩]
    [{ direction := some .write, register := some 0x0E, applied := true },
      { register := some 0x0A }]

def stubbornRegulator (calibrate : Bool) : Regulator :=
  { vendor := .silergy, address := 0x40, roles := .ofSleep .vsel1, calibrate }

theorem stubborn_transparent :
    Regulator.new (ε := Failure) .silergy { calibrate := true } =
        .ok (stubbornRegulator true) ∧
      Regulator.new (ε := Failure) .silergy { calibrate := false } =
        .ok (stubbornRegulator false) ∧
      stubborn.IsRegisterMap ∧
      (∀ f ∈ stubborn.faults, ∀ access, f.covers access = true →
        0x0A ≤ access.register ∧ access.register ≤ 0x0E) ∧
      let run (calibrate : Bool) := (stubbornRegulator calibrate).session Board.transport stubborn
        ([.probe, .setVoltage 900000, .getVoltage].map ({ call := · }))
      (run true).map (·.after.value? 0x40 0x0E) = [some 0x04, some 0x04, some 0x04] ∧
        (run false).map (·.after.value? 0x40 0x0E) = [some 0x00, some 0x00, some 0x00] ∧
        List.Forall₂ Exchange.Agree (run true) (run false) := by
  have hon : Regulator.new (ε := Failure) .silergy { calibrate := true } =
      .ok (stubbornRegulator true) := rfl
  have hoff : Regulator.new (ε := Failure) .silergy { calibrate := false } =
      .ok (stubbornRegulator false) := rfl
  have hmap : stubborn.IsRegisterMap := Board.isRegisterMap_ofLayouts (by decide) _
  have hfaults : ∀ f ∈ stubborn.faults, ∀ access, f.covers access = true →
      0x0A ≤ access.register ∧ access.register ≤ 0x0E :=
    @Board.covered_of_registers InBank stubborn (by decide)
  refine ⟨hon, hoff, hmap, hfaults, by decide, by decide, ?_⟩
  exact (@calibration_transparent .silergy {} _ _ hon hoff _ hmap hfaults _).1

end BuckRegulator.Regulator
