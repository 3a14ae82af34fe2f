import BuckRegulator.Proofs.Regulator.Calls
import BuckRegulator.Proofs.Trim.Preservation

namespace BuckRegulator.Regulator

open Board (value?_read value?_run_of_reads)
open Bus (Failure Procedure)

theorem value?_getVoltage (regulator : Regulator) (b : Board) (a r : UInt8) :
    ((regulator.getVoltage).run Board.transport b).bus.value? a r = b.value? a r := by
  cases hchip : regulator.chip? with
  | none => rw [run_getVoltage_of_unidentified Board.transport hchip]
  | some chip =>
      rw [run_getVoltage Board.transport hchip]
      exact value?_read b _ _ a r

theorem value?_identify (regulator : Regulator) (b : Board) (a r : UInt8) :
    ((regulator.identify).run Board.transport b).bus.value? a r = b.value? a r :=
  value?_run_of_reads (regulator.identify) b
    (isWrite_of_mem_identify Board.transport regulator b) a r

/-- A probe changes no register but those that calibration is for. -/
theorem value?_probe (regulator : Regulator) {b : Board} (hmap : b.IsRegisterMap)
    {a r : UInt8} (hkept : (a, r) ∉ Trim.calibrationRegisters) :
    ((regulator.probe).run Board.transport b).bus.value? a r = b.value? a r := by
  cases hchip : regulator.chip? with
  | some chip => rw [probe_of_identified hchip, Procedure.run_pure]
  | none =>
      have hidentified := value?_identify regulator b a r
      have hmap' := Board.isRegisterMap_run regulator.identify hmap
      simp only [run_probe_of_unidentified Board.transport hchip, run_calibrateIfDue]
      generalize (regulator.identify).run Board.transport b = identifying
        at hidentified hmap' ⊢
      cases identifying.result with
      | error e => exact hidentified
      | ok chip =>
          simp only
          split
          · exact (Trim.value?_calibrate hmap' a r (Or.inl hkept)).trans hidentified
          · exact hidentified

/-- A request for a voltage either changes no register, or got as far as its
write. It then wrote the code of the voltage under the enable bit that is
stored, and the register holds the old byte or that one. -/
theorem setVoltage_cases (regulator : Regulator) (uv : UInt32) {b : Board}
    (hmap : b.IsRegisterMap) :
    let register := regulator.roles.active.register
    let run := (regulator.setVoltage uv).run Board.transport b
    (∀ a r, run.bus.value? a r = b.value? a r) ∨
      ∃ chip old answer, regulator.chip? = some chip ∧ chip.profile.contains uv = true ∧
        b.value? regulator.address register = some old ∧
        run.result = Except.mapError .bus answer ∧
        run.log = [.read regulator.address register (.ok old),
          .write regulator.address register ((old &&& 0x80) ||| chip.profile.toCode uv)
            answer] ∧
        (∀ a r, ¬(a = regulator.address ∧ r = register) →
          run.bus.value? a r = b.value? a r) ∧
        (run.bus.value? regulator.address register = some old ∨
          run.bus.value? regulator.address register =
            some ((old &&& 0x80) ||| chip.profile.toCode uv)) := by
  intro register run
  cases hchip : regulator.chip? with
  | none =>
      left
      intro a r
      simp only [run, run_setVoltage_of_unidentified Board.transport hchip]
  | some chip =>
      cases hinside : chip.profile.contains uv with
      | false =>
          left
          intro a r
          simp only [run, run_setVoltage_of_outside Board.transport hchip hinside]
      | true =>
          have hread := value?_read b regulator.address register
          simp only [run, run_setVoltage Board.transport hchip hinside, Board.transport]
          cases hgot : (b.read regulator.address register).1 with
          | error e =>
              left
              exact hread
          | ok old =>
              right
              have hold := Board.value?_of_read hmap hgot
              have hwritten := Board.value?_write_self
                ((hread regulator.address register).trans hold)
                ((old &&& 0x80) ||| chip.profile.toCode uv)
              refine ⟨chip, old, _, rfl, hinside, hold, rfl, rfl, ?_, hwritten⟩
              intro a r helsewhere
              rw [Board.value?_write_of_stored, hread]
              rintro rfl rfl
              exact absurd ⟨rfl, rfl⟩ helsewhere

end BuckRegulator.Regulator
