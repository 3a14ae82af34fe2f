import BuckRegulator.Proofs.Bench.Run
import BuckRegulator.Proofs.Regulator.Registers

namespace BuckRegulator.Bench

open Board (transport)
open Regulator (value?_getVoltage value?_probe)

theorem isRegisterMap_act {bench : Bench Board} (hmap : bench.bus.IsRegisterMap)
    {action : Action Board} (hwired : action.rewires = false) :
    (bench.act transport action).bench.bus.IsRegisterMap := by
  obtain ⟨α, p, hbus⟩ := bus_act transport bench hwired
  rw [hbus]
  exact Board.isRegisterMap_run p hmap

theorem setting_lt {r : UInt8} (hr : r ∈ [0x00, 0x01]) : r < 0x0A := by
  simp only [List.mem_cons, List.not_mem_nil, or_false] at hr
  rcases hr with rfl | rfl <;> decide

theorem setting_not_mem_calibrationRegisters (a : UInt8) {r : UInt8} (hr : r < 0x0A) :
    (a, r) ∉ Trim.calibrationRegisters :=
  fun member => Trim.not_inBank_of_lt hr (Trim.inBank_of_mem_calibrationRegisters a r member)

/-- An action keeps what calibration is not for, unless it requests a voltage
through a regulator that is there. -/
theorem value?_act_of_no_request {bench : Bench Board} (hmap : bench.bus.IsRegisterMap)
    {action : Action Board} (hwired : action.rewires = false)
    (hrequest : bench.request? action = none) {a r : UInt8}
    (hkept : (a, r) ∉ Trim.calibrationRegisters) :
    (bench.act transport action).bench.bus.value? a r = bench.bus.value? a r := by
  cases action with
  | mount slot vendor config =>
      simp only [act]
      split <;> rfl
  | call slot call =>
      cases hslot : bench.slots slot with
      | none => rw [act_call_vacant transport hslot]
      | some regulator =>
          rw [act_call transport hslot]
          cases call with
          | probe =>
              rw [Regulator.run_serve_probe]
              exact value?_probe regulator hmap hkept
          | getVoltage =>
              rw [Regulator.run_serve_getVoltage]
              exact value?_getVoltage regulator bench.bus a r
          | setVoltage uv =>
              rw [request?, hslot] at hrequest
              cases hrequest
  | release slot =>
      simp only [act]
      split <;> rfl
  | calibrate => exact Trim.value?_calibrate hmap a r (Or.inl hkept)
  | rewire change => cases hwired

end BuckRegulator.Bench
