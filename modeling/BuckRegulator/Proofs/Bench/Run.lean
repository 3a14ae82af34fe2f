import BuckRegulator.Bench
import BuckRegulator.Proofs.Bus.Request

namespace BuckRegulator.Bench

open Bus (Procedure Transaction Transport)
open Regulator (Call)

variable {ε σ : Type}

def Action.rewires : Action σ → Bool
  | .rewire _ => true
  | .mount .. | .call .. | .release _ | .calibrate => false

theorem act_call (t : Transport ε σ) {bench : Bench σ} {slot : Nat} {regulator : Regulator}
    (h : bench.slots slot = some regulator) (call : Call) :
    bench.act t (.call slot call) =
      let run := (regulator.serve call).run t bench.bus
      ⟨.replied run.result.1, run.log,
        { bench with bus := run.bus }.setSlot slot (some run.result.2)⟩ := by
  simp only [act, h]

theorem act_call_vacant (t : Transport ε σ) {bench : Bench σ} {slot : Nat}
    (h : bench.slots slot = none) (call : Call) :
    bench.act t (.call slot call) = ⟨.vacant, [], bench⟩ := by
  simp only [act, h]

def request? (bench : Bench σ) : Action σ → Option (Regulator × UInt32)
  | .call slot (.setVoltage uv) => (bench.slots slot).map (·, uv)
  | .call _ .probe | .call _ .getVoltage => none
  | .mount .. | .release _ | .calibrate | .rewire _ => none

theorem request?_eq_some {bench : Bench σ} {action : Action σ} {regulator : Regulator}
    {uv : UInt32} (h : bench.request? action = some (regulator, uv)) :
    ∃ slot, bench.slots slot = some regulator ∧ action = .call slot (.setVoltage uv) := by
  unfold request? at h
  split at h
  · next slot asked =>
      obtain ⟨found, hslot, hpair⟩ := Option.map_eq_some_iff.mp h
      cases hpair
      exact ⟨slot, hslot, rfl⟩
  all_goals cases h

/-- An action that does not rewire leaves the bus that some procedure leaves. -/
theorem bus_act (t : Transport ε σ) (bench : Bench σ) {action : Action σ}
    (h : action.rewires = false) :
    ∃ (α : Type) (p : Procedure ε α), (bench.act t action).bench.bus = (p.run t bench.bus).bus := by
  cases action with
  | mount slot vendor config =>
      refine ⟨Unit, pure (), ?_⟩
      simp only [act]
      split
      · rfl
      · rfl
  | call slot call =>
      cases hslot : bench.slots slot with
      | none =>
          rw [act_call_vacant t hslot]
          exact ⟨Unit, pure (), rfl⟩
      | some regulator =>
          rw [act_call t hslot]
          exact ⟨_, regulator.serve call, rfl⟩
  | release slot =>
      refine ⟨Unit, pure (), ?_⟩
      simp only [act]
      split
      · rfl
      · rfl
  | calibrate => exact ⟨_, Trim.calibrate, rfl⟩
  | rewire change => cases h

/-- What every single action keeps, a run keeps. -/
theorem after_keeps (t : Transport ε σ) (keeps : Bench σ → Prop)
    (hact : ∀ bench action, action.rewires = false → keeps bench →
      keeps (bench.act t action).bench)
    {actions : List (Action σ)} (hwired : ∀ action ∈ actions, action.rewires = false)
    {bench : Bench σ} (h : keeps bench) : keeps (bench.after t actions) := by
  induction actions generalizing bench with
  | nil => exact h
  | cons action rest ih =>
      have hfirst := hact bench action (hwired action List.mem_cons_self) h
      exact ih (fun later member => hwired later (List.mem_cons_of_mem _ member)) hfirst

end BuckRegulator.Bench
