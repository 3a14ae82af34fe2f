import BuckRegulator.Proofs.Bench.Registers

/-!
Safety of the enable bits. Regulators that share a board, at any addresses and
in any order of calls, on a board that may fail any transaction and may store a
write that it fails, never change bit 7 of a voltage setting. A single request
for a voltage exchanges the whole selector field of one register or nothing.
-/

namespace BuckRegulator.Bench

open Board (transport)
open Bus (Failure)
open Regulator (setVoltage_cases)

/-- What one request for a voltage may do to the registers of a board. -/
structure SelectorEffect (regulator : Regulator) (uv : UInt32) (before : Board)
    (step : Step Failure Board) : Prop where
  elsewhere : ∀ a r, ¬(a = regulator.address ∧ r = regulator.roles.active.register) →
    step.bench.bus.value? a r = before.value? a r
  /-- The active selector keeps its byte, or gets the whole steps of the voltage
  under the enable bit that it had. -/
  whole :
    step.bench.bus.value? regulator.address regulator.roles.active.register =
        before.value? regulator.address regulator.roles.active.register ∨
      ∃ chip old, regulator.chip? = some chip ∧
        before.value? regulator.address regulator.roles.active.register = some old ∧
        chip.profile.minUv ≤ uv ∧ chip.profile.wholeSteps uv < 64 ∧
        step.bench.bus.value? regulator.address regulator.roles.active.register =
          some ((old &&& 0x80) ||| UInt8.ofNat (chip.profile.wholeSteps uv))
  refused :
    (step.answer = .replied (.error .notProbed) ∨
      step.answer = .replied (.error .invalidVoltage) ∨
      ∃ e, .read regulator.address regulator.roles.active.register (.error e) ∈ step.log) →
    ∀ a r, step.bench.bus.value? a r = before.value? a r

theorem selectorEffect_setVoltage {bench : Bench Board} (hmap : bench.bus.IsRegisterMap)
    {slot : Nat} {regulator : Regulator} (hslot : bench.slots slot = some regulator)
    (uv : UInt32) :
    SelectorEffect regulator uv bench.bus (bench.act transport (.call slot (.setVoltage uv))) := by
  rw [act_call transport hslot, Regulator.run_serve_setVoltage]
  rcases setVoltage_cases regulator uv hmap with hkept |
    ⟨chip, old, answer, hchip, hinside, hold, hresult, hlog, helsewhere, hhere⟩
  · exact ⟨fun a r _ => hkept a r, Or.inl (hkept _ _), fun _ => hkept⟩
  · obtain ⟨hmin, hcode⟩ := (chip.profile.contains_iff uv).mp hinside
    rw [Ramp.Profile.toCode_of_contains hinside] at hhere
    refine ⟨helsewhere, ?_, ?_⟩
    · rcases hhere with hsame | hnew
      · exact Or.inl (hsame.trans hold.symm)
      · exact Or.inr ⟨chip, old, hchip, hold, UInt32.le_iff_toNat_le.mpr hmin, hcode, hnew⟩
    · -- A request that got as far as its write was not refused.
      intro hrefused
      exfalso
      simp only [hresult, hlog] at hrefused
      rcases hrefused with hprobed | hvoltage | ⟨e, member⟩
      · cases answer <;> cases hprobed
      · cases answer <;> cases hvoltage
      · simp at member

/-- A request for a voltage leaves the enable bits of all registers alone. -/
theorem SelectorEffect.enable {regulator : Regulator} {uv : UInt32} {before : Board}
    {step : Step Failure Board} (h : SelectorEffect regulator uv before step) (a r : UInt8) :
    (step.bench.bus.value? a r).map (· &&& 0x80) = (before.value? a r).map (· &&& 0x80) := by
  by_cases here : a = regulator.address ∧ r = regulator.roles.active.register
  · obtain ⟨rfl, rfl⟩ := here
    rcases h.whole with hsame | ⟨chip, old, _, hold, _, hcode, hnew⟩
    · rw [hsame]
    · have henable := Register.enable_of_update old (Register.code_ofNat_lt hcode)
      rw [hnew, hold, Option.map_some, Option.map_some, henable]
  · rw [h.elsewhere a r here]

theorem enable_act {bench : Bench Board} (hmap : bench.bus.IsRegisterMap)
    {action : Action Board} (hwired : action.rewires = false) (a : UInt8) {r : UInt8}
    (hr : r < 0x0A) :
    ((bench.act transport action).bench.bus.value? a r).map (· &&& 0x80) =
      (bench.bus.value? a r).map (· &&& 0x80) := by
  cases hrequest : bench.request? action with
  | none =>
      rw [value?_act_of_no_request hmap hwired hrequest
        (setting_not_mem_calibrationRegisters a hr)]
  | some request =>
      obtain ⟨slot, hslot, rfl⟩ := request?_eq_some hrequest
      exact (selectorEffect_setVoltage hmap hslot request.2).enable a r

/-- Runs keep register maps register maps, and enable bits enable bits. -/
theorem enable_after {bench : Bench Board} (hmap : bench.bus.IsRegisterMap)
    {actions : List (Action Board)} (hwired : ∀ action ∈ actions, action.rewires = false) :
    let now := bench.after transport actions
    now.bus.IsRegisterMap ∧ ∀ a r, r < 0x0A →
      (now.bus.value? a r).map (· &&& 0x80) = (bench.bus.value? a r).map (· &&& 0x80) := by
  refine after_keeps transport (fun later => later.bus.IsRegisterMap ∧ ∀ a r, r < 0x0A →
    (later.bus.value? a r).map (· &&& 0x80) = (bench.bus.value? a r).map (· &&& 0x80))
    ?_ hwired ⟨hmap, fun _ _ _ => rfl⟩
  rintro later action hwired ⟨hmap', hkept⟩
  refine ⟨isRegisterMap_act hmap' hwired, ?_⟩
  intro a r hr
  rw [enable_act hmap' hwired a hr, hkept a r hr]

/-- After any run the enable bits are what they were, and a further request for
a voltage replaces one selector field whole or changes nothing. A reading
changes no register, and a probe or a calibration none but those that
calibration is for. -/
theorem enable_bits_kept (bench : Bench Board) (hmap : bench.bus.IsRegisterMap)
    (actions : List (Action Board)) (hwired : ∀ action ∈ actions, action.rewires = false) :
    let now := bench.after transport actions
    (∀ a, ∀ r ∈ [0x00, 0x01],
      (now.bus.value? a r).map (· &&& 0x80) = (bench.bus.value? a r).map (· &&& 0x80)) ∧
    (∀ slot regulator, now.slots slot = some regulator →
      (∀ uv, SelectorEffect regulator uv now.bus
        (now.act transport (.call slot (.setVoltage uv)))) ∧
      (∀ a r, (now.act transport (.call slot .getVoltage)).bench.bus.value? a r =
        now.bus.value? a r) ∧
      (∀ a r, r < 0x0A ∨ (a, r) ∉ Trim.calibrationRegisters →
        (now.act transport (.call slot .probe)).bench.bus.value? a r = now.bus.value? a r)) ∧
    (∀ a r, r < 0x0A ∨ (a, r) ∉ Trim.calibrationRegisters →
      (now.act transport .calibrate).bench.bus.value? a r = now.bus.value? a r) := by
  intro now
  obtain ⟨hmap', henable⟩ := enable_after hmap hwired
  have hkept (a r : UInt8) (h : r < 0x0A ∨ (a, r) ∉ Trim.calibrationRegisters) :
      (a, r) ∉ Trim.calibrationRegisters :=
    h.elim (setting_not_mem_calibrationRegisters a) id
  refine ⟨?_, ?_, ?_⟩
  · intro a r hr
    exact henable a r (setting_lt hr)
  · intro slot regulator hslot
    refine ⟨fun uv => selectorEffect_setVoltage hmap' hslot uv, ?_, ?_⟩
    · intro a r
      rw [act_call transport hslot, Regulator.run_serve_getVoltage]
      exact Regulator.value?_getVoltage regulator now.bus a r
    · intro a r h
      rw [act_call transport hslot, Regulator.run_serve_probe]
      exact Regulator.value?_probe regulator hmap' (hkept a r h)
  · intro a r h
    exact Trim.value?_calibrate hmap' a r (Or.inl (hkept a r h))

/-- A chip with both outputs on, on a board that fails every write to the first
setting although the byte is stored, and all but one to the second. -/
def unreliable : Bench Board :=
  empty (.ofLayouts
    [⟨0x40, [(0x00, 0x9F), (0x01, 0xC0), (0x03, 0x88), (0x0E, 0x00)], [], []⟩]
    [ { direction := some .write, register := some 0x00, applied := true },
      { direction := some .write, register := some 0x01, skip := 1 } ])

def contention : List (Action Board) := [
  .mount 0 .silergy { suspendSelector := 1 }, .call 0 .probe, .call 0 (.setVoltage 1000000),
  .mount 1 .silergy { suspendSelector := 0, calibrate := false }, .call 1 .probe,
  .call 1 (.setVoltage 900000), .calibrate, .call 1 (.setVoltage 950000)]

theorem contention_keeps_enable :
    unreliable.bus.IsRegisterMap ∧ (∀ action ∈ contention, action.rewires = false) ∧
      let now := unreliable.after transport contention
      now.bus.value? 0x40 0x00 = some 0x97 ∧ now.bus.value? 0x40 0x01 = some 0x8F ∧
        (now.bus.value? 0x40 0x01).map (· &&& 0x80) = some 0x80 := by
  have hmap : unreliable.bus.IsRegisterMap := Board.isRegisterMap_ofLayouts (by decide) _
  have hwired : ∀ action ∈ contention, action.rewires = false := by decide
  refine ⟨hmap, hwired, by decide, by decide, ?_⟩
  rw [(enable_bits_kept unreliable hmap contention hwired).1 0x40 0x01 (by decide)]
  decide

end BuckRegulator.Bench
