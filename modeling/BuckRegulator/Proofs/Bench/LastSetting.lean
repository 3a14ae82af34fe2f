import BuckRegulator.Proofs.Bench.Ledger
import BuckRegulator.Proofs.Bench.Registers
import BuckRegulator.Proofs.Regulator.Reliable

/-!
Regulators that share a board which fails nothing. Whatever they do and in
whatever order, a voltage setting holds the enable bit that it had at first and
the code of the voltage accepted for it last, and every regulator that was
probed reads the voltage of that code on its own ramp.
-/

namespace BuckRegulator.Bench

open Board (transport)
open Bus (Failure Procedure)

/-- The board fails nothing, and every chip identified so far is fitted. -/
structure Reliable (bench : Bench Board) : Prop where
  board : bench.bus.Reliable
  known : ∀ slot regulator, bench.slots slot = some regulator → regulator.Known bench.bus

theorem reliable_empty {b : Board} (h : b.Reliable) : (empty b).Reliable := by
  refine ⟨h, ?_⟩
  intro slot regulator hslot
  cases hslot

theorem Reliable.setSlot {bench : Bench Board} (h : bench.Reliable) (slot : Nat)
    {content : Option Regulator}
    (hcontent : ∀ regulator, content = some regulator → regulator.Known bench.bus) :
    (bench.setSlot slot content).Reliable := by
  refine ⟨h.board, ?_⟩
  intro s regulator hs
  rw [slots_setSlot] at hs
  split at hs
  · exact hcontent regulator hs
  · exact h.known s regulator hs

theorem Reliable.run {bench : Bench Board} (h : bench.Reliable) {α : Type}
    (p : Procedure Failure α) :
    ({ bench with bus := (p.run transport bench.bus).bus } : Bench Board).Reliable := by
  refine ⟨Board.reliable_run p h.board, ?_⟩
  intro slot regulator hslot
  exact Regulator.known_run p (h.known slot regulator hslot)

theorem known_serve {regulator : Regulator} {b : Board} (hb : b.Reliable)
    (h : regulator.Known b) (call : Regulator.Call) :
    let run := (regulator.serve call).run transport b
    run.result.2.Known run.bus := by
  cases call with
  | probe =>
      rw [Regulator.run_serve_probe]
      exact Regulator.known_run regulator.probe (Regulator.known_probe hb h)
  | getVoltage =>
      rw [Regulator.run_serve_getVoltage]
      exact Regulator.known_run regulator.getVoltage h
  | setVoltage uv =>
      rw [Regulator.run_serve_setVoltage]
      exact Regulator.known_run (regulator.setVoltage uv) h

theorem reliable_act {bench : Bench Board} (h : bench.Reliable) {action : Action Board}
    (hwired : action.rewires = false) : (bench.act transport action).bench.Reliable := by
  cases action with
  | mount slot vendor config =>
      simp only [act]
      cases hnew : Regulator.new (ε := Failure) vendor config with
      | error e =>
          apply h.setSlot
          intro regulator hcontent
          cases hcontent
      | ok regulator =>
          apply h.setSlot
          intro mounted hcontent chip hchip
          cases hcontent
          -- A regulator is made without a chip.
          unfold Regulator.new at hnew
          split at hnew
          · cases hnew
          · cases hnew
            cases hchip
  | call slot call =>
      cases hslot : bench.slots slot with
      | none =>
          rw [act_call_vacant transport hslot]
          exact h
      | some regulator =>
          rw [act_call transport hslot]
          apply (h.run (regulator.serve call)).setSlot
          intro served hcontent
          cases hcontent
          exact known_serve h.board (h.known slot regulator hslot) call
  | release slot =>
      simp only [act]
      split
      · exact h
      · apply h.setSlot
        intro regulator hcontent
        cases hcontent
  | calibrate => exact h.run Trim.calibrate
  | rewire change => cases hwired

theorem reliable_after {bench : Bench Board} (h : bench.Reliable)
    {actions : List (Action Board)} (hwired : ∀ action ∈ actions, action.rewires = false) :
    (bench.after transport actions).Reliable :=
  after_keeps transport Reliable (fun _ _ hwired h => reliable_act h hwired) hwired h

/-- One action leaves in a voltage setting what it makes of it. -/
theorem value?_act_of_reliable {bench : Bench Board} (h : bench.Reliable)
    {action : Action Board} (hwired : action.rewires = false) (a : UInt8) {r : UInt8}
    (hr : r < 0x0A) :
    (bench.act transport action).bench.bus.value? a r =
      (bench.bus.value? a r).map (byteAfter (bench.accepted? transport action).toList a r) := by
  cases hrequest : bench.request? action with
  | none =>
      rw [accepted?_of_no_request transport hrequest,
        value?_act_of_no_request h.board.plain hwired hrequest
          (setting_not_mem_calibrationRegisters a hr)]
      exact (map_byteAfter_of_elsewhere (by simp) _).symm
  | some request =>
      obtain ⟨regulator, uv⟩ := request
      obtain ⟨slot, hslot, rfl⟩ := request?_eq_some hrequest
      rw [accepted?_request transport hslot, act_call transport hslot,
        Regulator.run_serve_setVoltage]
      rcases Regulator.setVoltage_of_reliable h.board regulator uv with
        ⟨⟨e, hresult⟩, hbus⟩ | ⟨chip, old, hchip, _, hold, hresult, hhere, helsewhere⟩
      · simp only [hresult, hbus, bus_setSlot]
        exact (map_byteAfter_of_elsewhere (by simp) _).symm
      · simp only [hresult, hchip, bus_setSlot, Option.map_some, Option.toList_some]
        let made : Setting :=
          ⟨regulator.address, regulator.roles.active.register, chip.profile, uv⟩
        by_cases here : a = regulator.address ∧ r = regulator.roles.active.register
        · obtain ⟨rfl, rfl⟩ := here
          rw [hhere, hold, Option.map_some]
          exact congrArg some (byteAfter_self made old).symm
        · have hmade : ∀ s ∈ [made], ¬(s.address = a ∧ s.register = r) := by
            intro s member hat
            cases List.mem_singleton.mp member
            exact here ⟨hat.1.symm, hat.2.symm⟩
          rw [helsewhere a r here]
          exact (map_byteAfter_of_elsewhere hmade _).symm

/-- An action that no accepted voltage comes of, or one for another register,
keeps a voltage setting. -/
theorem value?_act_of_elsewhere {bench : Bench Board} (h : bench.Reliable)
    {action : Action Board} (hwired : action.rewires = false) {a r : UInt8} (hr : r < 0x0A)
    (helsewhere : ∀ s, bench.accepted? transport action = some s →
      ¬(s.address = a ∧ s.register = r)) :
    (bench.act transport action).bench.bus.value? a r = bench.bus.value? a r := by
  rw [value?_act_of_reliable h hwired a hr]
  apply map_byteAfter_of_elsewhere
  intro s member
  exact helsewhere s (Option.mem_toList.mp member)

/-- A run leaves in a voltage setting what all that it accepted makes of it. The
induction is on the actions, from any bench: the first one changes the byte that
the others find, and the last setting hides the difference. -/
theorem value?_after {bench : Bench Board} (h : bench.Reliable)
    {actions : List (Action Board)} (hwired : ∀ action ∈ actions, action.rewires = false)
    (a : UInt8) {r : UInt8} (hr : r < 0x0A) :
    (bench.after transport actions).bus.value? a r =
      (bench.bus.value? a r).map (byteAfter (bench.settings transport actions) a r) := by
  induction actions generalizing bench with
  | nil => exact (map_byteAfter_of_elsewhere (by simp [settings]) _).symm
  | cons action rest ih =>
      have hfirst := hwired action List.mem_cons_self
      have hstep := value?_act_of_reliable h hfirst a hr
      have hrest := ih (reliable_act h hfirst)
        (fun later member => hwired later (List.mem_cons_of_mem _ member))
      have haccepted : ∀ s ∈ (bench.accepted? transport action).toList,
          s.profile.contains s.uv = true :=
        fun s member => contains_of_accepted? (Option.mem_toList.mp member)
      rw [hstep, Option.map_map] at hrest
      refine hrest.trans (congrArg (Option.map · _) (funext fun old => ?_))
      exact (byteAfter_append haccepted _ a r old).symm

/-- Through a regulator that was probed, what lies inside its ramp is accepted,
and nothing else is. -/
theorem accepted?_of_reliable {bench : Bench Board} (h : bench.Reliable) {slot : Nat}
    {regulator : Regulator} (hslot : bench.slots slot = some regulator)
    {chip : Regulator.Chip} (hchip : regulator.chip? = some chip) (uv : UInt32) :
    bench.accepted? transport (.call slot (.setVoltage uv)) =
      if chip.profile.contains uv then
        some ⟨regulator.address, regulator.roles.active.register, chip.profile, uv⟩
      else none := by
  have hfitted := (h.known slot regulator hslot chip hchip).2 regulator.roles.active.register
  obtain ⟨old, hold⟩ := Option.isSome_iff_exists.mp hfitted
  rw [accepted?_request transport hslot]
  cases hinside : chip.profile.contains uv with
  | false =>
      rw [Regulator.run_setVoltage_of_outside transport hchip hinside]
      rfl
  | true =>
      have hresult := (Regulator.setVoltage_of_fitted h.board hchip hinside hold).1
      simp only [hresult, hchip, if_true, Option.map_some]

/-- A regulator that was probed gets an answer, and reads the code stored in its
active selector on its own ramp. -/
theorem answer_getVoltage {bench : Bench Board} (h : bench.Reliable) {slot : Nat}
    {regulator : Regulator} (hslot : bench.slots slot = some regulator)
    {chip : Regulator.Chip} (hchip : regulator.chip? = some chip) :
    ∃ byte, bench.bus.value? regulator.address regulator.roles.active.register = some byte ∧
      (bench.act transport (.call slot .getVoltage)).answer =
        .replied (.ok (.voltage (chip.profile.toVoltage byte))) := by
  have hfitted := (h.known slot regulator hslot chip hchip).2 regulator.roles.active.register
  obtain ⟨byte, hbyte⟩ := Option.isSome_iff_exists.mp hfitted
  refine ⟨byte, hbyte, ?_⟩
  rw [act_call transport hslot, Regulator.run_serve_getVoltage]
  simp only [Regulator.getVoltage_of_reliable h.board, hchip, hbyte]
  rfl

/-- A setting is read back on its own ramp as the highest voltage that is not
above what was asked for. -/
theorem isGreatest_onto {s : Setting} (hfits : s.profile.Fits)
    (h : s.profile.contains s.uv = true) (old : UInt8) :
    IsGreatest {v | s.profile.IsVoltage v ∧ v ≤ s.uv} (s.profile.toVoltage (s.onto old)) := by
  have hcode := Register.code_of_update old (Ramp.Profile.toCode_lt_of_contains h)
  have hread : s.profile.toVoltage (s.onto old) =
      s.profile.toVoltage (s.profile.toCode s.uv) := by
    rw [Setting.onto, ← Ramp.Profile.toCode_of_contains h,
      ← s.profile.toVoltage_masked, hcode]
  rw [hread]
  exact Ramp.Profile.isGreatest_toVoltage hfits h

/-- So is the byte that a run leaves where it accepted a setting. -/
theorem isGreatest_of_lastAt? {bench : Bench Board} (h : bench.Reliable)
    {actions : List (Action Board)} (hwired : ∀ action ∈ actions, action.rewires = false)
    {a r : UInt8} (hr : r < 0x0A) {last : Setting} (hfits : last.profile.Fits)
    (hlast : lastAt? (bench.settings transport actions) a r = some last) {byte : UInt8}
    (hbyte : (bench.after transport actions).bus.value? a r = some byte) :
    IsGreatest {v | last.profile.IsVoltage v ∧ v ≤ last.uv} (last.profile.toVoltage byte) := by
  have hinside := contains_of_mem_settings (lastAt?_eq_some hlast).1
  rw [value?_after h hwired a hr] at hbyte
  obtain ⟨initial, _, honto⟩ := Option.map_eq_some_iff.mp hbyte
  rw [byteAfter, hlast] at honto
  rw [← honto]
  exact isGreatest_onto hfits hinside initial

/-- On a board that fails nothing, the last accepted voltage wins. -/
theorem last_setting_wins (b : Board) (hb : b.Reliable) (actions : List (Action Board))
    (hwired : ∀ action ∈ actions, action.rewires = false) :
    let made := (empty b).settings transport actions
    let now := (empty b).after transport actions
    (∀ a, ∀ r ∈ [0x00, 0x01],
      now.bus.value? a r = (b.value? a r).map fun initial =>
        match lastAt? made a r with
        | none => initial
        | some last => (initial &&& 0x80) ||| UInt8.ofNat (last.profile.wholeSteps last.uv)) ∧
    (∀ s ∈ made, s.profile.minUv ≤ s.uv ∧ s.profile.wholeSteps s.uv < 64) ∧
    (∀ slot regulator chip, now.slots slot = some regulator → regulator.chip? = some chip →
      (∀ uv, now.accepted? transport (.call slot (.setVoltage uv)) =
        if chip.profile.contains uv then
          some ⟨regulator.address, regulator.roles.active.register, chip.profile, uv⟩
        else none) ∧
      ∃ byte uv,
        now.bus.value? regulator.address regulator.roles.active.register = some byte ∧
        (now.act transport (.call slot .getVoltage)).answer = .replied (.ok (.voltage uv)) ∧
        uv.toNat =
          chip.profile.minUv.toNat + (byte &&& 0x3F).toNat * chip.profile.stepUv.toNat ∧
        ∀ last, lastAt? made regulator.address regulator.roles.active.register = some last →
          last.profile = chip.profile →
          IsGreatest {v | chip.profile.IsVoltage v ∧ v ≤ last.uv} uv) ∧
    (∀ action, action.rewires = false → ∀ a, ∀ r ∈ [0x00, 0x01],
      (∀ s, now.accepted? transport action = some s → ¬(s.address = a ∧ s.register = r)) →
      let later := (now.act transport action).bench
      later.bus.value? a r = now.bus.value? a r ∧
        ∀ regulator : Regulator, regulator.address = a → regulator.roles.active.register = r →
          (regulator.getVoltage.run transport later.bus).result =
            (regulator.getVoltage.run transport now.bus).result) := by
  intro made now
  have hstart := reliable_empty hb
  have hnow : now.Reliable := reliable_after hstart hwired
  refine ⟨?_, ?_, ?_, ?_⟩
  · intro a r hr
    exact value?_after hstart hwired a (setting_lt hr)
  · intro s member
    obtain ⟨hmin, hcode⟩ := (s.profile.contains_iff s.uv).mp (contains_of_mem_settings member)
    exact ⟨UInt32.le_iff_toNat_le.mpr hmin, hcode⟩
  · intro slot regulator chip hslot hchip
    obtain ⟨byte, hbyte, hanswer⟩ := answer_getVoltage hnow hslot hchip
    have hfits := Ramp.catalog_fits _ (hnow.known slot regulator hslot chip hchip).1
    refine ⟨accepted?_of_reliable hnow hslot hchip, ?_⟩
    refine ⟨byte, _, hbyte, hanswer, Ramp.Profile.toNat_toVoltage hfits byte, ?_⟩
    intro last hlast hprofile
    rw [← hprofile] at hfits ⊢
    exact isGreatest_of_lastAt? hstart hwired
      (setting_lt regulator.roles.active.register_mem) hfits hlast hbyte
  · intro action hwired a r hr helsewhere later
    have hvalue : later.bus.value? a r = now.bus.value? a r :=
      value?_act_of_elsewhere hnow hwired (setting_lt hr) helsewhere
    refine ⟨hvalue, ?_⟩
    rintro regulator rfl rfl
    have hlater : later.Reliable := reliable_act hnow hwired
    rw [Regulator.getVoltage_of_reliable hlater.board,
      Regulator.getVoltage_of_reliable hnow.board, hvalue]

def disputed : Board :=
  Board.bare.attach
    ⟨0x40, [(0x00, 0x9F), (0x01, 0xC5), (0x03, 0x88), (0x04, 0x01)], [0x0B], []⟩

/-- Both ramps are used at one setting, with a calibration, a refused request
and a request for the other setting between. -/
def dispute : List (Action Board) := [
  .mount 0 .silergy {}, .mount 1 .fairchild {}, .mount 2 .silergy { suspendSelector := 0 },
  .call 0 .probe, .call 1 .probe, .call 2 .probe, .call 0 (.setVoltage 1000000),
  .calibrate, .call 1 (.setVoltage 1005000), .call 0 (.setVoltage 500000),
  .call 2 (.setVoltage 900000)]

theorem dispute_last_wins :
    disputed.Reliable ∧ (∀ action ∈ dispute, action.rewires = false) ∧
      ((empty disputed).after transport dispute).bus.value? 0x40 0x00 = some 0xA8 := by
  have hreliable : disputed.Reliable := by
    refine ⟨?_, rfl, ?_⟩
    · exact Board.allDevices_place Board.allDevices_bare (fun _ => rfl)
    · refine Board.allDevices_place Board.allDevices_bare ?_
      intro r hr
      simp only [List.mem_cons, List.not_mem_nil, or_false] at hr
      rcases hr with rfl | rfl <;> rfl
  have hwired : ∀ action ∈ dispute, action.rewires = false := by decide
  refine ⟨hreliable, hwired, ?_⟩
  rw [(last_setting_wins disputed hreliable dispute hwired).1 0x40 0x00 (by decide)]
  decide

end BuckRegulator.Bench
