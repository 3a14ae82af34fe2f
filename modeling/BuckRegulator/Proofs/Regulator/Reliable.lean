import BuckRegulator.Proofs.Board.Reliable
import BuckRegulator.Proofs.Regulator.Calls

namespace BuckRegulator

theorem Selector.register_mem (s : Selector) :
    s.register ∈ [Register.vsel0, Register.vsel1] := by
  cases s <;> decide

namespace Regulator

open Board (transport)
open Bus (Failure Procedure)

/-- What the regulator has identified is a chip of the catalog, and there is a
device at its address. -/
def Known (r : Regulator) (b : Board) : Prop :=
  ∀ chip, r.chip? = some chip → chip.profile ∈ Ramp.catalog ∧
    ∀ register, (b.value? r.address register).isSome

theorem known_run {α : Type} (p : Procedure Failure α) {r : Regulator} {b : Board}
    (h : r.Known b) : r.Known (p.run transport b).bus := by
  intro chip hchip
  obtain ⟨hcatalog, hfitted⟩ := h chip hchip
  exact ⟨hcatalog, fun register => Board.isSome_value?_run p (hfitted register)⟩

theorem known_probe {r : Regulator} {b : Board} (hb : b.Reliable) (h : r.Known b) :
    ((r.probe).run transport b).result.2.Known b := by
  rcases probe_cases transport r b with hsame |
    ⟨chip, report, hafter, hcatalog, id1, hid1⟩
  · rw [hsame]
    exact h
  · rw [hafter]
    intro chip' hchip
    cases hchip
    refine ⟨hcatalog, ?_⟩
    intro register
    have hstored := Board.value?_of_read hb.plain hid1
    obtain ⟨device, fitted, _⟩ := Option.map_eq_some_iff.mp hstored
    simp only [Board.value?, fitted, Option.map_some, Option.isSome_some]

theorem getVoltage_of_reliable {b : Board} (hb : b.Reliable) (r : Regulator) :
    ((r.getVoltage).run transport b).result =
      match r.chip? with
      | none => .error .notProbed
      | some chip =>
          match b.value? r.address r.roles.active.register with
          | none => .error (.bus (.notAcknowledged .address))
          | some raw => .ok (chip.profile.toVoltage raw) := by
  cases hchip : r.chip? with
  | none => rw [run_getVoltage_of_unidentified transport hchip]
  | some chip =>
      rw [run_getVoltage transport hchip]
      simp only [transport, Board.read_of_reliable hb]
      cases b.value? r.address r.roles.active.register with
      | none => rfl
      | some raw => rfl

/-- A request inside the ramp of a fitted chip is stored, as the whole steps of
the voltage under the enable bit, and changes nothing else. -/
theorem setVoltage_of_fitted {b : Board} (hb : b.Reliable) {r : Regulator} {chip : Chip}
    (hchip : r.chip? = some chip) {uv : UInt32} (hinside : chip.profile.contains uv = true)
    {old : UInt8} (hold : b.value? r.address r.roles.active.register = some old) :
    let register := r.roles.active.register
    let run := (r.setVoltage uv).run transport b
    run.result = .ok () ∧
      run.bus.value? r.address register =
        some ((old &&& 0x80) ||| UInt8.ofNat (chip.profile.wholeSteps uv)) ∧
      ∀ a s, ¬(a = r.address ∧ s = register) → run.bus.value? a s = b.value? a s := by
  intro register run
  obtain ⟨hanswer, hstored⟩ := Board.write_of_reliable hb r.roles.active.register_mem hold
    ((old &&& 0x80) ||| UInt8.ofNat (chip.profile.wholeSteps uv))
  simp only [run, run_setVoltage transport hchip hinside, transport,
    Board.read_of_reliable hb, Ramp.Profile.toCode_of_contains hinside, hold]
  refine ⟨?_, hstored, ?_⟩
  · simp only [hanswer]
    rfl
  · intro a s helsewhere
    apply Board.value?_write_of_stored
    rintro rfl rfl
    exact absurd ⟨rfl, rfl⟩ helsewhere

/-- Every other request fails and changes nothing. -/
theorem setVoltage_of_reliable {b : Board} (hb : b.Reliable) (r : Regulator) (uv : UInt32) :
    let register := r.roles.active.register
    let run := (r.setVoltage uv).run transport b
    ((∃ e, run.result = .error e) ∧ run.bus = b) ∨
      ∃ chip old, r.chip? = some chip ∧ chip.profile.contains uv = true ∧
        b.value? r.address register = some old ∧ run.result = .ok () ∧
        run.bus.value? r.address register =
          some ((old &&& 0x80) ||| UInt8.ofNat (chip.profile.wholeSteps uv)) ∧
        ∀ a s, ¬(a = r.address ∧ s = register) → run.bus.value? a s = b.value? a s := by
  intro register run
  cases hchip : r.chip? with
  | none =>
      left
      simp only [run, run_setVoltage_of_unidentified transport hchip]
      exact ⟨⟨_, rfl⟩, trivial⟩
  | some chip =>
      cases hinside : chip.profile.contains uv with
      | false =>
          left
          simp only [run, run_setVoltage_of_outside transport hchip hinside]
          exact ⟨⟨_, rfl⟩, trivial⟩
      | true =>
          cases hold : b.value? r.address r.roles.active.register with
          | none =>
              left
              simp only [run, run_setVoltage transport hchip hinside, transport,
                Board.read_of_reliable hb, hold]
              exact ⟨⟨_, rfl⟩, trivial⟩
          | some old =>
              right
              exact ⟨chip, old, rfl, hinside, rfl, setVoltage_of_fitted hb hchip hinside hold⟩

end Regulator

end BuckRegulator
