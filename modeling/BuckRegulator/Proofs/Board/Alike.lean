import BuckRegulator.Proofs.Board.Undisturbed
import BuckRegulator.Proofs.Bus.Footprint

/-!
Two boards that differ only where a procedure does not look. They hold the same
outside some hidden registers, and rules may cover transactions on disturbed
registers, the hidden ones among them. A procedure that keeps away from the
disturbed registers cannot tell two such boards apart: it gets the same answers
from both, and leaves boards that again differ only in what is hidden.
-/

namespace BuckRegulator.Board

open Bus (Failure Procedure)

variable {α : Type} {disturbed : UInt8 → Prop} {hidden : List (UInt8 × UInt8)} {b c d : Board}

theorem Device.readOnly_read (d : Device) (register : UInt8) :
    (d.read register).2.readOnly = d.readOnly := by
  unfold read
  split
  · rfl
  · rfl

theorem Device.readOnly_write (d : Device) (register value : UInt8) :
    (d.write register value).readOnly = d.readOnly := by
  unfold write
  split
  · rfl
  · rfl

def readOnly? (b : Board) (address register : UInt8) : Option Bool :=
  (b.devices address).map (·.readOnly register)

theorem readOnly?_read (b : Board) (address register a r : UInt8) :
    (b.read address register).2.readOnly? a r = b.readOnly? a r := by
  dsimp only [read]
  split
  · rfl
  · next device reached =>
      have fitted : b.devices address = some device := devices_of_reach reached
      simp only [readOnly?, place, ByteMap.set]
      split
      · next same => rw [same, fitted, Option.map_some, Option.map_some, Device.readOnly_read]
      · rfl

theorem readOnly?_write (b : Board) (address register value a r : UInt8) :
    (b.write address register value).2.readOnly? a r = b.readOnly? a r := by
  dsimp only [write]
  split
  · simp only [readOnly?, devices_modify]
    split
    · rw [Option.map_map]
      refine congrArg (Option.map · _) (funext fun device => ?_)
      rw [Function.comp_apply, Device.readOnly_write]
    · rfl
  · rfl

theorem readOnly?_run (p : Procedure Failure α) (b : Board) (a r : UInt8) :
    (p.run transport b).bus.readOnly? a r = b.readOnly? a r := by
  refine Procedure.run_keeps transport (fun c => c.readOnly? a r = b.readOnly? a r) ?_ ?_ p b rfl
  · intro address register c h
    exact (readOnly?_read c address register a r).trans h
  · intro address register value c h
    exact (readOnly?_write c address register value a r).trans h

/-- A register map whose rules cover transactions on disturbed registers only. -/
structure Confined (disturbed : UInt8 → Prop) (b : Board) : Prop where
  plain : b.IsRegisterMap
  covered : ∀ f ∈ b.faults, ∀ access, f.covers access = true → disturbed access.register

/-- Rules that each name a disturbed register cover no other. -/
theorem covered_of_registers (h : ∀ f ∈ b.faults, ∃ r ∈ f.register, disturbed r) :
    ∀ f ∈ b.faults, ∀ access, f.covers access = true → disturbed access.register := by
  intro f member access hcovers
  obtain ⟨r, hr, hdisturbed⟩ := h f member
  rw [Option.mem_def] at hr
  have hsame : r = access.register := by
    simpa [Fault.covers, hr] using (Bool.and_eq_true_iff.mp hcovers).2
  rwa [← hsame]

theorem Confined.undisturbed (h : b.Confined disturbed) {access : Access}
    (hregister : ¬disturbed access.register) : b.Undisturbed access := by
  intro f member
  rw [Bool.eq_false_iff]
  exact fun hcovers => hregister (h.covered f member access hcovers)

theorem Confined.run (h : b.Confined disturbed) (p : Procedure Failure α) :
    (p.run transport b).bus.Confined disturbed := by
  refine ⟨isRegisterMap_run p h.plain, allFaults_run ?_ p h.covered⟩
  intro f access hcovered a hcovers
  rw [Fault.covers_count] at hcovers
  exact hcovered a hcovers

/-- Both boards have the same devices, up to what hidden registers hold. -/
structure Alike (hidden : List (UInt8 × UInt8)) (b c : Board) : Prop where
  value : ∀ a r, (a, r) ∉ hidden → b.value? a r = c.value? a r
  readOnly : ∀ a r, b.readOnly? a r = c.readOnly? a r

theorem Alike.symm (h : Alike hidden b c) : Alike hidden c b :=
  ⟨fun a r hseen => (h.value a r hseen).symm, fun a r => (h.readOnly a r).symm⟩

theorem Alike.trans (h : Alike hidden b c) (h' : Alike hidden c d) : Alike hidden b d :=
  ⟨fun a r hseen => (h.value a r hseen).trans (h'.value a r hseen),
    fun a r => (h.readOnly a r).trans (h'.readOnly a r)⟩

/-- At each address both boards have nothing, or devices that can be told apart
by hidden registers only. -/
theorem Alike.devices_cases (h : Alike hidden b c) (a : UInt8) :
    (b.devices a = none ∧ c.devices a = none) ∨
      ∃ device device', b.devices a = some device ∧ c.devices a = some device' ∧
        (∀ r, device.readOnly r = device'.readOnly r) ∧
        ∀ r, (a, r) ∉ hidden → device.value r = device'.value r := by
  have hvalue := h.value a
  have hreadOnly := h.readOnly a
  unfold value? at hvalue
  unfold readOnly? at hreadOnly
  cases hb : b.devices a with
  | none =>
      cases hc : c.devices a with
      | none => exact Or.inl ⟨rfl, rfl⟩
      | some device' => simp [hb, hc] at hreadOnly
  | some device =>
      cases hc : c.devices a with
      | none => simp [hb, hc] at hreadOnly
      | some device' =>
          simp only [hb, hc, Option.map_some, Option.some.injEq] at hvalue hreadOnly
          exact Or.inr ⟨device, device', rfl, rfl, hreadOnly, hvalue⟩

/-- A run that keeps the registers in sight leaves a board alike. -/
theorem alike_run (p : Procedure Failure α)
    (h : ∀ a r, (a, r) ∉ hidden → (p.run transport b).bus.value? a r = b.value? a r) :
    Alike hidden (p.run transport b).bus b :=
  ⟨h, readOnly?_run p b⟩

theorem Alike.write (h : Alike hidden b c) (hb : b.Confined disturbed)
    (hc : c.Confined disturbed) {register : UInt8} (hregister : ¬disturbed register)
    (address value : UInt8) :
    (b.write address register value).1 = (c.write address register value).1 ∧
      Alike hidden (b.write address register value).2 (c.write address register value).2 := by
  have hfree : b.Undisturbed ⟨.write, address, register⟩ := hb.undisturbed hregister
  have hfree' : c.Undisturbed ⟨.write, address, register⟩ := hc.undisturbed hregister
  refine ⟨?_, ?_, ?_⟩
  · rw [write_of_undisturbed hfree, write_of_undisturbed hfree']
    rcases h.devices_cases address with ⟨hnone, hnone'⟩ | ⟨_, _, hsome, hsome', _⟩
    · rw [hnone, hnone']
    · rw [hsome, hsome']
  · intro a r hseen
    rw [value?_write, value?_write, lands_of_undisturbed hfree, lands_of_undisturbed hfree']
    rcases h.devices_cases a with ⟨hnone, hnone'⟩ | ⟨_, _, hsome, hsome', hreadOnly, hvalue⟩
    · rw [hnone, hnone']
    · simp only [hsome, hsome', Option.map_some, hreadOnly, hvalue r hseen]
  · intro a r
    rw [readOnly?_write, readOnly?_write, h.readOnly]

theorem Alike.read (h : Alike hidden b c) (hb : b.Confined disturbed)
    (hc : c.Confined disturbed) {address register : UInt8} (hregister : ¬disturbed register)
    (hseen : (address, register) ∉ hidden) :
    (b.read address register).1 = (c.read address register).1 ∧
      Alike hidden (b.read address register).2 (c.read address register).2 := by
  rw [read_of_undisturbed hb.plain (hb.undisturbed hregister),
    read_of_undisturbed hc.plain (hc.undisturbed hregister),
    ← h.value address register hseen]
  cases b.value? address register with
  | none => exact ⟨rfl, h⟩
  | some value => exact ⟨rfl, h⟩

/-- A procedure that keeps away from the disturbed registers cannot tell boards
apart that are alike, and keeps them alike. -/
theorem Alike.run (hhidden : ∀ a r, (a, r) ∈ hidden → disturbed r)
    {p : Procedure Failure α} (hp : p.Within (¬disturbed ·)) (h : Alike hidden b c)
    (hb : b.Confined disturbed) (hc : c.Confined disturbed) :
    (p.run transport b).result = (p.run transport c).result ∧
      Alike hidden (p.run transport b).bus (p.run transport c).bus := by
  induction p generalizing b c with
  | done result => exact ⟨rfl, h⟩
  | read address register next ih =>
      have hseen : (address, register) ∉ hidden := fun member => hp.1 (hhidden _ _ member)
      obtain ⟨hanswer, hafter⟩ := h.read hb hc hp.1 hseen
      have hrest := ih (b.read address register).1 (hp.2 _) hafter
        (hb.run (Bus.read address register)) (hc.run (Bus.read address register))
      simp only [Procedure.run, transport]
      rw [← hanswer]
      exact hrest
  | write address register value next ih =>
      obtain ⟨hanswer, hafter⟩ := h.write hb hc hp.1 address value
      have hrest := ih (b.write address register value).1 (hp.2 _) hafter
        (hb.run (Bus.write address register value)) (hc.run (Bus.write address register value))
      simp only [Procedure.run, transport]
      rw [← hanswer]
      exact hrest

end BuckRegulator.Board
