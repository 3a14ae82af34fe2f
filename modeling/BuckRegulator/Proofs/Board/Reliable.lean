import BuckRegulator.Proofs.Board.Undisturbed
import BuckRegulator.Register

namespace BuckRegulator.Board

open Bus (Failure Procedure)

variable {α : Type}

structure Reliable (b : Board) : Prop where
  plain : b.IsRegisterMap
  faultless : b.faults = []
  writable : b.AllDevices fun device =>
    ∀ r ∈ [Register.vsel0, Register.vsel1], device.readOnly r = false

theorem reliable_run (p : Procedure Failure α) {b : Board} (h : b.Reliable) :
    (p.run transport b).bus.Reliable := by
  refine ⟨isRegisterMap_run p h.plain, faultless_run p h.faultless, ?_⟩
  refine allDevices_run ?_ ?_ p b h.writable
  · intro device r hwritable
    unfold Device.read
    split
    · exact hwritable
    · exact hwritable
  · intro device r v hwritable
    unfold Device.write
    split
    · exact hwritable
    · exact hwritable

/-- Devices stay where they are fitted, on any board. -/
theorem isSome_value?_run (p : Procedure Failure α) {b : Board} {a r : UInt8}
    (h : (b.value? a r).isSome) : ((p.run transport b).bus.value? a r).isSome := by
  refine Procedure.run_keeps transport (fun b => (b.value? a r).isSome) ?_ ?_ p b h
  · intro address register b h
    change ((b.read address register).2.value? a r).isSome
    rwa [value?_read]
  · intro address register value b h
    change ((b.write address register value).2.value? a r).isSome
    rw [value?_write]
    rw [value?] at h
    rwa [Option.isSome_map] at h ⊢

theorem read_of_reliable {b : Board} (h : b.Reliable) (address register : UInt8) :
    b.read address register =
      match b.value? address register with
      | none => (.error (.notAcknowledged .address), b)
      | some value => (.ok value, b) :=
  read_of_undisturbed h.plain (undisturbed_of_faultless h.faultless _)

/-- A voltage setting that is fitted takes every byte written to it. -/
theorem write_of_reliable {b : Board} (h : b.Reliable) {address register old : UInt8}
    (hsetting : register ∈ [Register.vsel0, Register.vsel1])
    (hold : b.value? address register = some old) (value : UInt8) :
    (b.write address register value).1 = .ok () ∧
      (b.write address register value).2.value? address register = some value := by
  obtain ⟨device, fitted, _⟩ := Option.map_eq_some_iff.mp hold
  have hwritable := h.writable address device fitted register hsetting
  rw [write_of_undisturbed (undisturbed_of_faultless h.faultless _)]
  constructor
  · simp only [fitted]
  · rw [value?_modify, if_pos rfl, fitted, Option.map_some, Device.value_write,
      if_pos ⟨rfl, hwritable⟩]

end BuckRegulator.Board
