import BuckRegulator.Proofs.Board.Undisturbed
import BuckRegulator.Proofs.Trim.Phases

/-!
What a list of writes makes of a board that takes all of them. In each register
only the last write that names it is seen, and a read-only register keeps what
it holds, so the same list of writes taken twice does no more than once, and two
lists that have no register in common can change places. On a board that fails
nothing, every run comes to the writes of its log.
-/

namespace BuckRegulator.Board

open Bus (Failure Procedure)
open Trim (Write written)

variable {α : Type}

def store (b : Board) (writes : List Write) : Board :=
  writes.foldl (fun b w => b.modify w.address (·.write w.register w.value)) b

def lastTo? : List Write → UInt8 → UInt8 → Option UInt8
  | [], _, _ => none
  | w :: rest, address, register =>
      (lastTo? rest address register).or
        (if w.address = address ∧ w.register = register then some w.value else none)

/-- The device with the bytes of `last` in the registers that can be written. -/
def Device.overwrite (d : Device) (last : UInt8 → Option UInt8) : Device :=
  { d with stored := fun r => if d.readOnly r then d.stored r else (last r).or (d.stored r) }

theorem Device.overwrite_none (d : Device) : d.overwrite (fun _ => none) = d := by
  simp [overwrite]

/-- An earlier write is hidden by a later one to the same register. -/
theorem Device.overwrite_write (d : Device) (register value : UInt8)
    (last : UInt8 → Option UInt8) :
    (d.write register value).overwrite last =
      d.overwrite fun r => (last r).or (if register = r then some value else none) := by
  unfold write
  split
  · next locked =>
      simp only [overwrite, Device.mk.injEq, and_self, and_true]
      funext r
      by_cases same : register = r
      · subst same
        rw [if_pos locked, if_pos locked]
      · rw [if_neg same, Option.or_none]
  · next writable =>
      simp only [overwrite, ByteMap.set, Device.mk.injEq, and_self, and_true]
      funext r
      by_cases same : register = r
      · subst same
        simp [writable]
      · simp [same, Ne.symm same]

theorem Device.overwrite_overwrite (d : Device) (last : UInt8 → Option UInt8) :
    (d.overwrite last).overwrite last = d.overwrite last := by
  simp only [overwrite, Device.mk.injEq, and_self, and_true]
  funext r
  by_cases locked : d.readOnly r = true
  · simp [locked]
  · simp [locked, ← Option.or_assoc]

/-- The order of two changes does not matter if no register is in both. -/
theorem Device.overwrite_comm (d : Device) {first second : UInt8 → Option UInt8}
    (h : ∀ r, first r = none ∨ second r = none) :
    (d.overwrite first).overwrite second = (d.overwrite second).overwrite first := by
  simp only [overwrite, Device.mk.injEq, and_self, and_true]
  funext r
  split
  · rfl
  · rcases h r with hnone | hnone
    · rw [hnone, Option.none_or, Option.none_or]
    · rw [hnone, Option.none_or, Option.none_or]

/-- A register that no write names is not among the last ones written. -/
theorem lastTo?_eq_none {writes : List Write} {register : UInt8}
    (h : ∀ w ∈ writes, w.register ≠ register) (address : UInt8) :
    lastTo? writes address register = none := by
  induction writes with
  | nil => rfl
  | cons w rest ih =>
      rw [List.forall_mem_cons] at h
      rw [lastTo?, ih h.2, Option.none_or, if_neg fun named => h.1 named.2]

theorem faults_store (b : Board) (writes : List Write) : (b.store writes).faults = b.faults := by
  induction writes generalizing b with
  | nil => rfl
  | cons w rest ih => exact (ih _).trans (faults_modify b _ _)

theorem devices_store (b : Board) (writes : List Write) (a : UInt8) :
    (b.store writes).devices a = (b.devices a).map (·.overwrite (lastTo? writes a)) := by
  induction writes generalizing b with
  | nil =>
      have hsame : (·.overwrite (lastTo? [] a)) = (id : Device → Device) :=
        funext Device.overwrite_none
      rw [hsame, Option.map_id]
      rfl
  | cons w rest ih =>
      change ((b.modify w.address (·.write w.register w.value)).store rest).devices a = _
      rw [ih, devices_modify]
      split
      · next here =>
          rw [Option.map_map]
          refine congrArg (Option.map · _) (funext fun d => ?_)
          simp only [Function.comp_apply, Device.overwrite_write, lastTo?, here, true_and]
      · next elsewhere =>
          have hlast : lastTo? (w :: rest) a = lastTo? rest a := by
            funext r
            simp [lastTo?, Ne.symm elsewhere]
          rw [hlast]

attribute [ext] Board

/-- The same writes once more change nothing. -/
theorem store_store (b : Board) (writes : List Write) :
    (b.store writes).store writes = b.store writes := by
  apply Board.ext
  · funext a
    rw [devices_store, devices_store, Option.map_map]
    refine congrArg (Option.map · _) (funext fun d => ?_)
    exact d.overwrite_overwrite _
  · exact faults_store (b.store writes) writes

/-- Writes to different registers can be taken in either order. -/
theorem store_comm (b : Board) {first second : List Write}
    (h : ∀ w ∈ first, ∀ w' ∈ second, w.register ≠ w'.register) :
    (b.store first).store second = (b.store second).store first := by
  have hdisjoint (a r : UInt8) : lastTo? first a r = none ∨ lastTo? second a r = none := by
    by_cases hfirst : ∃ w ∈ first, w.register = r
    · obtain ⟨w, member, rfl⟩ := hfirst
      exact Or.inr (lastTo?_eq_none (fun w' member' => (h w member w' member').symm) a)
    · exact Or.inl (lastTo?_eq_none (fun w member here => hfirst ⟨w, member, here⟩) a)
  apply Board.ext
  · funext a
    rw [devices_store, devices_store, devices_store, devices_store, Option.map_map,
      Option.map_map]
    refine congrArg (Option.map · _) (funext fun d => ?_)
    exact d.overwrite_comm (hdisjoint a)
  · rw [faults_store, faults_store, faults_store, faults_store]

theorem value?_store (b : Board) (writes : List Write) (a r : UInt8) :
    (b.store writes).value? a r =
      (b.devices a).map fun d =>
        if d.readOnly r then d.value r else (lastTo? writes a r).getD (d.value r) := by
  rw [value?, devices_store, Option.map_map]
  refine congrArg (Option.map · _) (funext fun d => ?_)
  simp only [Function.comp_apply, Device.value, Device.overwrite]
  split
  · rfl
  · cases lastTo? writes a r with
    | none => rfl
    | some value => rfl

theorem value?_store_of_ne (b : Board) {writes : List Write} {r : UInt8}
    (h : ∀ w ∈ writes, w.register ≠ r) (a : UInt8) :
    (b.store writes).value? a r = b.value? a r := by
  rw [value?_store, value?, lastTo?_eq_none h]
  simp only [Option.getD_none, ite_self]

theorem Faultless.store {b : Board} (h : b.Faultless) (writes : List Write) :
    (b.store writes).Faultless := by
  refine ⟨?_, (faults_store b writes).trans h.faultless⟩
  intro a device fitted
  rw [devices_store] at fitted
  obtain ⟨before, hbefore, rfl⟩ := Option.map_eq_some_iff.mp fitted
  exact h.plain a before hbefore

theorem Faultless.read_eq {b : Board} (h : b.Faultless) (address register : UInt8) :
    b.read address register =
      ((b.value? address register).elim (.error (.notAcknowledged .address)) .ok, b) := by
  rw [read_of_undisturbed h.plain (h.undisturbed _)]
  cases b.value? address register with
  | none => rfl
  | some value => rfl

theorem Faultless.read {b : Board} (h : b.Faultless) (address register : UInt8) :
    (b.read address register).2 = b := by
  rw [h.read_eq]

/-- A run leaves a board that fails nothing with the writes of its log. -/
theorem Faultless.bus_run {b : Board} (h : b.Faultless) (p : Procedure Failure α) :
    (p.run transport b).bus = b.store (written (p.run transport b).log) := by
  induction p generalizing b with
  | done => rfl
  | read address register next ih =>
      simp only [Procedure.run, transport, Trim.written_read, h.read]
      exact ih _ h
  | write address register value next ih =>
      have hwrite : (b.write address register value).2 =
          b.modify address (·.write register value) := by
        rw [write_of_undisturbed (h.undisturbed _)]
      have hmodified : (b.modify address (·.write register value)).Faultless := by
        rw [← hwrite]
        exact h.run (Bus.write address register value)
      simp only [Procedure.run, transport, Trim.written_write, hwrite]
      exact ih _ hmodified

theorem Faultless.bus_run_of_reads {b : Board} (h : b.Faultless) (p : Procedure Failure α)
    (hreads : ∀ entry ∈ (p.run transport b).log, entry.isWrite = false) :
    (p.run transport b).bus = b := by
  rw [h.bus_run, Trim.written_of_reads hreads]
  rfl

end BuckRegulator.Board
