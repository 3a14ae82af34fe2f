import BuckRegulator.Proofs.Board.RegisterMap

namespace BuckRegulator.Board

open Bus (Failure Procedure)

variable {α : Type} {b : Board} {address register : UInt8}

def Undisturbed (b : Board) (access : Access) : Prop :=
  ∀ f ∈ b.faults, f.covers access = false

theorem undisturbed_of_faultless (h : b.faults = []) (access : Access) :
    b.Undisturbed access := by
  intro f member
  rw [h] at member
  cases member

theorem place_self {device : Device} (fitted : b.devices address = some device) :
    b.place address device = b := by
  have hdevices : b.devices.set address (some device) = b.devices := by
    funext k
    by_cases same : k = address
    · rw [same, ByteMap.set_self, fitted]
    · exact ByteMap.set_of_ne _ _ same
  rw [place, hdevices]

theorem faults_modify (b : Board) (address : UInt8) (change : Device → Device) :
    (b.modify address change).faults = b.faults := by
  unfold modify
  split
  · rfl
  · rfl

/-- A transaction does nothing to the rules but count. -/
theorem faults_read (b : Board) (address register : UInt8) :
    (b.read address register).2.faults =
      b.faults.map (·.count ⟨.read, address, register⟩) := by
  dsimp only [read]
  split
  · rfl
  · rfl

theorem faults_write (b : Board) (address register value : UInt8) :
    (b.write address register value).2.faults =
      b.faults.map (·.count ⟨.write, address, register⟩) := by
  dsimp only [write]
  split
  · rw [faults_modify]
    rfl
  · rfl

/-- What all rules have, whatever their counts, they keep. -/
theorem allFaults_run {holds : Fault → Prop}
    (hcount : ∀ f access, holds f → holds (f.count access)) (p : Procedure Failure α)
    {b : Board} (h : ∀ f ∈ b.faults, holds f) :
    ∀ f ∈ (p.run transport b).bus.faults, holds f := by
  have hcounted {faults : List Fault} (h : ∀ f ∈ faults, holds f) (access : Access) :
      ∀ f ∈ faults.map (·.count access), holds f :=
    List.forall_mem_map.mpr fun f member => hcount f access (h f member)
  refine Procedure.run_keeps transport (fun b => ∀ f ∈ b.faults, holds f) ?_ ?_ p b h
  · intro address register b h
    change ∀ f ∈ (b.read address register).2.faults, holds f
    rw [faults_read]
    exact hcounted h _
  · intro address register value b h
    change ∀ f ∈ (b.write address register value).2.faults, holds f
    rw [faults_write]
    exact hcounted h _

theorem devices_modify (b : Board) (address : UInt8) (change : Device → Device)
    (a : UInt8) :
    (b.modify address change).devices a =
      if a = address then (b.devices a).map change else b.devices a := by
  unfold modify
  split
  · next empty =>
      split
      · next same => rw [same, empty, Option.map_none]
      · rfl
  · next device fitted =>
      simp only [place, ByteMap.set]
      split
      · next same => rw [same, fitted, Option.map_some]
      · rfl

theorem count_of_undisturbed {access : Access} (h : b.Undisturbed access) :
    b.count access = b := by
  have hfaults : b.faults.map (·.count access) = b.faults := by
    rw [List.map_congr_left (g := id), List.map_id]
    intro f member
    rw [Fault.count, h f member]
    rfl
  rw [count, hfaults]

theorem ruling?_of_undisturbed {access : Access} (h : b.Undisturbed access) :
    b.ruling? access = none := by
  apply List.find?_eq_none.mpr
  intro f member hfires
  rw [Fault.fires, h f member] at hfires
  cases hfires

theorem reach_of_undisturbed {access : Access} (h : b.Undisturbed access) :
    b.reach access =
      match b.devices access.address with
      | none => .error (.notAcknowledged .address)
      | some device => .ok device := by
  simp only [reach, ruling?_of_undisturbed h]
  cases b.devices access.address with
  | none => rfl
  | some device => rfl

theorem read_of_undisturbed (hmap : b.IsRegisterMap)
    (h : b.Undisturbed ⟨.read, address, register⟩) :
    b.read address register =
      match b.value? address register with
      | none => (.error (.notAcknowledged .address), b)
      | some value => (.ok value, b) := by
  dsimp only [read]
  rw [reach_of_undisturbed h, count_of_undisturbed h]
  cases fitted : b.devices address with
  | none => simp [value?, fitted]
  | some device =>
      have hplain := device.read_unscripted (hmap address device fitted register)
      simp [value?, fitted, hplain, place_self fitted]

theorem lands_of_undisturbed {access : Access} (h : b.Undisturbed access) :
    b.lands access = true := by
  rw [lands, ruling?_of_undisturbed h, Option.all_none]

theorem write_of_undisturbed (h : b.Undisturbed ⟨.write, address, register⟩)
    (value : UInt8) :
    b.write address register value =
      (match b.devices address with
        | none => .error (.notAcknowledged .address)
        | some _ => .ok (), b.modify address (·.write register value)) := by
  dsimp only [write]
  rw [reach_of_undisturbed h, count_of_undisturbed h, if_pos (lands_of_undisturbed h)]
  cases b.devices address with
  | none => rfl
  | some device => rfl

theorem faultless_run (p : Procedure Failure α) {b : Board} (h : b.faults = []) :
    (p.run transport b).bus.faults = [] := by
  rw [List.eq_nil_iff_forall_not_mem] at h ⊢
  exact allFaults_run (fun _ _ => id) p h

/-- A register map that fails a transaction only where nothing is fitted. -/
structure Faultless (b : Board) : Prop where
  plain : b.IsRegisterMap
  faultless : b.faults = []

theorem Faultless.undisturbed (h : b.Faultless) (access : Access) : b.Undisturbed access :=
  undisturbed_of_faultless h.faultless access

theorem Faultless.run (h : b.Faultless) (p : Procedure Failure α) :
    (p.run transport b).bus.Faultless :=
  ⟨isRegisterMap_run p h.plain, faultless_run p h.faultless⟩

end BuckRegulator.Board
