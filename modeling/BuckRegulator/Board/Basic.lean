import BuckRegulator.Board.Device
import BuckRegulator.Board.Fault
import BuckRegulator.Bus.Transport

/-!
A board: the devices at their addresses and the rules that make transactions
fail. The first rule that fires decides a transaction. Without one, an address
where nothing is fitted does not acknowledge. A failed transaction changes no
device, except that a rule may let a failed write through.
-/

namespace BuckRegulator

structure Board where
  devices : Board.ByteMap (Option Board.Device)
  faults : List Board.Fault

namespace Board

def bare : Board where
  devices _ := none
  faults := []

/-- The rule that decides a transaction. -/
def ruling? (b : Board) (access : Access) : Option Fault :=
  b.faults.find? (·.fires access)

/-- Counts a transaction in every rule that covers it. -/
def count (b : Board) (access : Access) : Board :=
  { b with faults := b.faults.map (·.count access) }

def place (b : Board) (address : UInt8) (device : Device) : Board :=
  { b with devices := b.devices.set address (some device) }

def modify (b : Board) (address : UInt8) (change : Device → Device) : Board :=
  match b.devices address with
  | none => b
  | some device => b.place address (change device)

/-- The device that a transaction reaches, or the failure that answers it. -/
def reach (b : Board) (access : Access) : Except Bus.Failure Device :=
  match b.ruling? access, b.devices access.address with
  | some fault, _ => .error fault.failure
  | none, none => .error (.notAcknowledged .address)
  | none, some device => .ok device

/-- Whether a write takes effect where a device is fitted: no rule fails it, or
the deciding one lets it through. -/
def lands (b : Board) (access : Access) : Bool :=
  (b.ruling? access).all (·.applied)

def read (address register : UInt8) (b : Board) : Except Bus.Failure UInt8 × Board :=
  let access : Access := ⟨.read, address, register⟩
  match b.reach access with
  | .error failure => (.error failure, b.count access)
  | .ok device =>
      (.ok (device.read register).1,
        (b.count access).place address (device.read register).2)

def write (address register value : UInt8) (b : Board) :
    Except Bus.Failure Unit × Board :=
  let access : Access := ⟨.write, address, register⟩
  ((b.reach access).map fun _ => (),
    if b.lands access then (b.count access).modify address (·.write register value)
    else b.count access)

def transport : Bus.Transport Bus.Failure Board where
  read := read
  write := write

/-- Fits a layout, over the device that is already at its address if any. -/
def attach (layout : Layout) (b : Board) : Board :=
  b.place layout.address (((b.devices layout.address).getD .blank).fit layout)

def detach (address : UInt8) (b : Board) : Board :=
  { b with devices := b.devices.set address none }

def inject (fault : Fault) (b : Board) : Board :=
  { b with faults := b.faults ++ [fault] }

def clearFaults (b : Board) : Board :=
  { b with faults := [] }

def ofLayouts (layouts : List Layout) (faults : List Fault) : Board :=
  { layouts.foldl (fun board layout => board.attach layout) bare with faults }

def contents (b : Board) : List (UInt8 × List (UInt8 × UInt8)) :=
  (ByteMap.entries b.devices).map fun (address, device) =>
    (address, device.stored.entries)

def value? (b : Board) (address register : UInt8) : Option UInt8 :=
  (b.devices address).map (·.value register)

theorem value?_place (b : Board) (address : UInt8) (device : Device) (a r : UInt8) :
    (b.place address device).value? a r =
      if a = address then some (device.value r) else b.value? a r := by
  by_cases same : a = address <;> simp [value?, place, ByteMap.set, same]

theorem value?_modify (b : Board) (address : UInt8) (change : Device → Device)
    (a r : UInt8) :
    (b.modify address change).value? a r =
      if a = address then (b.devices a).map fun device => (change device).value r
      else b.value? a r := by
  unfold modify
  split
  · next empty =>
      split
      · next same => simp [value?, same, empty]
      · rfl
  · next device fitted =>
      rw [value?_place]
      split
      · next same => simp [same, fitted]
      · rfl

theorem value?_count (b : Board) (access : Access) (a r : UInt8) :
    (b.count access).value? a r = b.value? a r := rfl

theorem devices_of_reach {b : Board} {access : Access} {device : Device}
    (h : b.reach access = .ok device) : b.devices access.address = some device := by
  unfold reach at h
  split at h
  · cases h
  · cases h
  · next found =>
      cases h
      exact found

/-- Reading changes no stored byte, also where it takes from a script. -/
theorem value?_read (b : Board) (address register a r : UInt8) :
    (b.read address register).2.value? a r = b.value? a r := by
  dsimp only [read]
  split
  · rfl
  · next device reached =>
      have fitted : b.devices address = some device := devices_of_reach reached
      rw [value?_place, value?_count, Device.value_read]
      split
      · next same => simp [same, value?, fitted]
      · rfl

/-- What a write leaves in a register: the new byte only if the register is
the one written to, the write takes effect and the register is not read-only. -/
theorem value?_write (b : Board) (address register value a r : UInt8) :
    (b.write address register value).2.value? a r =
      (b.devices a).map fun device =>
        if (a = address ∧ r = register) ∧ device.readOnly register = false ∧
            b.lands ⟨.write, address, register⟩ = true then value
        else device.value r := by
  dsimp only [write]
  split
  · next landed =>
      rw [value?_modify, value?_count]
      by_cases same : a = address
      · subst a
        simp [Device.value_write, count, landed]
      · simp [same, value?]
  · next missed =>
      simp [value?, count, missed]

end Board

end BuckRegulator
