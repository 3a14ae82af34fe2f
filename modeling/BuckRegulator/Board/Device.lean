import BuckRegulator.Board.ByteMap

/-!
One device of a board: a bank of byte registers. A register that was never set
reads zero. A read-only register acknowledges writes and drops them. A scripted
register first plays its readings, one per successful read, and then shows what
is stored; writes leave the script alone.
-/

namespace BuckRegulator.Board

structure Device where
  stored : ByteMap (Option UInt8)
  readOnly : ByteMap Bool
  script : ByteMap (List UInt8)

/-- What is fitted at an address: register contents, the registers that ignore
writes, and the readings that some registers play first. -/
structure Layout where
  address : UInt8
  registers : List (UInt8 × UInt8)
  readOnly : List UInt8
  scripts : List (UInt8 × List UInt8)

namespace Device

def blank : Device where
  stored _ := none
  readOnly _ := false
  script _ := []

/-- The byte that a register holds, whatever its script still has to play. -/
def value (d : Device) (register : UInt8) : UInt8 :=
  (d.stored register).getD 0

def read (d : Device) (register : UInt8) : UInt8 × Device :=
  match d.script register with
  | reading :: rest => (reading, { d with script := d.script.set register rest })
  | [] => (d.value register, d)

def write (d : Device) (register value : UInt8) : Device :=
  if d.readOnly register then d
  else { d with stored := d.stored.set register (some value) }

/-- Fits a layout over a device. Registers and scripts replace those of the
same register; read-only marks add up. -/
def fit (d : Device) (layout : Layout) : Device where
  stored := d.stored.setAll (layout.registers.map fun (register, value) =>
    (register, some value))
  readOnly := d.readOnly.setAll (layout.readOnly.map (·, true))
  script := d.script.setAll layout.scripts

theorem read_unscripted (d : Device) {register : UInt8} (h : d.script register = []) :
    d.read register = (d.value register, d) := by
  simp [read, h]

theorem value_read (d : Device) (register r : UInt8) :
    (d.read register).2.value r = d.value r := by
  unfold read
  split <;> rfl

theorem value_write (d : Device) (register value r : UInt8) :
    (d.write register value).value r =
      if r = register ∧ d.readOnly register = false then value else d.value r := by
  by_cases same : r = register <;> by_cases locked : d.readOnly register = true <;>
    simp [write, Device.value, ByteMap.set, same, locked]

end Device

end BuckRegulator.Board
