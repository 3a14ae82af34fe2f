import BuckRegulator.Register

namespace BuckRegulator

/-- One of the two voltage setting registers. -/
inductive Selector where
  | vsel0
  | vsel1
  deriving DecidableEq, Repr

namespace Selector

def ofRaw? (raw : UInt32) : Option Selector :=
  if raw = 0 then some .vsel0
  else if raw = 1 then some .vsel1
  else none

def register : Selector → UInt8
  | .vsel0 => Register.vsel0
  | .vsel1 => Register.vsel1

def other : Selector → Selector
  | .vsel0 => .vsel1
  | .vsel1 => .vsel0

theorem other_ne (s : Selector) : s.other ≠ s := by
  cases s <;> simp [other]

end Selector

/-- Which selector runs the board and which one holds the suspend voltage. -/
structure Roles where
  active : Selector
  sleep : Selector
  deriving DecidableEq, Repr

def Roles.ofSleep (sleep : Selector) : Roles :=
  ⟨sleep.other, sleep⟩

theorem Roles.active_ne_sleep_ofSleep (s : Selector) :
    (Roles.ofSleep s).active ≠ (Roles.ofSleep s).sleep :=
  s.other_ne

end BuckRegulator
