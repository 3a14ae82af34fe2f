import BuckRegulator.Bus.Failure

/-!
Rules that make transactions of a board fail. A rule covers transactions by
direction, address and register. It lets the first few that it covers pass,
then fails the next ones, all of them or a given number. Covered transactions
are counted whether or not the rule decides them, so rules do not disturb one
another's counts.
-/

namespace BuckRegulator.Board

inductive Direction where
  | read
  | write
  deriving DecidableEq, Repr

structure Access where
  direction : Direction
  address : UInt8
  register : UInt8
  deriving DecidableEq, Repr

/-- A restriction that is `none` covers everything. -/
structure Fault where
  direction : Option Direction := none
  address : Option UInt8 := none
  register : Option UInt8 := none
  /-- How many covered transactions pass first. -/
  skip : Nat := 0
  /-- How many fail after those, all if `none`. -/
  limit : Option Nat := none
  failure : Bus.Failure := .line
  /-- Whether a write that this rule fails is stored all the same. -/
  applied : Bool := false
  /-- How many covered transactions there were so far. -/
  seen : Nat := 0
  deriving DecidableEq, Repr

namespace Fault

def covers (f : Fault) (access : Access) : Bool :=
  f.direction.all (· = access.direction) && f.address.all (· = access.address) &&
    f.register.all (· = access.register)

def fires (f : Fault) (access : Access) : Bool :=
  f.covers access && f.skip ≤ f.seen && f.limit.all (f.seen - f.skip < ·)

def count (f : Fault) (access : Access) : Fault :=
  if f.covers access then { f with seen := f.seen + 1 } else f

theorem covers_count (f : Fault) (access a : Access) :
    (f.count access).covers a = f.covers a := by
  unfold count
  split <;> rfl

end Fault

end BuckRegulator.Board
