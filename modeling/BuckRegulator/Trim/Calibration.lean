import BuckRegulator.Bus.Transport
import BuckRegulator.Trim.Plan

/-!
The calibration of the trim chips of a board. It detects both sites, saves the
trim bytes of the sites it is going to write, and issues the planned writes. A
byte that cannot be saved stops it before the first write. From then on the
sequence runs to its end and failures are only counted.
-/

namespace BuckRegulator.Trim

open Bus (Procedure)

variable {ε : Type}

structure Report where
  primary : Detection
  secondary : Detection
  population : Population
  outcome : Outcome
  /-- How many writes failed. -/
  busFaults : UInt8
  deriving DecidableEq, Repr

def detect (site : Site) : Procedure ε Detection := do
  return Detection.ofAnswer site (← Bus.read site.address statusRegister)

/-- Reads registers in order; none if one of them fails, and the registers
after it are left alone. -/
def readEach (address : UInt8) : List UInt8 → Procedure ε (Option Snapshot)
  | [] => return some []
  | register :: rest => do
      match ← Bus.read address register with
      | .error _ => return none
      | .ok value => return (← readEach address rest).map ((register, value) :: ·)

def save (site : Site) : Procedure ε (Option Snapshot) :=
  readEach site.address trimRegisters

/-- A count of failures with the next answer taken in; it stays at the largest
byte once there. -/
def tally (faults : UInt8) : Except ε Unit → UInt8
  | .ok _ => faults
  | .error _ => if faults = 255 then faults else faults + 1

/-- Issues writes in order, whatever they answer, and counts on from `faults`
the ones that fail. -/
def issue (faults : UInt8) : List Write → Procedure ε UInt8
  | [] => return faults
  | w :: rest => do
      issue (tally faults (← Bus.write w.address w.register w.value)) rest

/-- Reads registers in order for an observer of the bus; the answers are not
used. -/
def inspect (address : UInt8) : List UInt8 → Procedure ε Unit
  | [] => return ()
  | register :: rest => do
      let _ ← Bus.read address register
      inspect address rest

/-- The registers that a lone site is asked for once it is written. -/
def inspectedRegisters : List UInt8 :=
  unlockRegister :: trimRegisters ++ [statusRegister]

/-- Carries out a plan. The result is how it ended and how many writes failed. -/
def Plan.perform : Plan → Procedure ε (Outcome × UInt8)
  | .rest outcome => return (outcome, 0)
  | .solo site => do
      match ← save site with
      | none => return (.aborted, 0)
      | some saved =>
          let faults ← issue 0 (soloWrites site saved)
          inspect site.address inspectedRegisters
          return (.calibrated, faults)
  | .pair => do
      let primary ← save .primary
      let secondary ← save .secondary
      match primary, secondary with
      | some primary, some secondary =>
          return (.calibrated, ← issue 0 (pairWrites primary secondary))
      | _, _ => return (.aborted, 0)

/-- Looks at both sites and carries out what follows from them. -/
def calibrate : Procedure ε Report := do
  let primary ← detect .primary
  let secondary ← detect .secondary
  let (outcome, busFaults) ← (Plan.ofDetections primary secondary).perform
  return {
    primary, secondary, outcome, busFaults
    population := Population.classify primary secondary }

/-- What is saved lists the registers asked for, in their order. -/
theorem registers_of_readEach {σ : Type} (t : Bus.Transport ε σ) (address : UInt8)
    (registers : List UInt8) (bus : σ) (saved : Snapshot)
    (h : ((readEach address registers).run t bus).result = some saved) :
    saved.map (·.1) = registers := by
  induction registers generalizing bus saved with
  | nil =>
      cases h
      rfl
  | cons register rest ih =>
      simp only [readEach, Procedure.run_bind, Bus.run_read] at h
      cases got : (t.read address register bus).1 with
      | error e => simp [got] at h
      | ok value =>
          simp only [got, Procedure.run_bind, Procedure.run_pure,
            Option.map_eq_some_iff] at h
          obtain ⟨others, found, rfl⟩ := h
          simp [ih _ _ found]

end BuckRegulator.Trim
