import BuckRegulator.Ramp.Catalog
import BuckRegulator.Regulator.Config
import BuckRegulator.Regulator.Error
import BuckRegulator.Trim.Calibration

/-!
A regulator as its controller knows it: a fixed configuration, the chip that the
first successful probe found, and the report of the calibration that followed if
there was one. The two are learnt one after the other and checked apart. That they
belong together is true of the states a regulator comes to, and not by construction.
-/

namespace BuckRegulator

open Bus (Procedure)
open Regulator (Config Error)

namespace Regulator

inductive Kind where
  | buck
  deriving DecidableEq, Repr

/-- What the identification registers said and the ramp that follows. -/
structure Chip where
  vendor : Vendor
  die : Ramp.Die
  profile : Ramp.Profile
  deriving DecidableEq, Repr

end Regulator

structure Regulator where
  vendor : Vendor
  address : UInt8
  roles : Roles
  calibrate : Bool
  /-- None until a probe identifies the chip. -/
  chip? : Option Regulator.Chip := none
  /-- None until a probe calibrates. -/
  report? : Option Trim.Report := none
  deriving DecidableEq, Repr

namespace Regulator

variable {ε : Type}

def kind : Kind := .buck

/-- A regulator that was not probed yet. -/
def new (vendor : Vendor) (config : Config) : Except (Error ε) Regulator :=
  match config.roles? with
  | none => .error .invalidConfiguration
  | some roles =>
      .ok { vendor, roles, address := config.address, calibrate := config.calibrate }

/-- The trim chips that a calibration found; it counts as none if there was no
calibration. -/
def population (r : Regulator) : Trim.Population :=
  (r.report?.map (·.population)).getD .neither

/-- Whether vendor and configuration call for calibration. -/
def calibrationDue (r : Regulator) : Bool :=
  r.calibrate && r.vendor.needsTrim

/-- Reads the two identification registers and looks the chip up. -/
def identify (r : Regulator) : Procedure ε (Except (Error ε) Chip) := do
  match ← Bus.read r.address Register.id1 with
  | .error e => return .error (.bus e)
  | .ok id1 =>
    match ← Bus.read r.address Register.id2 with
    | .error e => return .error (.bus e)
    | .ok id2 =>
      let die := Ramp.Die.ofRegisters id1 id2
      match Ramp.resolve r.vendor die with
      | .error unsupported => return .error (.unsupportedVariant unsupported.die)
      | .ok profile => return .ok ⟨r.vendor, die, profile⟩

def identifiedAs (r : Regulator) (chip : Chip) : Regulator :=
  { r with chip? := some chip }

@[simp] theorem calibrationDue_identifiedAs (r : Regulator) (chip : Chip) :
    (r.identifiedAs chip).calibrationDue = r.calibrationDue := rfl

@[simp] theorem report?_identifiedAs (r : Regulator) (chip : Chip) :
    (r.identifiedAs chip).report? = r.report? := rfl

/-- Calibrates if that is due and there is no report yet, and keeps the report. -/
def calibrateIfDue (r : Regulator) : Procedure ε Regulator :=
  if r.calibrationDue && r.report?.isNone then do
    let report ← Trim.calibrate
    return { r with report? := some report }
  else return r

/-- Identifies the chip, and then calibrates the board's trim chips if they are due.
How calibration goes has no bearing on the result. -/
def probe (r : Regulator) : Procedure ε (Except (Error ε) Ramp.Profile × Regulator) :=
  match r.chip? with
  | some chip => return (.ok chip.profile, r)
  | none => do
      match ← r.identify with
      | .error e => return (.error e, r)
      | .ok chip =>
          let r ← (r.identifiedAs chip).calibrateIfDue
          return (.ok chip.profile, r)

/-- Once the chip is known, a probe causes no transaction and changes nothing. -/
theorem probe_of_identified {r : Regulator} {chip : Chip} (h : r.chip? = some chip) :
    r.probe (ε := ε) = pure (.ok chip.profile, r) := by
  simp [probe, h]

/-- The voltage that the active selector holds, in microvolts. -/
def getVoltage (r : Regulator) : Procedure ε (Except (Error ε) UInt32) :=
  match r.chip? with
  | none => return .error .notProbed
  | some chip => do
      match ← Bus.read r.address r.roles.active.register with
      | .error e => return .error (.bus e)
      | .ok raw => return .ok (chip.profile.toVoltage raw)

/-- Selects the highest voltage of the ramp that is not above `uv`. Only the
selector field of the active setting is replaced. -/
def setVoltage (r : Regulator) (uv : UInt32) : Procedure ε (Except (Error ε) Unit) :=
  match r.chip? with
  | none => return .error .notProbed
  | some chip =>
      if chip.profile.contains uv then do
        return (← Bus.updateBits r.address r.roles.active.register
          Register.selectorWriteMask (chip.profile.toCode uv)).mapError .bus
      else return .error .invalidVoltage

inductive Call where
  | probe
  | getVoltage
  | setVoltage (uv : UInt32)
  deriving DecidableEq, Repr

inductive Reply where
  | profile (profile : Ramp.Profile)
  | voltage (uv : UInt32)
  | done
  deriving DecidableEq, Repr

def serve (r : Regulator) : Call → Procedure ε (Except (Error ε) Reply × Regulator)
  | .probe => do
      let (result, r) ← r.probe
      return (result.map .profile, r)
  | .getVoltage => do
      return ((← r.getVoltage).map .voltage, r)
  | .setVoltage uv => do
      return ((← r.setVoltage uv).map fun _ => .done, r)

end Regulator

end BuckRegulator
