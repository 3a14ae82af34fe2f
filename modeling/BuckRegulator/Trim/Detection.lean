import BuckRegulator.Trim.Site

namespace BuckRegulator.Trim

inductive Detection where
  | absent
  | foreign (status : UInt8)
  | present (calibrated : Bool)
  deriving DecidableEq, Repr

namespace Detection

def ofStatus (site : Site) (status : UInt8) : Detection :=
  if status ∈ site.identifiers then .present (status &&& calibratedBit != 0)
  else .foreign status

def ofAnswer {ε : Type} (site : Site) : Except ε UInt8 → Detection
  | .ok status => ofStatus site status
  | .error _ => .absent

def isPresent : Detection → Bool
  | .present _ => true
  | .absent | .foreign _ => false

def isCalibrated : Detection → Bool
  | .present calibrated => calibrated
  | .absent | .foreign _ => false

def isForeign : Detection → Bool
  | .foreign _ => true
  | .absent | .present _ => false

end Detection

inductive Population where
  | neither
  | primaryOnly
  | secondaryOnly
  | both
  deriving DecidableEq, Repr

/-- The population depends on presence alone, not on calibration. -/
def Population.classify (primary secondary : Detection) : Population :=
  match primary.isPresent, secondary.isPresent with
  | false, false => .neither
  | true, false => .primaryOnly
  | false, true => .secondaryOnly
  | true, true => .both

end BuckRegulator.Trim
