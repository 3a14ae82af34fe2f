import BuckRegulator.Selector

namespace BuckRegulator.Regulator

structure Config where
  address : UInt8 := Register.defaultAddress
  /-- The number of the selector that holds the suspend voltage. -/
  suspendSelector : UInt32 := Selector.vsel1.register.toUInt32
  /-- Whether trim chips are calibrated, on the vendors that need it. -/
  calibrate : Bool := true
  deriving DecidableEq, Repr

/-- The roles that the suspend selector implies, none if it names no selector. -/
def Config.roles? (config : Config) : Option Roles :=
  (Selector.ofRaw? config.suspendSelector).map Roles.ofSleep

end BuckRegulator.Regulator
