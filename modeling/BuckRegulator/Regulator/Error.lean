import BuckRegulator.Ramp.Profile

namespace BuckRegulator.Regulator

inductive Error (ε : Type) where
  | bus (failure : ε)
  | unsupportedVariant (die : Ramp.Die)
  | invalidConfiguration
  | invalidVoltage
  | notProbed
  deriving DecidableEq, Repr

def Error.message {ε : Type} (describe : ε → String) : Error ε → String
  | .bus failure => "I2C error: " ++ describe failure
  | .unsupportedVariant die =>
      "die id " ++ toString die.id.toNat ++ " rev " ++ toString die.rev.toNat ++
        " not supported"
  | .invalidConfiguration => "invalid suspend voltage selector"
  | .invalidVoltage => "voltage outside regulator ramp"
  | .notProbed => "regulator not probed"

end BuckRegulator.Regulator
