namespace BuckRegulator.Trim

inductive Site where
  | primary
  | secondary
  deriving DecidableEq, Repr

namespace Site

def address : Site → UInt8
  | .primary => 0x40
  | .secondary => 0x41

/-- The status bytes by which a chip at this site is known. -/
def identifiers : Site → List UInt8
  | .primary => [0x00, 0x04]
  | .secondary => [0x44, 0x40]

/-- The status to write when this site is calibrated on its own. -/
def soloStatus : Site → UInt8
  | .primary => 0x04
  | .secondary => 0x44

/-- The status to write for this site when both are calibrated together. -/
def pairStatus : Site → UInt8
  | .primary => 0x84
  | .secondary => 0x44

end Site

/-- The address that ends the calibration of a pair. -/
def commitAddress : UInt8 := 0x42

def commitStatus : UInt8 := 0x04

def unlockRegister : UInt8 := 0x0A

def unlockKey : UInt8 := 0x5A

/-- The trim registers, in the order in which they are saved and restored. -/
def trimRegisters : List UInt8 := [0x0B, 0x0C, 0x0D]

def statusRegister : UInt8 := 0x0E

def calibratedBit : UInt8 := 0x04

end BuckRegulator.Trim
