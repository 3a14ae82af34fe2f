/-!
Register offsets and fields of the regulator itself. All registers are one
byte wide. Decoding a selector looks at six bits while an update replaces
seven, so a stray bit 6 is ignored on reading and cleared by the next update.
-/

namespace BuckRegulator.Register

def vsel0 : UInt8 := 0x00

def vsel1 : UInt8 := 0x01

/-- Mode, slew rate and output discharge. -/
def control : UInt8 := 0x02

/-- Vendor bits, and the die id in the low nibble. -/
def id1 : UInt8 := 0x03

/-- The die revision in the low nibble. -/
def id2 : UInt8 := 0x04

/-- Power good and fault status. -/
def monitor : UInt8 := 0x05

def dieIdMask : UInt8 := 0x0F

def dieRevMask : UInt8 := 0x0F

def selectorReadMask : UInt8 := 0x3F

/-- The bits of a voltage setting that an update replaces. Bit 7 enables the
output and keeps its value. -/
def selectorWriteMask : UInt8 := 0x7F

/-- The address at which a regulator answers unless strapped otherwise. -/
def defaultAddress : UInt8 := 0x40

end BuckRegulator.Register
