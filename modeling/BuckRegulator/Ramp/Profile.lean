import BuckRegulator.Vendor
import BuckRegulator.Register

/-!
The linear voltage ramp of one chip option and the codec between microvolts
and selector codes. Arithmetic is the machine's: microvolts are 32-bit words
and codes are bytes. Encoding is not range checked. It truncates toward zero,
also below the ramp, and keeps the low eight bits of the quotient; `contains`
says when the code is meaningful.
-/

namespace BuckRegulator.Ramp

/-- The two identification nibbles of a chip, as a query may name them. -/
structure Die where
  id : UInt8
  rev : UInt8
  deriving DecidableEq, Repr

/-- The nibbles sit in the low halves of the two identification registers. -/
def Die.ofRegisters (id1 id2 : UInt8) : Die :=
  ⟨id1 &&& Register.dieIdMask, id2 &&& Register.dieRevMask⟩

structure Profile where
  vendor : Vendor
  die : Die
  /-- Whether the revision takes part in matching. -/
  checkRev : Bool
  /-- Voltage at code 0, in microvolts. -/
  minUv : UInt32
  /-- Voltage increment per code, in microvolts. -/
  stepUv : UInt32
  deriving DecidableEq, Repr

def codeCount : UInt8 := 64

namespace Profile

/-- An entry that does not check the revision stands for all of them. -/
def covers (p : Profile) (vendor : Vendor) (die : Die) : Bool :=
  p.vendor = vendor && p.die.id = die.id && (!p.checkRev || p.die.rev = die.rev)

/-- The voltage that a raw voltage setting selects. Bits 6 and 7 are flags
and play no part. -/
def toVoltage (p : Profile) (raw : UInt8) : UInt32 :=
  p.minUv + (raw &&& Register.selectorReadMask).toUInt32 * p.stepUv

/-- The number of whole steps from the bottom of the ramp, rounded toward
zero on both sides of it and cut to a byte. -/
def toCode (p : Profile) (uv : UInt32) : UInt8 :=
  UInt8.ofInt (((uv.toNat : Int) - p.minUv.toNat).tdiv p.stepUv.toNat)

/-- Whether `uv` encodes to a code of the ramp. -/
def contains (p : Profile) (uv : UInt32) : Bool :=
  p.minUv ≤ uv && (uv - p.minUv) / p.stepUv < codeCount.toUInt32

def listVoltage? (p : Profile) (code : UInt8) : Option UInt32 :=
  if code < codeCount then some (p.toVoltage code) else none

def maxUv (p : Profile) : UInt32 :=
  p.toVoltage (codeCount - 1)

theorem covers_iff (p : Profile) (vendor : Vendor) (die : Die) :
    p.covers vendor die = true ↔
      p.vendor = vendor ∧ p.die.id = die.id ∧
        (p.checkRev = true → p.die.rev = die.rev) := by
  cases h : p.checkRev <;> simp [covers, h, and_assoc]

theorem covers_self (p : Profile) : p.covers p.vendor p.die = true :=
  (p.covers_iff p.vendor p.die).mpr ⟨rfl, rfl, fun _ => rfl⟩

theorem toVoltage_masked (p : Profile) (raw : UInt8) :
    p.toVoltage (raw &&& Register.selectorReadMask) = p.toVoltage raw := by
  simp [toVoltage, UInt8.and_assoc]

end Profile

end BuckRegulator.Ramp
