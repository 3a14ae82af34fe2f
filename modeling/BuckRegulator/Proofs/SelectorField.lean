import BuckRegulator.Bus.Procedure
import BuckRegulator.Register

namespace BuckRegulator.Register

theorem or_and_byte (x y z : UInt8) : (x ||| y) &&& z = (x &&& z) ||| (y &&& z) := by
  apply UInt8.toBitVec_inj.mp
  simp only [UInt8.toBitVec_and, UInt8.toBitVec_or, BitVec.and_or_distrib_right]

theorem code_ofNat_lt {n : Nat} (h : n < 64) : UInt8.ofNat n < 64 := by
  rw [UInt8.lt_iff_toNat_lt, UInt8.toNat_ofNat']
  change n % 2 ^ 8 < 64
  omega

/-- The bits that are decoded make a code of the ramp, whatever the byte. -/
theorem and_readMask_lt (raw : UInt8) : raw &&& selectorReadMask < 64 := by
  rw [UInt8.lt_iff_toNat_lt, UInt8.toNat_and]
  exact Nat.lt_succ_of_le Nat.and_le_right

/-- A code of the ramp lies within the bits that are decoded. -/
theorem code_and_readMask {code : UInt8} (h : code < 64) :
    code &&& selectorReadMask = code := by
  have hlt : code.toNat < 2 ^ 6 := UInt8.lt_iff_toNat_lt.mp h
  apply UInt8.toNat.inj
  rw [UInt8.toNat_and]
  change code.toNat &&& 2 ^ 6 - 1 = code.toNat
  rw [Nat.and_two_pow_sub_one_eq_mod, Nat.mod_eq_of_lt hlt]

theorem code_and_writeMask {code : UInt8} (h : code < 64) :
    code &&& selectorWriteMask = code := by
  rw [← code_and_readMask h, UInt8.and_assoc]
  rfl

/-- A code of the ramp has no bit that is not decoded. -/
theorem code_and_flag {code flag : UInt8} (h : code < 64) (hflag : selectorReadMask &&& flag = 0) :
    code &&& flag = 0 := by
  rw [← code_and_readMask h, UInt8.and_assoc, hflag]
  exact UInt8.and_zero

/-- What an update with a code of the ramp makes of a voltage setting. -/
theorem splice_code (old : UInt8) {code : UInt8} (h : code < 64) :
    Bus.splice selectorWriteMask old code = (old &&& 0x80) ||| code := by
  rw [Bus.splice, code_and_writeMask h]
  rfl

theorem enable_of_update (old : UInt8) {code : UInt8} (h : code < 64) :
    ((old &&& 0x80) ||| code) &&& 0x80 = old &&& 0x80 := by
  rw [or_and_byte, code_and_flag h rfl, UInt8.or_zero, UInt8.and_assoc, UInt8.and_self]

/-- An update clears the stray bit 6. -/
theorem bit6_of_update (old : UInt8) {code : UInt8} (h : code < 64) :
    ((old &&& 0x80) ||| code) &&& 0x40 = 0 := by
  rw [or_and_byte, code_and_flag h rfl, UInt8.or_zero, UInt8.and_assoc]
  exact UInt8.and_zero

theorem code_of_update (old : UInt8) {code : UInt8} (h : code < 64) :
    ((old &&& 0x80) ||| code) &&& selectorReadMask = code := by
  rw [or_and_byte, code_and_readMask h, UInt8.and_assoc]
  change (old &&& 0) ||| code = code
  rw [UInt8.and_zero, UInt8.zero_or]

end BuckRegulator.Register
