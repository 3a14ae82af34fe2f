import BuckRegulator.Proofs.Ramp.Codec

/-!
The codec on a machine that does not go on after an arithmetic mishap. Every sum,
difference and product has to be a word, every divisor other than zero, and a number that
is cut to a byte a byte; otherwise there is no result. The formulas are those of the codec,
with their operands taken in the same order; in particular the range check subtracts only
once the voltage is known not to be below the ramp. A checked formula has a result exactly
where its value in whole numbers is representable, and the result is then that value.
-/

namespace BuckRegulator.Ramp

namespace Checked

def word (n : Int) : Option UInt32 :=
  if 0 ≤ n ∧ n < 0x100000000 then some (UInt32.ofNat n.toNat) else none

def add (a b : UInt32) : Option UInt32 :=
  word (a.toNat + b.toNat)

def sub (a b : UInt32) : Option UInt32 :=
  word (a.toNat - b.toNat)

def mul (a b : UInt32) : Option UInt32 :=
  word (a.toNat * b.toNat)

def div (a b : UInt32) : Option UInt32 :=
  if b = 0 then none else some (a / b)

def signed (n : Int) : Option Int :=
  if -0x8000000000000000 ≤ n ∧ n < 0x8000000000000000 then some n else none

def quotient (a b : Int) : Option Int :=
  if b = 0 then none else signed (a.tdiv b)

/-- The byte that keeps all of a number. -/
def byte (n : Int) : Option UInt8 :=
  if 0 ≤ n ∧ n < 256 then some (UInt8.ofInt n) else none

theorem word_eq_some_iff {n : Int} {c : UInt32} : word n = some c ↔ (c.toNat : Int) = n := by
  have hword := c.toNat_lt
  rw [word, Option.ite_none_right_eq_some, Option.some.injEq]
  constructor
  · rintro ⟨⟨hpos, hlt⟩, rfl⟩
    rw [UInt32.toNat_ofNat']
    omega
  · rintro rfl
    refine ⟨⟨by omega, by omega⟩, ?_⟩
    rw [Int.toNat_natCast, UInt32.ofNat_toNat]

theorem exists_word {n : Int} (hpos : 0 ≤ n) (hlt : n < 0x100000000) :
    ∃ c, word n = some c :=
  ⟨_, if_pos ⟨hpos, hlt⟩⟩

theorem byte_eq_some_iff {n : Int} {c : UInt8} : byte n = some c ↔ (c.toNat : Int) = n := by
  have hbyte := c.toNat_lt
  rw [byte, Option.ite_none_right_eq_some, Option.some.injEq]
  constructor
  · rintro ⟨⟨hpos, hlt⟩, rfl⟩
    rw [toNat_ofInt]
    exact Int.emod_eq_of_lt hpos hlt
  · rintro rfl
    refine ⟨⟨by omega, by omega⟩, ?_⟩
    rw [ofInt_natCast, UInt8.ofNat_toNat]

end Checked

namespace Profile

open Checked (add sub mul div signed quotient byte)

def toVoltageChecked (p : Profile) (raw : UInt8) : Option UInt32 := do
  let height ← mul (raw &&& Register.selectorReadMask).toUInt32 p.stepUv
  add p.minUv height

def containsChecked (p : Profile) (uv : UInt32) : Option Bool :=
  if p.minUv ≤ uv then do
    let height ← sub uv p.minUv
    let steps ← div height p.stepUv
    return steps < codeCount.toUInt32
  else some false

def toCodeChecked (p : Profile) (uv : UInt32) : Option UInt8 := do
  let height ← signed (uv.toNat - p.minUv.toNat)
  let steps ← quotient height p.stepUv.toNat
  byte steps

theorem toVoltageChecked_eq_some_iff {p : Profile} {raw : UInt8} {uv : UInt32} :
    p.toVoltageChecked raw = some uv ↔
      uv.toNat = p.minUv.toNat + (raw &&& Register.selectorReadMask).toNat * p.stepUv.toNat := by
  rw [toVoltageChecked, ← UInt8.toNat_toUInt32]
  have hword := uv.toNat_lt
  constructor
  · intro h
    obtain ⟨height, hproduct, hsum⟩ := Option.bind_eq_some_iff.mp h
    rw [mul, Checked.word_eq_some_iff] at hproduct
    rw [add, Checked.word_eq_some_iff, hproduct] at hsum
    exact_mod_cast hsum
  · intro h
    have hpos : 0 ≤ ((raw &&& Register.selectorReadMask).toUInt32.toNat : Int) * p.stepUv.toNat :=
      Int.mul_nonneg (Int.natCast_nonneg _) (Int.natCast_nonneg _)
    obtain ⟨height, hheight⟩ := Checked.exists_word hpos (by omega)
    have hproduct := Checked.word_eq_some_iff.mp hheight
    refine Option.bind_eq_some_iff.mpr ⟨height, hheight, ?_⟩
    rw [add, Checked.word_eq_some_iff, hproduct]
    exact_mod_cast h

/-- The only mishap that the range check can have is a ramp without steps. -/
theorem containsChecked_eq_some_iff {p : Profile} {uv : UInt32} {inside : Bool} :
    p.containsChecked uv = some inside ↔
      (p.minUv ≤ uv → p.stepUv ≠ 0) ∧ inside = p.contains uv := by
  by_cases hmin : p.minUv ≤ uv
  · have hheight : sub uv p.minUv = some (uv - p.minUv) := by
      rw [sub, Checked.word_eq_some_iff, UInt32.toNat_sub_of_le _ _ hmin]
      exact Int.ofNat_sub (UInt32.le_iff_toNat_le.mp hmin)
    by_cases hstep : p.stepUv = 0
    · simp [containsChecked, hheight, div, hmin, hstep]
    · simp [containsChecked, contains, hheight, div, hmin, hstep, eq_comm]
  · simp [containsChecked, contains, hmin, eq_comm]

/-- Words are far too small for the signed arithmetic to go wrong; what counts is that
there are steps and that the number of them is a byte. -/
theorem toCodeChecked_eq_some_iff {p : Profile} {uv : UInt32} {code : UInt8} :
    p.toCodeChecked uv = some code ↔ p.stepUv.toNat ≠ 0 ∧
      (code.toNat : Int) = ((uv.toNat : Int) - p.minUv.toNat).tdiv p.stepUv.toNat := by
  have huv := uv.toNat_lt
  have hmin := p.minUv.toNat_lt
  have hheight : signed ((uv.toNat : Int) - p.minUv.toNat) =
      some ((uv.toNat : Int) - p.minUv.toNat) := if_pos (by omega)
  have hsteps := Int.natAbs_tdiv_le_natAbs ((uv.toNat : Int) - p.minUv.toNat) p.stepUv.toNat
  rw [toCodeChecked, hheight]
  by_cases hstep : p.stepUv.toNat = 0
  · simp [quotient, hstep]
  · have hquotient : quotient ((uv.toNat : Int) - p.minUv.toNat) p.stepUv.toNat =
        some (((uv.toNat : Int) - p.minUv.toNat).tdiv p.stepUv.toNat) := by
      rw [quotient, if_neg (by omega)]
      exact if_pos (by omega)
    rw [Option.bind_eq_bind, Option.bind_some, hquotient, Option.bind_some,
      Checked.byte_eq_some_iff]
    exact (and_iff_right hstep).symm

/-- A ramp that ends beyond the words, one without steps, and a voltage below a ramp. -/
example : (⟨.fairchild, ⟨0x0, 0x3⟩, true, 600000, 0x8000000⟩ : Profile).toVoltageChecked 63 = none ∧
    (⟨.fairchild, ⟨0x0, 0x3⟩, true, 600000, 0⟩ : Profile).containsChecked 600000 = none ∧
    (⟨.fairchild, ⟨0x0, 0x3⟩, true, 600000, 10000⟩ : Profile).toCodeChecked 590000 = none := by
  decide

/-- On a ramp that fits, every byte is decoded without a mishap. -/
theorem toVoltageChecked_of_fits {p : Profile} (h : p.Fits) (raw : UInt8) :
    p.toVoltageChecked raw = some (p.toVoltage raw) :=
  toVoltageChecked_eq_some_iff.mpr (toNat_toVoltage h raw)

theorem containsChecked_of_fits {p : Profile} (h : p.Fits) (uv : UInt32) :
    p.containsChecked uv = some (p.contains uv) :=
  containsChecked_eq_some_iff.mpr ⟨fun _ => h.step_ne_zero, rfl⟩

/-- A voltage that passes the range check is encoded without a mishap. -/
theorem toCodeChecked_of_contains {p : Profile} (h : p.Fits) {uv : UInt32}
    (hinside : p.contains uv = true) : p.toCodeChecked uv = some (p.toCode uv) := by
  have hmin := ((p.contains_iff uv).mp hinside).1
  rw [toCodeChecked_eq_some_iff, tdiv_eq_wholeSteps hmin, toNat_toCode_of_contains hinside]
  exact ⟨h.1.ne', rfl⟩

end Profile

end BuckRegulator.Ramp
