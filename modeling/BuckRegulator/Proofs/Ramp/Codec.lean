import BuckRegulator.Proofs.SelectorField
import BuckRegulator.Ramp.Catalog
import Mathlib.Order.Bounds.Basic

/-!
The codec in whole numbers. Inside a ramp the machine arithmetic of the encoder
is exact: the code is the number of whole steps above the bottom, and it is
below 64. Every ramp of the catalog also fits its machine words, so decoding is
exact for every byte, and decoding an encoded voltage gives the highest voltage
of the ramp that is not above it.
-/

namespace BuckRegulator.Ramp

theorem ofInt_natCast (n : Nat) : UInt8.ofInt n = UInt8.ofNat n := by
  have hbyte : ((n : Int) % 2 ^ 8).toNat = n % 2 ^ 8 := by
    omega
  rw [UInt8.ofInt, hbyte]
  exact UInt8.ofNat_mod_size

theorem toNat_ofInt (x : Int) : ((UInt8.ofInt x).toNat : Int) = x % 256 := by
  rw [UInt8.ofInt, UInt8.toNat_ofNat']
  omega

namespace Profile

/-- How many whole steps a voltage lies above the bottom of the ramp. -/
def wholeSteps (p : Profile) (uv : UInt32) : Nat :=
  (uv.toNat - p.minUv.toNat) / p.stepUv.toNat

theorem contains_iff (p : Profile) (uv : UInt32) :
    p.contains uv = true ↔ p.minUv.toNat ≤ uv.toNat ∧ p.wholeSteps uv < 64 := by
  simp only [contains, Bool.and_eq_true, decide_eq_true_eq]
  constructor
  · rintro ⟨hmin, hcode⟩
    rw [UInt32.lt_iff_toNat_lt, UInt32.toNat_div, UInt32.toNat_sub_of_le _ _ hmin] at hcode
    exact ⟨UInt32.le_iff_toNat_le.mp hmin, hcode⟩
  · rintro ⟨hmin, hcode⟩
    have hle : p.minUv ≤ uv := UInt32.le_iff_toNat_le.mpr hmin
    refine ⟨hle, ?_⟩
    rw [UInt32.lt_iff_toNat_lt, UInt32.toNat_div, UInt32.toNat_sub_of_le _ _ hle]
    exact hcode

/-- The voltage is not below the bottom of the ramp, and not past the end of the
last of its 64 steps. -/
def Spans (p : Profile) (uv : UInt32) : Prop :=
  p.minUv.toNat ≤ uv.toNat ∧ uv.toNat < p.minUv.toNat + 64 * p.stepUv.toNat

theorem contains_iff_spans {p : Profile} (h : 0 < p.stepUv.toNat) (uv : UInt32) :
    p.contains uv = true ↔ p.Spans uv := by
  rw [contains_iff, wholeSteps, Nat.div_lt_iff_lt_mul h, Spans]
  omega

theorem tdiv_eq_wholeSteps {p : Profile} {uv : UInt32} (h : p.minUv.toNat ≤ uv.toNat) :
    ((uv.toNat : Int) - p.minUv.toNat).tdiv p.stepUv.toNat = p.wholeSteps uv := by
  have hdiff : (uv.toNat : Int) - p.minUv.toNat = ((uv.toNat - p.minUv.toNat : Nat) : Int) := by
    omega
  rw [hdiff, ← Int.ofNat_tdiv]
  rfl

/-- From the bottom of the ramp upward the encoder counts whole steps, and keeps the
low byte of the count. -/
theorem toCode_of_le {p : Profile} {uv : UInt32} (h : p.minUv.toNat ≤ uv.toNat) :
    p.toCode uv = UInt8.ofNat (p.wholeSteps uv) := by
  rw [toCode, tdiv_eq_wholeSteps h, ofInt_natCast]

theorem toCode_of_contains {p : Profile} {uv : UInt32} (h : p.contains uv = true) :
    p.toCode uv = UInt8.ofNat (p.wholeSteps uv) :=
  toCode_of_le ((p.contains_iff uv).mp h).1

/-- Inside the ramp the count is below 64, so nothing is cut off. -/
theorem toNat_toCode_of_contains {p : Profile} {uv : UInt32} (h : p.contains uv = true) :
    (p.toCode uv).toNat = p.wholeSteps uv := by
  have hcode := ((p.contains_iff uv).mp h).2
  rw [toCode_of_contains h, UInt8.toNat_ofNat']
  omega

theorem toCode_lt_of_contains {p : Profile} {uv : UInt32} (h : p.contains uv = true) :
    p.toCode uv < 64 := by
  have hcode := ((p.contains_iff uv).mp h).2
  rw [toCode_of_contains h]
  exact Register.code_ofNat_lt hcode

/-- The step is positive and the ramp, its last step included, fits in a word. -/
def Fits (p : Profile) : Prop :=
  0 < p.stepUv.toNat ∧ p.minUv.toNat + 64 * p.stepUv.toNat ≤ UInt32.size

instance (p : Profile) : Decidable p.Fits :=
  inferInstanceAs (Decidable (_ ∧ _))

theorem Fits.step_ne_zero {p : Profile} (h : p.Fits) : p.stepUv ≠ 0 := by
  intro hzero
  have hpos := h.1
  rw [hzero] at hpos
  exact Nat.lt_irrefl _ hpos

/-- Decoding is exact wherever its result is a word. -/
theorem toNat_toVoltage_of_lt {p : Profile} {raw : UInt8}
    (h : p.minUv.toNat + (raw &&& Register.selectorReadMask).toNat * p.stepUv.toNat <
      UInt32.size) :
    (p.toVoltage raw).toNat =
      p.minUv.toNat + (raw &&& Register.selectorReadMask).toNat * p.stepUv.toNat := by
  have hproduct : (raw &&& Register.selectorReadMask).toNat * p.stepUv.toNat < UInt32.size := by
    omega
  rw [toVoltage, UInt32.toNat_add, UInt32.toNat_mul, UInt8.toNat_toUInt32,
    Nat.mod_eq_of_lt hproduct, Nat.mod_eq_of_lt h]

/-- Decoding overflows nowhere on a ramp that fits. -/
theorem toNat_toVoltage {p : Profile} (h : p.Fits) (raw : UInt8) :
    (p.toVoltage raw).toNat =
      p.minUv.toNat + (raw &&& Register.selectorReadMask).toNat * p.stepUv.toNat := by
  have hraw : (raw &&& Register.selectorReadMask).toNat < 64 :=
    UInt8.lt_iff_toNat_lt.mp (Register.and_readMask_lt raw)
  have htop : (raw &&& Register.selectorReadMask).toNat * p.stepUv.toNat ≤
      63 * p.stepUv.toNat := Nat.mul_le_mul_right _ (Nat.le_of_lt_succ hraw)
  obtain ⟨hstep, hfits⟩ := h
  apply toNat_toVoltage_of_lt
  omega

theorem toNat_toVoltage_code {p : Profile} (h : p.Fits) {code : UInt8} (hcode : code < 64) :
    (p.toVoltage code).toNat = p.minUv.toNat + code.toNat * p.stepUv.toNat := by
  rw [toNat_toVoltage h, Register.code_and_readMask hcode]

/-- Encoding and decoding are adjoint: a code is at most that of a voltage exactly if
its own voltage is at most that voltage. -/
theorem le_toCode_iff {p : Profile} (hfits : p.Fits) {uv : UInt32}
    (h : p.contains uv = true) {code : UInt8} (hcode : code < 64) :
    code ≤ p.toCode uv ↔ p.toVoltage code ≤ uv := by
  have hmin := ((p.contains_iff uv).mp h).1
  rw [UInt8.le_iff_toNat_le, toNat_toCode_of_contains h, wholeSteps,
    Nat.le_div_iff_mul_le hfits.1, UInt32.le_iff_toNat_le, toNat_toVoltage_code hfits hcode]
  omega

def IsVoltage (p : Profile) (uv : UInt32) : Prop :=
  ∃ code, p.listVoltage? code = some uv

theorem isVoltage_iff (p : Profile) (uv : UInt32) :
    p.IsVoltage uv ↔ ∃ code < 64, p.toVoltage code = uv := by
  simp only [IsVoltage, listVoltage?, Option.ite_none_right_eq_some, Option.some.injEq]
  rfl

/-- A voltage of the ramp is encoded as the highest one that is not above it. -/
theorem isGreatest_toVoltage {p : Profile} (hfits : p.Fits) {uv : UInt32}
    (h : p.contains uv = true) :
    IsGreatest {v | p.IsVoltage v ∧ v ≤ uv} (p.toVoltage (p.toCode uv)) := by
  have hlt := toCode_lt_of_contains h
  constructor
  · refine ⟨(p.isVoltage_iff _).mpr ⟨p.toCode uv, hlt, rfl⟩, ?_⟩
    exact (le_toCode_iff hfits h hlt).mp (UInt8.le_refl _)
  · rintro v ⟨listed, hv⟩
    obtain ⟨code, hc, rfl⟩ := (p.isVoltage_iff v).mp listed
    have hle : code.toNat ≤ (p.toCode uv).toNat :=
      UInt8.le_iff_toNat_le.mp ((le_toCode_iff hfits h hc).mpr hv)
    have hmul := Nat.mul_le_mul_right p.stepUv.toNat hle
    rw [UInt32.le_iff_toNat_le, toNat_toVoltage_code hfits hc, toNat_toVoltage_code hfits hlt]
    omega

end Profile

theorem catalog_fits : ∀ p ∈ catalog, p.Fits := by
  decide

/-- Every profile that a lookup yields is an entry of the table. -/
theorem mem_of_resolveIn {table : List Profile} {vendor : Vendor} {die : Die} {p : Profile}
    (h : resolveIn table vendor die = .ok p) : p ∈ table :=
  List.mem_of_find?_eq_some ((resolveIn_eq_ok_iff table vendor die p).mp h)

/-- And it covers the chip that was looked up. -/
theorem covers_of_resolveIn {table : List Profile} {vendor : Vendor} {die : Die} {p : Profile}
    (h : resolveIn table vendor die = .ok p) : p.covers vendor die = true :=
  List.find?_some (p := fun q : Profile => q.covers vendor die)
    ((resolveIn_eq_ok_iff table vendor die p).mp h)

end BuckRegulator.Ramp
