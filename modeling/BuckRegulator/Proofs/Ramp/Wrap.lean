import BuckRegulator.Proofs.Ramp.Codec
import Mathlib.Data.Rat.Floor

/-!
The encoder off the ramp. It answers for every voltage there is, with the low byte of the
number of steps between the bottom of the ramp and the voltage. Above the bottom that is
the number rounded down. Below it the division rounds the other way, toward the bottom, so
the two differ by one except at whole steps, and code 0 stands for almost two steps of
voltages. On either side the code moves by one with each step and comes round after 256;
only across the bottom does it not.
-/

namespace BuckRegulator.Ramp

/-- Below zero a truncated division is one more than the floor, unless it is exact. -/
theorem tdiv_eq_floor_add_one {a : Int} {b : Nat} (hb : 0 < b) (hneg : a < 0)
    (hinexact : ¬(b : Int) ∣ a) : a.tdiv b = a / b + 1 := by
  rw [Int.tdiv_eq_ediv, if_neg (not_or.mpr ⟨not_le.mpr hneg, hinexact⟩),
    Int.sign_natCast_of_ne_zero hb.ne']

theorem tdiv_eq_floor {a : Int} {b : Nat} (h : 0 ≤ a ∨ (b : Int) ∣ a) : a.tdiv b = a / b := by
  rw [Int.tdiv_eq_ediv, if_pos h, add_zero]

theorem tdiv_eq_zero {a : Int} {b : Nat} (hbelow : -(b : Int) < a) (habove : a < b) :
    a.tdiv b = 0 := by
  rcases le_total 0 a with hpos | hneg
  · exact Int.tdiv_eq_zero_of_lt hpos habove
  · have hmirror := Int.tdiv_eq_zero_of_lt (a := -a) (b := b) (by omega) (by omega)
    rw [Int.neg_tdiv] at hmirror
    omega

/-- On one side of zero a truncated division moves by one with each divisor. -/
theorem tdiv_add_mul {a : Int} {b k : Nat} (hb : 0 < b) (h : 0 ≤ a ∨ a + k * b ≤ 0) :
    (a + k * b).tdiv b = a.tdiv b + k := by
  have hne : (b : Int) ≠ 0 := by omega
  have habove {c : Int} (hc : 0 ≤ c) : (c + k * b).tdiv b = c.tdiv b + k := by
    have hsum : 0 ≤ c + k * b := Int.add_nonneg hc (by positivity)
    rw [tdiv_eq_floor (Or.inl hsum), tdiv_eq_floor (Or.inl hc), Int.add_mul_ediv_right _ _ hne]
  rcases h with habovezero | hbelow
  · exact habove habovezero
  · -- Below zero the same is read backwards, from the far end.
    have hfar := habove (c := -(a + k * b)) (by omega)
    have hback : -(a + k * b) + k * b = -a := by omega
    rw [hback, Int.neg_tdiv, Int.neg_tdiv] at hfar
    omega

namespace Profile

/-- The whole steps from the bottom of the ramp up to a voltage, rounded down. They are
negative below it. -/
def floorSteps (p : Profile) (uv : UInt32) : Int :=
  ⌊((uv.toNat : ℚ) - p.minUv.toNat) / p.stepUv.toNat⌋

theorem floorSteps_eq_ediv (p : Profile) (uv : UInt32) :
    p.floorSteps uv = ((uv.toNat : Int) - p.minUv.toNat) / p.stepUv.toNat := by
  rw [← Rat.floor_intCast_div_natCast, floorSteps]
  push_cast
  rfl

theorem toNat_toCode (p : Profile) (uv : UInt32) :
    ((p.toCode uv).toNat : Int) =
      ((uv.toNat : Int) - p.minUv.toNat).tdiv p.stepUv.toNat % 256 :=
  toNat_ofInt _

theorem toNat_toCode_of_exact {p : Profile} {uv : UInt32}
    (h : p.minUv ≤ uv ∨ (p.stepUv.toNat : Int) ∣ (p.minUv.toNat : Int) - uv.toNat) :
    ((p.toCode uv).toNat : Int) = p.floorSteps uv % 256 := by
  have hside : 0 ≤ (uv.toNat : Int) - p.minUv.toNat ∨
      (p.stepUv.toNat : Int) ∣ (uv.toNat : Int) - p.minUv.toNat := by
    rcases h with hle | hexact
    · have := UInt32.le_iff_toNat_le.mp hle
      exact Or.inl (by omega)
    · exact Or.inr ((dvd_sub_comm).mp hexact)
  rw [toNat_toCode, floorSteps_eq_ediv, tdiv_eq_floor hside]

theorem toNat_toCode_of_inexact {p : Profile} (hstep : 0 < p.stepUv.toNat) {uv : UInt32}
    (hlt : uv < p.minUv)
    (hinexact : ¬(p.stepUv.toNat : Int) ∣ (p.minUv.toNat : Int) - uv.toNat) :
    ((p.toCode uv).toNat : Int) = (p.floorSteps uv + 1) % 256 := by
  have hneg : (uv.toNat : Int) - p.minUv.toNat < 0 := by
    have := UInt32.lt_iff_toNat_lt.mp hlt
    omega
  rw [dvd_sub_comm] at hinexact
  rw [toNat_toCode, floorSteps_eq_ediv, tdiv_eq_floor_add_one hstep hneg hinexact]

/-- Less than a step from the bottom of the ramp, on either side, the code is 0. -/
theorem toCode_eq_zero {p : Profile} {uv : UInt32}
    (hbelow : (p.minUv.toNat : Int) - p.stepUv.toNat < uv.toNat)
    (habove : (uv.toNat : Int) < p.minUv.toNat + p.stepUv.toNat) : p.toCode uv = 0 := by
  rw [toCode, tdiv_eq_zero (by omega) (by omega)]
  rfl

/-- Going up by some steps without crossing the bottom of the ramp, the code goes up by as
many, as bytes do. -/
theorem toCode_of_steps_above {p : Profile} (hstep : 0 < p.stepUv.toNat) {uv far : UInt32}
    {k : Nat} (hfar : far.toNat = uv.toNat + k * p.stepUv.toNat)
    (hside : p.minUv ≤ uv ∨ far ≤ p.minUv) : p.toCode far = p.toCode uv + UInt8.ofNat k := by
  have hdiff : (far.toNat : Int) - p.minUv.toNat =
      (uv.toNat : Int) - p.minUv.toNat + k * p.stepUv.toNat := by
    rw [hfar]
    push_cast
    ring
  have hside : 0 ≤ (uv.toNat : Int) - p.minUv.toNat ∨
      (uv.toNat : Int) - p.minUv.toNat + k * p.stepUv.toNat ≤ 0 := by
    rw [← hdiff]
    simp only [UInt32.le_iff_toNat_le] at hside
    omega
  rw [toCode, hdiff, tdiv_add_mul hstep hside, UInt8.ofInt_add, ofInt_natCast, toCode]

end Profile

/-- What the encoder gives for every voltage, in range or not. From the bottom of the ramp
upward, and at whole steps below it, the code is the low byte of the number of steps,
rounded down; at every other voltage below it is one more. Hence the code is 0 less than a
step from the bottom on either side; above the bottom it comes round after 256 steps; and
one step up it is one more, except across the bottom. -/
theorem toCode_off_ramp (p : Profile) (hstep : 0 < p.stepUv) :
    (∀ uv, p.minUv ≤ uv ∨ (p.stepUv.toNat : Int) ∣ (p.minUv.toNat : Int) - uv.toNat →
      ((p.toCode uv).toNat : Int) = p.floorSteps uv % 256) ∧
      (∀ uv, uv < p.minUv → ¬(p.stepUv.toNat : Int) ∣ (p.minUv.toNat : Int) - uv.toNat →
        ((p.toCode uv).toNat : Int) = (p.floorSteps uv + 1) % 256) ∧
      (∀ uv : UInt32, (p.minUv.toNat : Int) - p.stepUv.toNat < uv.toNat →
        (uv.toNat : Int) < p.minUv.toNat + p.stepUv.toNat → p.toCode uv = 0) ∧
      (∀ uv, p.minUv ≤ uv → uv.toNat + 256 * p.stepUv.toNat < UInt32.size →
        p.toCode (uv + 256 * p.stepUv) = p.toCode uv) ∧
      ∀ uv, p.minUv ≤ uv ∨ (uv.toNat : Int) ≤ p.minUv.toNat - p.stepUv.toNat →
        uv.toNat + p.stepUv.toNat < UInt32.size →
          (p.toCode (uv + p.stepUv)).toNat = ((p.toCode uv).toNat + 1) % 256 := by
  have hpos : 0 < p.stepUv.toNat := UInt32.lt_iff_toNat_lt.mp hstep
  refine ⟨fun uv => Profile.toNat_toCode_of_exact, fun uv => Profile.toNat_toCode_of_inexact hpos,
    fun uv => Profile.toCode_eq_zero, ?_, ?_⟩
  · intro uv hmin hroom
    have hround : (256 * p.stepUv).toNat = 256 * p.stepUv.toNat := by
      have hlt : 256 * p.stepUv.toNat < UInt32.size := by omega
      rw [UInt32.toNat_mul]
      exact Nat.mod_eq_of_lt hlt
    have hfar : (uv + 256 * p.stepUv).toNat = uv.toNat + 256 * p.stepUv.toNat := by
      rw [UInt32.toNat_add, hround]
      exact Nat.mod_eq_of_lt hroom
    rw [Profile.toCode_of_steps_above hpos hfar (Or.inl hmin)]
    exact UInt8.add_zero _
  · intro uv hside hroom
    have hnext : (uv + p.stepUv).toNat = uv.toNat + p.stepUv.toNat := by
      rw [UInt32.toNat_add]
      exact Nat.mod_eq_of_lt hroom
    have hside : p.minUv ≤ uv ∨ uv + p.stepUv ≤ p.minUv := by
      rw [UInt32.le_iff_toNat_le (a := uv + p.stepUv), hnext]
      exact hside.imp_right fun hbelow => by omega
    rw [Profile.toCode_of_steps_above hpos (k := 1) (by omega) hside, UInt8.toNat_add]
    rfl

def commonRamp : Profile := ⟨.fairchild, ⟨0x0, 0x3⟩, true, 600000, 10000⟩

/-- Two and a half steps and less than one step below the bottom, then 64 and 320 steps
above it, and from one step below to the bottom. -/
theorem commonRamp_off_ramp :
    (0 < commonRamp.stepUv ∧ commonRamp.floorSteps 575000 = -3) ∧
      commonRamp.toCode 575000 = 0xFE ∧
      commonRamp.toCode 590001 = 0 ∧
      commonRamp.toCode (1240000 + 256 * commonRamp.stepUv) = 0x40 ∧
      ((commonRamp.toCode 590000).toNat : Int) = commonRamp.floorSteps 590000 % 256 ∧
      (commonRamp.toCode (590000 + commonRamp.stepUv)).toNat =
        ((commonRamp.toCode 590000).toNat + 1) % 256 := by
  have hstep : 0 < commonRamp.stepUv := by decide
  have hfloor : commonRamp.floorSteps 575000 = -3 := by
    rw [Profile.floorSteps_eq_ediv]
    decide
  obtain ⟨hexact, hinexact, hzero, hround, hnext⟩ := toCode_off_ramp commonRamp hstep
  refine ⟨⟨hstep, hfloor⟩, ?_, hzero 590001 (by decide) (by decide), ?_, ?_, ?_⟩
  · have hcode := hinexact 575000 (by decide) (by decide)
    rw [hfloor] at hcode
    apply UInt8.toNat.inj
    exact Int.ofNat.inj hcode
  · rw [hround 1240000 (by decide) (by decide)]
    decide
  · exact hexact 590000 (Or.inr (by decide))
  · exact hnext 590000 (Or.inr (by decide)) (by decide)

end BuckRegulator.Ramp
