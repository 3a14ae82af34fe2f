import BuckRegulator.Proofs.Ramp.Codec

/-!
A ramp is cut into 64 steps, one a code, and its voltages are the lower ends of the
steps. Range check, encoder, decoder and listing all agree on them: a voltage is in
range exactly if it lies in a step, and the step is that of its encoding. Off the ramp
the encoder still answers, with any code there is; but a voltage off the ramp never
lies in the step of its encoding, so decoding gives the encoder away.
-/

namespace BuckRegulator.Ramp

namespace Profile

/-- The voltage is not below that of the code, and less than one step above it. -/
def InStep (p : Profile) (code : UInt8) (uv : UInt32) : Prop :=
  (p.toVoltage code).toNat ≤ uv.toNat ∧
    uv.toNat < (p.toVoltage code).toNat + p.stepUv.toNat

instance (p : Profile) (code : UInt8) (uv : UInt32) : Decidable (p.InStep code uv) :=
  inferInstanceAs (Decidable (_ ∧ _))

/-- A voltage in range lies in the step of every byte whose decoded bits are its
encoding. The ramp need not fit for this, as decoding goes no higher than the voltage. -/
theorem inStep_of_contains {p : Profile} (hstep : 0 < p.stepUv.toNat) {uv : UInt32}
    (h : p.contains uv = true) {raw : UInt8}
    (hraw : raw &&& Register.selectorReadMask = p.toCode uv) : p.InStep raw uv := by
  have hmin := ((p.contains_iff uv).mp h).1
  have hword := uv.toNat_lt_size
  have hlower : p.wholeSteps uv * p.stepUv.toNat ≤ uv.toNat - p.minUv.toNat :=
    Nat.div_mul_le_self _ _
  have hupper : uv.toNat - p.minUv.toNat < p.wholeSteps uv * p.stepUv.toNat + p.stepUv.toNat :=
    Nat.lt_div_mul_add hstep
  have hsteps : (raw &&& Register.selectorReadMask).toNat = p.wholeSteps uv := by
    rw [hraw, toNat_toCode_of_contains h]
  have hvoltage : (p.toVoltage raw).toNat =
      p.minUv.toNat + p.wholeSteps uv * p.stepUv.toNat := by
    rw [toNat_toVoltage_of_lt, hsteps]
    rw [hsteps]
    omega
  rw [InStep, hvoltage]
  omega

/-- Conversely a byte in whose step a voltage lies tells both that the voltage is in
range and what its encoding is. -/
theorem contains_of_inStep {p : Profile} (hfits : p.Fits) {raw : UInt8} {uv : UInt32}
    (h : p.InStep raw uv) :
    p.contains uv = true ∧ p.toCode uv = raw &&& Register.selectorReadMask := by
  obtain ⟨hlower, hupper⟩ := h
  rw [toNat_toVoltage hfits] at hlower hupper
  have hcode := UInt8.lt_iff_toNat_lt.mp (Register.and_readMask_lt raw)
  generalize raw &&& Register.selectorReadMask = code at hcode hlower hupper ⊢
  have hmin : p.minUv.toNat ≤ uv.toNat := by omega
  have hsteps : p.wholeSteps uv = code.toNat := by
    rw [wholeSteps]
    apply Nat.div_eq_of_lt_le
    · omega
    · rw [Nat.succ_mul]
      omega
  have hinside : p.contains uv = true := by
    rw [contains_iff, hsteps]
    exact ⟨hmin, hcode⟩
  refine ⟨hinside, ?_⟩
  rw [toCode_of_contains hinside, hsteps]
  exact UInt8.ofNat_toNat

theorem contains_iff_inStep {p : Profile} (hfits : p.Fits) (uv : UInt32) :
    p.contains uv = true ↔ ∃ code < 64, p.InStep code uv := by
  constructor
  · intro h
    have hlt := toCode_lt_of_contains h
    exact ⟨p.toCode uv, hlt, inStep_of_contains hfits.1 h (Register.code_and_readMask hlt)⟩
  · rintro ⟨code, _, h⟩
    exact (contains_of_inStep hfits h).1

/-- The voltage of a byte is the lower end of its step. -/
theorem inStep_toVoltage {p : Profile} (hfits : p.Fits) (raw : UInt8) :
    p.InStep raw (p.toVoltage raw) :=
  ⟨Nat.le_refl _, Nat.lt_add_of_pos_right hfits.1⟩

/-- The low byte of a count of steps does not tell how often it went round: where there
is room above the ramp, each code is also the encoding of a voltage out of range. -/
theorem exists_alias {p : Profile} (hstep : 0 < p.stepUv.toNat)
    (hroom : p.minUv.toNat + 320 * p.stepUv.toNat ≤ UInt32.size) {code : UInt8}
    (hcode : code < 64) : ∃ uv, p.contains uv = false ∧ p.toCode uv = code := by
  have hlt : code.toNat < 64 := UInt8.lt_iff_toNat_lt.mp hcode
  have hmul : (256 + code.toNat) * p.stepUv.toNat ≤ 319 * p.stepUv.toNat :=
    Nat.mul_le_mul_right _ (by omega)
  have hword : p.minUv.toNat + (256 + code.toNat) * p.stepUv.toNat < UInt32.size := by omega
  let uv := UInt32.ofNat (p.minUv.toNat + (256 + code.toNat) * p.stepUv.toNat)
  have huv : uv.toNat = p.minUv.toNat + (256 + code.toNat) * p.stepUv.toNat :=
    UInt32.toNat_ofNat_of_lt hword
  have hmin : p.minUv.toNat ≤ uv.toNat := by omega
  have hsteps : p.wholeSteps uv = 256 + code.toNat := by
    rw [wholeSteps, huv, Nat.add_sub_cancel_left, Nat.mul_div_cancel _ hstep]
  refine ⟨uv, ?_, ?_⟩
  · rw [Bool.eq_false_iff, Ne, contains_iff, hsteps]
    omega
  · rw [toCode_of_le hmin, hsteps]
    apply UInt8.toNat.inj
    rw [UInt8.toNat_ofNat']
    omega

end Profile

theorem catalog_room : ∀ p ∈ catalog, p.minUv.toNat + 320 * p.stepUv.toNat ≤ UInt32.size := by
  decide

/-- The codec is exact. On a ramp that fits, a voltage is in range exactly if it lies in
the step of a code. There is then one such code: it is the encoding, it is listed with
the highest voltage of the ramp that is not above the given one, and it bounds the codes
whose voltage is not above. A voltage out of range does not lie in the step of its
encoding, whatever that is. Every byte decodes to a voltage in range, and that encodes to
the bits that were decoded. All entries of the catalog fit, and for each of them every
code is also the encoding of a voltage out of range. -/
theorem codec_exact :
    (∀ p ∈ catalog, p.Fits ∧
      ∀ code < 64, ∃ uv, p.contains uv = false ∧ p.toCode uv = code) ∧
    ∀ p : Profile, p.Fits →
      (∀ uv, p.contains uv = true ↔ ∃ code < 64, p.InStep code uv) ∧
      (∀ uv, ∀ code < 64, p.InStep code uv →
        code = p.toCode uv ∧ p.listVoltage? code = some (p.toVoltage code) ∧
          IsGreatest {v | p.IsVoltage v ∧ v ≤ uv} (p.toVoltage code) ∧
          ∀ other < 64, other ≤ p.toCode uv ↔ p.toVoltage other ≤ uv) ∧
      (∀ uv, p.contains uv = false → ¬p.InStep (p.toCode uv) uv) ∧
      ∀ raw, p.contains (p.toVoltage raw) = true ∧ p.toCode (p.toVoltage raw) = raw &&& 0x3F := by
  refine ⟨?_, ?_⟩
  · intro p member
    have hfits := catalog_fits p member
    exact ⟨hfits, fun code hcode => p.exists_alias hfits.1 (catalog_room p member) hcode⟩
  · intro p hfits
    refine ⟨p.contains_iff_inStep hfits, ?_, ?_, ?_⟩
    · intro uv code hcode h
      obtain ⟨hinside, hencoded⟩ := p.contains_of_inStep hfits h
      rw [Register.code_and_readMask hcode] at hencoded
      refine ⟨hencoded.symm, if_pos hcode, ?_, ?_⟩
      · rw [← hencoded]
        exact p.isGreatest_toVoltage hfits hinside
      · intro other hother
        exact p.le_toCode_iff hfits hinside hother
    · intro uv houtside h
      rw [(p.contains_of_inStep hfits h).1] at houtside
      cases houtside
    · intro raw
      exact p.contains_of_inStep hfits (p.inStep_toVoltage hfits raw)

def unevenRamp : Profile := ⟨.fairchild, ⟨0x4, 0xF⟩, true, 603000, 12826⟩

/-- The last voltage of its last step, and the one after it. -/
theorem unevenRamp_exact :
    (unevenRamp ∈ catalog ∧ unevenRamp.Fits) ∧
      (∃ uv, unevenRamp.contains uv = false ∧ unevenRamp.toCode uv = 63) ∧
      (unevenRamp.InStep 63 1423863 ∧ unevenRamp.contains 1423863 = true ∧
        unevenRamp.toCode 1423863 = 63 ∧
        IsGreatest {v | unevenRamp.IsVoltage v ∧ v ≤ 1423863} 1411038 ∧
        unevenRamp.toVoltage 62 ≤ 1423863) ∧
      (unevenRamp.contains 1423864 = false ∧
        ¬unevenRamp.InStep (unevenRamp.toCode 1423864) 1423864) ∧
      unevenRamp.toCode (unevenRamp.toVoltage 0xC5) = 5 := by
  have member : unevenRamp ∈ catalog := by decide
  obtain ⟨hfits, halias⟩ := codec_exact.1 unevenRamp member
  obtain ⟨hcontains, hstep, houtside, hdecoded⟩ := codec_exact.2 unevenRamp hfits
  have hlast : unevenRamp.InStep 63 1423863 := by decide
  have hpast : unevenRamp.contains 1423864 = false := by decide
  obtain ⟨hcode, _, hgreatest, hbelow⟩ := hstep 1423863 63 (by decide) hlast
  refine ⟨⟨member, hfits⟩, halias 63 (by decide), ⟨hlast, ?_, hcode.symm, hgreatest, ?_⟩,
    ⟨hpast, houtside 1423864 hpast⟩, (hdecoded 0xC5).2⟩
  · exact (hcontains 1423863).mpr ⟨63, by decide, hlast⟩
  · exact (hbelow 62 (by decide)).mp (by decide)

end BuckRegulator.Ramp
