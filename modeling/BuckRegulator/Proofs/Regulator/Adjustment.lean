import BuckRegulator.Board.Basic
import BuckRegulator.Proofs.Ramp.Steps
import BuckRegulator.Proofs.Regulator.Knowledge

/-!
A request for a voltage, from the call to the byte on the bus. The chip has to be known
and the voltage in range, or the bus is not touched. After that two transactions can fail,
and the request ends with the first that does. The byte that is written owes its top bit
to the byte that was read and the rest to the voltage: decoded, it is the lower end of the
step that the voltage lies in.
-/

namespace BuckRegulator.Regulator

open Bus (Transaction Transport)

variable {ε σ : Type}

structure Exchange.Refused (error : Error ε) (e : Exchange ε σ) : Prop where
  result : e.result = .error error
  log : e.log = []
  bus : e.after = e.before

/-- A byte that selects a voltage in place of an old byte. -/
structure Selects (profile : Ramp.Profile) (uv : UInt32) (old byte : UInt8) : Prop where
  value : byte = (old &&& 0x80) |||
    UInt8.ofNat ((uv.toNat - profile.minUv.toNat) / profile.stepUv.toNat)
  enable : byte &&& 0x80 = old &&& 0x80
  stray : byte &&& 0x40 = 0
  decoded : 0 < profile.stepUv.toNat → profile.InStep byte uv

theorem selects_of_contains {profile : Ramp.Profile} {uv : UInt32}
    (h : profile.contains uv = true) (old : UInt8) :
    Selects profile uv old ((old &&& 0x80) ||| profile.toCode uv) := by
  have hcode := Ramp.Profile.toCode_lt_of_contains h
  refine ⟨?_, Register.enable_of_update old hcode, Register.bit6_of_update old hcode, ?_⟩
  · rw [Ramp.Profile.toCode_of_contains h]
    rfl
  · intro hstep
    exact Ramp.Profile.inStep_of_contains hstep h (Register.code_of_update old hcode)

/-- The ramp of every chip that a regulator comes to know is one of the catalog. -/
theorem Follows.fits {origin r : Regulator} (h : origin.Follows r) {chip : Chip}
    (hchip : r.chip? = some chip) : chip.profile.Fits :=
  Ramp.catalog_fits _ (Ramp.mem_of_resolveIn (h.sound chip hchip).resolved)

theorem Follows.step_pos {origin r : Regulator} (h : origin.Follows r) {chip : Chip}
    (hchip : r.chip? = some chip) : 0 < chip.profile.stepUv.toNat :=
  (h.fits hchip).1

theorem refused_of_unidentified (t : Transport ε σ) {r : Regulator} (h : r.chip? = none)
    (uv : UInt32) (bus : σ) : (r.exchange t bus (.setVoltage uv)).Refused .notProbed := by
  rw [exchange_setVoltage, run_setVoltage_of_unidentified t h]
  exact ⟨rfl, rfl, rfl⟩

theorem refused_of_outside (t : Transport ε σ) {r : Regulator} {chip : Chip}
    (h : r.chip? = some chip) {uv : UInt32} (houtside : chip.profile.contains uv = false)
    (bus : σ) : (r.exchange t bus (.setVoltage uv)).Refused .invalidVoltage := by
  rw [exchange_setVoltage, run_setVoltage_of_outside t h houtside]
  exact ⟨rfl, rfl, rfl⟩

/-- If the active setting cannot be read, its error is the answer and nothing is written. -/
theorem setVoltage_of_unread (t : Transport ε σ) {r : Regulator} {chip : Chip}
    (h : r.chip? = some chip) {uv : UInt32} (hinside : chip.profile.contains uv = true)
    {bus : σ} {failure : ε}
    (hgot : (t.read r.address r.roles.active.register bus).1 = .error failure) :
    let e := r.exchange t bus (.setVoltage uv)
    e.result = .error (.bus failure) ∧
      e.log = [.read r.address r.roles.active.register (.error failure)] := by
  simp only [exchange_setVoltage, run_setVoltage t h hinside, hgot]
  exact ⟨rfl, trivial⟩

/-- If it can be read, the new byte is written, and the answer of the write decides. -/
theorem setVoltage_of_read (t : Transport ε σ) {r : Regulator} {chip : Chip}
    (h : r.chip? = some chip) {uv : UInt32} (hinside : chip.profile.contains uv = true)
    {bus : σ} {old : UInt8}
    (hgot : (t.read r.address r.roles.active.register bus).1 = .ok old) :
    let e := r.exchange t bus (.setVoltage uv)
    let register := r.roles.active.register
    let byte := (old &&& 0x80) ||| chip.profile.toCode uv
    let put := t.write r.address register byte (t.read r.address register bus).2
    e.log = [.read r.address register (.ok old), .write r.address register byte put.1] ∧
      match put.1 with
      | .ok _ => e.result = .ok .done
      | .error failure => e.result = .error (.bus failure) := by
  simp only [exchange_setVoltage, run_setVoltage t h hinside, hgot]
  refine ⟨trivial, ?_⟩
  generalize (t.write r.address r.roles.active.register _ _).1 = answer
  cases answer with
  | ok done => rfl
  | error failure => rfl

/-- What is set, on any bus and in any state. The regulator is left as it is. Without a
chip, or with a voltage off its ramp, the request is refused. Otherwise the active setting
is read; if that fails there is no more, and if it answers a byte there is one write, to
the same register, of the byte that selects the voltage in place of it, and the answer of
the write is that of the request. That byte lies in the step of the voltage for every ramp
with steps, and the ramps that a regulator comes to know all have steps. -/
theorem setVoltage_end_to_end (t : Transport ε σ) :
    (∀ (r : Regulator) (bus : σ) (uv : UInt32),
      let e := r.exchange t bus (.setVoltage uv)
      let register := r.roles.active.register
      let got := t.read r.address register bus
      e.regulator = r ∧
        (r.chip? = none → e.Refused .notProbed) ∧
        ∀ chip, r.chip? = some chip →
          (chip.profile.contains uv = false → e.Refused .invalidVoltage) ∧
          (chip.profile.contains uv = true →
            (∀ failure, got.1 = .error failure → e.result = .error (.bus failure) ∧
              e.log = [.read r.address register (.error failure)]) ∧
            ∀ old, got.1 = .ok old → ∃ byte, Selects chip.profile uv old byte ∧
              let put := t.write r.address register byte got.2
              e.log = [.read r.address register (.ok old),
                .write r.address register byte put.1] ∧
              match put.1 with
              | .ok _ => e.result = .ok .done
              | .error failure => e.result = .error (.bus failure))) ∧
      ∀ {vendor : Vendor} {config : Config} {origin : Regulator},
        Regulator.new (ε := ε) vendor config = .ok origin →
          ∀ bus turns, ∀ r ∈ origin.states t bus turns, ∀ chip, r.chip? = some chip →
            0 < chip.profile.stepUv.toNat := by
  constructor
  · intro r bus uv e register got
    have hsame : e.regulator = r := by
      simp only [e, exchange_setVoltage]
    refine ⟨hsame, fun hchip => refused_of_unidentified t hchip uv bus, ?_⟩
    intro chip hchip
    constructor
    · intro houtside
      exact refused_of_outside t hchip houtside bus
    · intro hinside
      constructor
      · intro failure hgot
        exact setVoltage_of_unread t hchip hinside hgot
      · intro old hgot
        exact ⟨_, selects_of_contains hinside old, setVoltage_of_read t hchip hinside hgot⟩
  · intro vendor config origin hnew bus turns r member chip hchip
    have hstart : origin.Follows origin := follows_self (unprobed_of_new hnew)
    have hfollows : ∀ s ∈ origin.states t bus turns, origin.Follows s :=
      follows_states t hstart bus turns
    exact (hfollows r member).step_pos hchip

/-- A chip with uneven steps; in its active setting both flags are set. -/
def flaggedChip : Board :=
  .ofLayouts [⟨0x60, [(0x00, 0xC5), (0x03, 0x84), (0x04, 0x0F)], [], []⟩] []

def flaggedRegulator : Regulator :=
  { vendor := .fairchild, address := 0x60, roles := .ofSleep .vsel1, calibrate := true }

def flaggedChipKnown : Regulator :=
  { flaggedRegulator with chip? := some ⟨.fairchild, ⟨0x4, 0xF⟩, Ramp.unevenRamp⟩ }

/-- A request before the probe, and after it one below the ramp, one that cannot read the
setting, and one for the end of the last step. -/
theorem flaggedChip_set :
    (Regulator.new (ε := Bus.Failure) .fairchild { address := 0x60 } = .ok flaggedRegulator ∧
      flaggedChipKnown ∈
        flaggedRegulator.states Board.transport flaggedChip [{ call := .probe }]) ∧
      (flaggedRegulator.exchange Board.transport flaggedChip (.setVoltage 900000)).Refused
        .notProbed ∧
      (flaggedChipKnown.exchange Board.transport flaggedChip (.setVoltage 602999)).Refused
        .invalidVoltage ∧
      (flaggedChipKnown.exchange Board.transport
          (flaggedChip.inject { direction := some .read }) (.setVoltage 900000)).result =
        .error (.bus .line) ∧
      ∃ byte, Ramp.unevenRamp.InStep byte 1423863 ∧ byte &&& 0x40 = 0 ∧
        (flaggedChipKnown.exchange Board.transport flaggedChip (.setVoltage 1423863)).log =
          [.read 0x60 0x00 (.ok 0xC5), .write 0x60 0x00 byte (.ok ())] := by
  have hnew : Regulator.new (ε := Bus.Failure) .fairchild { address := 0x60 } =
    .ok flaggedRegulator := rfl
  have hknown : flaggedChipKnown ∈
    flaggedRegulator.states Board.transport flaggedChip [{ call := .probe }] := by decide
  obtain ⟨hset, hsteps⟩ := setVoltage_end_to_end Board.transport
  have hpos := hsteps hnew flaggedChip _ flaggedChipKnown hknown _ rfl
  refine ⟨⟨hnew, hknown⟩, ?_, ?_, ?_, ?_⟩
  · exact (hset flaggedRegulator flaggedChip 900000).2.1 rfl
  · obtain ⟨houtside, _⟩ := (hset flaggedChipKnown flaggedChip 602999).2.2 _ rfl
    exact houtside (by decide)
  · obtain ⟨_, hinside⟩ := (hset flaggedChipKnown
      (flaggedChip.inject { direction := some .read }) 900000).2.2 _ rfl
    exact ((hinside (by decide)).1 .line rfl).1
  · obtain ⟨_, hinside⟩ := (hset flaggedChipKnown flaggedChip 1423863).2.2 _ rfl
    obtain ⟨byte, hbyte, hlog, _⟩ := (hinside (by decide)).2 0xC5 rfl
    refine ⟨byte, hbyte.decoded hpos, hbyte.stray, hlog.trans ?_⟩
    rw [hbyte.value]
    rfl

end BuckRegulator.Regulator
