import BuckRegulator.Board.Basic
import BuckRegulator.Proofs.Regulator.Session

/-!
A first probe is decided by two answers. What they amount to is written down apart from
the procedure: a failure of the bus, nibbles that the catalog does not have, or a chip. A
probe that finds no chip leaves nothing behind, so it can be repeated as if it had not
happened. A probe that finds one returns it whatever becomes of the calibration, which
shows in the report and nowhere else.
-/

namespace BuckRegulator.Regulator

open Bus (Transaction Transport)

variable {ε σ : Type}

/-- What the answers of the two identification registers amount to for a regulator. -/
def judge (r : Regulator) : Except ε UInt8 → Except ε UInt8 → Except (Error ε) Chip
  | .error failure, _ => .error (.bus failure)
  | .ok _, .error failure => .error (.bus failure)
  | .ok id1, .ok id2 =>
      let die : Ramp.Die := ⟨id1 &&& 0x0F, id2 &&& 0x0F⟩
      match Ramp.resolve r.vendor die with
      | .error _ => .error (.unsupportedVariant die)
      | .ok profile => .ok ⟨r.vendor, die, profile⟩

/-- The transactions in which they were given. The second register is not read if the
first one failed. -/
def inquiry (r : Regulator) : Except ε UInt8 → Except ε UInt8 → List (Transaction ε)
  | .error failure, _ => [.read r.address Register.id1 (.error failure)]
  | .ok id1, second => [.read r.address Register.id1 (.ok id1), .read r.address Register.id2 second]

theorem isWrite_of_mem_inquiry (r : Regulator) (first second : Except ε UInt8) :
    ∀ entry ∈ r.inquiry first second, entry.isWrite = false := by
  cases first with
  | error failure => exact List.forall_mem_singleton.mpr rfl
  | ok id1 => exact List.forall_mem_cons.mpr ⟨rfl, List.forall_mem_singleton.mpr rfl⟩

/-- An answer to the second read counts only after a byte from the first. -/
theorem judge_congr (r : Regulator) {first second second' : Except ε UInt8}
    (h : (∃ id1, first = .ok id1) → second' = second) :
    r.judge first second' = r.judge first second := by
  cases first with
  | error failure => rfl
  | ok id1 => rw [h ⟨id1, rfl⟩]

/-- The lookup of two bytes that were read. -/
theorem judge_ok (r : Regulator) (id1 id2 : UInt8) :
    r.judge (ε := ε) (.ok id1) (.ok id2) =
      match Ramp.resolve r.vendor (.ofRegisters id1 id2) with
      | .error unsupported => .error (.unsupportedVariant unsupported.die)
      | .ok profile => .ok ⟨r.vendor, .ofRegisters id1 id2, profile⟩ := by
  change (match Ramp.resolve r.vendor (.ofRegisters id1 id2) with
    | .error _ => _
    | .ok profile => _) = _
  cases hresolve : Ramp.resolve r.vendor (.ofRegisters id1 id2) with
  | error unsupported =>
      obtain ⟨rfl, _⟩ := (Ramp.resolveIn_eq_error_iff _ _ _ _).mp hresolve
      rfl
  | ok profile => rfl

/-- Identification ends as the answers are judged, on the bus that the last read left. -/
theorem run_identify_eq_judge (t : Transport ε σ) (r : Regulator) (bus : σ) :
    let first := t.read r.address Register.id1 bus
    let second := t.read r.address Register.id2 first.2
    (r.identify).run t bus = ⟨r.judge first.1 second.1, r.inquiry first.1 second.1,
      match first.1 with
      | .error _ => first.2
      | .ok _ => second.2⟩ := by
  simp only [run_identify]
  cases (t.read r.address Register.id1 bus).1 with
  | error failure => rfl
  | ok id1 =>
      cases (t.read r.address Register.id2 (t.read r.address Register.id1 bus).2).1 with
      | error failure => rfl
      | ok id2 =>
          rw [judge_ok]
          rfl

/-- A chip is found only where both reads gave a byte. -/
theorem judge_eq_ok {r : Regulator} {first second : Except ε UInt8} {chip : Chip}
    (h : r.judge first second = .ok chip) : ∃ id1, first = .ok id1 := by
  cases first with
  | error failure => cases h
  | ok id1 => exact ⟨id1, rfl⟩

theorem exchange_probe_of_unidentified (t : Transport ε σ) {r : Regulator}
    (h : r.chip? = none) (bus : σ) :
    let first := t.read r.address Register.id1 bus
    let second := t.read r.address Register.id2 first.2
    match r.judge first.1 second.1 with
    | .error error =>
        (r.exchange t bus .probe).result = .error error ∧
          (r.exchange t bus .probe).log = r.inquiry first.1 second.1 ∧
          (r.exchange t bus .probe).regulator = r
    | .ok chip =>
        let trimming := ((r.identifiedAs chip).calibrateIfDue).run t second.2
        (r.exchange t bus .probe).result = .ok (.profile chip.profile) ∧
          (r.exchange t bus .probe).log = r.inquiry first.1 second.1 ++ trimming.log ∧
          (r.exchange t bus .probe).regulator = trimming.result := by
  simp only [exchange_probe, run_probe_of_unidentified t h, run_identify_eq_judge]
  cases hjudge : r.judge (t.read r.address Register.id1 bus).1
    (t.read r.address Register.id2 (t.read r.address Register.id1 bus).2).1 with
  | error error => exact ⟨rfl, rfl, rfl⟩
  | ok chip =>
      obtain ⟨id1, hfirst⟩ := judge_eq_ok hjudge
      simp only [hfirst]
      exact ⟨rfl, trivial, trivial⟩

namespace Exchange

/-- The exchange fails, reads at most, and leaves the regulator as it was: as it would be
made anew from its vendor and configuration. -/
structure Fruitless (r : Regulator) (error : Error ε) (e : Exchange ε σ) : Prop where
  result : e.result = .error error
  reading : ∀ entry ∈ e.log, entry.isWrite = false
  regulator : e.regulator = r
  anew : ∀ config : Config, config.address = r.address → config.roles? = some r.roles →
    config.calibrate = r.calibrate →
      Regulator.new (ε := ε) r.vendor config = .ok e.regulator

/-- The exchange finds a chip by some reads that leave a bus behind. Only on that bus, and
only for a vendor and a configuration that call for it, is there a calibration, and its
report is kept. -/
structure Finds (t : Transport ε σ) (r : Regulator) (reads : List (Transaction ε)) (found : σ)
    (chip : Chip) (e : Exchange ε σ) : Prop where
  result : e.result = .ok (.profile chip.profile)
  chip : e.regulator.chip? = some chip
  calibrated : r.vendor = .silergy ∧ r.calibrate = true →
    e.regulator.report? = some (Trim.calibrate.run t found).result ∧
      e.log = reads ++ (Trim.calibrate.run t found).log
  spared : ¬(r.vendor = .silergy ∧ r.calibrate = true) →
    e.regulator.report? = none ∧ e.log = reads

end Exchange

/-- A regulator that was not probed is what its configuration makes. -/
theorem Unprobed.new_eq {r : Regulator} (h : r.Unprobed) {config : Config}
    (haddress : config.address = r.address) (hroles : config.roles? = some r.roles)
    (hcalibrate : config.calibrate = r.calibrate) :
    Regulator.new (ε := ε) r.vendor config = .ok r := by
  simp only [Regulator.new, hroles, haddress, hcalibrate, ← h.chip, ← h.report]

theorem finds_of_judged (t : Transport ε σ) {r : Regulator} (h : r.Unprobed) {bus : σ}
    {chip : Chip}
    (hjudge : r.judge (t.read r.address Register.id1 bus).1
      (t.read r.address Register.id2 (t.read r.address Register.id1 bus).2).1 = .ok chip) :
    let first := t.read r.address Register.id1 bus
    let second := t.read r.address Register.id2 first.2
    (r.exchange t bus .probe).Finds t r (r.inquiry first.1 second.1) second.2 chip := by
  intro first second
  have hprobe := exchange_probe_of_unidentified t h.chip bus
  simp only [hjudge] at hprobe
  obtain ⟨hresult, hlog, hregulator⟩ := hprobe
  have hdue := calibrationDue_iff r
  have htrimming := calibrateIfDue_of_unreported t (r := r.identifiedAs chip) h.report second.2
  refine ⟨hresult, ?_, ?_, ?_⟩
  · rw [hregulator]
    exact chip?_calibrateIfDue t r chip second.2
  · intro hcalibrate
    rw [calibrationDue_identifiedAs, if_pos (hdue.mpr hcalibrate)] at htrimming
    rw [hregulator, hlog, htrimming]
    exact ⟨rfl, rfl⟩
  · intro hspared
    rw [calibrationDue_identifiedAs, if_neg (mt hdue.mp hspared)] at htrimming
    rw [hregulator, hlog, htrimming, List.append_nil]
    exact ⟨h.report, rfl⟩

theorem fruitless_of_judged (t : Transport ε σ) {r : Regulator} (h : r.Unprobed)
    {bus : σ} {error : Error ε}
    (hjudge : r.judge (t.read r.address Register.id1 bus).1
      (t.read r.address Register.id2 (t.read r.address Register.id1 bus).2).1 = .error error) :
    let first := t.read r.address Register.id1 bus
    let second := t.read r.address Register.id2 first.2
    (r.exchange t bus .probe).Fruitless r error ∧
      (r.exchange t bus .probe).log = r.inquiry first.1 second.1 := by
  intro first second
  have hprobe := exchange_probe_of_unidentified t h.chip bus
  simp only [hjudge] at hprobe
  obtain ⟨hresult, hlog, hregulator⟩ := hprobe
  refine ⟨⟨hresult, ?_, hregulator, ?_⟩, hlog⟩
  · rw [hlog]
    exact r.isWrite_of_mem_inquiry _ _
  · intro config haddress hroles hcalibrate
    rw [hregulator]
    exact h.new_eq haddress hroles hcalibrate

/-- The result and the chip depend on how the answers are judged, and on nothing else. -/
theorem shown_of_judge (t : Transport ε σ) {r : Regulator} (h : r.Unprobed) (bus : σ) :
    let first := t.read r.address Register.id1 bus
    let second := t.read r.address Register.id2 first.2
    (r.exchange t bus .probe).result =
        (r.judge first.1 second.1).map (fun chip => .profile chip.profile) ∧
      (r.exchange t bus .probe).regulator.chip? = (r.judge first.1 second.1).toOption := by
  intro first second
  cases hjudge : r.judge first.1 second.1 with
  | error error =>
      have hfruitless := (fruitless_of_judged t h hjudge).1
      refine ⟨hfruitless.result, ?_⟩
      rw [hfruitless.regulator, h.chip]
      rfl
  | ok chip =>
      have hfinds := finds_of_judged t h hjudge
      exact ⟨hfinds.result, hfinds.chip⟩

/-- The probe of a regulator that knows nothing yet, on any bus. If the two answers amount
to an error, that is the result, and the regulator is as it was and would be when new. If
they amount to a chip, it is found, whatever the bus answers to the rest. So two buses that
give the same two answers lead to the same result and the same chip. -/
theorem probe_decided_by_identification (t : Transport ε σ) {r : Regulator}
    (h : r.Unprobed) (bus : σ) :
    let first := t.read r.address Register.id1 bus
    let second := t.read r.address Register.id2 first.2
    let e := r.exchange t bus .probe
    (∀ error, r.judge first.1 second.1 = .error error →
        e.Fruitless r error ∧ e.log = r.inquiry first.1 second.1) ∧
      (∀ chip, r.judge first.1 second.1 = .ok chip →
        e.Finds t r (r.inquiry first.1 second.1) second.2 chip) ∧
      ∀ {τ : Type} (t' : Transport ε τ) (bus' : τ),
        let first' := t'.read r.address Register.id1 bus'
        let second' := t'.read r.address Register.id2 first'.2
        first'.1 = first.1 → ((∃ id1, first.1 = .ok id1) → second'.1 = second.1) →
          (r.exchange t' bus' .probe).result = e.result ∧
            (r.exchange t' bus' .probe).regulator.chip? = e.regulator.chip? := by
  intro first second e
  refine ⟨fun error hjudge => fruitless_of_judged t h hjudge,
    fun chip hjudge => finds_of_judged t h hjudge, ?_⟩
  intro τ t' bus' first' second' hfirst hsecond
  have hsame : r.judge first'.1 second'.1 = r.judge first.1 second.1 := by
    rw [hfirst]
    exact r.judge_congr hsecond
  obtain ⟨hresult, hchip⟩ := shown_of_judge t h bus
  obtain ⟨hresult', hchip'⟩ := shown_of_judge t' h bus'
  constructor
  · rw [hresult', hsame, ← hresult]
  · rw [hchip', hsame, ← hchip]

def brightChip : Board :=
  .ofLayouts [⟨0x40, [(0x03, 0xF8), (0x04, 0xF0), (0x0E, 0x00)], [], []⟩] []

def brightRegulator : Regulator :=
  { vendor := .silergy, address := 0x40, roles := .ofSleep .vsel1, calibrate := true }

/-- A second read that fails, nibbles that the catalog does not have, and the chip as it
is, found with the same result when no status can be read. -/
theorem brightChip_identified :
    Regulator.new (ε := Bus.Failure) .silergy {} = .ok brightRegulator ∧
      let probe (b : Board) := brightRegulator.exchange Board.transport b .probe
      let dim := brightChip.inject { register := some 0x0E }
      (probe (brightChip.inject { register := some 0x04 })).Fruitless brightRegulator
          (.bus .line) ∧
        (probe (brightChip.attach ⟨0x40, [(0x03, 0xF7)], [], []⟩)).Fruitless brightRegulator
          (.unsupportedVariant ⟨0x7, 0x0⟩) ∧
        (∃ chip, chip.die = ⟨0x8, 0x0⟩ ∧ (probe brightChip).regulator.chip? = some chip) ∧
        (probe dim).result = (probe brightChip).result ∧
        (probe dim).regulator.population = .neither ∧
        (probe brightChip).regulator.population = .primaryOnly := by
  have hnew : Regulator.new (ε := Bus.Failure) .silergy {} = .ok brightRegulator := rfl
  have hprobe (b : Board) := probe_decided_by_identification Board.transport
    (unprobed_of_new hnew) b
  have hsame := (hprobe brightChip).2.2 Board.transport
    (brightChip.inject { register := some 0x0E }) rfl (fun _ => rfl)
  refine ⟨hnew, ((hprobe _).1 _ rfl).1, ((hprobe _).1 _ rfl).1, ?_, hsame.1, ?_, ?_⟩
  · exact ⟨_, rfl, ((hprobe brightChip).2.1 ⟨.silergy, ⟨0x8, 0x0⟩, _⟩ rfl).chip⟩
  · decide
  · decide

end BuckRegulator.Regulator
