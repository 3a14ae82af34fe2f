import BuckRegulator.Board.Basic
import BuckRegulator.Proofs.Regulator.Session

/-!
A session has two phases, and one probe that leads from the first to the second.
Before it the chip is not known: probes fail, and every other call is refused.
After it the chip is known for good, and only the bus or a voltage off the ramp
can make a call fail. The probe in between is the only call that calibrates.
Each phase is a property of single exchanges, which the regulator before an
exchange decides by whether it knows its chip.
-/

namespace BuckRegulator.Regulator

open Bus (Procedure Transaction Transport)
open Trim (InBank)

variable {ε σ : Type}

namespace Exchange

/-- The transactions of an exchange in the bank of the trim protocol. -/
def trimming (e : Exchange ε σ) : List (Transaction ε) :=
  e.log.filter fun entry => InBank entry.register

/-- The exchange failed with its last transaction, or it read an identification
that the catalog does not have. -/
def NotFound (r : Regulator) (e : Exchange ε σ) : Prop :=
  (∃ failure, e.result = .error (.bus failure) ∧
      e.log.getLast?.bind Transaction.failure? = some failure) ∨
    ∃ id1 id2 unsupported,
      Ramp.resolve r.vendor (.ofRegisters id1 id2) = .error unsupported ∧
      e.result = .error (.unsupportedVariant unsupported.die) ∧ e.log = r.idReads id1 id2

/-- The chip is not known after the exchange. -/
structure Searching (r : Regulator) (e : Exchange ε σ) : Prop where
  failure : e.call = .probe → e.NotFound r
  brief : e.log.length ≤ 2
  reading : ∀ entry ∈ e.log, entry.isWrite = false
  refused : e.call ≠ .probe → e.result = .error .notProbed ∧ e.log = []
  trimless : e.trimming = []

/-- The exchange is a probe that makes the chip known: both identification
registers are read, and no more is asked unless calibration is due. -/
structure Identifies (t : Transport ε σ) (r : Regulator) (profile : Ramp.Profile)
    (e : Exchange ε σ) : Prop where
  call : e.call = .probe
  result : e.result = .ok (.profile profile)
  log : ∃ id1 id2 first second,
    t.read r.address Register.id1 e.before = (.ok id1, first) ∧
    t.read r.address Register.id2 first = (.ok id2, second) ∧
    Ramp.resolve r.vendor (.ofRegisters id1 id2) = .ok profile ∧
    e.log = r.idReads id1 id2 ++ e.trimming ∧
    e.trimming = if r.calibrationDue then (Trim.calibrate.run t second).log else []

/-- The chip is known before the exchange, and has this profile. -/
structure Answering (profile : Ramp.Profile) (e : Exchange ε σ) : Prop where
  known : e.call = .probe → e.result = .ok (.profile profile) ∧ e.log = []
  outside : e.result = .error .invalidVoltage ↔
    ∃ uv, e.call = .setVoltage uv ∧ ¬profile.Spans uv
  silent : e.result = .error .invalidVoltage → e.log = []
  failure : ∀ error, e.result = .error error → error ≠ .invalidVoltage →
    ∃ failure, error = .bus failure ∧ e.log.getLast?.bind Transaction.failure? = some failure
  trimless : e.trimming = []

theorem trimming_eq_nil_iff (e : Exchange ε σ) :
    e.trimming = [] ↔ ∀ entry ∈ e.log, ¬InBank entry.register := by
  simp only [trimming, List.filter_eq_nil_iff, decide_eq_true_eq]

theorem Searching.not_invalidConfiguration {r : Regulator} {e : Exchange ε σ}
    (h : e.Searching r) : e.result ≠ .error .invalidConfiguration := by
  by_cases hprobe : e.call = .probe
  · rcases h.failure hprobe with ⟨_, hresult, _⟩ | ⟨_, _, _, _, hresult, _⟩
    · rw [hresult]
      nofun
    · rw [hresult]
      nofun
  · rw [(h.refused hprobe).1]
    nofun

theorem Identifies.not_invalidConfiguration {t : Transport ε σ} {r : Regulator}
    {profile : Ramp.Profile} {e : Exchange ε σ} (h : e.Identifies t r profile) :
    e.result ≠ .error .invalidConfiguration := by
  rw [h.result]
  nofun

theorem Identifies.trimming_ne_nil_iff {t : Transport ε σ} {r : Regulator}
    {profile : Ramp.Profile} {e : Exchange ε σ} (h : e.Identifies t r profile) :
    e.trimming ≠ [] ↔ r.calibrationDue = true := by
  obtain ⟨_, _, _, second, _, _, _, _, htrimming⟩ := h.log
  rw [htrimming]
  split
  · next due => exact iff_of_true (Trim.log_calibrate_ne_nil t second) due
  · next spared => exact iff_of_false (fun h => h rfl) spared

theorem Answering.not_invalidConfiguration {profile : Ramp.Profile} {e : Exchange ε σ}
    (h : e.Answering profile) : e.result ≠ .error .invalidConfiguration := by
  intro hresult
  obtain ⟨failure, hbus, _⟩ := h.failure _ hresult nofun
  cases hbus

/-- A voltage call answers as it should if it is not off the ramp, and fails at
most where its last transaction did. -/
theorem answering_of_reached {profile : Ramp.Profile} {e : Exchange ε σ}
    (hcall : e.call ≠ .probe)
    (hinside : ∀ uv, e.call = .setVoltage uv → profile.Spans uv)
    (hresult : (∃ reply, e.result = .ok reply) ∨ ∃ failure, e.result = .error (.bus failure) ∧
      e.log.getLast?.bind Transaction.failure? = some failure)
    (hbank : ∀ entry ∈ e.log, ¬InBank entry.register) : e.Answering profile := by
  have hvalid : e.result ≠ .error .invalidVoltage := by
    rcases hresult with ⟨reply, hresult⟩ | ⟨failure, hresult, _⟩
    · rw [hresult]
      nofun
    · rw [hresult]
      nofun
  refine ⟨fun hprobe => absurd hprobe hcall, ?_, fun h => absurd h hvalid, ?_,
    e.trimming_eq_nil_iff.mpr hbank⟩
  · constructor
    · intro h
      exact absurd h hvalid
    · rintro ⟨uv, hset, houtside⟩
      exact absurd (hinside uv hset) houtside
  · intro error herror _
    rcases hresult with ⟨reply, hresult⟩ | ⟨failure, hresult, hlast⟩
    · rw [hresult] at herror
      cases herror
    · rw [hresult] at herror
      cases herror
      exact ⟨failure, rfl, hlast⟩

end Exchange

theorem filter_identify_append (t : Transport ε σ) (r : Regulator) (bus : σ)
    (later : List (Transaction ε)) :
    (((r.identify).run t bus).log ++ later).filter (fun entry => InBank entry.register) =
      later.filter fun entry => InBank entry.register := by
  have hnone : ((r.identify).run t bus).log.filter (fun entry => InBank entry.register) = [] := by
    simpa using Bus.register_of_mem_run t (within_identify r) bus
  rw [List.filter_append, hnone, List.nil_append]

theorem log_calibrateIfDue (t : Transport ε σ) {r : Regulator} (h : r.report? = none)
    (bus : σ) :
    ((r.calibrateIfDue).run t bus).log =
      if r.calibrationDue then (Trim.calibrate.run t bus).log else [] := by
  rw [calibrateIfDue_of_unreported t h]
  split
  · rfl
  · rfl

/-- All that is asked for calibration is asked in the bank. -/
theorem filter_calibrateIfDue (t : Transport ε σ) {r : Regulator} (h : r.report? = none)
    (bus : σ) :
    ((r.calibrateIfDue).run t bus).log.filter (fun entry => InBank entry.register) =
      ((r.calibrateIfDue).run t bus).log := by
  rw [log_calibrateIfDue t h, List.filter_eq_self]
  intro entry member
  split at member
  · exact decide_eq_true (Trim.inBank_of_mem_calibrate t bus entry member)
  · cases member

/-- A probe that cannot identify the chip has done no more than try. -/
theorem searching_probe (t : Transport ε σ) {r : Regulator} (h : r.chip? = none) {bus : σ}
    {error : Error ε} (hfailed : ((r.identify).run t bus).result = .error error)
    (hcause : (r.exchange t bus .probe).NotFound r) :
    (r.exchange t bus .probe).Searching r ∧ (r.exchange t bus .probe).regulator = r := by
  have hlength := length_identify t r bus
  have hreads := isWrite_of_mem_identify t r bus
  have hbank := Bus.register_of_mem_run t (within_identify r) bus
  have hexchange : r.exchange t bus .probe = ⟨.probe, bus, .error error,
      ((r.identify).run t bus).log, r, ((r.identify).run t bus).bus⟩ := by
    simp only [exchange_probe, run_probe_of_unidentified t h, hfailed]
    rfl
  rw [hexchange] at hcause ⊢
  exact ⟨⟨fun _ => hcause, hlength, hreads, fun hcall => absurd rfl hcall,
    (Exchange.trimming_eq_nil_iff _).mpr hbank⟩, rfl⟩

/-- A call on a regulator that knows nothing fails and leaves it as it is, or is the
probe that identifies the chip. -/
theorem exchange_of_unprobed (t : Transport ε σ) {r : Regulator} (h : r.Unprobed) (bus : σ)
    (call : Call) :
    let e := r.exchange t bus call
    (e.Searching r ∧ e.regulator = r) ∨
      ∃ chip, e.regulator.chip? = some chip ∧ chip.profile ∈ Ramp.catalog ∧
        e.Identifies t r chip.profile := by
  cases call with
  | probe =>
      rcases identify_cases t r bus with ⟨failure, hfailed, hlast⟩ |
        ⟨id1, id2, unsupported, hresolve, hunsupported, hlog⟩ |
        ⟨id1, id2, first, second, profile, hfirst, hsecond, hresolve, hrun⟩
      · left
        apply searching_probe t h.chip hfailed
        left
        simp only [exchange_probe, run_probe_of_unidentified t h.chip, hfailed]
        exact ⟨failure, rfl, hlast⟩
      · left
        apply searching_probe t h.chip hunsupported
        right
        simp only [exchange_probe, run_probe_of_unidentified t h.chip, hunsupported]
        exact ⟨id1, id2, unsupported, hresolve, rfl, hlog⟩
      · right
        let chip : Chip := ⟨r.vendor, .ofRegisters id1 id2, profile⟩
        have hreport : (r.identifiedAs chip).report? = none := h.report
        have hcatalog : profile ∈ Ramp.catalog := Ramp.mem_of_resolveIn hresolve
        have htrimming := filter_identify_append t r bus
          (((r.identifiedAs chip).calibrateIfDue).run t second).log
        rw [filter_calibrateIfDue t hreport, hrun] at htrimming
        simp only [exchange_probe, run_probe_of_unidentified t h.chip, hrun]
        refine ⟨chip, chip?_calibrateIfDue t r chip second, hcatalog, rfl, rfl, id1, id2, first,
          second, hfirst, hsecond, hresolve, ?_, ?_⟩
        · rw [Exchange.trimming, htrimming]
        · rw [Exchange.trimming, htrimming, log_calibrateIfDue t hreport,
            calibrationDue_identifiedAs]
  | getVoltage =>
      left
      rw [exchange_getVoltage, run_getVoltage_of_unidentified t h.chip]
      exact ⟨⟨nofun, Nat.zero_le 2, nofun, fun _ => ⟨rfl, rfl⟩, rfl⟩, rfl⟩
  | setVoltage uv =>
      left
      rw [exchange_setVoltage, run_setVoltage_of_unidentified t h.chip]
      exact ⟨⟨nofun, Nat.zero_le 2, nofun, fun _ => ⟨rfl, rfl⟩, rfl⟩, rfl⟩

theorem regulator_exchange_of_identified (t : Transport ε σ) {r : Regulator} {chip : Chip}
    (h : r.chip? = some chip) (bus : σ) (call : Call) :
    (r.exchange t bus call).regulator = r := by
  cases call with
  | probe =>
      rw [exchange_probe, probe_of_identified h]
      rfl
  | getVoltage => rw [exchange_getVoltage]
  | setVoltage uv => rw [exchange_setVoltage]

theorem answering_getVoltage (t : Transport ε σ) {r : Regulator} {chip : Chip}
    (h : r.chip? = some chip) (bus : σ) :
    (r.exchange t bus .getVoltage).Answering chip.profile := by
  have hbank := Bus.register_of_mem_run t (within_getVoltage r) bus
  rw [exchange_getVoltage]
  refine Exchange.answering_of_reached nofun nofun ?_ hbank
  simp only [run_getVoltage t h]
  cases (t.read r.address r.roles.active.register bus).1 with
  | error e => exact Or.inr ⟨e, rfl, rfl⟩
  | ok raw => exact Or.inl ⟨_, rfl⟩

theorem answering_setVoltage_of_outside (t : Transport ε σ) {r : Regulator} {chip : Chip}
    (h : r.chip? = some chip) {uv : UInt32} (hcontains : chip.profile.contains uv = false)
    (hspans : ¬chip.profile.Spans uv) (bus : σ) :
    (r.exchange t bus (.setVoltage uv)).Answering chip.profile := by
  rw [exchange_setVoltage, run_setVoltage_of_outside t h hcontains]
  refine ⟨nofun, ⟨fun _ => ⟨uv, rfl, hspans⟩, fun _ => rfl⟩, fun _ => rfl, ?_, rfl⟩
  intro error herror hother
  cases herror
  exact absurd rfl hother

theorem answering_setVoltage (t : Transport ε σ) {r : Regulator} {chip : Chip}
    (h : r.chip? = some chip) {uv : UInt32} (hcontains : chip.profile.contains uv = true)
    (hspans : chip.profile.Spans uv) (bus : σ) :
    (r.exchange t bus (.setVoltage uv)).Answering chip.profile := by
  have hbank := Bus.register_of_mem_run t (within_setVoltage r uv) bus
  have hinside (uv' : UInt32) (hcall : Call.setVoltage uv = .setVoltage uv') :
      chip.profile.Spans uv' := by
    cases hcall
    exact hspans
  rw [exchange_setVoltage]
  refine Exchange.answering_of_reached nofun hinside ?_ hbank
  simp only [run_setVoltage t h hcontains]
  cases (t.read r.address r.roles.active.register bus).1 with
  | error e => exact Or.inr ⟨e, rfl, rfl⟩
  | ok old =>
      simp only
      generalize (t.write r.address r.roles.active.register _ _).1 = answer
      cases answer with
      | error e => exact Or.inr ⟨e, rfl, rfl⟩
      | ok done => exact Or.inl ⟨_, rfl⟩

/-- A call on a regulator that knows its chip answers from that. -/
theorem exchange_of_identified (t : Transport ε σ) {r : Regulator} {chip : Chip}
    (h : r.chip? = some chip) (hcatalog : chip.profile ∈ Ramp.catalog) (bus : σ) (call : Call) :
    (r.exchange t bus call).Answering chip.profile := by
  have hspans := Ramp.Profile.contains_iff_spans (Ramp.catalog_fits _ hcatalog).1
  cases call with
  | probe =>
      rw [exchange_probe, probe_of_identified h]
      refine ⟨fun _ => ⟨rfl, rfl⟩, ?_, nofun, nofun, rfl⟩
      constructor
      · nofun
      · rintro ⟨uv, hcall, _⟩
        cases hcall
  | getVoltage => exact answering_getVoltage t h bus
  | setVoltage uv =>
      cases hcontains : chip.profile.contains uv with
      | false =>
          have houtside : ¬chip.profile.Spans uv := by
            rw [← hspans, hcontains]
            nofun
          exact answering_setVoltage_of_outside t h hcontains houtside bus
      | true => exact answering_setVoltage t h hcontains ((hspans uv).mp hcontains) bus

/-- Once the chip is known, it is known for the rest of the session. -/
theorem session_of_identified (t : Transport ε σ) {r : Regulator} {chip : Chip}
    (h : r.chip? = some chip) (hcatalog : chip.profile ∈ Ramp.catalog) (bus : σ)
    (turns : List (Turn σ)) :
    ∀ e ∈ r.session t bus turns, e.Answering chip.profile := by
  have hkeeps (s : Regulator) (bus : σ) (call : Call) (hs : s.chip? = some chip) :
      (s.exchange t bus call).regulator.chip? = some chip := by
    rw [regulator_exchange_of_identified t hs, hs]
  have hshows (s : Regulator) (bus : σ) (call : Call) (hs : s.chip? = some chip) :
      (s.exchange t bus call).Answering chip.profile :=
    exchange_of_identified t hs hcatalog bus call
  exact forall_mem_session t hkeeps hshows h bus turns

/-- A session searches throughout, or up to the probe that identifies the chip. -/
theorem session_of_unprobed (t : Transport ε σ) {r : Regulator} (h : r.Unprobed) (bus : σ)
    (turns : List (Turn σ)) :
    (∀ e ∈ r.session t bus turns, e.Searching r) ∨
      ∃ early switch late profile, r.session t bus turns = early ++ switch :: late ∧
        (∀ e ∈ early, e.Searching r) ∧ switch.Identifies t r profile ∧
        ∀ e ∈ late, e.Answering profile := by
  induction turns generalizing bus with
  | nil => exact Or.inl (List.forall_mem_nil _)
  | cons turn rest ih =>
      let first := r.exchange t (turn.change bus) turn.call
      rcases exchange_of_unprobed t h (turn.change bus) turn.call with
        ⟨hsearching, hregulator⟩ | ⟨chip, hchip, hcatalog, hidentifies⟩
      · -- The regulator is as it was, so the rest of the session starts over.
        simp only [session, hregulator]
        rcases ih first.after with
          hall | ⟨early, switch, late, profile, hsplit, hearly, hswitch, hlate⟩
        · exact Or.inl (List.forall_mem_cons.mpr ⟨hsearching, hall⟩)
        · right
          refine ⟨first :: early, switch, late, profile, ?_, ?_, hswitch, hlate⟩
          · rw [hsplit, List.cons_append]
          · exact List.forall_mem_cons.mpr ⟨hsearching, hearly⟩
      · right
        exact ⟨[], _, _, chip.profile, rfl, List.forall_mem_nil _, hidentifies,
          session_of_identified t hchip hcatalog _ rest⟩

/-- A session on any bus, with anything done to the bus between the calls,
searches until a probe identifies the chip. From then on every call answers with
that chip's profile. Calibration is asked for by that one probe at most, and by
it if and only if the maker and the configuration call for it. -/
theorem session_phases (t : Transport ε σ) {vendor : Vendor} {config : Config}
    {r : Regulator} (h : Regulator.new (ε := ε) vendor config = .ok r) (bus : σ)
    (turns : List (Turn σ)) :
    (∀ e ∈ r.session t bus turns, e.result ≠ .error .invalidConfiguration) ∧
      ((∀ e ∈ r.session t bus turns, e.Searching r) ∨
        ∃ early switch late profile, r.session t bus turns = early ++ switch :: late ∧
          (∀ e ∈ early, e.Searching r) ∧ switch.Identifies t r profile ∧
          (switch.trimming ≠ [] ↔ vendor = .silergy ∧ config.calibrate = true) ∧
          ∀ e ∈ late, e.Answering profile) := by
  obtain ⟨roles, _, rfl⟩ := new_ok h
  let r : Regulator :=
    { vendor, roles, address := config.address, calibrate := config.calibrate }
  have hunprobed : r.Unprobed := ⟨rfl, rfl⟩
  rcases session_of_unprobed t hunprobed bus turns with
    hall | ⟨early, switch, late, profile, hsplit, hearly, hswitch, hlate⟩
  · exact ⟨fun e member => (hall e member).not_invalidConfiguration, Or.inl hall⟩
  · refine ⟨?_, Or.inr ⟨early, switch, late, profile, hsplit, hearly, hswitch, ?_, hlate⟩⟩
    · intro e member
      rw [hsplit] at member
      rcases List.mem_append.mp member with member | member
      · exact (hearly e member).not_invalidConfiguration
      · rcases List.mem_cons.mp member with rfl | member
        · exact hswitch.not_invalidConfiguration
        · exact (hlate e member).not_invalidConfiguration
    · rw [hswitch.trimming_ne_nil_iff, calibrationDue_iff]

/-- A regulator and a fresh trim chip at one address. The second identification
register fails the first time it is read. -/
def hesitant : Board :=
  .ofLayouts [⟨0x40, [(0x00, 0x80), (0x03, 0x88), (0x0B, 0x11), (0x0E, 0x00)], [], []⟩]
    [{ register := some Register.id2, limit := some 1 }]

def hesitantRegulator : Regulator :=
  { vendor := .silergy, address := 0x40, roles := .ofSleep .vsel1, calibrate := true }

def hesitantTurns : List (Turn Board) :=
  [{ call := .getVoltage }, { call := .probe }, { call := .probe }, { call := .probe },
    { call := .setVoltage 5000000 }, { call := .getVoltage }]

theorem hesitant_phases :
    Regulator.new (ε := Bus.Failure) .silergy {} = .ok hesitantRegulator ∧
      let exchanges := hesitantRegulator.session Board.transport hesitant hesitantTurns
      exchanges.map (·.log.length) = [0, 2, 17, 0, 0, 1] ∧
        ∃ early switch late profile, exchanges = early ++ switch :: late ∧
          (∀ e ∈ early, e.Searching hesitantRegulator) ∧ switch.trimming ≠ [] ∧
          ∀ e ∈ late, e.Answering profile := by
  have hnew : Regulator.new (ε := Bus.Failure) .silergy {} = .ok hesitantRegulator := rfl
  refine ⟨hnew, by decide, ?_⟩
  rcases (session_phases Board.transport hnew hesitant hesitantTurns).2 with
    hall | ⟨early, switch, late, profile, hsplit, hearly, _, hdue, hlate⟩
  · have hthird := hall _ (List.getElem_mem (show 2 < 6 by decide))
    exact absurd hthird.brief (by decide)
  · exact ⟨early, switch, late, profile, hsplit, hearly, hdue.mpr ⟨rfl, rfl⟩, hlate⟩

end BuckRegulator.Regulator
