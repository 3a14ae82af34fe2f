import BuckRegulator.Board.Basic
import BuckRegulator.Proofs.Regulator.Session

/-!
What a regulator knows, and how it comes to know it. Its roles are fixed when it
is made. All else is learnt in one exchange, the probe that finds the chip in the
catalog: first the two nibbles that were read and the ramp that follows from them,
then a report if calibration is due. A probe that fails teaches nothing, so a report
goes with a chip in every state in between. The chip keeps later probes from the bus,
and a report keeps any other from its place, so what is known is neither forgotten
nor replaced. This holds of every state of every session, whatever the bus answers
and whatever is done to it in between.
-/

namespace BuckRegulator

theorem Ramp.Die.ofRegisters_le (id1 id2 : UInt8) :
    (Die.ofRegisters id1 id2).id ≤ 15 ∧ (Die.ofRegisters id1 id2).rev ≤ 15 := by
  have hnibble (byte : UInt8) : byte &&& 0x0F ≤ 15 := by
    rw [UInt8.le_iff_toNat_le, UInt8.toNat_and]
    exact Nat.and_le_right
  exact ⟨hnibble id1, hnibble id2⟩

namespace Regulator

open Bus (Procedure Transport)

variable {ε σ : Type}

structure Chip.Sound (r : Regulator) (chip : Chip) : Prop where
  vendor : chip.vendor = r.vendor
  nibbles : chip.die.id ≤ 15 ∧ chip.die.rev ≤ 15
  resolved : Ramp.resolve r.vendor chip.die = .ok chip.profile

/-- A state that a regulator may have come to: set up as it was, with no chip but one that
a probe can have found, and with a report exactly where there is a chip and calibration
was due. -/
structure Follows (origin r : Regulator) : Prop where
  setup : r = { origin with chip? := r.chip?, report? := r.report? }
  sound : ∀ chip, r.chip? = some chip → chip.Sound origin
  tied : r.report?.isSome = (r.chip?.isSome && origin.calibrationDue)
  classified : ∀ report, r.report? = some report →
    report.population = .classify report.primary report.secondary

theorem follows_self {r : Regulator} (h : r.Unprobed) : r.Follows r := by
  refine ⟨rfl, ?_, ?_, ?_⟩
  · rw [h.chip]
    nofun
  · rw [h.chip, h.report]
    rfl
  · rw [h.report]
    nofun

/-- Where the chip is not known, there is no report either. -/
theorem Follows.unprobed {origin r : Regulator} (h : origin.Follows r) (hchip : r.chip? = none) :
    r.Unprobed := by
  refine ⟨hchip, ?_⟩
  rw [← Option.not_isSome_iff_eq_none, h.tied, hchip]
  exact Bool.false_ne_true

/-- Such a state is the one that the regulator began in. -/
theorem Follows.eq_of_unidentified {origin r : Regulator} (h : origin.Follows r)
    (horigin : origin.Unprobed) (hchip : r.chip? = none) : r = origin := by
  have hr := h.unprobed hchip
  rw [h.setup, hr.chip, hr.report, ← horigin.chip, ← horigin.report]

theorem Follows.address {origin r : Regulator} (h : origin.Follows r) :
    r.address = origin.address := by
  rw [h.setup]

theorem Follows.roles {origin r : Regulator} (h : origin.Follows r) :
    r.roles = origin.roles := by
  rw [h.setup]

theorem Follows.calibrationDue {origin r : Regulator} (h : origin.Follows r) :
    r.calibrationDue = origin.calibrationDue := by
  rw [h.setup]
  rfl

theorem report_calibrateIfDue (t : Transport ε σ) {r : Regulator} (h : r.report? = none)
    (bus : σ) :
    let after := ((r.calibrateIfDue).run t bus).result
    after.report?.isSome = r.calibrationDue ∧ ∀ report, after.report? = some report →
      report.population = .classify report.primary report.secondary := by
  simp only [calibrateIfDue_of_unreported t h]
  split
  · next due =>
      refine ⟨due.symm, ?_⟩
      intro report hreport
      rw [← Option.some.inj hreport, Trim.run_calibrate]
  · next spared =>
      rw [h]
      exact ⟨(Bool.eq_false_iff.mpr spared).symm, nofun⟩

/-- An exchange teaches a regulator nothing, or it is the probe that finds the chip of a
regulator that knew none, and goes on to calibrate. -/
theorem exchange_learns (t : Transport ε σ) (r : Regulator) (bus : σ) (call : Call) :
    let e := r.exchange t bus call
    e.regulator = r ∨ r.chip? = none ∧ ∃ chip found, chip.Sound r ∧
      e.regulator = (((r.identifiedAs chip).calibrateIfDue).run t found).result := by
  cases call with
  | getVoltage =>
      left
      rw [exchange_getVoltage]
  | setVoltage uv =>
      left
      rw [exchange_setVoltage]
  | probe =>
      cases hchip : r.chip? with
      | some chip =>
          left
          rw [exchange_probe, probe_of_identified hchip]
          rfl
      | none =>
          simp only [exchange_probe, run_probe_of_unidentified t hchip]
          rcases identify_cases t r bus with ⟨failure, hfailed, _⟩ |
            ⟨id1, id2, unsupported, _, hunsupported, _⟩ |
            ⟨id1, id2, first, second, profile, _, _, hresolve, hrun⟩
          · left
            simp only [hfailed]
          · left
            simp only [hunsupported]
          · right
            let chip : Chip := ⟨r.vendor, .ofRegisters id1 id2, profile⟩
            have hsound : chip.Sound r := ⟨rfl, Ramp.Die.ofRegisters_le id1 id2, hresolve⟩
            simp only [hrun]
            exact ⟨trivial, chip, second, hsound, rfl⟩

theorem follows_exchange (t : Transport ε σ) {origin r : Regulator} (h : origin.Follows r)
    (bus : σ) (call : Call) : origin.Follows (r.exchange t bus call).regulator := by
  rcases exchange_learns t r bus call with hsame | ⟨hchip, chip, found, hsound, hlearnt⟩
  · rw [hsame]
    exact h
  · have hreport : (r.identifiedAs chip).report? = none := (h.unprobed hchip).report
    obtain ⟨hdue, hclassified⟩ := report_calibrateIfDue t hreport found
    obtain ⟨report?, hafter⟩ := exists_calibrateIfDue t (r.identifiedAs chip) found
    rw [hafter] at hdue hclassified
    rw [hlearnt, hafter]
    refine ⟨?_, ?_, ?_, hclassified⟩
    · rw [h.setup]
      rfl
    · rintro _ ⟨⟩
      rw [h.setup] at hsound
      exact ⟨hsound.vendor, hsound.nibbles, hsound.resolved⟩
    · exact hdue.trans h.calibrationDue

theorem follows_session (t : Transport ε σ) {origin r : Regulator} (h : origin.Follows r)
    (bus : σ) (turns : List (Turn σ)) :
    ∀ e ∈ r.session t bus turns, origin.Follows e.regulator := by
  have hkeeps (s : Regulator) (bus : σ) (call : Call) (hs : origin.Follows s) :
      origin.Follows (s.exchange t bus call).regulator :=
    follows_exchange t hs bus call
  exact forall_mem_session t hkeeps hkeeps h bus turns

structure Retains (earlier later : Regulator) : Prop where
  chip : ∀ chip, earlier.chip? = some chip → later.chip? = some chip
  report : ∀ report, earlier.report? = some report → later.report? = some report

theorem retains_self (r : Regulator) : r.Retains r :=
  ⟨fun _ h => h, fun _ h => h⟩

theorem Retains.trans {first second third : Regulator} (h : first.Retains second)
    (h' : second.Retains third) : first.Retains third :=
  ⟨fun chip hchip => h'.chip chip (h.chip chip hchip),
    fun report hreport => h'.report report (h.report report hreport)⟩

theorem retains_exchange (t : Transport ε σ) (r : Regulator) (bus : σ) (call : Call) :
    r.Retains (r.exchange t bus call).regulator := by
  rcases exchange_learns t r bus call with hsame | ⟨hnone, chip, found, _, hlearnt⟩
  · rw [hsame]
    exact r.retains_self
  · refine ⟨?_, ?_⟩
    · intro known hknown
      rw [hnone] at hknown
      cases hknown
    · intro report hreport
      rw [hlearnt, calibrateIfDue_of_reported t (r := r.identifiedAs chip) hreport]
      exact hreport

theorem retains_session (t : Transport ε σ) (r : Regulator) (bus : σ)
    (turns : List (Turn σ)) : ∀ e ∈ r.session t bus turns, r.Retains e.regulator := by
  have hkeeps (s : Regulator) (bus : σ) (call : Call) (hs : r.Retains s) :
      r.Retains (s.exchange t bus call).regulator :=
    hs.trans (retains_exchange t s bus call)
  exact forall_mem_session t hkeeps hkeeps r.retains_self bus turns

/-- The states of a regulator in a session: the one it begins in, and the one each
exchange leaves. -/
def states (t : Transport ε σ) (r : Regulator) (bus : σ) (turns : List (Turn σ)) :
    List Regulator :=
  r :: (r.session t bus turns).map (·.regulator)

theorem follows_states (t : Transport ε σ) {origin r : Regulator} (h : origin.Follows r)
    (bus : σ) (turns : List (Turn σ)) : ∀ s ∈ r.states t bus turns, origin.Follows s :=
  List.forall_mem_cons.mpr ⟨h, List.forall_mem_map.mpr (follows_session t h bus turns)⟩

theorem pairwise_states (t : Transport ε σ) (r : Regulator) (bus : σ)
    (turns : List (Turn σ)) : (r.states t bus turns).Pairwise Retains := by
  induction turns generalizing r bus with
  | nil => exact List.pairwise_singleton _ _
  | cons turn rest ih =>
      have hfirst := retains_session t r bus (turn :: rest)
      exact List.pairwise_cons.mpr ⟨List.forall_mem_map.mpr hfirst, ih _ _⟩

/-- An exchange of a session is made by a regulator that follows the first one, and
that knows whatever the exchanges before it taught. -/
theorem exchange_of_session (t : Transport ε σ) {origin r : Regulator} (h : origin.Follows r)
    {bus : σ} {turns : List (Turn σ)} {early late : List (Exchange ε σ)} {e : Exchange ε σ}
    (hsplit : r.session t bus turns = early ++ e :: late) :
    ∃ s before, e = s.exchange t before e.call ∧ origin.Follows s ∧ r.Retains s ∧
      ∀ earlier ∈ early, earlier.regulator.Retains s := by
  induction early generalizing r bus turns with
  | nil =>
      cases turns with
      | nil => cases hsplit
      | cons turn rest =>
          rw [session, List.nil_append, List.cons.injEq] at hsplit
          obtain ⟨rfl, _⟩ := hsplit
          exact ⟨r, turn.change bus, rfl, h, r.retains_self, List.forall_mem_nil _⟩
  | cons first early ih =>
      cases turns with
      | nil => cases hsplit
      | cons turn rest =>
          rw [session, List.cons_append, List.cons.injEq] at hsplit
          obtain ⟨rfl, hrest⟩ := hsplit
          obtain ⟨s, before, he, hs, hretains, hearly⟩ :=
            ih (follows_exchange t h (turn.change bus) turn.call) hrest
          have hfirst := retains_exchange t r (turn.change bus) turn.call
          exact ⟨s, before, he, hs, hfirst.trans hretains,
            List.forall_mem_cons.mpr ⟨hretains, hearly⟩⟩

/-- What a caller can observe of a regulator made for a vendor from a configuration,
in any state. -/
structure Consistent (vendor : Vendor) (config : Config) (r : Regulator) : Prop where
  configured : config.roles? = some r.roles
  distinct : r.roles.active ≠ r.roles.sleep
  chip : ∀ chip, r.chip? = some chip →
    chip.vendor = vendor ∧ chip.die.id ≤ 15 ∧ chip.die.rev ≤ 15 ∧
      Ramp.resolve chip.vendor chip.die = .ok chip.profile ∧
      chip.profile.vendor = chip.vendor ∧ chip.profile.die.id = chip.die.id
  report : r.report?.isSome = true ↔
    r.chip?.isSome = true ∧ vendor = .silergy ∧ config.calibrate = true
  population : ∀ report, r.report? = some report → r.population = report.population ∧
    report.population = .classify report.primary report.secondary
  unreported : r.report? = none → r.population = .neither

theorem Chip.Sound.profile {origin : Regulator} {chip : Chip} (h : chip.Sound origin) :
    Ramp.resolve chip.vendor chip.die = .ok chip.profile ∧
      chip.profile.vendor = chip.vendor ∧ chip.profile.die.id = chip.die.id := by
  have hcovers := Ramp.covers_of_resolveIn h.resolved
  rw [Ramp.Profile.covers_iff, ← h.vendor] at hcovers
  refine ⟨?_, hcovers.1, hcovers.2.1⟩
  rw [h.vendor]
  exact h.resolved

/-- A regulator is consistent in every state that it may come to. -/
theorem Follows.consistent {vendor : Vendor} {config : Config} {origin r : Regulator}
    (hnew : Regulator.new (ε := ε) vendor config = .ok origin) (h : origin.Follows r) :
    r.Consistent vendor config := by
  obtain ⟨roles, hroles, rfl⟩ := new_ok hnew
  obtain ⟨sleep, _, hsleep⟩ := Option.map_eq_some_iff.mp hroles
  refine ⟨?_, ?_, ?_, ?_, ?_, ?_⟩
  · rw [h.roles, hroles]
  · rw [h.roles, ← hsleep]
    exact Roles.active_ne_sleep_ofSleep sleep
  · intro chip hchip
    have hsound := h.sound chip hchip
    exact ⟨hsound.vendor, hsound.nibbles.1, hsound.nibbles.2, hsound.profile⟩
  · rw [h.tied, Bool.and_eq_true, calibrationDue_iff]
  · intro report hreport
    refine ⟨?_, h.classified report hreport⟩
    rw [population, hreport]
    rfl
  · intro hnone
    rw [population, hnone]
    rfl

/-- Whatever the bus answers and whatever is done to it between the calls, every state
of a session is consistent with the vendor and the configuration that the regulator was
made from, its roles are those it was made with, and what is known of the chip or of
its calibration in one state is known unchanged in all later ones. -/
theorem session_states_consistent (t : Transport ε σ) {vendor : Vendor} {config : Config}
    {r : Regulator} (h : Regulator.new (ε := ε) vendor config = .ok r) (bus : σ)
    (turns : List (Turn σ)) :
    (∀ s ∈ r.states t bus turns, s.Consistent vendor config ∧ s.roles = r.roles) ∧
      (r.states t bus turns).Pairwise fun earlier later =>
        (∀ chip, earlier.chip? = some chip → later.chip? = some chip) ∧
          ∀ report, earlier.report? = some report → later.report? = some report := by
  have hfollows := follows_states t (follows_self (unprobed_of_new h)) bus turns
  refine ⟨fun s member => ?_, ?_⟩
  · have hs := hfollows s member
    exact ⟨hs.consistent h, hs.roles⟩
  · exact (pairwise_states t r bus turns).imp fun hretains => ⟨hretains.chip, hretains.report⟩

/-- A chip that shows another identification the first time it is asked. -/
def wavering : Board :=
  .ofLayouts [⟨0x40, [(0x03, 0xF8), (0x04, 0x10), (0x0E, 0x00)], [], [(0x03, [0xF7])]⟩] []

def waveringRegulator : Regulator :=
  { vendor := .silergy, address := 0x40, roles := .ofSleep .vsel1, calibrate := true }

def waveringTurns : List (Turn Board) :=
  [{ call := .probe }, { call := .probe }, { change := Board.detach 0x40, call := .probe }]

theorem wavering_consistent :
    Regulator.new (ε := Bus.Failure) .silergy {} = .ok waveringRegulator ∧
      let states := waveringRegulator.states Board.transport wavering waveringTurns
      states.map (fun s => s.chip?.map (·.die)) = [none, none, some ⟨8, 0⟩, some ⟨8, 0⟩] ∧
        states.map (·.population) = [.neither, .neither, .primaryOnly, .primaryOnly] ∧
        ∀ s ∈ states, s.Consistent .silergy {} := by
  have hnew : Regulator.new (ε := Bus.Failure) .silergy {} = .ok waveringRegulator := rfl
  have hstates := session_states_consistent Board.transport hnew wavering waveringTurns
  exact ⟨hnew, by decide, by decide, fun s member => (hstates.1 s member).1⟩

end Regulator

end BuckRegulator
