import BuckRegulator.Proofs.Trim.Protocol
import Mathlib.Logic.ExistsUnique

/-!
What the outcome of a calibration says about its log. The five outcomes are
described by the two detections and by the reads of trim bytes before the first
write, without the plan that the procedure makes. Of these descriptions exactly
one fits the log of a run, and it is the one of the outcome that is reported.
-/

namespace BuckRegulator.Trim

open Bus (Procedure Transaction Transport)

variable {ε σ : Type}

def beforeWrites (log : List (Transaction ε)) : List (Transaction ε) :=
  log.takeWhile (!·.isWrite)

theorem beforeWrites_append {reads : List (Transaction ε)}
    (h : ∀ entry ∈ reads, entry.isWrite = false) (later : List (Transaction ε)) :
    beforeWrites (reads ++ later) = reads ++ beforeWrites later := by
  apply List.takeWhile_append_of_pos
  intro entry member
  rw [h entry member, Bool.not_false]

theorem beforeWrites_of_reads {reads : List (Transaction ε)}
    (h : ∀ entry ∈ reads, entry.isWrite = false) : beforeWrites reads = reads := by
  have happend := beforeWrites_append h []
  rw [List.append_nil] at happend
  rw [happend]
  exact List.append_nil reads

def SavedFrom (site : Site) (reads : List (Transaction ε)) : Prop :=
  ∀ register ∈ [0x0B, 0x0C, 0x0D],
    ∃ value, .read site.address register (.ok value) ∈ reads

def FailedFrom (site : Site) (reads : List (Transaction ε)) : Prop :=
  ∃ register ∈ [0x0B, 0x0C, 0x0D],
    ∃ failure, .read site.address register (.error failure) ∈ reads

/-- What was found at each site, given what was found at the two of them. -/
def found (primary secondary : Detection) : Site → Detection
  | .primary => primary
  | .secondary => secondary

/-- The secondary has to be calibrated, but a part of another kind stands where
its status would be written. -/
def Obstructed (found : Site → Detection) : Prop :=
  (found .primary).isForeign = true ∧ found .secondary = .present false

def Fresh (found : Site → Detection) : Prop :=
  ∃ site, found site = .present false

/-- What was found at the sites and the log after the status reads, as they are
when a calibration ends in an outcome. -/
def Outcome.Fits (found : Site → Detection) (log : List (Transaction ε)) : Outcome → Prop
  | .unsupported => Obstructed found
  | .noTargets => ∀ site, (found site).isPresent = false
  | .alreadyCalibrated => (∃ site, (found site).isPresent = true) ∧
      ∀ site, (found site).isPresent = true → (found site).isCalibrated = true
  | .aborted => ¬Obstructed found ∧ Fresh found ∧
      ∃ site, (found site).isPresent = true ∧ FailedFrom site (beforeWrites log)
  | .calibrated => ¬Obstructed found ∧ Fresh found ∧
      ∀ site, (found site).isPresent = true → SavedFrom site (beforeWrites log)

/-- If saving registers yields nothing, some register failed and no read of it
succeeded; otherwise all of them were read and no read failed. -/
theorem readEach_shows (t : Transport ε σ) (address : UInt8) (registers : List UInt8)
    (hdistinct : registers.Nodup) (bus : σ) :
    let run := (readEach address registers).run t bus
    match run.result with
    | none => ∃ register ∈ registers,
        (∃ failure, .read address register (.error failure) ∈ run.log) ∧
        ∀ value, .read address register (.ok value) ∉ run.log
    | some _ => (∀ register ∈ registers, ∃ value,
        .read address register (.ok value) ∈ run.log) ∧
        ∀ entry ∈ run.log, entry.failed = false := by
  induction registers generalizing bus with
  | nil => simp [readEach]
  | cons register rest ih =>
      obtain ⟨hnew, hrest⟩ := List.nodup_cons.mp hdistinct
      simp only [run_readEach_cons]
      cases (t.read address register bus).1 with
      | error e => simp
      | ok value =>
          have hshows := ih hrest (t.read address register bus).2
          generalize (readEach address rest).run t (t.read address register bus).2 = later
            at hshows ⊢
          cases hlater : later.result with
          | none =>
              simp only [hlater] at hshows ⊢
              obtain ⟨failed, hfailed, ⟨failure, member⟩, hnone⟩ := hshows
              refine ⟨failed, List.mem_cons_of_mem _ hfailed,
                ⟨failure, List.mem_cons_of_mem _ member⟩, ?_⟩
              intro got hgot
              rcases List.mem_cons.mp hgot with here | there
              · cases here
                exact hnew hfailed
              · exact hnone got there
          | some saved =>
              simp only [hlater] at hshows ⊢
              obtain ⟨hread, hclean⟩ := hshows
              refine ⟨?_, ?_⟩
              · intro wanted hwanted
                rcases List.mem_cons.mp hwanted with rfl | hwanted
                · exact ⟨value, List.mem_cons_self⟩
                · obtain ⟨got, member⟩ := hread wanted hwanted
                  exact ⟨got, List.mem_cons_of_mem _ member⟩
              · intro entry member
                rcases List.mem_cons.mp member with rfl | member
                · rfl
                · exact hclean entry member

theorem address_of_mem_readEach (t : Transport ε σ) (address : UInt8)
    (registers : List UInt8) (bus : σ) :
    ∀ entry ∈ ((readEach address registers).run t bus).log, entry.address = address := by
  induction registers generalizing bus with
  | nil =>
      intro entry member
      cases member
  | cons register rest ih =>
      rw [run_readEach_cons]
      cases got : (t.read address register bus).1 with
      | error e => simp [got, Transaction.address]
      | ok value =>
          simp only [got, List.mem_cons, forall_eq_or_imp]
          exact ⟨rfl, ih _⟩

/-- The log of saving a site tells whether its trim bytes could be saved. -/
theorem save_shows (t : Transport ε σ) (site : Site) (bus : σ) :
    let run := (save site).run t bus
    match run.result with
    | none => FailedFrom site run.log ∧ ¬SavedFrom site run.log
    | some _ => SavedFrom site run.log ∧ ¬FailedFrom site run.log := by
  have hshows := readEach_shows t site.address trimRegisters (by decide) bus
  rw [save]
  generalize (readEach site.address trimRegisters).run t bus = run at hshows ⊢
  cases hresult : run.result with
  | none =>
      simp only [hresult] at hshows ⊢
      obtain ⟨register, hregister, hfailed, hnone⟩ := hshows
      refine ⟨⟨register, hregister, hfailed⟩, ?_⟩
      intro hsaved
      obtain ⟨value, member⟩ := hsaved register hregister
      exact hnone value member
  | some saved =>
      simp only [hresult] at hshows ⊢
      refine ⟨hshows.1, ?_⟩
      rintro ⟨register, _, failure, member⟩
      cases hshows.2 _ member

/-- The sites whose trim bytes a plan saves. -/
def Plan.Saves : Plan → Site → Prop
  | .rest _, _ => False
  | .solo only, site => site = only
  | .pair, _ => True

/-- A log that shows a plan to have been carried out. -/
structure Plan.Completed (plan : Plan) (log : List (Transaction ε)) : Prop where
  wrote : ∃ entry ∈ log, entry.isWrite = true
  saved : ∀ site, plan.Saves site → SavedFrom site (beforeWrites log)
  clean : ∀ site, plan.Saves site → ¬FailedFrom site (beforeWrites log)

/-- A log that shows a plan to have been given up before the first write. -/
structure Plan.GivenUp (plan : Plan) (log : List (Transaction ε)) : Prop where
  unwritten : ∀ entry ∈ log, entry.isWrite = false
  failed : ∃ site, plan.Saves site ∧ FailedFrom site (beforeWrites log) ∧
    ¬SavedFrom site (beforeWrites log)

theorem exists_write_issue (t : Transport ε σ) (faults : UInt8) {writes : List Write}
    (h : writes ≠ []) (bus : σ) :
    ∃ w : Write, ∃ answer later, ((issue faults writes).run t bus).log =
      .write w.address w.register w.value answer :: later := by
  cases writes with
  | nil => exact absurd rfl h
  | cons w rest =>
      simp only [issue, Procedure.run_bind, Bus.run_write, List.cons_append, List.nil_append]
      exact ⟨w, _, _, rfl⟩

/-- A plan whose sites could all be saved is completed by a log that goes on
with a write. -/
theorem completed_of_log (plan : Plan) {reads issued : List (Transaction ε)}
    (hreads : ∀ entry ∈ reads, entry.isWrite = false)
    (hwrite : ∃ w : Write, ∃ answer others,
      issued = .write w.address w.register w.value answer :: others)
    (hsaved : ∀ site, plan.Saves site → SavedFrom site reads ∧ ¬FailedFrom site reads) :
    plan.Completed (reads ++ issued) := by
  obtain ⟨w, answer, others, rfl⟩ := hwrite
  have hbefore : beforeWrites
      (reads ++ .write w.address w.register w.value answer :: others) = reads := by
    rw [beforeWrites_append hreads]
    exact List.append_nil reads
  refine ⟨⟨.write w.address w.register w.value answer, by simp, rfl⟩, ?_, ?_⟩
  · intro site hsite
    rw [hbefore]
    exact (hsaved site hsite).1
  · intro site hsite
    rw [hbefore]
    exact (hsaved site hsite).2

theorem perform_solo_shows (t : Transport ε σ) (site : Site) (bus : σ) :
    let run := (Plan.solo site).perform.run t bus
    (run.result.1 = .calibrated ∧ (Plan.solo site).Completed run.log) ∨
      (run.result.1 = .aborted ∧ (Plan.solo site).GivenUp run.log) := by
  have hshows := save_shows t site bus
  dsimp only at hshows
  have hreads := isWrite_of_mem_save t site bus
  simp only [run_perform_solo]
  generalize (save site).run t bus = saving at hshows hreads ⊢
  cases hresult : saving.result with
  | none =>
      rw [hresult] at hshows
      refine Or.inr ⟨rfl, hreads, site, rfl, ?_⟩
      rwa [beforeWrites_of_reads hreads]
  | some saved =>
      rw [hresult] at hshows
      refine Or.inl ⟨rfl, completed_of_log _ hreads ?_ ?_⟩
      · have hwrites : soloWrites site saved ≠ [] := List.cons_ne_nil _ _
        obtain ⟨w, answer, later, hlog⟩ := exists_write_issue t 0 hwrites saving.bus
        exact ⟨w, answer, _, congrArg (· ++ _) hlog⟩
      · rintro only rfl
        exact hshows

/-- What was read at another address tells nothing of a site. -/
theorem from_append_left (site : Site) (reads others : List (Transaction ε))
    (h : ∀ entry ∈ others, entry.address ≠ site.address) :
    (SavedFrom site (reads ++ others) ↔ SavedFrom site reads) ∧
      (FailedFrom site (reads ++ others) ↔ FailedFrom site reads) := by
  have hmem (register : UInt8) (answer : Except ε UInt8) :
      .read site.address register answer ∈ reads ++ others ↔
        .read site.address register answer ∈ reads := by
    rw [List.mem_append]
    exact or_iff_left fun member => h _ member rfl
  simp only [SavedFrom, FailedFrom, hmem, and_self]

theorem from_append_right (site : Site) (others reads : List (Transaction ε))
    (h : ∀ entry ∈ others, entry.address ≠ site.address) :
    (SavedFrom site (others ++ reads) ↔ SavedFrom site reads) ∧
      (FailedFrom site (others ++ reads) ↔ FailedFrom site reads) := by
  have hmem (register : UInt8) (answer : Except ε UInt8) :
      .read site.address register answer ∈ others ++ reads ↔
        .read site.address register answer ∈ reads := by
    rw [List.mem_append]
    exact or_iff_right fun member => h _ member rfl
  simp only [SavedFrom, FailedFrom, hmem, and_self]

theorem perform_pair_shows (t : Transport ε σ) (bus : σ) :
    let run := Plan.pair.perform.run t bus
    (run.result.1 = .calibrated ∧ Plan.pair.Completed run.log) ∨
      (run.result.1 = .aborted ∧ Plan.pair.GivenUp run.log) := by
  have hshows := save_shows t .primary bus
  dsimp only at hshows
  have hreads := isWrite_of_mem_save t .primary bus
  have haddress := address_of_mem_readEach t Site.primary.address trimRegisters bus
  rw [← save] at haddress
  simp only [run_perform_pair]
  generalize (save .primary).run t bus = first at hshows hreads haddress ⊢
  have hshows' := save_shows t .secondary first.bus
  dsimp only at hshows'
  have hreads' := isWrite_of_mem_save t .secondary first.bus
  have haddress' := address_of_mem_readEach t Site.secondary.address trimRegisters first.bus
  rw [← save] at haddress'
  generalize (save .secondary).run t first.bus = second at hshows' hreads' haddress' ⊢
  have hboth : ∀ entry ∈ first.log ++ second.log, entry.isWrite = false := by
    intro entry member
    exact (List.mem_append.mp member).elim (hreads entry) (hreads' entry)
  have hprimary := from_append_left .primary first.log second.log (by
    intro entry member
    rw [haddress' entry member]
    decide)
  have hsecondary := from_append_right .secondary first.log second.log (by
    intro entry member
    rw [haddress entry member]
    decide)
  cases hfirst : first.result with
  | none =>
      rw [hfirst] at hshows
      refine Or.inr ⟨rfl, hboth, .primary, trivial, ?_⟩
      rw [beforeWrites_of_reads hboth, hprimary.1, hprimary.2]
      exact hshows
  | some primary =>
      rw [hfirst] at hshows
      cases hsecond : second.result with
      | none =>
          rw [hsecond] at hshows'
          refine Or.inr ⟨rfl, hboth, .secondary, trivial, ?_⟩
          rw [beforeWrites_of_reads hboth, hsecondary.1, hsecondary.2]
          exact hshows'
      | some secondary =>
          rw [hsecond] at hshows'
          have hwrites : pairWrites primary secondary ≠ [] := List.cons_ne_nil _ _
          have hwrite := exists_write_issue t 0 hwrites second.bus
          have hcompleted := completed_of_log .pair hboth hwrite (by
            rintro (_ | _) _
            · rwa [hprimary.1, hprimary.2]
            · rwa [hsecondary.1, hsecondary.2])
          rw [List.append_assoc] at hcompleted
          exact Or.inl ⟨rfl, hcompleted⟩

theorem Site.forall_iff {holds : Site → Prop} :
    (∀ site, holds site) ↔ holds .primary ∧ holds .secondary := by
  constructor
  · intro h
    exact ⟨h _, h _⟩
  · rintro ⟨hprimary, hsecondary⟩ (_ | _)
    · exact hprimary
    · exact hsecondary

theorem Site.exists_iff {holds : Site → Prop} :
    (∃ site, holds site) ↔ holds .primary ∨ holds .secondary := by
  constructor
  · rintro ⟨_ | _, h⟩
    · exact Or.inl h
    · exact Or.inr h
  · rintro (h | h)
    · exact ⟨_, h⟩
    · exact ⟨_, h⟩

/-- The plan that two detections lead to is one of four: three that rest, each
for a reason of its own, or one that saves exactly the sites where a chip is. -/
theorem ofDetections_cases (primary secondary : Detection) :
    let plan := Plan.ofDetections primary secondary
    let found := found primary secondary
    (plan = .rest .unsupported ∧ Obstructed found) ∨
      (plan = .rest .noTargets ∧ ∀ site, (found site).isPresent = false) ∨
      (plan = .rest .alreadyCalibrated ∧ (∃ site, (found site).isPresent = true) ∧
        ∀ site, (found site).isPresent = true → (found site).isCalibrated = true) ∨
      ((plan = .pair ∨ ∃ site, plan = .solo site) ∧ ¬Obstructed found ∧ Fresh found ∧
        ∀ site, plan.Saves site ↔ (found site).isPresent = true) := by
  simp only [Site.forall_iff, Site.exists_iff, Obstructed, Fresh, found]
  rcases primary with _ | status | ⟨_ | _⟩ <;>
    rcases secondary with _ | status' | ⟨_ | _⟩ <;>
      simp [Plan.ofDetections, Population.classify, Detection.isPresent,
        Detection.isCalibrated, Detection.isForeign, Plan.Saves]

/-- At most one outcome fits, unless the same trim bytes were saved and failed. -/
theorem Outcome.Fits.unique {found : Site → Detection} {log : List (Transaction ε)}
    (hdecided : ¬((∃ site, (found site).isPresent = true ∧
        FailedFrom site (beforeWrites log)) ∧
      ∀ site, (found site).isPresent = true → SavedFrom site (beforeWrites log)))
    {first second : Outcome} (hfirst : first.Fits found log)
    (hsecond : second.Fits found log) : first = second := by
  have hobstructed : Obstructed found → Fresh found := fun h => ⟨.secondary, h.2⟩
  have hnone : (∀ site, (found site).isPresent = false) → ¬Fresh found := by
    rintro h ⟨site, hsite⟩
    have hpresent := h site
    rw [hsite] at hpresent
    cases hpresent
  have hdone : (∀ site, (found site).isPresent = true → (found site).isCalibrated = true) →
      ¬Fresh found := by
    rintro h ⟨site, hsite⟩
    have hcalibrated := h site (by rw [hsite]; rfl)
    rw [hsite] at hcalibrated
    cases hcalibrated
  cases first <;> cases second <;> grind [Outcome.Fits]

/-- Carrying out a plan that does not rest is completed or given up. -/
theorem perform_shows (t : Transport ε σ) {plan : Plan}
    (hplan : plan = .pair ∨ ∃ site, plan = .solo site) (bus : σ) :
    let run := plan.perform.run t bus
    (run.result.1 = .calibrated ∧ plan.Completed run.log) ∨
      (run.result.1 = .aborted ∧ plan.GivenUp run.log) := by
  rcases hplan with rfl | ⟨site, rfl⟩
  · exact perform_pair_shows t bus
  · exact perform_solo_shows t site bus

/-- The outcome that carrying out a plan ends in fits the log, the log leaves no
doubt whether the trim bytes were saved, and it has writes only if the chips
were calibrated. -/
theorem perform_fits (t : Transport ε σ) (primary secondary : Detection) (bus : σ) :
    let run := (Plan.ofDetections primary secondary).perform.run t bus
    let found := found primary secondary
    run.result.1.Fits found run.log ∧
      ((∃ entry ∈ run.log, entry.isWrite = true) ↔ run.result.1 = .calibrated) ∧
      ¬((∃ site, (found site).isPresent = true ∧ FailedFrom site (beforeWrites run.log)) ∧
        ∀ site, (found site).isPresent = true → SavedFrom site (beforeWrites run.log)) := by
  -- A plan that rests leaves an empty log, where nothing failed.
  have hrest (outcome : Outcome) : ¬∃ site, (found primary secondary site).isPresent = true ∧
      FailedFrom (ε := ε) site (beforeWrites
        ((Plan.rest outcome).perform.run t bus).log) := by
    rintro ⟨site, _, register, _, failure, member⟩
    cases member
  rcases ofDetections_cases primary secondary with ⟨hplan, hfits⟩ | ⟨hplan, hfits⟩ |
    ⟨hplan, hfits⟩ | ⟨hplan, hclear, hfresh, hsaves⟩
  · rw [hplan]
    exact ⟨hfits, by simp [Plan.perform], fun h => hrest _ h.1⟩
  · rw [hplan]
    exact ⟨hfits, by simp [Plan.perform], fun h => hrest _ h.1⟩
  · rw [hplan]
    exact ⟨hfits, by simp [Plan.perform], fun h => hrest _ h.1⟩
  · rcases perform_shows t hplan bus with ⟨hresult, hdone⟩ | ⟨hresult, hgiven⟩
    · refine ⟨?_, ?_, ?_⟩
      · rw [hresult]
        exact ⟨hclear, hfresh, fun site hsite => hdone.saved site ((hsaves site).mpr hsite)⟩
      · exact ⟨fun _ => hresult, fun _ => hdone.wrote⟩
      · rintro ⟨⟨site, hsite, hfailed⟩, _⟩
        exact hdone.clean site ((hsaves site).mpr hsite) hfailed
    · obtain ⟨site, hsite, hfailed, hunsaved⟩ := hgiven.failed
      refine ⟨?_, ?_, ?_⟩
      · rw [hresult]
        exact ⟨hclear, hfresh, site, (hsaves site).mp hsite, hfailed⟩
      · rw [hresult]
        refine ⟨?_, fun h => by cases h⟩
        rintro ⟨entry, member, hwrite⟩
        rw [hgiven.unwritten entry member] at hwrite
        cases hwrite
      · rintro ⟨_, hsaved⟩
        exact hunsaved (hsaved site ((hsaves site).mp hsite))

/-- The report of a calibration is what its log shows. The detections are what
the two status reads reveal, the outcome is the only one that fits them and the
reads of trim bytes, and the log has a write exactly if the outcome says that
chips were calibrated. -/
theorem report_shows_log (t : Transport ε σ) (bus : σ) :
    let run := calibrate.run t bus
    let found := found run.result.primary run.result.secondary
    ∃ status0 status1 later,
      run.log = .read 0x40 0x0E status0 :: .read 0x41 0x0E status1 :: later ∧
      run.result.primary = reveal 0x00 0x04 status0 ∧
      run.result.secondary = reveal 0x40 0x44 status1 ∧
      run.result.population = .classify run.result.primary run.result.secondary ∧
      (∀ outcome : Outcome, run.result.outcome = outcome ↔ outcome.Fits found later) ∧
      (∃! outcome : Outcome, outcome.Fits found later) ∧
      ((∃ entry ∈ run.log, entry.isWrite = true) ↔ run.result.outcome = .calibrated) := by
  simp only [run_calibrate]
  obtain ⟨hfits, hwrote, hdecided⟩ := perform_fits t
    (.ofAnswer .primary (t.read Site.primary.address statusRegister bus).1)
    (.ofAnswer .secondary (t.read Site.secondary.address statusRegister
      (t.read Site.primary.address statusRegister bus).2).1)
    (t.read Site.secondary.address statusRegister
      (t.read Site.primary.address statusRegister bus).2).2
  refine ⟨_, _, _, rfl, ofAnswer_primary _, ofAnswer_secondary _, trivial, ?_, ?_, ?_⟩
  · intro outcome
    constructor
    · rintro rfl
      exact hfits
    · intro hother
      exact Outcome.Fits.unique hdecided hfits hother
  · exact ⟨_, hfits, fun other hother => Outcome.Fits.unique hdecided hother hfits⟩
  · rw [← hwrote]
    simp [Transaction.isWrite]

end BuckRegulator.Trim
