import BuckRegulator.Proofs.Trim.Repetition

/-!
Parts of another kind at the sites of the trim chips. A part is spared because its
status tells it apart, so everything depends on whether that status could be read.
The secondary site is only written when its own status was read and known. The
primary site also takes the status of a lone secondary, and it counts as empty when
its status could not be read, for whatever reason. This is the one write that a
foreign part can receive.
-/

namespace BuckRegulator.Trim

open Board (transport)
open Bus (Failure Transaction Transport)

variable {ε σ : Type}

/-- The writes of a log that go to an address, whatever they were answered. -/
def sentTo (address : UInt8) (log : List (Transaction ε)) : List Write :=
  (written log).filter (·.address = address)

theorem restore_elsewhere {site : Site} {address : UInt8} (h : site.address ≠ address)
    (saved : Snapshot) : (site.restore saved).filter (·.address = address) = [] := by
  apply List.filter_eq_nil_iff.mpr
  intro w member
  obtain ⟨_, _, rfl⟩ := List.mem_map.mp member
  exact fun here => h (of_decide_eq_true here)

/-- A lone primary takes all its writes itself. -/
theorem soloWrites_primary_elsewhere (saved : Snapshot) :
    (soloWrites .primary saved).filter (·.address = 0x41) = [] := by
  have helsewhere : Site.primary.address ≠ 0x41 := by decide
  exact restore_elsewhere helsewhere saved

/-- A lone secondary leaves one write to the primary address. -/
theorem soloWrites_secondary_elsewhere (saved : Snapshot) :
    (soloWrites .secondary saved).filter (·.address = 0x40) = [writeStatus 0x44] := by
  have helsewhere : Site.secondary.address ≠ 0x40 := by decide
  exact congrArg (writeStatus 0x44 :: ·) (restore_elsewhere helsewhere saved)

/-- A lone site is written in full, or not at all. -/
theorem written_perform_solo (t : Transport ε σ) (site : Site) (bus : σ) :
    let run := (Plan.solo site).perform.run t bus
    run.result.1 = .aborted ∧ written run.log = [] ∨
      run.result.1 = .calibrated ∧ ∃ saved, written run.log = soloWrites site saved := by
  have hreads := written_of_reads (isWrite_of_mem_save t site bus)
  rw [run_perform_solo]
  cases hsaved : ((save site).run t bus).result with
  | none =>
      left
      simp only [hsaved]
      exact ⟨trivial, hreads⟩
  | some saved =>
      right
      simp only [hsaved, written_append, hreads, written_issue, written_inspect,
        List.nil_append, List.append_nil]
      exact ⟨trivial, saved, rfl⟩

/-- Without a trim chip at the primary site, there is something to write only for a
fresh secondary, and only where the primary site seems empty. -/
theorem ofDetections_of_no_primary {primary secondary : Detection}
    (h : primary.isPresent = false) :
    (∃ outcome, outcome ≠ .calibrated ∧
        Plan.ofDetections primary secondary = .rest outcome) ∨
      primary = .absent ∧ secondary = .present false ∧
        Plan.ofDetections primary secondary = .solo .secondary := by
  revert h
  rcases primary with _ | status | _ <;> rcases secondary with _ | status' | ⟨_ | _⟩ <;>
    simp [Plan.ofDetections, Population.classify, Detection.isPresent,
      Detection.isCalibrated, Detection.isForeign]

/-- Without one at the secondary site, all there can be to do is at the primary. -/
theorem ofDetections_of_no_secondary {primary secondary : Detection}
    (h : secondary.isPresent = false) :
    (∃ outcome, Plan.ofDetections primary secondary = .rest outcome) ∨
      Plan.ofDetections primary secondary = .solo .primary := by
  revert h
  rcases primary with _ | status | ⟨_ | _⟩ <;> rcases secondary with _ | status' | _ <;>
    simp [Plan.ofDetections, Population.classify, Detection.isPresent,
      Detection.isCalibrated]

/-- What a calibration sends to the primary address when it sees no trim chip there. -/
theorem sentTo_primary_calibrate (t : Transport ε σ) (bus : σ)
    (h : (calibrate.run t bus).result.primary.isPresent = false) :
    let run := calibrate.run t bus
    sentTo 0x40 run.log =
        (if run.result.outcome = .calibrated then [writeStatus 0x44] else []) ∧
      (run.result.outcome = .calibrated →
        run.result.primary = .absent ∧ run.result.secondary = .present false) := by
  simp only [run_calibrate, sentTo, written_read] at h ⊢
  rcases ofDetections_of_no_primary h with ⟨outcome, hrest, hplan⟩ | ⟨habsent, hfresh, hplan⟩
  · rw [hplan]
    exact ⟨(if_neg hrest).symm, fun hcalibrated => absurd hcalibrated hrest⟩
  · rw [hplan]
    refine ⟨?_, fun _ => ⟨habsent, hfresh⟩⟩
    rcases written_perform_solo t .secondary _ with ⟨houtcome, hnone⟩ |
      ⟨houtcome, saved, hwritten⟩
    · rw [houtcome, hnone]
      rfl
    · rw [houtcome, hwritten, soloWrites_secondary_elsewhere]
      rfl

/-- Without a trim chip at the secondary site, nothing is sent there. -/
theorem sentTo_secondary_calibrate (t : Transport ε σ) (bus : σ)
    (h : (calibrate.run t bus).result.secondary.isPresent = false) :
    sentTo 0x41 (calibrate.run t bus).log = [] := by
  simp only [run_calibrate, sentTo, written_read] at h ⊢
  rcases ofDetections_of_no_secondary h with ⟨outcome, hplan⟩ | hplan
  · rw [hplan]
    rfl
  · rw [hplan]
    rcases written_perform_solo t .primary _ with ⟨_, hnone⟩ | ⟨_, saved, hwritten⟩
    · rw [hnone]
      rfl
    · rw [hwritten, soloWrites_primary_elsewhere]

/-- A site is seen for what it is if its status was read, and as empty otherwise. -/
def Reveals (b : Board) (site : Site) (d : Detection) : Except Failure UInt8 → Prop
  | .ok _ => d = seen b site
  | .error _ => d = .absent

theorem reveals_of_read {b : Board} (hmap : b.IsRegisterMap) (site : Site) :
    let answer := (b.read site.address statusRegister).1
    Reveals b site (.ofAnswer site answer) answer := by
  intro answer
  cases hanswer : answer with
  | error failure => rfl
  | ok status =>
      change Detection.ofStatus site status = seen b site
      rw [seen_of_status (Board.value?_of_read hmap hanswer)]

theorem seen_read (b : Board) (address register : UInt8) :
    seen (b.read address register).2 = seen b := by
  funext site
  simp only [seen, Board.value?_read]

/-- On a register map, a calibration begins with the two answers that it reports. -/
theorem calibrate_reveals {b : Board} (hmap : b.IsRegisterMap) :
    let run := calibrate.run transport b
    ∃ first second rest,
      run.log = .read 0x40 0x0E first :: .read 0x41 0x0E second :: rest ∧
        Reveals b .primary run.result.primary first ∧
        Reveals b .secondary run.result.secondary second := by
  simp only [run_calibrate]
  refine ⟨_, _, _, rfl, reveals_of_read hmap .primary, ?_⟩
  have hmap' := Board.isRegisterMap_read hmap Site.primary.address statusRegister
  have hsecond := reveals_of_read hmap' .secondary
  unfold Reveals at hsecond ⊢
  rw [seen_read] at hsecond
  exact hsecond

theorem seen_of_foreign {b : Board} {site : Site} {status : UInt8}
    (h : b.value? site.address statusRegister = some status)
    (hforeign : status ∉ site.identifiers) : seen b site = .foreign status :=
  (seen_of_status h).trans (if_neg hforeign)

/-- A foreign part is never taken for a trim chip. -/
theorem Reveals.isPresent_of_foreign {b : Board} {site : Site} {d : Detection}
    {answer : Except Failure UInt8} (h : Reveals b site d answer) {status : UInt8}
    (hstatus : b.value? site.address statusRegister = some status)
    (hforeign : status ∉ site.identifiers) : d.isPresent = false := by
  cases answer with
  | ok got =>
      rw [h, seen_of_foreign hstatus hforeign]
      rfl
  | error failure =>
      rw [h]
      rfl

/-- On a register map, under any rules for failing transactions, a foreign part at the
secondary site is never written, and one at the primary site is not written if its status
can be read. If that read fails, the site counts as empty: then the status of a fresh
secondary, once that one's trim bytes are saved, is written there, and nothing else. -/
theorem calibrate_spares_foreign (b : Board) (hmap : b.IsRegisterMap) :
    let run := calibrate.run transport b
    (∀ status, b.value? 0x40 0x0E = some status → status ∉ [0x00, 0x04] →
      ∃ answer rest, run.log = .read 0x40 0x0E answer :: rest ∧
        match answer with
        | .ok _ => run.result.primary = .foreign status ∧ sentTo 0x40 run.log = []
        | .error _ =>
            run.result.primary = .absent ∧
            sentTo 0x40 run.log =
              (if run.result.outcome = .calibrated then [⟨0x40, 0x0E, 0x44⟩] else []) ∧
            (run.result.outcome = .calibrated → b.value? 0x41 0x0E = some 0x40)) ∧
      ∀ status, b.value? 0x41 0x0E = some status → status ∉ [0x44, 0x40] →
        sentTo 0x41 run.log = [] := by
  intro run
  obtain ⟨first, second, rest, hlog, hprimary, hsecondary⟩ := calibrate_reveals hmap
  refine ⟨?_, ?_⟩
  · intro status hstatus hforeign
    refine ⟨first, _, hlog, ?_⟩
    obtain ⟨hsent, hcalibrated⟩ := sentTo_primary_calibrate transport b
      (hprimary.isPresent_of_foreign hstatus hforeign)
    cases first with
    | ok got =>
        have hseen : run.result.primary = .foreign status :=
          hprimary.trans (seen_of_foreign hstatus hforeign)
        refine ⟨hseen, ?_⟩
        -- Only an empty primary site is passed over for the secondary.
        have hspared : run.result.outcome ≠ .calibrated := by
          intro houtcome
          have habsent := (hcalibrated houtcome).1
          rw [hseen] at habsent
          cases habsent
        rw [hsent, if_neg hspared]
    | error failure =>
        refine ⟨hprimary, hsent, fun houtcome => ?_⟩
        have hfresh := (hcalibrated houtcome).2
        cases second with
        | error failure' =>
            rw [hsecondary] at hfresh
            cases hfresh
        | ok got => exact seen_secondary_eq_fresh.mp (hsecondary.symm.trans hfresh)
  · intro status hstatus hforeign
    exact sentTo_secondary_calibrate transport b
      (hsecondary.isPresent_of_foreign hstatus hforeign)

/-- A foreign part whose status cannot be read at first, before a fresh secondary. -/
def masked : Board :=
  .ofLayouts [
      ⟨0x40, [(0x0E, 0x88)], [], []⟩,
      ⟨0x41, [(0x0B, 0xA1), (0x0C, 0xA2), (0x0D, 0xA3), (0x0E, 0x40)], [], []⟩]
    [{ direction := some .read, address := some 0x40, register := some 0x0E, limit := some 1 }]

def mixed : Board :=
  .ofLayouts [⟨0x40, [], [], []⟩, ⟨0x41, [(0x0E, 0x99)], [], []⟩] []

theorem masked_and_mixed_spared :
    masked.IsRegisterMap ∧
      (calibrate.run transport masked).result.outcome = .calibrated ∧
      sentTo 0x40 (calibrate.run transport masked).log = [⟨0x40, 0x0E, 0x44⟩] ∧
      mixed.IsRegisterMap ∧
      (calibrate.run transport mixed).result.outcome = .calibrated ∧
      sentTo 0x41 (calibrate.run transport mixed).log = [] := by
  have hmasked : masked.IsRegisterMap := Board.isRegisterMap_ofLayouts (by decide) _
  have hmixed : mixed.IsRegisterMap := Board.isRegisterMap_ofLayouts (by decide) _
  have hcalibrated : (calibrate.run transport masked).result.outcome = .calibrated := by
    decide
  obtain ⟨answer, rest, hlog, hsent⟩ :=
    (calibrate_spares_foreign masked hmasked).1 0x88 (by decide) (by decide)
  have hnone := (calibrate_spares_foreign mixed hmixed).2 0x99 (by decide) (by decide)
  refine ⟨hmasked, hcalibrated, ?_, hmixed, by decide, hnone⟩
  cases answer with
  | ok status => cases hlog
  | error failure => rw [hsent.2.1, if_pos hcalibrated]

/-- One failed read is enough for a foreign part at the primary address to be written. -/
theorem masked_is_overwritten :
    masked.IsRegisterMap ∧ masked.value? 0x40 0x0E = some 0x88 ∧
      (∃ w ∈ written (calibrate.run transport masked).log, w.address = 0x40) ∧
      (calibrate.run transport masked).bus.value? 0x40 0x0E = some 0x44 :=
  ⟨Board.isRegisterMap_ofLayouts (by decide) _, by decide, by decide, by decide⟩

end BuckRegulator.Trim
