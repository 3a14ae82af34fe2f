import BuckRegulator.Proofs.Board.Store
import BuckRegulator.Proofs.Trim.Preservation
import BuckRegulator.Proofs.Trim.Verdict
import Mathlib.Logic.Function.Iterate

/-!
Calibrating a board again. On a board that fails nothing, a calibration is the
list of writes that its plan asks for, and the plan depends on the board only
through the two status registers. The status that a run leaves at the primary
site decides what the next run does there: after a lone primary it says that
the chip is done, after a pair it is foreign, and where it cannot be written
the next run repeats the same writes. In no case is there anything new to store.
-/

namespace BuckRegulator.Trim

open Board (transport)
open Bus (Failure Procedure)

def seen (b : Board) (site : Site) : Detection :=
  match b.value? site.address statusRegister with
  | none => .absent
  | some status => .ofStatus site status

theorem seen_of_unfitted {b : Board} {site : Site} (h : b.devices site.address = none) :
    seen b site = .absent := by
  rw [seen, Board.value?, h]
  rfl

theorem seen_of_status {b : Board} {site : Site} {status : UInt8}
    (h : b.value? site.address statusRegister = some status) :
    seen b site = .ofStatus site status := by
  rw [seen, h]

theorem seen_secondary_eq_fresh {b : Board} :
    seen b .secondary = .present false ↔
      b.value? Site.secondary.address statusRegister = some 0x40 := by
  constructor
  · intro hfresh
    cases hstatus : b.value? Site.secondary.address statusRegister with
    | none =>
        rw [seen, hstatus] at hfresh
        cases hfresh
    | some status =>
        rw [seen_of_status hstatus, Detection.ofStatus] at hfresh
        split at hfresh
        · next known =>
            simp only [Site.identifiers, List.mem_cons, List.not_mem_nil, or_false] at known
            rcases known with rfl | rfl
            · exact absurd hfresh (by decide)
            · rfl
        · cases hfresh
  · intro hstatus
    rw [seen_of_status hstatus]
    decide

def trimOf (b : Board) (site : Site) : Snapshot :=
  trimRegisters.map fun register => (register, (b.value? site.address register).getD 0)

/-- The plan that a calibration of a board makes. -/
def planFor (b : Board) : Plan :=
  .ofDetections (seen b .primary) (seen b .secondary)

/-- What a plan writes if it can save the trim bytes. -/
def Plan.writes (trim : Site → Snapshot) : Plan → List Write
  | .rest _ => []
  | .solo site => soloWrites site (trim site)
  | .pair => pairWrites (trim .primary) (trim .secondary)

def Plan.outcome : Plan → Outcome
  | .rest outcome => outcome
  | .solo _ | .pair => .calibrated

/-- What a calibration of a board writes. -/
def due (b : Board) : List Write :=
  (planFor b).writes (trimOf b)

theorem result_readEach_of_fitted {b : Board} (hb : b.Faultless) {address : UInt8}
    {device : Board.Device} (fitted : b.devices address = some device)
    (registers : List UInt8) :
    ((readEach address registers).run transport b).result =
      some (registers.map fun r => (r, device.value r)) := by
  induction registers with
  | nil => rfl
  | cons register rest ih =>
      have hread : transport.read address register b = (.ok (device.value register), b) := by
        change b.read address register = _
        rw [Board.read_of_undisturbed hb.plain (hb.undisturbed _), Board.value?, fitted]
        rfl
      simp only [run_readEach_cons, hread, ih, Option.map_some, List.map_cons]

theorem result_save_of_fitted {b : Board} (hb : b.Faultless) {site : Site}
    (fitted : (b.devices site.address).isSome) :
    ((save site).run transport b).result = some (trimOf b site) := by
  obtain ⟨device, hdevice⟩ := Option.isSome_iff_exists.mp fitted
  have htrim : trimOf b site = trimRegisters.map fun r => (r, device.value r) := by
    simp only [trimOf, Board.value?, hdevice, Option.map_some, Option.getD_some]
  rw [htrim]
  exact result_readEach_of_fitted hb hdevice trimRegisters

/-- On a board that fails nothing, a plan whose sites are fitted writes all that
it asks for. -/
theorem perform_of_faultless {b : Board} (hb : b.Faultless) (plan : Plan)
    (fitted : ∀ site, plan.Saves site → (b.devices site.address).isSome) :
    let run := plan.perform.run transport b
    run.result.1 = plan.outcome ∧ written run.log = plan.writes (trimOf b) := by
  cases plan with
  | rest outcome => exact ⟨rfl, rfl⟩
  | solo site =>
      have hresult := result_save_of_fitted hb (fitted site rfl)
      have hreads := written_of_reads (isWrite_of_mem_save transport site b)
      simp only [run_perform_solo, hresult, written_append, hreads, written_issue,
        written_inspect, List.nil_append, List.append_nil]
      exact ⟨rfl, rfl⟩
  | pair =>
      have hfirst := result_save_of_fitted hb (fitted .primary trivial)
      have hsecond := result_save_of_fitted hb (fitted .secondary trivial)
      have hbus := hb.bus_run_of_reads (save .primary) (isWrite_of_mem_save transport .primary b)
      have hreads := written_of_reads (isWrite_of_mem_save transport .primary b)
      have hreads' := written_of_reads (isWrite_of_mem_save transport .secondary b)
      simp only [run_perform_pair, hfirst, hbus, hsecond, written_append, hreads, hreads',
        written_issue, List.nil_append]
      exact ⟨rfl, rfl⟩

theorem ofAnswer_of_faultless {b : Board} (hb : b.Faultless) (site : Site) :
    Detection.ofAnswer site (b.read site.address statusRegister).1 = seen b site := by
  rw [Board.read_of_undisturbed hb.plain (hb.undisturbed _), seen]
  cases b.value? site.address statusRegister with
  | none => rfl
  | some status => rfl

/-- A chip is only seen where a device is fitted. -/
theorem isSome_devices_of_isPresent {b : Board} {site : Site}
    (h : (seen b site).isPresent = true) : (b.devices site.address).isSome := by
  unfold seen Board.value? at h
  cases hdevice : b.devices site.address with
  | none =>
      rw [hdevice] at h
      cases h
  | some device => rfl

theorem found_seen (b : Board) : found (seen b .primary) (seen b .secondary) = seen b := by
  funext site
  cases site with
  | primary => rfl
  | secondary => rfl

theorem isPresent_of_saves {b : Board} {site : Site} (h : (planFor b).Saves site) :
    (seen b site).isPresent = true := by
  have hcases := ofDetections_cases (seen b .primary) (seen b .secondary)
  simp only [found_seen] at hcases
  unfold planFor at h
  rcases hcases with ⟨hplan, _⟩ | ⟨hplan, _⟩ | ⟨hplan, _⟩ | ⟨_, _, _, hsaves⟩
  · rw [hplan] at h
    cases h
  · rw [hplan] at h
    cases h
  · rw [hplan] at h
    cases h
  · exact (hsaves site).mp h

/-- A calibration of a board that fails nothing reports what it sees and how its
plan ends, and writes what is due. -/
theorem calibrate_of_faultless {b : Board} (hb : b.Faultless) :
    let run := calibrate.run transport b
    run.result.primary = seen b .primary ∧ run.result.secondary = seen b .secondary ∧
      run.result.population = .classify (seen b .primary) (seen b .secondary) ∧
      run.result.outcome = (planFor b).outcome ∧ written run.log = due b ∧
      run.bus = b.store (due b) := by
  intro run
  have hperform := perform_of_faultless hb (planFor b) fun site hsaves =>
    isSome_devices_of_isPresent (isPresent_of_saves hsaves)
  have hwritten : written run.log = due b := by
    simp only [run, run_calibrate, transport, hb.read, ofAnswer_of_faultless hb,
      written_read]
    exact hperform.2
  have hbus : run.bus = b.store (due b) := by
    rw [← hwritten]
    exact hb.bus_run calibrate
  refine ⟨?_, ?_, ?_, ?_, hwritten, hbus⟩
  · simp only [run, run_calibrate, transport, ofAnswer_of_faultless hb]
  · simp only [run, run_calibrate, transport, hb.read, ofAnswer_of_faultless hb]
  · simp only [run, run_calibrate, transport, hb.read, ofAnswer_of_faultless hb]
  · simp only [run, run_calibrate, transport, hb.read, ofAnswer_of_faultless hb]
    exact hperform.1

/-- The board that a calibration leaves. -/
def calibrated (b : Board) : Board :=
  (calibrate.run transport b).bus

theorem calibrated_eq_store {b : Board} (hb : b.Faultless) : calibrated b = b.store (due b) :=
  (calibrate_of_faultless hb).2.2.2.2.2

theorem seen_secondary_calibrated {b : Board} (hb : b.Faultless) :
    seen (calibrated b) .secondary = seen b .secondary := by
  unfold seen calibrated
  rw [value?_calibrate hb.plain _ _ (Or.inl (by decide))]

theorem trimOf_calibrated {b : Board} (hb : b.Faultless) : trimOf (calibrated b) = trimOf b := by
  funext site
  apply List.map_congr_left
  intro register member
  have hkept : (site.address, register) ∉ calibrationRegisters := by
    simp only [trimRegisters, List.mem_cons, List.not_mem_nil, or_false] at member
    rcases member with rfl | rfl | rfl <;> cases site <;> decide
  rw [calibrated, value?_calibrate hb.plain _ _ (Or.inl hkept)]

/-- The status that the writes of a calibration leave at the primary site. -/
theorem lastTo?_due (b : Board) :
    Board.lastTo? (due b) Site.primary.address statusRegister =
      match planFor b with
      | .rest _ => none
      | .solo site => some site.soloStatus
      | .pair => some 0x44 := by
  unfold due
  cases planFor b with
  | rest outcome => rfl
  | solo site => cases site <;> rfl
  | pair => rfl

/-- A site is calibrated alone only if the other one holds no trim chip, and the
secondary only if nothing at all answers at the primary. -/
theorem ofDetections_eq_solo {primary secondary : Detection} {site : Site}
    (h : Plan.ofDetections primary secondary = .solo site) :
    (site = .primary ∧ primary = .present false ∧ secondary.isPresent = false) ∨
      (site = .secondary ∧ primary = .absent ∧ secondary = .present false) := by
  revert h
  rcases primary with _ | status | ⟨_ | _⟩ <;>
    rcases secondary with _ | status' | ⟨_ | _⟩ <;>
      simp [Plan.ofDetections, Population.classify, Detection.isPresent,
        Detection.isCalibrated, Detection.isForeign, eq_comm]

theorem ofDetections_eq_pair {primary secondary : Detection}
    (h : Plan.ofDetections primary secondary = .pair) :
    primary.isPresent = true ∧ secondary.isPresent = true := by
  revert h
  rcases primary with _ | status | ⟨_ | _⟩ <;>
    rcases secondary with _ | status' | ⟨_ | _⟩ <;>
      simp [Plan.ofDetections, Population.classify, Detection.isPresent,
        Detection.isCalibrated, Detection.isForeign]

/-- Where the primary status cannot be written, the next run has the same plan. -/
theorem planFor_calibrated_of_locked {b : Board} (hb : b.Faultless)
    (hlocked : ∀ device, b.devices Site.primary.address = some device →
      device.readOnly statusRegister = true) :
    planFor (calibrated b) = planFor b := by
  have hprimary : seen (calibrated b) .primary = seen b .primary := by
    unfold seen
    rw [calibrated_eq_store hb, Board.value?_store, Board.value?]
    cases hdevice : b.devices Site.primary.address with
    | none => rfl
    | some device => simp only [Option.map_some, hlocked device hdevice, if_true]
  rw [planFor, hprimary, seen_secondary_calibrated hb, planFor]

/-- Where it can be written, the next run rests. -/
theorem planFor_calibrated_of_writable {b : Board} (hb : b.Faultless)
    {device : Board.Device} (fitted : b.devices Site.primary.address = some device)
    (hwritable : device.readOnly statusRegister = false) :
    match planFor b with
    | .rest outcome => planFor (calibrated b) = .rest outcome
    | .solo _ => planFor (calibrated b) = .rest .alreadyCalibrated
    | .pair => seen (calibrated b) .primary = .foreign 0x44 ∧
        planFor (calibrated b) = .rest
          (if (seen b .secondary).isCalibrated then .alreadyCalibrated else .unsupported) := by
  have hstatus : (calibrated b).value? Site.primary.address statusRegister =
      some ((Board.lastTo? (due b) Site.primary.address statusRegister).getD
        (device.value statusRegister)) := by
    rw [calibrated_eq_store hb, Board.value?_store, fitted, Option.map_some, hwritable]
    rfl
  have hsecondary := seen_secondary_calibrated hb
  rw [lastTo?_due] at hstatus
  cases hplan : planFor b with
  | rest outcome =>
      have hprimary : seen (calibrated b) .primary = seen b .primary := by
        rw [seen, hstatus, seen, Board.value?, fitted, hplan]
        rfl
      change planFor (calibrated b) = .rest outcome
      rw [← hplan, planFor, hprimary, hsecondary, planFor]
  | solo site =>
      rcases ofDetections_eq_solo hplan with ⟨rfl, _, hother⟩ | ⟨_, habsent, _⟩
      · have hprimary : seen (calibrated b) .primary = .present true := by
          rw [seen, hstatus, hplan]
          change Detection.ofStatus .primary 0x04 = .present true
          decide
        change planFor (calibrated b) = .rest .alreadyCalibrated
        rw [planFor, hprimary, hsecondary]
        cases hseen : seen b .secondary with
        | absent => rfl
        | foreign status => rfl
        | present done =>
            rw [hseen] at hother
            cases hother
      · rw [seen, Board.value?, fitted] at habsent
        simp only [Option.map_some, Detection.ofStatus] at habsent
        split at habsent <;> cases habsent
  | pair =>
      have hprimary : seen (calibrated b) .primary = .foreign 0x44 := by
        rw [seen, hstatus, hplan]
        rfl
      refine ⟨hprimary, ?_⟩
      have hother := (ofDetections_eq_pair hplan).2
      rw [planFor, hprimary, hsecondary]
      cases hseen : seen b .secondary with
      | absent =>
          rw [hseen] at hother
          cases hother
      | foreign status =>
          rw [hseen] at hother
          cases hother
      | present done => cases done <;> rfl

theorem due_calibrated_of_writable {b : Board} (hb : b.Faultless)
    {device : Board.Device} (fitted : b.devices Site.primary.address = some device)
    (hwritable : device.readOnly statusRegister = false) : due (calibrated b) = [] := by
  have hrest := planFor_calibrated_of_writable hb fitted hwritable
  rw [due]
  cases hplan : planFor b with
  | rest outcome =>
      rw [hplan] at hrest
      rw [hrest]
      rfl
  | solo site =>
      rw [hplan] at hrest
      rw [hrest]
      rfl
  | pair =>
      rw [hplan] at hrest
      rw [hrest.2]
      rfl

theorem due_calibrated_of_locked {b : Board} (hb : b.Faultless)
    (hlocked : ∀ device, b.devices Site.primary.address = some device →
      device.readOnly statusRegister = true) : due (calibrated b) = due b := by
  rw [due, planFor_calibrated_of_locked hb hlocked, trimOf_calibrated hb, due]

/-- The next run repeats the writes, or it has nothing to write. -/
theorem due_calibrated {b : Board} (hb : b.Faultless) :
    due (calibrated b) = due b ∨ due (calibrated b) = [] := by
  by_cases hwritable : ∃ device, b.devices Site.primary.address = some device ∧
      device.readOnly statusRegister = false
  · obtain ⟨device, fitted, hdevice⟩ := hwritable
    exact Or.inr (due_calibrated_of_writable hb fitted hdevice)
  · left
    apply due_calibrated_of_locked hb
    intro device fitted
    apply eq_true_of_ne_false
    intro hdevice
    exact hwritable ⟨device, fitted, hdevice⟩

/-- A second calibration changes nothing. -/
theorem calibrated_calibrated {b : Board} (hb : b.Faultless) :
    calibrated (calibrated b) = calibrated b := by
  have hb' : (calibrated b).Faultless := hb.run calibrate
  rw [calibrated_eq_store hb']
  rcases due_calibrated hb with hsame | hnone
  · rw [hsame, calibrated_eq_store hb, Board.store_store]
  · rw [hnone]
    rfl

/-- Where no device stands at the primary address, there is something to write
only for a secondary that is not calibrated. -/
theorem planFor_of_unfitted {b : Board} (hnone : b.devices Site.primary.address = none) :
    (planFor b = .solo .secondary ∧ seen b .secondary = .present false) ∨
      (∃ outcome, planFor b = .rest outcome) ∧ seen b .secondary ≠ .present false := by
  rw [planFor, seen_of_unfitted hnone]
  rcases seen b .secondary with _ | status | ⟨_ | _⟩
  · exact Or.inr ⟨⟨_, rfl⟩, by decide⟩
  · exact Or.inr ⟨⟨_, rfl⟩, nofun⟩
  · exact Or.inl ⟨rfl, rfl⟩
  · exact Or.inr ⟨⟨_, rfl⟩, by decide⟩

theorem ofDetections_of_both {primary secondary : Detection}
    (hboth : Population.classify primary secondary = .both)
    (hcalibrated : (Plan.ofDetections primary secondary).outcome = .calibrated) :
    Plan.ofDetections primary secondary = .pair := by
  revert hboth hcalibrated
  rcases primary with _ | status | ⟨_ | _⟩ <;>
    rcases secondary with _ | status' | ⟨_ | _⟩ <;>
      simp [Plan.ofDetections, Population.classify, Detection.isPresent,
        Detection.isCalibrated, Plan.outcome]

/-- On a board that fails nothing, any number of calibrations leaves what one
leaves. If the status at the primary address can be written, the second one
writes nothing, unless an uncalibrated secondary is fitted and no device at the
primary address, where its status would go; it then repeats the five writes.
After a pair was calibrated, the primary is no longer known by its status. -/
theorem repeated_calibration_idempotent (b : Board) (hmap : b.IsRegisterMap)
    (hfaultless : b.faults = []) :
    let first := calibrate.run transport b
    let second := calibrate.run transport first.bus
    (∀ k ≥ 1, (fun b => (calibrate.run transport b).bus)^[k] b = first.bus) ∧
    ((∀ device, b.devices 0x40 = some device → device.readOnly 0x0E = false) →
      (b.devices 0x40 = none ∧ b.value? 0x41 0x0E = some 0x40 →
        written second.log = written first.log ∧ (written first.log).length = 5) ∧
      (¬(b.devices 0x40 = none ∧ b.value? 0x41 0x0E = some 0x40) →
        written second.log = []) ∧
      (first.result.population = .both → first.result.outcome = .calibrated →
        second.result.primary = .foreign 0x44 ∧
        (b.value? 0x41 0x0E = some 0x40 → second.result.outcome = .unsupported) ∧
        (b.value? 0x41 0x0E = some 0x44 → second.result.outcome = .alreadyCalibrated))) := by
  intro first second
  have hb : b.Faultless := ⟨hmap, hfaultless⟩
  have hb' : (calibrated b).Faultless := hb.run calibrate
  obtain ⟨_, _, hpopulation, houtcome, hwritten, _⟩ := calibrate_of_faultless hb
  obtain ⟨hprimary', _, _, houtcome', hwritten', _⟩ := calibrate_of_faultless hb'
  refine ⟨?_, ?_⟩
  · intro k hk
    obtain ⟨k, rfl⟩ := Nat.exists_eq_add_of_le' hk
    rw [Function.iterate_succ_apply]
    exact Function.iterate_fixed (calibrated_calibrated hb) k
  intro hwritable
  refine ⟨?_, ?_, ?_⟩
  · rintro ⟨hnone, hstatus⟩
    have hsame := due_calibrated_of_locked hb (by
      intro device fitted
      cases hnone.symm.trans fitted)
    rcases planFor_of_unfitted hnone with ⟨hplan, _⟩ | ⟨_, hdone⟩
    · refine ⟨hwritten'.trans (hsame.trans hwritten.symm), ?_⟩
      rw [hwritten, due, hplan]
      exact length_soloWrites _ _
    · exact absurd (seen_secondary_eq_fresh.mpr hstatus) hdone
  · intro hcase
    refine hwritten'.trans ?_
    cases fitted : b.devices 0x40 with
    | some device => exact due_calibrated_of_writable hb fitted (hwritable device fitted)
    | none =>
        rcases planFor_of_unfitted fitted with ⟨_, hfresh⟩ | ⟨⟨outcome, hplan⟩, _⟩
        · exact absurd ⟨fitted, seen_secondary_eq_fresh.mp hfresh⟩ hcase
        · have hnone : due b = [] := by
            rw [due, hplan]
            rfl
          rcases due_calibrated hb with hsame | hrest
          · exact hsame.trans hnone
          · exact hrest
  · intro hboth hcalibrated
    have hplan : planFor b = .pair :=
      ofDetections_of_both (hpopulation.symm.trans hboth) (houtcome.symm.trans hcalibrated)
    obtain ⟨device, fitted⟩ := Option.isSome_iff_exists.mp
      (isSome_devices_of_isPresent (ofDetections_eq_pair hplan).1)
    have hrest := planFor_calibrated_of_writable hb fitted (hwritable device fitted)
    simp only [hplan] at hrest
    refine ⟨hprimary'.trans hrest.1, ?_, ?_⟩
    · intro hstatus
      have hfresh : seen b .secondary = .present false := seen_secondary_eq_fresh.mpr hstatus
      refine houtcome'.trans ?_
      rw [hrest.2, hfresh]
      rfl
    · intro hstatus
      have hdone : seen b .secondary = .present true := by
        refine (seen_of_status hstatus).trans ?_
        decide
      refine houtcome'.trans ?_
      rw [hrest.2, hdone]
      rfl

def freshPair : Board :=
  .ofLayouts [
      ⟨0x40, [(0x0B, 0x11), (0x0C, 0x22), (0x0D, 0x33), (0x0E, 0x00)], [0x0C], []⟩,
      ⟨0x41, [(0x0B, 0xA1), (0x0C, 0xA2), (0x0D, 0xA3), (0x0E, 0x40)], [], []⟩]
    []

theorem freshPair_unsupported_afterwards :
    freshPair.IsRegisterMap ∧ freshPair.faults = [] ∧
      let first := calibrate.run transport freshPair
      let second := calibrate.run transport first.bus
      first.result.outcome = .calibrated ∧ second.result.primary = .foreign 0x44 ∧
        second.result.outcome = .unsupported ∧ written second.log = [] := by
  have hmap : freshPair.IsRegisterMap := Board.isRegisterMap_ofLayouts (by decide) _
  have hwritable : ∀ device, freshPair.devices 0x40 = some device →
      device.readOnly 0x0E = false := by
    intro device fitted
    cases fitted
    decide
  have hcalibrated : (calibrate.run transport freshPair).result.outcome = .calibrated := by
    decide
  obtain ⟨_, hnone, hpair⟩ :=
    (repeated_calibration_idempotent freshPair hmap rfl).2 hwritable
  obtain ⟨hprimary, hsecond, _⟩ := hpair (by decide) hcalibrated
  exact ⟨hmap, rfl, hcalibrated, hprimary, hsecond (by decide), hnone (by decide)⟩

end BuckRegulator.Trim
