import BuckRegulator.Proofs.Regulator.Transparency
import BuckRegulator.Proofs.Regulator.Writes
import BuckRegulator.Proofs.Trim.Repetition

/-!
What a regulator knows can be found again. On a board that fails nothing, a fresh
regulator of the same make, put in place of one that knows its chip, identifies the
same chip, and its calibration changes nothing: the identification registers are
never written, and what a calibration has to write depends on its own registers
alone, which no setting of a voltage is among. So the board stays settled for as
long as it is used, and both regulators do the same from then on.
-/

namespace BuckRegulator

open Board (transport)
open Bus (Failure Procedure Transport)
open Trim (InBank Write calibrated due written)

namespace Trim

theorem inBank_of_mem_due {b : Board} (hb : b.Faultless) : ∀ w ∈ due b, InBank w.register := by
  intro w member
  obtain ⟨_, _, _, _, hwritten, _⟩ := calibrate_of_faultless hb
  rw [← hwritten] at member
  obtain ⟨entry, hentry, hregister⟩ := exists_of_mem_written member
  rw [← hregister]
  exact inBank_of_mem_calibrate transport b entry hentry

/-- What is due does not depend on registers outside the bank. -/
theorem due_store (b : Board) {writes : List Write} (h : ∀ w ∈ writes, ¬InBank w.register) :
    due (b.store writes) = due b := by
  have hvalue (a r : UInt8) (hbank : InBank r) : (b.store writes).value? a r = b.value? a r := by
    apply Board.value?_store_of_ne
    rintro w member rfl
    exact h w member hbank
  have hseen : seen (b.store writes) = seen b := by
    funext site
    rw [seen, hvalue _ _ (by decide), seen]
  have htrim : trimOf (b.store writes) = trimOf b := by
    funext site
    apply List.map_congr_left
    intro r member
    rw [hvalue _ _ (inBank_of_mem_trimRegisters member)]
  rw [due, planFor, hseen, htrim, due, planFor]

/-- Calibration does not interfere with writes outside its bank. -/
theorem calibrated_store {b : Board} (hb : b.Faultless) {writes : List Write}
    (h : ∀ w ∈ writes, ¬InBank w.register) :
    calibrated (b.store writes) = (calibrated b).store writes := by
  rw [calibrated_eq_store (hb.store writes), due_store b h, calibrated_eq_store hb]
  apply Board.store_comm
  intro w member w' member' hsame
  apply h w member
  rw [hsame]
  exact inBank_of_mem_due hb w' member'

end Trim

namespace Regulator

variable {fresh r s : Regulator} {chip : Chip} {b : Board}

/-- Identification depends on the two identification registers alone. -/
theorem result_identify_store (hb : b.Faultless) (r : Regulator) {writes : List Write}
    (h : ∀ w ∈ writes, w.register ∉ [Register.id1, Register.id2]) :
    ((r.identify).run transport (b.store writes)).result =
      ((r.identify).run transport b).result := by
  have hvalue : ∀ register ∈ [Register.id1, Register.id2],
      (b.store writes).value? r.address register = b.value? r.address register := by
    intro register member
    apply Board.value?_store_of_ne
    rintro w written rfl
    exact h w written member
  rw [List.forall_mem_cons, List.forall_mem_singleton] at hvalue
  simp only [run_identify, transport, hb.read_eq, (hb.store writes).read_eq, hvalue.1,
    hvalue.2]
  cases b.value? r.address Register.id1 with
  | none => rfl
  | some id1 =>
      cases b.value? r.address Register.id2 with
      | none => rfl
      | some id2 => rfl

theorem bus_calibrateIfDue (r : Regulator) (b : Board) :
    ((r.calibrateIfDue).run transport b).bus =
      if r.calibrationDue && r.report?.isNone then calibrated b else b := by
  rw [run_calibrateIfDue]
  split
  · rfl
  · rfl

theorem bus_calibrateIfDue_identifiedAs (r : Regulator) (chip : Chip) (b : Board) :
    (((r.identifiedAs chip).calibrateIfDue).run transport b).bus =
      ((r.calibrateIfDue).run transport b).bus := by
  rw [bus_calibrateIfDue, bus_calibrateIfDue, calibrationDue_identifiedAs, report?_identifiedAs]

/-- On this board a fresh regulator finds the chip, and has nothing to change. -/
structure Settled (fresh : Regulator) (chip : Chip) (b : Board) : Prop where
  found : ((fresh.identify).run transport b).result = .ok chip
  trimmed : ((fresh.calibrateIfDue).run transport b).bus = b

/-- Setting voltages leaves a board settled. -/
theorem Settled.store (h : fresh.Settled chip b) (hb : b.Faultless) {writes : List Write}
    (hsettings : ∀ w ∈ writes, ∃ s : Selector, w.register = s.register) :
    fresh.Settled chip (b.store writes) := by
  have hunnamed : ∀ w ∈ writes, w.register ∉ [Register.id1, Register.id2] := by
    intro w member
    obtain ⟨s, hs⟩ := hsettings w member
    rw [hs]
    cases s <;> decide
  have houtside : ∀ w ∈ writes, ¬InBank w.register := by
    intro w member
    obtain ⟨s, hs⟩ := hsettings w member
    rw [hs]
    exact not_inBank_setting s
  refine ⟨?_, ?_⟩
  · rw [result_identify_store hb fresh hunnamed, h.found]
  · have htrimmed := h.trimmed
    rw [bus_calibrateIfDue] at htrimmed ⊢
    split
    · next due =>
        rw [if_pos due] at htrimmed
        rw [Trim.calibrated_store hb houtside, htrimmed]
    · rfl

/-- The calibration that follows an identification settles the board. -/
theorem settled_of_identify (hb : b.Faultless)
    (h : ((fresh.identify).run transport b).result = .ok chip) :
    fresh.Settled chip ((fresh.calibrateIfDue).run transport b).bus := by
  rw [bus_calibrateIfDue]
  split
  · next hdue =>
      refine ⟨?_, ?_⟩
      · rw [Trim.calibrated_eq_store hb, result_identify_store hb fresh, h]
        intro w member
        have hbank := Trim.inBank_of_mem_due hb w member
        simp only [List.mem_cons, List.not_mem_nil, or_false, not_or]
        exact ⟨fun hsame => not_inBank_id.1 (hsame ▸ hbank),
          fun hsame => not_inBank_id.2 (hsame ▸ hbank)⟩
      · rw [bus_calibrateIfDue, if_pos hdue, Trim.calibrated_calibrated hb]
  · next hspared =>
      refine ⟨h, ?_⟩
      rw [bus_calibrateIfDue, if_neg hspared]

/-- A fresh regulator finds the chip of a settled board, and leaves the board as it is. -/
theorem Settled.exchange_probe (h : fresh.Settled chip b) (hb : b.Faultless)
    (hfresh : fresh.chip? = none) :
    let e := fresh.exchange transport b .probe
    e.result = .ok (.profile chip.profile) ∧ e.regulator.chip? = some chip ∧ e.after = b := by
  have hbus := hb.bus_run_of_reads fresh.identify (isWrite_of_mem_identify transport fresh b)
  simp only [Regulator.exchange_probe, run_probe_of_unidentified transport hfresh, h.found, hbus,
    chip?_calibrateIfDue, bus_calibrateIfDue_identifiedAs, h.trimmed]
  exact ⟨rfl, trivial, trivial⟩

/-- A probe that finds the chip settles the board. -/
theorem settled_of_probe (hb : b.Faultless) (hfresh : fresh.chip? = none)
    (h : (fresh.exchange transport b .probe).regulator.chip? = some chip) :
    fresh.Settled chip (fresh.exchange transport b .probe).after := by
  have hbus := hb.bus_run_of_reads fresh.identify (isWrite_of_mem_identify transport fresh b)
  rw [exchange_probe, run_probe_of_unidentified transport hfresh] at h ⊢
  cases hfound : ((fresh.identify).run transport b).result with
  | error e =>
      simp only [hfound, hfresh] at h
      cases h
  | ok found =>
      simp only [hfound, chip?_calibrateIfDue] at h
      cases h
      simp only [hfound, hbus, bus_calibrateIfDue_identifiedAs]
      exact settled_of_identify hb hfound

/-- Once the chip is known, a call writes no more than the active setting. -/
theorem register_of_mem_written (t : Transport Failure Board) (hchip : r.chip? = some chip)
    (b : Board) (call : Call) :
    ∀ w ∈ written (r.exchange t b call).log, w.register = r.roles.active.register := by
  intro w member
  rcases log_exchange_cases t r b call with hreads | ⟨_, _, _, _, _, _, hlog⟩ | ⟨hnone, _⟩
  · have hnone := Trim.written_of_reads fun entry hentry => (hreads entry hentry).1
    rw [hnone] at member
    cases member
  · rw [hlog] at member
    cases List.mem_singleton.mp member
    rfl
  · rw [hnone] at hchip
    cases hchip

/-- What a caller knows of the chip stays as it is. -/
theorem chip?_exchange (t : Transport Failure Board) (hchip : r.chip? = some chip) (b : Board)
    (call : Call) : (r.exchange t b call).regulator.chip? = some chip :=
  (retains_exchange t r b call).chip chip hchip

theorem exists_of_map_eq_ok {ε α β : Type} {f : α → β} {answer : Except ε α} {reply : β}
    (h : answer.map f = .ok reply) : ∃ value, f value = reply := by
  cases answer with
  | error e => cases h
  | ok value => exact ⟨value, Except.ok.inj h⟩

/-- An answer that shows a ramp shows the one of the chip that is known from then on. -/
theorem chip?_of_profile {ε σ : Type} (t : Transport ε σ) (r : Regulator) (bus : σ) (call : Call)
    {profile : Ramp.Profile} (h : (r.exchange t bus call).result = .ok (.profile profile)) :
    ∃ chip, (r.exchange t bus call).regulator.chip? = some chip ∧ chip.profile = profile := by
  cases call with
  | probe =>
      rw [exchange_probe] at h ⊢
      cases hchip : r.chip? with
      | some chip =>
          rw [probe_of_identified hchip] at h ⊢
          cases h
          exact ⟨chip, hchip, rfl⟩
      | none =>
          rw [run_probe_of_unidentified t hchip] at h ⊢
          cases hfound : ((r.identify).run t bus).result with
          | error e =>
              simp only [hfound] at h
              cases h
          | ok chip =>
              simp only [hfound, chip?_calibrateIfDue] at h ⊢
              cases h
              exact ⟨chip, rfl, rfl⟩
  | getVoltage =>
      rw [exchange_getVoltage] at h
      obtain ⟨_, hvoltage⟩ := exists_of_map_eq_ok h
      cases hvoltage
  | setVoltage uv =>
      rw [exchange_setVoltage] at h
      obtain ⟨_, hdone⟩ := exists_of_map_eq_ok h
      cases hdone

/-- A regulator that came from a fresh one, on a board that fails nothing and that is
settled once the chip is known. -/
structure Reproducible (fresh r : Regulator) (b : Board) : Prop where
  unprobed : fresh.Unprobed
  follows : fresh.Follows r
  faultless : b.Faultless
  settled : ∀ chip, r.chip? = some chip → fresh.Settled chip b

theorem reproducible_self (hfresh : fresh.Unprobed) (hb : b.Faultless) :
    fresh.Reproducible fresh b := by
  refine ⟨hfresh, follows_self hfresh, hb, ?_⟩
  rw [hfresh.chip]
  nofun

theorem Reproducible.exchange (h : fresh.Reproducible r b) (call : Call) :
    let e := r.exchange transport b call
    fresh.Reproducible e.regulator e.after := by
  intro e
  refine ⟨h.unprobed, follows_exchange transport h.follows b call,
    h.faultless.run (r.serve call), ?_⟩
  intro chip hchip
  -- Before the chip is known, only a probe can teach it; after, only settings are written.
  cases hknown : r.chip? with
  | some known =>
      rw [chip?_exchange transport hknown b call] at hchip
      cases hchip
      have hafter : e.after = b.store (written e.log) := h.faultless.bus_run (r.serve call)
      rw [hafter]
      refine (h.settled chip hknown).store h.faultless fun w member => ?_
      exact ⟨_, register_of_mem_written transport hknown b call w member⟩
  | none =>
      cases call with
      | probe =>
          obtain rfl := h.follows.eq_of_unidentified h.unprobed hknown
          exact settled_of_probe h.faultless hknown hchip
      | getVoltage =>
          simp only [e, exchange_getVoltage, hknown] at hchip
          cases hchip
      | setVoltage uv =>
          simp only [e, exchange_setVoltage, hknown] at hchip
          cases hchip

/-- Regulators that came from the same one and know the same chip do the same. -/
theorem exchange_eq_of_known (hr : fresh.Follows r) (hs : fresh.Follows s)
    (hrchip : r.chip? = some chip) (hschip : s.chip? = some chip) (b : Board) (call : Call) :
    (r.exchange transport b call).result = (s.exchange transport b call).result ∧
      (r.exchange transport b call).after = (s.exchange transport b call).after := by
  have htwins : r.Twins s := by
    refine ⟨?_, ?_, ?_, hrchip.trans hschip.symm⟩
    · rw [hr.setup, hs.setup]
    · rw [hr.setup, hs.setup]
    · rw [hr.setup, hs.setup]
  cases call with
  | probe =>
      rw [exchange_probe, exchange_probe, probe_of_identified hrchip,
        probe_of_identified hschip]
      exact ⟨rfl, rfl⟩
  | getVoltage =>
      rw [exchange_getVoltage, exchange_getVoltage, htwins.getVoltage]
      exact ⟨rfl, rfl⟩
  | setVoltage uv =>
      rw [exchange_setVoltage, exchange_setVoltage, htwins.setVoltage]
      exact ⟨rfl, rfl⟩

end Regulator

end BuckRegulator
