import BuckRegulator.Board.Basic
import BuckRegulator.Proofs.Regulator.Knowledge

/-!
Every write of a session, and what it is for. A write either updates the active
setting of the regulator, right after that setting was read, or is part of the one
calibration that the first successful probe may carry out. The log of an exchange
has one of three forms, and what the regulator knows decides which of them a probe
has; from this the two kinds of writes are told apart for whole sessions, on any
bus. No other register of the regulator is ever written, and without calibration no
other device is even asked.
-/

namespace BuckRegulator.Regulator

open Bus (Procedure Transaction Transport)
open Trim (InBank)

variable {ε σ : Type}

namespace Exchange

def OnlyReads (r : Regulator) (e : Exchange ε σ) : Prop :=
  ∀ entry ∈ e.log, entry.isWrite = false ∧ entry.address = r.address

/-- The log is that of an update of the active setting that got as far as its write. -/
def Sets (r : Regulator) (e : Exchange ε σ) : Prop :=
  ∃ uv old code answer, e.call = .setVoltage uv ∧ code < 64 ∧
    e.log = [.read r.address r.roles.active.register (.ok old),
      .write r.address r.roles.active.register ((old &&& 0x80) ||| code) answer]

/-- The log is that of a probe which knew no chip, found one, and calibrated. -/
def Trims (t : Transport ε σ) (r : Regulator) (e : Exchange ε σ) : Prop :=
  r.chip? = none ∧ r.calibrationDue = true ∧ e.call = .probe ∧
    (∃ profile, e.result = .ok (.profile profile)) ∧
    ∃ id1 id2 second, e.log = r.idReads id1 id2 ++ (Trim.calibrate.run t second).log

end Exchange

theorem onlyReads_or_trims_probe (t : Transport ε σ) (r : Regulator) (bus : σ) :
    (r.exchange t bus .probe).OnlyReads r ∨ (r.exchange t bus .probe).Trims t r := by
  have hreads := isWrite_of_mem_identify t r bus
  have haddress := address_of_mem_identify t r bus
  cases hchip : r.chip? with
  | some chip =>
      left
      rw [exchange_probe, probe_of_identified hchip]
      exact List.forall_mem_nil _
  | none =>
      simp only [exchange_probe, run_probe_of_unidentified t hchip]
      rcases identify_cases t r bus with ⟨failure, hfailed, _⟩ |
        ⟨id1, id2, unsupported, _, hunsupported, _⟩ |
        ⟨id1, id2, first, second, profile, _, _, _, hrun⟩
      · left
        simp only [hfailed]
        exact fun entry member => ⟨hreads entry member, haddress entry member⟩
      · left
        simp only [hunsupported]
        exact fun entry member => ⟨hreads entry member, haddress entry member⟩
      · simp only [hrun] at hreads haddress ⊢
        rw [run_calibrateIfDue]
        split
        · next due =>
            right
            have hdue : r.calibrationDue = true := (Bool.and_eq_true_iff.mp due).1
            exact ⟨hchip, hdue, rfl, ⟨profile, rfl⟩, id1, id2, second, rfl⟩
        · left
          simp only [List.append_nil]
          exact fun entry member => ⟨hreads entry member, haddress entry member⟩

theorem onlyReads_or_sets_setVoltage (t : Transport ε σ) (r : Regulator) (bus : σ)
    (uv : UInt32) :
    (r.exchange t bus (.setVoltage uv)).OnlyReads r ∨
      (r.exchange t bus (.setVoltage uv)).Sets r := by
  rw [exchange_setVoltage]
  cases hchip : r.chip? with
  | none =>
      left
      rw [run_setVoltage_of_unidentified t hchip]
      exact List.forall_mem_nil _
  | some chip =>
      cases hinside : chip.profile.contains uv with
      | false =>
          left
          rw [run_setVoltage_of_outside t hchip hinside]
          exact List.forall_mem_nil _
      | true =>
          rw [run_setVoltage t hchip hinside]
          dsimp only
          cases hgot : (t.read r.address r.roles.active.register bus).1 with
          | error e =>
              left
              exact List.forall_mem_singleton.mpr ⟨rfl, rfl⟩
          | ok old =>
              right
              exact ⟨uv, old, _, _, rfl, Ramp.Profile.toCode_lt_of_contains hinside, rfl⟩

/-- The log of an exchange has one of three forms. -/
theorem log_exchange_cases (t : Transport ε σ) (r : Regulator) (bus : σ) (call : Call) :
    let e := r.exchange t bus call
    e.OnlyReads r ∨ e.Sets r ∨ e.Trims t r := by
  cases call with
  | probe =>
      rcases onlyReads_or_trims_probe t r bus with hreads | htrims
      · exact Or.inl hreads
      · exact Or.inr (Or.inr htrims)
  | getVoltage =>
      left
      rw [exchange_getVoltage]
      cases hchip : r.chip? with
      | none =>
          rw [run_getVoltage_of_unidentified t hchip]
          exact List.forall_mem_nil _
      | some chip =>
          rw [run_getVoltage t hchip]
          exact List.forall_mem_singleton.mpr ⟨rfl, rfl⟩
  | setVoltage uv =>
      rcases onlyReads_or_sets_setVoltage t r bus uv with hreads | hsets
      · exact Or.inl hreads
      · exact Or.inr (Or.inl hsets)

/-- A probe that leaves the chip unknown has failed. -/
theorem failed_of_unidentified (t : Transport ε σ) (r : Regulator) (bus : σ) (call : Call)
    (h : (r.exchange t bus call).regulator.chip? = none) (hcall : call = .probe) :
    ∃ error, (r.exchange t bus call).result = .error error := by
  subst hcall
  cases hchip : r.chip? with
  | some chip =>
      rw [(retains_exchange t r bus .probe).chip chip hchip] at h
      cases h
  | none =>
      rw [exchange_probe, run_probe_of_unidentified t hchip] at h ⊢
      cases hresult : ((r.identify).run t bus).result with
      | error e =>
          simp only [hresult]
          exact ⟨e, rfl⟩
      | ok chip =>
          simp only [hresult, chip?_calibrateIfDue] at h
          cases h

theorem failed_of_mem_session (t : Transport ε σ) (r : Regulator) (bus : σ)
    (turns : List (Turn σ)) :
    ∀ e ∈ r.session t bus turns, e.regulator.chip? = none → e.call = .probe →
      ∃ error, e.result = .error error := by
  have hshows (s : Regulator) (bus : σ) (call : Call) (_ : True) :
      (s.exchange t bus call).regulator.chip? = none →
        (s.exchange t bus call).call = .probe →
          ∃ error, (s.exchange t bus call).result = .error error :=
    failed_of_unidentified t s bus call
  exact forall_mem_session t (fun _ _ _ _ => trivial) hshows trivial bus turns

namespace Exchange

/-- A write in the log of a voltage request, to a register that was read successfully
right before it. It keeps bit 7 of the byte that was read and clears bit 6, and the log
has no other write. -/
structure UpdatesAt (address register : UInt8) (e : Exchange ε σ)
    (before : List (Transaction ε)) (w : Transaction ε) (after : List (Transaction ε)) :
    Prop where
  call : ∃ uv, e.call = .setVoltage uv
  update : ∃ reads old value answer,
    before = reads ++ [.read address register (.ok old)] ∧
      w = .write address register value answer ∧
      value &&& 0x80 = old &&& 0x80 ∧ value &&& 0x40 = 0
  only : ∀ other ∈ before ++ after, other.isWrite = false

/-- A probe that succeeds, when no probe in the exchanges before it did. -/
structure Opens (early : List (Exchange ε σ)) (e : Exchange ε σ) : Prop where
  call : e.call = .probe
  result : ∃ profile, e.result = .ok (.profile profile)
  first : ∀ earlier ∈ early, earlier.call = .probe → ∃ error, earlier.result = .error error

theorem Sets.updatesAt {r : Regulator} {e : Exchange ε σ} (h : e.Sets r)
    {before after : List (Transaction ε)} {w : Transaction ε} (hlog : e.log = before ++ w :: after)
    (hwrite : w.isWrite = true) :
    e.UpdatesAt r.address r.roles.active.register before w after := by
  obtain ⟨uv, old, code, answer, hcall, hcode, hpair⟩ := h
  rw [hpair] at hlog
  -- The write is the second of two transactions, so just the read stands before it.
  cases before with
  | nil =>
      rw [List.nil_append, List.cons.injEq] at hlog
      rw [← hlog.1] at hwrite
      cases hwrite
  | cons first before =>
      rw [List.cons_append, List.cons.injEq] at hlog
      obtain ⟨rfl, hrest⟩ := hlog
      rcases List.singleton_eq_append_iff.mp hrest with ⟨rfl, hsecond⟩ | ⟨_, hnone⟩
      · rw [List.cons.injEq] at hsecond
        obtain ⟨rfl, rfl⟩ := hsecond
        refine ⟨⟨uv, hcall⟩, ⟨[], old, _, answer, rfl, rfl, ?_, ?_⟩, ?_⟩
        · exact Register.enable_of_update old hcode
        · exact Register.bit6_of_update old hcode
        · exact List.forall_mem_singleton.mpr rfl
      · cases hnone

end Exchange

/-- A write in the log of a calibrating probe is one of the calibration. -/
theorem Exchange.Trims.inReach {t : Transport ε σ} {r : Regulator} {e : Exchange ε σ}
    (h : e.Trims t r) {w : Transaction ε} (member : w ∈ e.log) (hwrite : w.isWrite = true) :
    Trim.InReach w.address w.register := by
  obtain ⟨_, _, _, _, id1, id2, second, hlog⟩ := h
  rw [hlog] at member
  rcases List.mem_append.mp member with hread | htrim
  · simp only [idReads, List.mem_cons, List.not_mem_nil, or_false] at hread
    rcases hread with rfl | rfl <;> cases hwrite
  · exact Trim.inReach_of_mem_calibrate t second w htrim

/-- What each write of a session is for. -/
theorem session_write_cases (t : Transport ε σ) {origin r : Regulator} (h : origin.Follows r)
    {bus : σ} {turns : List (Turn σ)} {early late : List (Exchange ε σ)} {e : Exchange ε σ}
    (hsplit : r.session t bus turns = early ++ e :: late)
    {before after : List (Transaction ε)} {w : Transaction ε}
    (hlog : e.log = before ++ w :: after) (hwrite : w.isWrite = true) :
    e.UpdatesAt origin.address origin.roles.active.register before w after ∨
      (e.Opens early ∧ origin.calibrationDue = true ∧ Trim.InReach w.address w.register) := by
  obtain ⟨s, found, he, hs, _, hearly⟩ := exchange_of_session t h hsplit
  have member : w ∈ e.log := by
    rw [hlog]
    exact List.mem_append_right _ List.mem_cons_self
  have hcases := log_exchange_cases t s found e.call
  rw [← he] at hcases
  rcases hcases with hreads | hsets | htrims
  · rw [(hreads w member).1] at hwrite
    cases hwrite
  · left
    rw [← hs.address, ← hs.roles]
    exact hsets.updatesAt hlog hwrite
  · right
    have hreach := htrims.inReach member hwrite
    obtain ⟨hchip, hdue, hcall, hresult, _⟩ := htrims
    rw [hs.calibrationDue] at hdue
    refine ⟨⟨hcall, hresult, ?_⟩, hdue, hreach⟩
    intro earlier hmember
    have hsession : earlier ∈ r.session t bus turns := by
      rw [hsplit]
      exact List.mem_append_left _ hmember
    -- What an earlier exchange had found would be known now.
    apply failed_of_mem_session t r bus turns earlier hsession
    cases hearlier : earlier.regulator.chip? with
    | none => rfl
    | some chip =>
        rw [(hearly earlier hmember).chip chip hearlier] at hchip
        cases hchip

/-- Without calibration, every transaction is addressed to the regulator itself. -/
theorem address_of_mem_session (t : Transport ε σ) {origin r : Regulator}
    (h : origin.Follows r) (hspared : origin.calibrationDue = false) (bus : σ)
    (turns : List (Turn σ)) :
    ∀ e ∈ r.session t bus turns, ∀ entry ∈ e.log, entry.address = origin.address := by
  have hkeeps (s : Regulator) (bus : σ) (call : Call) (hs : origin.Follows s) :
      origin.Follows (s.exchange t bus call).regulator :=
    follows_exchange t hs bus call
  have hshows (s : Regulator) (bus : σ) (call : Call) (hs : origin.Follows s) :
      ∀ entry ∈ (s.exchange t bus call).log, entry.address = origin.address := by
    intro entry member
    rw [← hs.address]
    rcases log_exchange_cases t s bus call with hreads | ⟨_, _, _, _, _, _, hlog⟩ | ⟨_, hdue, _⟩
    · exact (hreads entry member).2
    · rw [hlog] at member
      simp only [List.mem_cons, List.not_mem_nil, or_false] at member
      rcases member with rfl | rfl <;> rfl
    · rw [hs.calibrationDue, hspared] at hdue
      cases hdue
  exact forall_mem_session t hkeeps hshows h bus turns

theorem calibrationDue_eq_false_iff (r : Regulator) :
    r.calibrationDue = false ↔ r.vendor = .fairchild ∨ r.calibrate = false := by
  rw [calibrationDue, Bool.and_eq_false_iff, or_comm]
  cases r.vendor with
  | fairchild => simp [Vendor.needsTrim]
  | silergy => simp [Vendor.needsTrim]

def untouched (sleep : Selector) : List UInt8 :=
  [sleep.register, Register.control, Register.id1, Register.id2, Register.monitor]

theorem active_not_mem_untouched (sleep : Selector) :
    (Roles.ofSleep sleep).active.register ∉ untouched sleep := by
  cases sleep <;> decide

theorem not_mem_untouched_of_inBank {register : UInt8} (h : InBank register)
    (sleep : Selector) : register ∉ untouched sleep := by
  intro member
  rcases List.mem_cons.mp member with rfl | member
  · exact not_inBank_setting sleep h
  · simp only [List.mem_cons, List.not_mem_nil, or_false] at member
    rcases member with rfl | rfl | rfl | rfl <;> exact Trim.not_inBank_of_lt (by decide) h

/-- On any bus, with anything done to it between the calls, a write of a session is one
of two things. It updates the active setting at the configured address, as the one write
of a request for a voltage and right after that setting was read; or it belongs to the
first probe that succeeds, of a regulator that calibrates, and stays within the reach of
calibration. So the other setting, the control register, the identification and the
monitor are written at no address, and a regulator that does not calibrate asks nothing
of any other device. -/
theorem session_writes_confined (t : Transport ε σ) {vendor : Vendor} {config : Config}
    {r : Regulator} (h : Regulator.new (ε := ε) vendor config = .ok r) (bus : σ)
    (turns : List (Turn σ)) :
    let exchanges := r.session t bus turns
    (∀ early e late before w after, exchanges = early ++ e :: late →
      e.log = before ++ w :: after → w.isWrite = true →
        e.UpdatesAt config.address r.roles.active.register before w after ∨
          (e.Opens early ∧ vendor = .silergy ∧ config.calibrate = true ∧
            (w.address ∈ [0x40, 0x41] ∧ 0x0A ≤ w.register ∧ w.register ≤ 0x0E ∨
              w.address = 0x42 ∧ w.register = 0x0E))) ∧
      (∀ w ∈ exchanges.flatMap (·.log), w.isWrite = true →
        w.register ∉ [r.roles.sleep.register, 0x02, 0x03, 0x04, 0x05]) ∧
      (vendor = .fairchild ∨ config.calibrate = false →
        ∀ entry ∈ exchanges.flatMap (·.log), entry.address = config.address) := by
  obtain ⟨roles, hroles, rfl⟩ := new_ok h
  let r : Regulator :=
    { vendor, roles, address := config.address, calibrate := config.calibrate }
  have hstart : r.Follows r := follows_self ⟨rfl, rfl⟩
  intro exchanges
  refine ⟨?_, ?_, ?_⟩
  · intro early e late before w after hsplit hlog hwrite
    rcases session_write_cases t hstart hsplit hlog hwrite with hupdate | ⟨hopens, hdue, hreach⟩
    · exact Or.inl hupdate
    · obtain ⟨hvendor, hcalibrate⟩ := (calibrationDue_iff r).mp hdue
      exact Or.inr ⟨hopens, hvendor, hcalibrate, hreach⟩
  · intro w member hwrite
    obtain ⟨e, he, hw⟩ := List.mem_flatMap.mp member
    obtain ⟨early, late, hsplit⟩ := List.append_of_mem he
    obtain ⟨before, after, hlog⟩ := List.append_of_mem hw
    rcases session_write_cases t hstart hsplit hlog hwrite with hupdate | ⟨_, _, hreach⟩
    · obtain ⟨_, _, _, _, _, rfl, _⟩ := hupdate.update
      obtain ⟨sleep, _, rfl⟩ := Option.map_eq_some_iff.mp hroles
      exact active_not_mem_untouched sleep
    · exact not_mem_untouched_of_inBank hreach.inBank _
  · intro hspared entry member
    obtain ⟨e, he, hentry⟩ := List.mem_flatMap.mp member
    exact address_of_mem_session t hstart ((calibrationDue_eq_false_iff r).mpr hspared) bus
      turns e he entry hentry

def busyTurns : List (Turn Board) :=
  [{ call := .setVoltage 900000 }, { call := .probe }, { call := .probe },
    { call := .setVoltage 900000 }]

theorem wavering_writes_confined :
    (Regulator.new (ε := Bus.Failure) .silergy {} = .ok waveringRegulator ∧
      let exchanges := waveringRegulator.session Board.transport wavering busyTurns
      exchanges.map (fun e => (Trim.written e.log).length) = [0, 0, 5, 1] ∧
        (∀ w ∈ exchanges.flatMap (·.log), w.isWrite = true →
          w.register ∉ [waveringRegulator.roles.sleep.register, 0x02, 0x03, 0x04, 0x05]) ∧
        ∃ early e before w, exchanges = early ++ [e] ∧ e.log = before ++ [w] ∧
          w.isWrite = true ∧
            e.UpdatesAt 0x40 waveringRegulator.roles.active.register before w []) ∧
      let spared := { waveringRegulator with calibrate := false }
      Regulator.new (ε := Bus.Failure) .silergy { calibrate := false } = .ok spared ∧
        ∀ entry ∈ (spared.session Board.transport wavering busyTurns).flatMap (·.log),
          entry.address = 0x40 := by
  have hnew : Regulator.new (ε := Bus.Failure) .silergy {} = .ok waveringRegulator := rfl
  have hspared : Regulator.new (ε := Bus.Failure) .silergy { calibrate := false } =
    .ok { waveringRegulator with calibrate := false } := rfl
  obtain ⟨hwrites, huntouched, _⟩ :=
    session_writes_confined Board.transport hnew wavering busyTurns
  obtain ⟨_, _, halone⟩ := session_writes_confined Board.transport hspared wavering busyTurns
  refine ⟨⟨hnew, by decide, huntouched, ?_⟩, hspared, halone (Or.inr rfl)⟩
  let exchanges := waveringRegulator.session Board.transport wavering busyTurns
  let e := exchanges.getLast (List.cons_ne_nil _ _)
  let w := e.log.getLast (List.cons_ne_nil _ _)
  have hsplit : exchanges = exchanges.dropLast ++ e :: [] :=
    (List.dropLast_concat_getLast _).symm
  have hlog : e.log = e.log.dropLast ++ w :: [] := (List.dropLast_concat_getLast _).symm
  have hwrite : w.isWrite = true := by decide
  have hcall : e.call ≠ .probe := by decide
  refine ⟨_, e, _, w, hsplit, hlog, hwrite, ?_⟩
  rcases hwrites _ _ _ _ _ _ hsplit hlog hwrite with hupdate | ⟨hopens, _⟩
  · exact hupdate
  · exact absurd hopens.call hcall

end BuckRegulator.Regulator
