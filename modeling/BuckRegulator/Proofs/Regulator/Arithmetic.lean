import BuckRegulator.Proofs.Ramp.Checked
import BuckRegulator.Proofs.Regulator.Adjustment

/-!
A regulator whose codec checks its arithmetic. A call that meets a mishap has no result,
and a session ends there without one. For a regulator that knows only ramps of the catalog
this never comes about: call by call, whatever the bus answers, the checked procedure is the
one that does not check, and so are whole sessions. What the calls compute is therefore what
the formulas say in whole numbers.
-/

namespace BuckRegulator.Regulator

open Bus (Procedure Transport)

variable {ε σ : Type}

def getVoltageChecked (r : Regulator) : Procedure ε (Option (Except (Error ε) UInt32)) :=
  match r.chip? with
  | none => return some (.error .notProbed)
  | some chip => do
      match ← Bus.read r.address r.roles.active.register with
      | .error e => return some (.error (.bus e))
      | .ok raw => return (chip.profile.toVoltageChecked raw).map .ok

def setVoltageChecked (r : Regulator) (uv : UInt32) :
    Procedure ε (Option (Except (Error ε) Unit)) :=
  match r.chip? with
  | none => return some (.error .notProbed)
  | some chip =>
      match chip.profile.containsChecked uv with
      | none => return none
      | some false => return some (.error .invalidVoltage)
      | some true =>
          match chip.profile.toCodeChecked uv with
          | none => return none
          | some code => do
              return some ((← Bus.updateBits r.address r.roles.active.register
                Register.selectorWriteMask code).mapError .bus)

/-- Carries out a call. A probe computes no voltage, so it has nothing to check. -/
def serveChecked (r : Regulator) :
    Call → Procedure ε (Option (Except (Error ε) Reply × Regulator))
  | .probe => some <$> r.serve .probe
  | .getVoltage => do
      return (← r.getVoltageChecked).map fun result => (result.map .voltage, r)
  | .setVoltage uv => do
      return (← r.setVoltageChecked uv).map fun result => (result.map fun _ => .done, r)

def exchangeChecked (t : Transport ε σ) (r : Regulator) (bus : σ) (call : Call) :
    Option (Exchange ε σ) :=
  let run := (r.serveChecked call).run t bus
  run.result.map fun (result, next) =>
    { call, before := bus, result, log := run.log, regulator := next, after := run.bus }

def sessionChecked (t : Transport ε σ) (r : Regulator) (bus : σ) :
    List (Turn σ) → Option (List (Exchange ε σ))
  | [] => some []
  | turn :: rest => do
      let e ← r.exchangeChecked t (turn.change bus) turn.call
      let later ← e.regulator.sessionChecked t e.after rest
      return e :: later

section

variable {r : Regulator} (hfits : ∀ chip, r.chip? = some chip → chip.profile.Fits)

include hfits

theorem getVoltageChecked_eq :
    r.getVoltageChecked (ε := ε) = some <$> r.getVoltage := by
  unfold getVoltageChecked getVoltage
  cases hchip : r.chip? with
  | none => rfl
  | some chip =>
      simp only [map_bind]
      refine bind_congr fun answer => ?_
      cases answer with
      | error e => rfl
      | ok raw =>
          simp only [Ramp.Profile.toVoltageChecked_of_fits (hfits chip hchip)]
          rfl

theorem setVoltageChecked_eq (uv : UInt32) :
    r.setVoltageChecked (ε := ε) uv = some <$> r.setVoltage uv := by
  unfold setVoltageChecked setVoltage
  cases hchip : r.chip? with
  | none => rfl
  | some chip =>
      simp only [Ramp.Profile.containsChecked_of_fits (hfits chip hchip)]
      cases hinside : chip.profile.contains uv with
      | false => rfl
      | true =>
          simp only [Ramp.Profile.toCodeChecked_of_contains (hfits chip hchip) hinside, map_bind,
            if_true]
          rfl

theorem serveChecked_eq (call : Call) :
    r.serveChecked (ε := ε) call = some <$> r.serve call := by
  cases call with
  | probe => rfl
  | getVoltage =>
      simp only [serveChecked, serve, getVoltageChecked_eq hfits, map_bind, bind_map_left]
      rfl
  | setVoltage uv =>
      simp only [serveChecked, serve, setVoltageChecked_eq hfits, map_bind, bind_map_left]
      rfl

theorem exchangeChecked_eq (t : Transport ε σ) (bus : σ) (call : Call) :
    r.exchangeChecked t bus call = some (r.exchange t bus call) := by
  simp only [exchangeChecked, serveChecked_eq hfits, map_eq_pure_bind, Procedure.run_bind,
    Procedure.run_pure, List.append_nil, Option.map_some, exchange]

end

/-- A regulator only comes to know ramps that fit, so no call of a session goes wrong. -/
theorem sessionChecked_eq (t : Transport ε σ) {origin r : Regulator} (h : origin.Follows r)
    (bus : σ) (turns : List (Turn σ)) :
    r.sessionChecked t bus turns = some (r.session t bus turns) := by
  induction turns generalizing r bus with
  | nil => rfl
  | cons turn rest ih =>
      have hfirst := exchangeChecked_eq (fun _ => h.fits) t (turn.change bus) turn.call
      have hrest := ih (follows_exchange t h (turn.change bus) turn.call)
        (r.exchange t (turn.change bus) turn.call).after
      rw [sessionChecked, hfirst, Option.bind_eq_bind, Option.bind_some, hrest]
      rfl

/-- A voltage is checked against a ramp, and encoded if it lies on it, as whole numbers
are: the check subtracts only from a voltage that is not below the ramp, no divisor is
zero, and the quotient is kept whole by the byte and by the mask of an update. -/
structure EncodesExactly (profile : Ramp.Profile) (uv : UInt32) : Prop where
  divisor : profile.stepUv ≠ 0
  guarded : profile.containsChecked uv = some (profile.contains uv)
  above : profile.contains uv = true → profile.minUv ≤ uv
  quotient : profile.contains uv = true → ∃ steps < 64,
    ((uv.toNat : Int) - profile.minUv.toNat).tdiv profile.stepUv.toNat = (steps : Nat) ∧
      (profile.toCode uv).toNat = steps
  masked : profile.contains uv = true →
    profile.toCode uv &&& Register.selectorWriteMask = profile.toCode uv

theorem encodesExactly_of_fits {profile : Ramp.Profile} (h : profile.Fits) (uv : UInt32) :
    EncodesExactly profile uv := by
  refine ⟨h.step_ne_zero, Ramp.Profile.containsChecked_of_fits h uv, ?_, ?_, ?_⟩
  · intro hinside
    exact UInt32.le_iff_toNat_le.mpr ((profile.contains_iff uv).mp hinside).1
  · intro hinside
    obtain ⟨hmin, hsteps⟩ := (profile.contains_iff uv).mp hinside
    exact ⟨profile.wholeSteps uv, hsteps, Ramp.Profile.tdiv_eq_wholeSteps hmin,
      Ramp.Profile.toNat_toCode_of_contains hinside⟩
  · intro hinside
    exact Register.code_and_writeMask (Ramp.Profile.toCode_lt_of_contains hinside)

/-- Every byte that a reading decodes is answered with the voltage that it stands for, and
every voltage that a request handles is handled exactly. -/
structure Exchange.Exact (e : Exchange ε σ) : Prop where
  decodes : e.call = .getVoltage → ∀ address register raw,
    .read address register (.ok raw) ∈ e.log →
      ∃ chip uv, e.regulator.chip? = some chip ∧ e.result = .ok (.voltage uv) ∧
        uv.toNat = chip.profile.minUv.toNat +
          (raw &&& Register.selectorReadMask).toNat * chip.profile.stepUv.toNat
  encodes : ∀ uv, e.call = .setVoltage uv → ∀ chip, e.regulator.chip? = some chip →
    EncodesExactly chip.profile uv

theorem exact_exchange (t : Transport ε σ) {origin r : Regulator} (h : origin.Follows r)
    (bus : σ) (call : Call) : (r.exchange t bus call).Exact := by
  cases call with
  | probe => exact ⟨nofun, nofun⟩
  | setVoltage uv =>
      refine ⟨nofun, ?_⟩
      rintro _ ⟨⟩ chip hchip
      rw [exchange_setVoltage] at hchip
      exact encodesExactly_of_fits (h.fits hchip) uv
  | getVoltage =>
      refine ⟨fun _ address register raw hread => ?_, nofun⟩
      rw [exchange_getVoltage] at hread ⊢
      cases hchip : r.chip? with
      | none =>
          rw [run_getVoltage_of_unidentified t hchip] at hread
          cases hread
      | some chip =>
          rw [run_getVoltage t hchip] at hread ⊢
          obtain ⟨_, _, hanswer⟩ :=
            Bus.Transaction.read.inj (List.mem_singleton.mp hread)
          refine ⟨chip, chip.profile.toVoltage raw, rfl, ?_,
            Ramp.Profile.toNat_toVoltage (h.fits hchip) raw⟩
          simp only [← hanswer]
          rfl

/-- The arithmetic of every session is exact, whatever the bus answers and whatever is done
to it between the calls: a machine that checks every operation of the codec carries the
session out without a mishap and in the same way, every byte that is read is decoded to
the voltage it stands for, and every requested voltage is checked and encoded without a
loss. -/
theorem session_arithmetic_exact (t : Transport ε σ) {vendor : Vendor} {config : Config}
    {r : Regulator} (h : Regulator.new (ε := ε) vendor config = .ok r) (bus : σ)
    (turns : List (Turn σ)) :
    r.sessionChecked t bus turns = some (r.session t bus turns) ∧
      ∀ e ∈ r.session t bus turns, e.Exact := by
  have hstart : r.Follows r := follows_self (unprobed_of_new h)
  have hkeeps (s : Regulator) (bus : σ) (call : Call) (hs : r.Follows s) :
      r.Follows (s.exchange t bus call).regulator := follows_exchange t hs bus call
  have hshows (s : Regulator) (bus : σ) (call : Call) (hs : r.Follows s) :
      (s.exchange t bus call).Exact := exact_exchange t hs bus call
  exact ⟨sessionChecked_eq t hstart bus turns,
    forall_mem_session t hkeeps hshows hstart bus turns⟩

def flaggedTurns : List (Turn Board) :=
  [{ call := .probe }, { call := .getVoltage }, { call := .setVoltage 1423863 },
    { call := .setVoltage 0 }, { call := .setVoltage 0xFFFFFFFF }, { call := .getVoltage }]

theorem flaggedChip_arithmetic :
    Regulator.new (ε := Bus.Failure) .fairchild { address := 0x60 } = .ok flaggedRegulator ∧
      let session := flaggedRegulator.session Board.transport flaggedChip flaggedTurns
      session.map (·.result) =
        [.ok (.profile Ramp.unevenRamp), .ok (.voltage 667130), .ok .done,
          .error .invalidVoltage, .error .invalidVoltage, .ok (.voltage 1411038)] ∧
        flaggedRegulator.sessionChecked Board.transport flaggedChip flaggedTurns =
          some session ∧
        ∀ e ∈ session, e.Exact := by
  have hnew : Regulator.new (ε := Bus.Failure) .fairchild { address := 0x60 } =
    .ok flaggedRegulator := rfl
  exact ⟨hnew, rfl, session_arithmetic_exact Board.transport hnew flaggedChip flaggedTurns⟩

end BuckRegulator.Regulator
