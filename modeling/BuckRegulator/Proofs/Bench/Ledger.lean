import BuckRegulator.Proofs.Bench.Run
import BuckRegulator.Proofs.Regulator.Calls

namespace BuckRegulator.Bench

open Bus (Transport)

variable {ε σ : Type}

/-- A voltage that was accepted, with the register it was for and the ramp by
which it was encoded. -/
structure Setting where
  address : UInt8
  register : UInt8
  profile : Ramp.Profile
  uv : UInt32
  deriving DecidableEq, Repr

namespace Setting

def isAt (s : Setting) (address register : UInt8) : Bool :=
  s.address = address && s.register = register

def onto (s : Setting) (old : UInt8) : UInt8 :=
  (old &&& 0x80) ||| UInt8.ofNat (s.profile.wholeSteps s.uv)

theorem isAt_iff (s : Setting) (address register : UInt8) :
    s.isAt address register = true ↔ s.address = address ∧ s.register = register := by
  simp only [isAt, Bool.and_eq_true, decide_eq_true_eq]

/-- A later setting hides an earlier one whose code is a code of the ramp. -/
theorem onto_onto {s : Setting} (h : s.profile.contains s.uv = true) (later : Setting)
    (old : UInt8) : later.onto (s.onto old) = later.onto old := by
  have hcode := ((s.profile.contains_iff s.uv).mp h).2
  have henable := Register.enable_of_update old (Register.code_ofNat_lt hcode)
  rw [onto, onto, henable, onto]

end Setting

def lastAt? (settings : List Setting) (address register : UInt8) : Option Setting :=
  (settings.filter (·.isAt address register)).getLast?

/-- The byte that some settings leave in a register. -/
def byteAfter (settings : List Setting) (address register : UInt8) (old : UInt8) : UInt8 :=
  match lastAt? settings address register with
  | none => old
  | some last => last.onto old

theorem byteAfter_of_elsewhere {settings : List Setting} {address register : UInt8}
    (h : ∀ s ∈ settings, ¬(s.address = address ∧ s.register = register)) (old : UInt8) :
    byteAfter settings address register old = old := by
  have hnone : settings.filter (·.isAt address register) = [] := by
    apply List.filter_eq_nil_iff.mpr
    intro s member hat
    exact h s member ((s.isAt_iff address register).mp hat)
  rw [byteAfter, lastAt?, hnone, List.getLast?_nil]

theorem map_byteAfter_of_elsewhere {settings : List Setting} {address register : UInt8}
    (h : ∀ s ∈ settings, ¬(s.address = address ∧ s.register = register))
    (stored : Option UInt8) : stored.map (byteAfter settings address register) = stored := by
  have hkept : byteAfter settings address register = id := funext (byteAfter_of_elsewhere h)
  rw [hkept, Option.map_id_apply]

theorem byteAfter_self (s : Setting) (old : UInt8) :
    byteAfter [s] s.address s.register old = s.onto old := by
  have hat : s.isAt s.address s.register = true := (s.isAt_iff _ _).mpr ⟨rfl, rfl⟩
  simp only [byteAfter, lastAt?, List.filter_cons, hat, if_true, List.filter_nil,
    List.getLast?_singleton]

theorem byteAfter_append {first : List Setting}
    (hfirst : ∀ s ∈ first, s.profile.contains s.uv = true) (second : List Setting)
    (address register old : UInt8) :
    byteAfter (first ++ second) address register old =
      byteAfter second address register (byteAfter first address register old) := by
  simp only [byteAfter, lastAt?, List.filter_append, List.getLast?_append]
  cases (second.filter (·.isAt address register)).getLast? with
  | none => rfl
  | some later =>
      cases hlast : (first.filter (·.isAt address register)).getLast? with
      | none => rfl
      | some earlier =>
          have member := (List.mem_filter.mp (List.mem_of_getLast? hlast)).1
          exact (Setting.onto_onto (hfirst earlier member) later old).symm

theorem lastAt?_eq_some {settings : List Setting} {address register : UInt8} {s : Setting}
    (h : lastAt? settings address register = some s) :
    s ∈ settings ∧ s.address = address ∧ s.register = register := by
  have member := List.mem_filter.mp (List.mem_of_getLast? h)
  exact ⟨member.1, (s.isAt_iff address register).mp member.2⟩

/-- The setting that an action makes, if it requests a voltage and the answer is
not an error. -/
def accepted? (t : Transport ε σ) (bench : Bench σ) (action : Action σ) : Option Setting :=
  match bench.request? action, (bench.act t action).answer with
  | some (regulator, uv), .replied (.ok _) =>
      regulator.chip?.map fun chip =>
        ⟨regulator.address, regulator.roles.active.register, chip.profile, uv⟩
  | _, _ => none

def settings (t : Transport ε σ) (bench : Bench σ) : List (Action σ) → List Setting
  | [] => []
  | action :: rest =>
      (bench.accepted? t action).toList ++ (bench.act t action).bench.settings t rest

theorem accepted?_of_no_request (t : Transport ε σ) {bench : Bench σ} {action : Action σ}
    (h : bench.request? action = none) : bench.accepted? t action = none := by
  simp only [accepted?, h]

theorem accepted?_request (t : Transport ε σ) {bench : Bench σ} {slot : Nat}
    {regulator : Regulator} (hslot : bench.slots slot = some regulator) (uv : UInt32) :
    bench.accepted? t (.call slot (.setVoltage uv)) =
      match ((regulator.setVoltage uv).run t bench.bus).result with
      | .error _ => none
      | .ok _ => regulator.chip?.map fun chip =>
          ⟨regulator.address, regulator.roles.active.register, chip.profile, uv⟩ := by
  simp only [accepted?, request?, hslot, Option.map_some, act_call t hslot,
    Regulator.run_serve_setVoltage]
  cases ((regulator.setVoltage uv).run t bench.bus).result with
  | error e => rfl
  | ok done => rfl

/-- Every request that is answered without an error makes a setting. -/
theorem accepted?_isSome_iff (t : Transport ε σ) {bench : Bench σ} {slot : Nat}
    {regulator : Regulator} (hslot : bench.slots slot = some regulator) (uv : UInt32) :
    (bench.accepted? t (.call slot (.setVoltage uv))).isSome ↔
      (bench.act t (.call slot (.setVoltage uv))).answer = .replied (.ok .done) := by
  rw [accepted?_request t hslot, act_call t hslot, Regulator.run_serve_setVoltage]
  cases hchip : regulator.chip? with
  | none =>
      rw [Regulator.run_setVoltage_of_unidentified t hchip]
      simp [Except.map]
  | some chip =>
      cases hresult : ((regulator.setVoltage uv).run t bench.bus).result with
      | error e => simp [hresult, Except.map]
      | ok done => simp [hresult, Except.map]

/-- What is accepted lies inside the ramp, on any transport. -/
theorem contains_of_accepted? {t : Transport ε σ} {bench : Bench σ} {action : Action σ}
    {s : Setting} (h : bench.accepted? t action = some s) :
    s.profile.contains s.uv = true := by
  cases hrequest : bench.request? action with
  | none =>
      rw [accepted?_of_no_request t hrequest] at h
      cases h
  | some request =>
      obtain ⟨slot, hslot, rfl⟩ := request?_eq_some hrequest
      rw [accepted?_request t hslot] at h
      cases hresult : ((request.1.setVoltage request.2).run t bench.bus).result with
      | error e =>
          simp only [hresult] at h
          cases h
      | ok done =>
          simp only [hresult] at h
          obtain ⟨chip, hchip, rfl⟩ := Option.map_eq_some_iff.mp h
          cases hinside : chip.profile.contains request.2 with
          | true => rfl
          | false =>
              rw [Regulator.run_setVoltage_of_outside t hchip hinside] at hresult
              cases hresult

theorem contains_of_mem_settings {t : Transport ε σ} {bench : Bench σ}
    {actions : List (Action σ)} {s : Setting} (h : s ∈ bench.settings t actions) :
    s.profile.contains s.uv = true := by
  induction actions generalizing bench with
  | nil => cases h
  | cons action rest ih =>
      rcases List.mem_append.mp h with here | later
      · exact contains_of_accepted? (Option.mem_toList.mp here)
      · exact ih later

end BuckRegulator.Bench
