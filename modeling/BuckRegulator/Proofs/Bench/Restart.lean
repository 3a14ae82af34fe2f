import BuckRegulator.Proofs.Bench.Run
import BuckRegulator.Proofs.Regulator.Rediscovery

/-!
Restarts of a regulator: it is given up, a new one is made from the same
configuration, and that one is probed. On a board that fails nothing, restarts after
the first successful probe leave no trace. Next to a run with restarts goes the run
without them, and between two uses both stand on the same board with a regulator that
knows the same chip, since a restart finds the chip again and leaves the board as it is.
-/

namespace BuckRegulator.Bench

open Board (transport)
open Bus (Failure Transport)
open Regulator (Call Chip Config)

variable {ε σ : Type}

inductive Use where
  | call (call : Call)
  | restart
  deriving DecidableEq, Repr

def Use.actions (slot : Nat) (vendor : Vendor) (config : Config) : Use → List (Action σ)
  | .call asked => [.call slot asked]
  | .restart => [.release slot, .mount slot vendor config, .call slot .probe]

/-- What a use shows: its answers, and afterwards the chip that is known and the bus. -/
structure Entry (ε σ : Type) where
  use : Use
  answers : List (Answer ε σ)
  chip? : Option Chip
  bus : σ

def observe (t : Transport ε σ) (slot : Nat) (vendor : Vendor) (config : Config)
    (bench : Bench σ) (use : Use) : Entry ε σ :=
  let actions := use.actions slot vendor config
  let after := bench.after t actions
  { use, answers := (bench.steps t actions).map (·.answer)
    chip? := (after.slots slot).bind (·.chip?), bus := after.bus }

/-- What a sequence of uses shows. -/
def diary (t : Transport ε σ) (slot : Nat) (vendor : Vendor) (config : Config)
    (bench : Bench σ) : List Use → List (Entry ε σ)
  | [] => []
  | use :: rest =>
      bench.observe t slot vendor config use ::
        (bench.after t (use.actions slot vendor config)).diary t slot vendor config rest

/-- A call on a bench is an exchange of the regulator in the slot. -/
theorem act_call_exchange (t : Transport ε σ) {bench : Bench σ} {slot : Nat} {r : Regulator}
    (h : bench.slots slot = some r) (call : Call) :
    let step := bench.act t (.call slot call)
    let e := r.exchange t bench.bus call
    step.answer = .replied e.result ∧ step.bench.slots slot = some e.regulator ∧
      step.bench.bus = e.after := by
  simp only [act_call t h, slots_setSlot, if_true, bus_setSlot]
  exact ⟨rfl, rfl, rfl⟩

theorem observe_call (t : Transport ε σ) {bench : Bench σ} {slot : Nat} {r : Regulator}
    (h : bench.slots slot = some r) (vendor : Vendor) (config : Config) (call : Call) :
    bench.observe t slot vendor config (.call call) =
      let e := r.exchange t bench.bus call
      ⟨.call call, [.replied e.result], e.regulator.chip?, e.after⟩ := by
  obtain ⟨hanswer, hslot, hbus⟩ := act_call_exchange t h call
  simp only [observe, Use.actions, after, steps, List.foldl_cons, List.foldl_nil, List.map_cons,
    List.map_nil, hanswer, hslot, hbus, Option.bind_some]

/-- A restart mounts a fresh regulator on the bus that was released, and probes it. -/
theorem observe_restart (t : Transport ε σ) {bench : Bench σ} {slot : Nat} {r fresh : Regulator}
    (h : bench.slots slot = some r) {vendor : Vendor} {config : Config}
    (hnew : Regulator.new (ε := ε) vendor config = .ok fresh) :
    let restarted := bench.after t (Use.restart.actions slot vendor config)
    let e := fresh.exchange t bench.bus .probe
    bench.observe t slot vendor config .restart =
        ⟨.restart, [.released bench.bus, .mounted (.ok ()), .replied e.result],
          e.regulator.chip?, e.after⟩ ∧
      restarted.slots slot = some e.regulator ∧ restarted.bus = e.after := by
  let mounted := (bench.setSlot slot none).setSlot slot (some fresh)
  have hmounted : mounted.slots slot = some fresh := if_pos rfl
  have hrelease : bench.act t (.release slot) =
      ⟨.released bench.bus, [], bench.setSlot slot none⟩ := by
    simp only [act, h]
  have hmount : (bench.setSlot slot none).act t (.mount slot vendor config) =
      ⟨.mounted (.ok ()), [], mounted⟩ := by
    simp only [act, hnew, mounted]
  obtain ⟨hanswer, hslot, hbus⟩ := act_call_exchange t hmounted .probe
  simp only [observe, Use.actions, after, steps, List.foldl_cons, List.foldl_nil, List.map_cons,
    List.map_nil, hrelease, hmount, hanswer, hslot, hbus, Option.bind_some]
  exact ⟨rfl, rfl, rfl⟩

section

variable {fresh : Regulator} {slot : Nat} {bench other : Bench Board} {chip : Chip}

/-- The slot holds this regulator, which came from the fresh one, and what it knows can be
found again on the board. -/
structure Holds (fresh : Regulator) (slot : Nat) (bench : Bench Board) (r : Regulator) :
    Prop where
  held : bench.slots slot = some r
  reproducible : fresh.Reproducible r bench.bus

theorem Holds.call {r : Regulator} (h : bench.Holds fresh slot r) (call : Call) :
    (bench.act transport (.call slot call)).bench.Holds fresh slot
      (r.exchange transport bench.bus call).regulator := by
  obtain ⟨_, hslot, hbus⟩ := act_call_exchange transport h.held call
  refine ⟨hslot, ?_⟩
  rw [hbus]
  exact h.reproducible.exchange call

def Knows (fresh : Regulator) (slot : Nat) (chip : Chip) (bench : Bench Board) : Prop :=
  ∃ r, bench.Holds fresh slot r ∧ r.chip? = some chip

theorem Knows.call (h : bench.Knows fresh slot chip) (call : Call) :
    (bench.act transport (.call slot call)).bench.Knows fresh slot chip := by
  obtain ⟨r, hholds, hchip⟩ := h
  exact ⟨_, hholds.call call, Regulator.chip?_exchange transport hchip bench.bus call⟩

theorem Knows.calls (h : bench.Knows fresh slot chip) (calls : List Call) :
    (bench.after transport (calls.map (.call slot))).Knows fresh slot chip := by
  induction calls generalizing bench with
  | nil => exact h
  | cons call rest ih => exact ih (h.call call)

/-- Some calls, one of them a probe that succeeds, leave the chip known. -/
theorem knows_of_probed {r : Regulator} (h : bench.Holds fresh slot r) {calls : List Call}
    {profile : Ramp.Profile}
    (hprobed : .replied (.ok (.profile profile)) ∈
      (bench.steps transport (calls.map (.call slot))).map (·.answer)) :
    ∃ chip, chip.profile = profile ∧
      (bench.after transport (calls.map (.call slot))).Knows fresh slot chip := by
  induction calls generalizing bench r with
  | nil => cases hprobed
  | cons call rest ih =>
      rcases List.mem_cons.mp hprobed with hnow | hlater
      · have hanswer := hnow.trans (act_call_exchange transport h.held call).1
        rw [Answer.replied.injEq] at hanswer
        obtain ⟨chip, hchip, hprofile⟩ :=
          Regulator.chip?_of_profile transport r bench.bus call hanswer.symm
        have hknows : (bench.act transport (.call slot call)).bench.Knows fresh slot chip :=
          ⟨_, h.call call, hchip⟩
        exact ⟨chip, hprofile, hknows.calls rest⟩
      · exact ih (h.call call) hlater

/-- A call shows the same on two benches with the same bus that know the same chip. -/
theorem Knows.observe_call (h : bench.Knows fresh slot chip)
    (h' : other.Knows fresh slot chip) (hbus : bench.bus = other.bus) (vendor : Vendor)
    (config : Config) (call : Call) :
    let entry := bench.observe transport slot vendor config (.call call)
    entry = other.observe transport slot vendor config (.call call) ∧
      entry.chip? = some chip := by
  obtain ⟨r, hr, hrchip⟩ := h
  obtain ⟨s, hs, hschip⟩ := h'
  obtain ⟨hresult, hafter⟩ := Regulator.exchange_eq_of_known hr.reproducible.follows
    hs.reproducible.follows hrchip hschip bench.bus call
  have hknown := Regulator.chip?_exchange transport hrchip bench.bus call
  have hknown' := Regulator.chip?_exchange transport hschip bench.bus call
  simp only [Bench.observe_call transport hr.held, Bench.observe_call transport hs.held, ← hbus,
    hresult, hafter, hknown, hknown']
  exact ⟨trivial, trivial⟩

/-- A restart finds the chip again and leaves the bus as it is. -/
theorem Knows.observe_restart {vendor : Vendor} {config : Config}
    (hnew : Regulator.new (ε := Failure) vendor config = .ok fresh)
    (h : bench.Knows fresh slot chip) :
    let restarted := bench.after transport (Use.restart.actions slot vendor config)
    bench.observe transport slot vendor config .restart =
        ⟨.restart, [.released bench.bus, .mounted (.ok ()),
          .replied (.ok (.profile chip.profile))], some chip, bench.bus⟩ ∧
      restarted.Knows fresh slot chip ∧ restarted.bus = bench.bus := by
  obtain ⟨r, ⟨hheld, hreproducible⟩, hchip⟩ := h
  have hfresh : fresh.Unprobed := Regulator.unprobed_of_new hnew
  have hb : bench.bus.Faultless := hreproducible.faultless
  obtain ⟨hresult, hfound, hafter⟩ :=
    (hreproducible.settled chip hchip).exchange_probe hb hfresh.chip
  obtain ⟨hshown, hslot, hbus⟩ := Bench.observe_restart transport hheld hnew
  refine ⟨?_, ⟨_, ⟨hslot, ?_⟩, hfound⟩, hbus.trans hafter⟩
  · rw [hshown, hresult, hfound, hafter]
  · rw [hbus]
    exact (Regulator.reproducible_self hfresh hb).exchange .probe

/-- Without its restarts, a run shows the same and leaves the same bus. -/
theorem diary_filter {vendor : Vendor} {config : Config}
    (hnew : Regulator.new (ε := Failure) vendor config = .ok fresh)
    (h : bench.Knows fresh slot chip) (h' : other.Knows fresh slot chip)
    (hbus : bench.bus = other.bus) (uses : List Use) :
    let diary (bench : Bench Board) := bench.diary transport slot vendor config
    let actions (uses : List Use) := uses.flatMap (Use.actions slot vendor config)
    (diary bench uses).filter (·.use ≠ .restart) = diary other (uses.filter (· ≠ .restart)) ∧
      (bench.after transport (actions uses)).bus =
        (other.after transport (actions (uses.filter (· ≠ .restart)))).bus := by
  induction uses generalizing bench other with
  | nil => exact ⟨rfl, hbus⟩
  | cons use rest ih =>
      cases use with
      | call call =>
          obtain ⟨hshown, _⟩ := h.observe_call h' hbus vendor config call
          have hnext : (bench.act transport (.call slot call)).bench.bus =
              (other.act transport (.call slot call)).bench.bus :=
            congrArg (·.bus) hshown
          obtain ⟨hdiary, hfinal⟩ := ih (h.call call) (h'.call call) hnext
          refine ⟨?_, hfinal⟩
          exact congrArg₂ List.cons hshown hdiary
      | restart =>
          -- Only the one run restarts, and comes out level with the other.
          obtain ⟨_, hknows, hsame⟩ := h.observe_restart hnew
          exact ih hknows h' (hsame.trans hbus)

/-- The chip stays known, and every restart is answered in the same way. -/
theorem shown_of_mem_diary {vendor : Vendor} {config : Config}
    (hnew : Regulator.new (ε := Failure) vendor config = .ok fresh)
    (h : bench.Knows fresh slot chip) (uses : List Use) :
    ∀ entry ∈ bench.diary transport slot vendor config uses,
      entry.chip? = some chip ∧ (entry.use = .restart →
        entry.answers = [.released entry.bus, .mounted (.ok ()),
          .replied (.ok (.profile chip.profile))]) := by
  induction uses generalizing bench with
  | nil => exact List.forall_mem_nil _
  | cons use rest ih =>
      cases use with
      | call call =>
          obtain ⟨_, hchip⟩ := h.observe_call h rfl vendor config call
          refine List.forall_mem_cons.mpr ⟨⟨hchip, ?_⟩, ih (h.call call)⟩
          intro hrestart
          cases hrestart
      | restart =>
          obtain ⟨hshown, hknows, _⟩ := h.observe_restart hnew
          refine List.forall_mem_cons.mpr ⟨?_, ih hknows⟩
          rw [hshown]
          exact ⟨rfl, fun _ => rfl⟩

end

/-- On a register map that fails nothing, take a regulator and some calls, one of them a
probe that succeeds. From there on its restarts, at any points and as many as there are,
make no difference. Every call has the same answer, and leaves the same bus and the same
chip known, as in the run that leaves the restarts out; both runs leave the same bus at
the end. A restart finds the bus as it was released, and its probe shows the ramp that
the first one showed. -/
theorem restarts_unobservable {bench : Bench Board} (hmap : bench.bus.IsRegisterMap)
    (hfaultless : bench.bus.faults = []) {vendor : Vendor} {config : Config}
    {fresh : Regulator} (hnew : Regulator.new (ε := Failure) vendor config = .ok fresh)
    {slot : Nat} (hslot : bench.slots slot = some fresh) {calls : List Call}
    {profile : Ramp.Profile}
    (hprobed : .replied (.ok (.profile profile)) ∈
      (bench.steps transport (calls.map (.call slot))).map (·.answer))
    (uses : List Use) :
    let opened := bench.after transport (calls.map (.call slot))
    let diary := opened.diary transport slot vendor config
    let final (uses : List Use) :=
      (opened.after transport (uses.flatMap (Use.actions slot vendor config))).bus
    let kept := uses.filter (· ≠ .restart)
    (diary uses).filter (·.use ≠ .restart) = diary kept ∧ final uses = final kept ∧
      ∃ chip, chip.profile = profile ∧ ∀ entry ∈ diary uses,
        entry.chip? = some chip ∧ (entry.use = .restart →
          entry.answers = [.released entry.bus, .mounted (.ok ()),
            .replied (.ok (.profile profile))]) := by
  have hfresh : fresh.Unprobed := Regulator.unprobed_of_new hnew
  have hholds : bench.Holds fresh slot fresh :=
    ⟨hslot, Regulator.reproducible_self hfresh ⟨hmap, hfaultless⟩⟩
  obtain ⟨chip, rfl, hknows⟩ := knows_of_probed hholds hprobed
  obtain ⟨hdiary, hfinal⟩ := diary_filter hnew hknows hknows rfl uses
  exact ⟨hdiary, hfinal, chip, rfl, shown_of_mem_diary hnew hknows uses⟩

/-- A fresh secondary with a regulator, and no device at the primary address. -/
def lone : Board :=
  .ofLayouts
    [⟨0x41, [(0x00, 0x80), (0x03, 0x88), (0x0B, 0xA1), (0x0D, 0xA3), (0x0E, 0x40)], [], []⟩] []

def loneConfig : Config :=
  { address := 0x41 }

def loneRegulator : Regulator :=
  { vendor := .silergy, address := 0x41, roles := .ofSleep .vsel1, calibrate := true }

def loneUses : List Use :=
  [.restart, .call (.setVoltage 900000), .restart, .restart, .call .getVoltage]

theorem lone_restarted :
    let bench := (empty lone).setSlot 0 (some loneRegulator)
    let opened := bench.after transport ([.probe].map (.call 0))
    let diary := opened.diary transport 0 .silergy loneConfig
    let actions := Use.actions 0 .silergy loneConfig
    lone.IsRegisterMap ∧ lone.faults = [] ∧
      Regulator.new (ε := Failure) .silergy loneConfig = .ok loneRegulator ∧
      (.replied (.ok (.profile ⟨.silergy, ⟨0x8, 0x0⟩, false, 712500, 12500⟩)) ∈
        (bench.steps transport ([.probe].map (.call 0))).map (·.answer)) ∧
      ((opened.steps transport (loneUses.flatMap actions)).map fun step =>
        (Trim.written step.log).length) = [0, 0, 5, 1, 0, 0, 5, 0, 0, 5, 0] ∧
      (diary loneUses).filter (·.use ≠ .restart) =
        diary [.call (.setVoltage 900000), .call .getVoltage] ∧
      (opened.after transport (loneUses.flatMap actions)).bus =
        (opened.after transport [.call 0 (.setVoltage 900000), .call 0 .getVoltage]).bus := by
  intro bench opened diary actions
  have hmap : lone.IsRegisterMap := Board.isRegisterMap_ofLayouts (by decide) _
  have hnew : Regulator.new (ε := Failure) .silergy loneConfig = .ok loneRegulator := rfl
  have hslot : bench.slots 0 = some loneRegulator := rfl
  have hresult : (loneRegulator.exchange transport lone .probe).result =
      .ok (.profile ⟨.silergy, ⟨0x8, 0x0⟩, false, 712500, 12500⟩) := by
    decide
  have hanswer : (bench.act transport (.call 0 .probe)).answer = .replied _ :=
    (act_call_exchange transport hslot .probe).1.trans (congrArg _ hresult)
  have hprobed : .replied (.ok (.profile ⟨.silergy, ⟨0x8, 0x0⟩, false, 712500, 12500⟩)) ∈
      (bench.steps transport ([.probe].map (.call 0))).map (·.answer) :=
    List.mem_singleton.mpr hanswer.symm
  obtain ⟨hdiary, hfinal, _⟩ :=
    @restarts_unobservable bench hmap rfl .silergy loneConfig _ hnew 0 hslot [.probe] _ hprobed
      loneUses
  exact ⟨hmap, rfl, hnew, hprobed, by decide, hdiary, hfinal⟩

end BuckRegulator.Bench
