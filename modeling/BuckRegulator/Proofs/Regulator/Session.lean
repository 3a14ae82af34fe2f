import BuckRegulator.Proofs.Bench.Run
import BuckRegulator.Proofs.Regulator.Calls

/-!
A session is the use of one regulator over time: calls in order, each on the
bus that the one before left behind, or on what became of it in between. The
bus and its changes are arbitrary. A session is what a bench does with a
regulator in one of its slots.
-/

namespace BuckRegulator.Regulator

open Bus (Transaction Transport)

variable {ε σ : Type}

/-- What becomes of the bus before a call, and the call. -/
structure Turn (σ : Type) where
  change : σ → σ := id
  call : Call

structure Exchange (ε σ : Type) where
  call : Call
  before : σ
  result : Except (Error ε) Reply
  log : List (Transaction ε)
  regulator : Regulator
  after : σ

def exchange (t : Transport ε σ) (r : Regulator) (bus : σ) (call : Call) : Exchange ε σ :=
  let run := (r.serve call).run t bus
  { call, before := bus, result := run.result.1, log := run.log, regulator := run.result.2
    after := run.bus }

def session (t : Transport ε σ) (r : Regulator) (bus : σ) :
    List (Turn σ) → List (Exchange ε σ)
  | [] => []
  | turn :: rest =>
      let e := r.exchange t (turn.change bus) turn.call
      e :: e.regulator.session t e.after rest

/-- The induction over sessions. What the exchanges of a regulator show while it keeps
a property, they show in all its sessions, if no exchange loses the property. -/
theorem forall_mem_session (t : Transport ε σ) {keeps : Regulator → Prop}
    {shows : Exchange ε σ → Prop}
    (hkeeps : ∀ r bus call, keeps r → keeps (r.exchange t bus call).regulator)
    (hshows : ∀ r bus call, keeps r → shows (r.exchange t bus call))
    {r : Regulator} (h : keeps r) (bus : σ) (turns : List (Turn σ)) :
    ∀ e ∈ r.session t bus turns, shows e := by
  induction turns generalizing r bus with
  | nil => exact List.forall_mem_nil _
  | cons turn rest ih =>
      have hfirst := hshows r (turn.change bus) turn.call h
      have hkept := hkeeps r (turn.change bus) turn.call h
      exact List.forall_mem_cons.mpr ⟨hfirst, ih hkept _⟩

theorem exchange_probe (t : Transport ε σ) (r : Regulator) (bus : σ) :
    r.exchange t bus .probe =
      let run := (r.probe).run t bus
      ⟨.probe, bus, run.result.1.map .profile, run.log, run.result.2, run.bus⟩ := by
  simp only [exchange, run_serve_probe]

theorem exchange_getVoltage (t : Transport ε σ) (r : Regulator) (bus : σ) :
    r.exchange t bus .getVoltage =
      let run := (r.getVoltage).run t bus
      ⟨.getVoltage, bus, run.result.map .voltage, run.log, r, run.bus⟩ := by
  simp only [exchange, run_serve_getVoltage]

theorem exchange_setVoltage (t : Transport ε σ) (r : Regulator) (bus : σ) (uv : UInt32) :
    r.exchange t bus (.setVoltage uv) =
      let run := (r.setVoltage uv).run t bus
      ⟨.setVoltage uv, bus, run.result.map fun _ => .done, run.log, r, run.bus⟩ := by
  simp only [exchange, run_serve_setVoltage]

def Turn.actions (slot : Nat) (turn : Turn σ) : List (Bench.Action σ) :=
  [.rewire turn.change, .call slot turn.call]

/-- A bench takes the same turns with the same answers and transactions. -/
theorem steps_actions (t : Transport ε σ) {bench : Bench σ} {slot : Nat} {r : Regulator}
    (h : bench.slots slot = some r) (turns : List (Turn σ)) :
    (bench.steps t (turns.flatMap (Turn.actions slot))).map (fun s => (s.answer, s.log)) =
      (r.session t bench.bus turns).flatMap fun e =>
        [(.rewired, []), (.replied e.result, e.log)] := by
  induction turns generalizing bench r with
  | nil => rfl
  | cons turn rest ih =>
      let changed : Bench σ := { bench with bus := turn.change bench.bus }
      let called := (changed.act t (.call slot turn.call)).bench
      have hchanged : changed.slots slot = some r := h
      have hact := Bench.act_call t hchanged turn.call
      have hslot : called.slots slot =
          some (r.exchange t (turn.change bench.bus) turn.call).regulator := by
        simp only [called, hact, Bench.slots_setSlot, if_true]
        rfl
      have hrest := ih hslot
      simp only [called, hact, Bench.bus_setSlot] at hrest
      have hrewire : bench.act t (.rewire turn.change) = ⟨.rewired, [], changed⟩ := rfl
      simp only [List.flatMap_cons, Turn.actions, List.cons_append, List.nil_append,
        Bench.steps, List.map_cons, session, hrewire, hact, hrest]
      rfl

end BuckRegulator.Regulator
