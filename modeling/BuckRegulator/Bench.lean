import BuckRegulator.Regulator.Basic
import BuckRegulator.Bus.Transport

/-!
Several regulators that share one bus, each in a numbered slot. An action may
use a regulator, calibrate the bus without one, or change the bus from outside
between two calls. Every action leaves a step: its answer, the transactions it
caused, and the bench after it.
-/

namespace BuckRegulator

open Bus (Transaction Transport)
open Regulator (Call Config Error Reply)

structure Bench (σ : Type) where
  bus : σ
  slots : Nat → Option Regulator

namespace Bench

variable {ε σ : Type}

def empty (bus : σ) : Bench σ where
  bus := bus
  slots _ := none

def setSlot (bench : Bench σ) (slot : Nat) (content : Option Regulator) : Bench σ :=
  { bench with slots := fun s => if s = slot then content else bench.slots s }

@[simp] theorem bus_setSlot (bench : Bench σ) (slot : Nat) (content : Option Regulator) :
    (bench.setSlot slot content).bus = bench.bus := rfl

theorem slots_setSlot (bench : Bench σ) (slot : Nat) (content : Option Regulator)
    (s : Nat) :
    (bench.setSlot slot content).slots s =
      if s = slot then content else bench.slots s := rfl

inductive Action (σ : Type) where
  /-- Makes a regulator for a slot, in place of the one in it. The slot is left
  empty if the configuration is refused. -/
  | mount (slot : Nat) (vendor : Vendor) (config : Config)
  | call (slot : Nat) (call : Call)
  /-- Gives up the regulator of a slot and shows the bus. -/
  | release (slot : Nat)
  | calibrate
  /-- Changes the bus by other means than transactions. -/
  | rewire (change : σ → σ)

inductive Answer (ε σ : Type) where
  | mounted (result : Except (Error ε) Unit)
  | replied (result : Except (Error ε) Reply)
  | released (bus : σ)
  | calibrated (report : Trim.Report)
  | rewired
  /-- There is no regulator in the slot. -/
  | vacant

structure Step (ε σ : Type) where
  answer : Answer ε σ
  log : List (Transaction ε)
  bench : Bench σ

def act (t : Transport ε σ) (bench : Bench σ) : Action σ → Step ε σ
  | .mount slot vendor config =>
      match Regulator.new vendor config with
      | .error e => ⟨.mounted (.error e), [], bench.setSlot slot none⟩
      | .ok regulator => ⟨.mounted (.ok ()), [], bench.setSlot slot (some regulator)⟩
  | .call slot call =>
      match bench.slots slot with
      | none => ⟨.vacant, [], bench⟩
      | some regulator =>
          let run := (regulator.serve call).run t bench.bus
          ⟨.replied run.result.1, run.log,
            { bench with bus := run.bus }.setSlot slot (some run.result.2)⟩
  | .release slot =>
      match bench.slots slot with
      | none => ⟨.vacant, [], bench⟩
      | some _ => ⟨.released bench.bus, [], bench.setSlot slot none⟩
  | .calibrate =>
      let run := Trim.calibrate.run t bench.bus
      ⟨.calibrated run.result, run.log, { bench with bus := run.bus }⟩
  | .rewire change => ⟨.rewired, [], { bench with bus := change bench.bus }⟩

def steps (t : Transport ε σ) (bench : Bench σ) : List (Action σ) → List (Step ε σ)
  | [] => []
  | action :: rest =>
      let step := bench.act t action
      step :: step.bench.steps t rest

/-- The bench that a sequence of actions leaves. -/
def after (t : Transport ε σ) (bench : Bench σ) (actions : List (Action σ)) : Bench σ :=
  actions.foldl (fun bench action => (bench.act t action).bench) bench

end Bench

end BuckRegulator
