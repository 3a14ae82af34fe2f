import BuckRegulator.Bus.Procedure
import BuckRegulator.Bus.Transaction

/-!
A transport answers reads and writes from a state of its own. Nothing is
assumed about it: it may fail at any time, forget what was written, or answer
the same read differently each time. Running a procedure gives its result, the
log of its transactions in order, and the state in which it leaves the bus.
-/

namespace BuckRegulator.Bus

structure Transport (ε σ : Type) where
  read : UInt8 → UInt8 → σ → Except ε UInt8 × σ
  write : UInt8 → UInt8 → UInt8 → σ → Except ε Unit × σ

structure Run (ε σ α : Type) where
  result : α
  log : List (Transaction ε)
  bus : σ

namespace Procedure

variable {ε σ α β : Type}

def run (t : Transport ε σ) : Procedure ε α → σ → Run ε σ α
  | .done result, bus => ⟨result, [], bus⟩
  | .read address register next, bus =>
      let (answer, bus) := t.read address register bus
      let rest := (next answer).run t bus
      { rest with log := .read address register answer :: rest.log }
  | .write address register value next, bus =>
      let (answer, bus) := t.write address register value bus
      let rest := (next answer).run t bus
      { rest with log := .write address register value answer :: rest.log }

@[simp] theorem run_pure (t : Transport ε σ) (result : α) (bus : σ) :
    (pure result : Procedure ε α).run t bus = ⟨result, [], bus⟩ := rfl

/-- A sequence runs its second part on the bus that the first one leaves. -/
theorem run_bind (t : Transport ε σ) (first : Procedure ε α)
    (rest : α → Procedure ε β) (bus : σ) :
    (first >>= rest).run t bus =
      let before := first.run t bus
      let after := (rest before.result).run t before.bus
      ⟨after.result, before.log ++ after.log, after.bus⟩ := by
  induction first generalizing bus with
  | done => rfl
  | read address register next ih =>
      simp only [read_bind_eq, run, ih, List.cons_append]
  | write address register value next ih =>
      simp only [write_bind_eq, run, ih, List.cons_append]

end Procedure

@[simp] theorem run_read {ε σ : Type} (t : Transport ε σ) (address register : UInt8)
    (bus : σ) :
    (read address register).run t bus =
      let answer := t.read address register bus
      ⟨answer.1, [.read address register answer.1], answer.2⟩ := rfl

@[simp] theorem run_write {ε σ : Type} (t : Transport ε σ)
    (address register value : UInt8) (bus : σ) :
    (write address register value).run t bus =
      let answer := t.write address register value bus
      ⟨answer.1, [.write address register value answer.1], answer.2⟩ := rfl

/-- An update reads once, and writes once if the register could be read. -/
theorem run_updateBits {ε σ : Type} (t : Transport ε σ)
    (address register mask value : UInt8) (bus : σ) :
    (updateBits address register mask value).run t bus =
      let got := t.read address register bus
      match got.1 with
      | .error e => ⟨.error e, [.read address register (.error e)], got.2⟩
      | .ok old =>
          let put := t.write address register (splice mask old value) got.2
          ⟨put.1, [.read address register (.ok old),
            .write address register (splice mask old value) put.1], put.2⟩ := by
  simp only [updateBits, Procedure.run_bind, run_read]
  cases (t.read address register bus).1 <;> rfl

end BuckRegulator.Bus
