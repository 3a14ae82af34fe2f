/-!
A procedure is a finite tree of register reads and writes that branches on
every answer. It names no bus: what it would do is decided for all answers at
once, and the same procedure can be run on any transport.
-/

namespace BuckRegulator.Bus

inductive Procedure (ε α : Type) where
  | done (result : α)
  | read (address register : UInt8) (next : Except ε UInt8 → Procedure ε α)
  | write (address register value : UInt8) (next : Except ε Unit → Procedure ε α)

namespace Procedure

variable {ε α β : Type}

def bind : Procedure ε α → (α → Procedure ε β) → Procedure ε β
  | .done result, rest => rest result
  | .read address register next, rest =>
      .read address register fun answer => (next answer).bind rest
  | .write address register value next, rest =>
      .write address register value fun answer => (next answer).bind rest

instance : Monad (Procedure ε) where
  pure := done
  bind := bind

@[simp] theorem read_bind_eq (address register : UInt8)
    (next : Except ε UInt8 → Procedure ε α) (rest : α → Procedure ε β) :
    (Procedure.read address register next >>= rest) =
      .read address register fun answer => next answer >>= rest := rfl

@[simp] theorem write_bind_eq (address register value : UInt8)
    (next : Except ε Unit → Procedure ε α) (rest : α → Procedure ε β) :
    (Procedure.write address register value next >>= rest) =
      .write address register value fun answer => next answer >>= rest := rfl

instance : LawfulMonad (Procedure ε) :=
  LawfulMonad.mk' _
    (by
      intro _ x
      change x.bind (fun a => done (id a)) = x
      induction x with
      | done => rfl
      | read address register next ih =>
          exact congrArg (read address register) (funext ih)
      | write address register value next ih =>
          exact congrArg (write address register value) (funext ih))
    (by intros; rfl)
    (by
      intro _ _ _ x f g
      change (x.bind f).bind g = x.bind (fun a => (f a).bind g)
      induction x with
      | done => rfl
      | read address register next ih =>
          exact congrArg (read address register) (funext ih)
      | write address register value next ih =>
          exact congrArg (write address register value) (funext ih))

end Procedure

def read {ε : Type} (address register : UInt8) : Procedure ε (Except ε UInt8) :=
  .read address register .done

def write {ε : Type} (address register value : UInt8) : Procedure ε (Except ε Unit) :=
  .write address register value .done

/-- The byte that has the bits of `value` inside `mask` and those of `old`
outside it. -/
def splice (mask old value : UInt8) : UInt8 :=
  (old &&& ~~~mask) ||| (value &&& mask)

/-- Replaces the bits of a register inside `mask`. Nothing is written when the
register cannot be read. -/
def updateBits {ε : Type} (address register mask value : UInt8) :
    Procedure ε (Except ε Unit) := do
  match ← read address register with
  | .error e => return .error e
  | .ok old => write address register (splice mask old value)

end BuckRegulator.Bus
