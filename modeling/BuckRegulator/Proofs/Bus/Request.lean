import BuckRegulator.Bus.Transport

namespace BuckRegulator.Bus

variable {ε σ α : Type}

inductive Request where
  | read (address register : UInt8)
  | write (address register value : UInt8)
  deriving DecidableEq, Repr

def Request.address : Request → UInt8
  | .read address _ | .write address _ _ => address

def Request.register : Request → UInt8
  | .read _ register | .write _ register _ => register

def Transaction.request : Transaction ε → Request
  | .read address register _ => .read address register
  | .write address register value _ => .write address register value

def Transaction.readAnswer? : Transaction ε → Option (Except ε UInt8)
  | .read _ _ answer => some answer
  | .write .. => none

def requests (log : List (Transaction ε)) : List Request :=
  log.map Transaction.request

def readAnswers (log : List (Transaction ε)) : List (Except ε UInt8) :=
  log.filterMap Transaction.readAnswer?

theorem Transaction.address_request (t : Transaction ε) :
    t.request.address = t.address := by
  cases t <;> rfl

theorem Transaction.register_request (t : Transaction ε) :
    t.request.register = t.register := by
  cases t <;> rfl

@[simp] theorem requests_nil : requests ([] : List (Transaction ε)) = [] := rfl

@[simp] theorem requests_cons (t : Transaction ε) (log : List (Transaction ε)) :
    requests (t :: log) = t.request :: requests log := rfl

@[simp] theorem requests_append (first second : List (Transaction ε)) :
    requests (first ++ second) = requests first ++ requests second :=
  List.map_append

@[simp] theorem readAnswers_append (first second : List (Transaction ε)) :
    readAnswers (first ++ second) = readAnswers first ++ readAnswers second :=
  List.filterMap_append

theorem write_mem_requests {address register value : UInt8} {log : List (Transaction ε)} :
    .write address register value ∈ requests log ↔
      ∃ answer, .write address register value answer ∈ log := by
  simp only [requests, List.mem_map]
  constructor
  · rintro ⟨t, member, asked⟩
    cases t with
    | read => cases asked
    | write a r v answer =>
        cases asked
        exact ⟨answer, member⟩
  · rintro ⟨answer, member⟩
    exact ⟨_, member, rfl⟩

/-- What every transaction keeps, a run keeps. -/
theorem Procedure.run_keeps (t : Transport ε σ) (keeps : σ → Prop)
    (hread : ∀ address register bus, keeps bus → keeps (t.read address register bus).2)
    (hwrite : ∀ address register value bus,
      keeps bus → keeps (t.write address register value bus).2)
    (p : Procedure ε α) (bus : σ) (h : keeps bus) : keeps (p.run t bus).bus := by
  induction p generalizing bus with
  | done => exact h
  | read address register next ih => exact ih _ _ (hread _ _ _ h)
  | write address register value next ih => exact ih _ _ (hwrite _ _ _ _ h)

end BuckRegulator.Bus
