import BuckRegulator.Proofs.Bus.Request

namespace BuckRegulator.Bus

variable {ε σ α β : Type} {allowed : UInt8 → Prop}

/-- Every register that the procedure may ever name is allowed. -/
def Procedure.Within (allowed : UInt8 → Prop) : Procedure ε α → Prop
  | .done _ => True
  | .read _ register next => allowed register ∧ ∀ answer, (next answer).Within allowed
  | .write _ register _ next => allowed register ∧ ∀ answer, (next answer).Within allowed

theorem within_pure (result : α) : (pure result : Procedure ε α).Within allowed :=
  trivial

theorem within_read {register : UInt8} (h : allowed register) (address : UInt8) :
    (read (ε := ε) address register).Within allowed :=
  ⟨h, fun _ => trivial⟩

theorem within_write {register : UInt8} (h : allowed register) (address value : UInt8) :
    (write (ε := ε) address register value).Within allowed :=
  ⟨h, fun _ => trivial⟩

theorem within_bind {first : Procedure ε α} {rest : α → Procedure ε β}
    (hfirst : first.Within allowed) (hrest : ∀ a, (rest a).Within allowed) :
    (first >>= rest).Within allowed := by
  induction first with
  | done result => exact hrest result
  | read address register next ih =>
      exact ⟨hfirst.1, fun answer => ih answer (hfirst.2 answer)⟩
  | write address register value next ih =>
      exact ⟨hfirst.1, fun answer => ih answer (hfirst.2 answer)⟩

theorem within_updateBits {register : UInt8} (h : allowed register)
    (address mask value : UInt8) :
    (updateBits (ε := ε) address register mask value).Within allowed := by
  refine within_bind (within_read h address) fun answer => ?_
  cases answer with
  | error e => exact within_pure _
  | ok old => exact within_write h address _

/-- A run keeps to the registers of its procedure. -/
theorem register_of_mem_run (t : Transport ε σ) {p : Procedure ε α}
    (h : p.Within allowed) (bus : σ) : ∀ entry ∈ (p.run t bus).log, allowed entry.register := by
  induction p generalizing bus with
  | done result => exact List.forall_mem_nil _
  | read address register next ih =>
      exact List.forall_mem_cons.mpr ⟨h.1, ih _ (h.2 _) _⟩
  | write address register value next ih =>
      exact List.forall_mem_cons.mpr ⟨h.1, ih _ (h.2 _) _⟩

end BuckRegulator.Bus
