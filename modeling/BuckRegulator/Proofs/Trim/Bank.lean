import BuckRegulator.Proofs.Trim.Preservation
import BuckRegulator.Proofs.Trim.Protocol

namespace BuckRegulator.Trim

open Bus (Request Transport requests)

variable {ε σ : Type}

/-- The registers from the unlock register to the status. -/
def InBank (register : UInt8) : Prop :=
  unlockRegister ≤ register ∧ register ≤ statusRegister

instance : DecidablePred InBank := fun _ =>
  inferInstanceAs (Decidable (_ ∧ _))

theorem not_inBank_of_lt {register : UInt8} (h : register < unlockRegister) :
    ¬InBank register :=
  fun hbank => absurd h (UInt8.not_lt.mpr hbank.1)

theorem inBank_of_mem_trimRegisters {register : UInt8} (h : register ∈ trimRegisters) :
    InBank register := by
  simp only [trimRegisters, List.mem_cons, List.not_mem_nil, or_false] at h
  rcases h with rfl | rfl | rfl <;> decide

theorem inBank_of_mem_calibrationRegisters (a r : UInt8)
    (h : (a, r) ∈ calibrationRegisters) : InBank r := by
  simp only [calibrationRegisters, List.mem_cons, Prod.mk.injEq, List.not_mem_nil,
    or_false] at h
  rcases h with ⟨_, rfl⟩ | ⟨_, rfl⟩ | ⟨_, rfl⟩ | ⟨_, rfl⟩ <;> decide

/-- Where a calibration reaches: the bank at the addresses of both sites, and the
status register at the commit address. -/
def InReach (address register : UInt8) : Prop :=
  (address ∈ [0x40, 0x41] ∧ InBank register) ∨ (address = 0x42 ∧ register = 0x0E)

instance (address register : UInt8) : Decidable (InReach address register) :=
  inferInstanceAs (Decidable (_ ∨ _))

theorem InReach.inBank {address register : UInt8} (h : InReach address register) :
    InBank register := by
  rcases h with ⟨_, hbank⟩ | ⟨_, rfl⟩
  · exact hbank
  · decide

theorem inReach_of_mem_saving {address : UInt8} (haddress : address ∈ [0x40, 0x41])
    (answers : List (Except ε UInt8)) :
    ∀ request ∈ (saving address answers).asked, InReach request.address request.register := by
  have hbank (register : UInt8) (h : InBank register) : InReach address register :=
    Or.inl ⟨haddress, h⟩
  unfold saving
  split <;> simp only [List.forall_mem_cons, List.not_mem_nil, false_implies, implies_true,
    and_true, Request.address, Request.register]
  · exact ⟨hbank _ (by decide), hbank _ (by decide), hbank _ (by decide)⟩
  · exact ⟨hbank _ (by decide), hbank _ (by decide), hbank _ (by decide)⟩
  · exact ⟨hbank _ (by decide), hbank _ (by decide)⟩
  · exact hbank _ (by decide)

theorem inReach_of_mem_soloRequests {address : UInt8} (haddress : address ∈ [0x40, 0x41])
    (status : UInt8) (answers : List (Except ε UInt8)) :
    ∀ request ∈ soloRequests address status answers,
      InReach request.address request.register := by
  refine List.forall_mem_append.mpr ⟨inReach_of_mem_saving haddress answers, ?_⟩
  split
  · nofun
  · simp only [List.mem_cons, List.not_mem_nil, or_false] at haddress
    simp only [List.forall_mem_cons, List.not_mem_nil, false_implies, implies_true,
      Request.address, Request.register]
    rcases haddress with rfl | rfl <;> decide

theorem inReach_of_mem_pairRequests (answers : List (Except ε UInt8)) :
    ∀ request ∈ pairRequests answers, InReach request.address request.register := by
  refine List.forall_mem_append.mpr ⟨inReach_of_mem_saving (by decide) answers, ?_⟩
  refine List.forall_mem_append.mpr ⟨inReach_of_mem_saving (by decide) _, ?_⟩
  split
  · simp only [List.forall_mem_cons, List.not_mem_nil, false_implies, implies_true,
      Request.address, Request.register]
    decide
  · nofun

theorem inReach_of_mem_asks (plan : Plan) (answers : List (Except ε UInt8)) :
    ∀ request ∈ plan.asks answers, InReach request.address request.register := by
  cases plan with
  | rest outcome => nofun
  | solo site =>
      have haddress : site.address ∈ [0x40, 0x41] := by
        cases site <;> decide
      exact inReach_of_mem_soloRequests haddress _ answers
  | pair => exact inReach_of_mem_pairRequests answers

/-- A calibration stays within its reach. -/
theorem inReach_of_mem_calibrate (t : Transport ε σ) (bus : σ) :
    ∀ entry ∈ (calibrate.run t bus).log, InReach entry.address entry.register := by
  intro entry member
  simp only [run_calibrate, List.mem_cons] at member
  have hstatus (site : Site) : InReach site.address statusRegister := by
    cases site <;> decide
  rcases member with rfl | rfl | member
  · exact hstatus .primary
  · exact hstatus .secondary
  · have hasked : entry.request ∈ requests _ := List.mem_map_of_mem member
    rw [requests_perform] at hasked
    rw [← entry.address_request, ← entry.register_request]
    exact inReach_of_mem_asks _ _ _ hasked

/-- In particular it stays in its bank. -/
theorem inBank_of_mem_calibrate (t : Transport ε σ) (bus : σ) :
    ∀ entry ∈ (calibrate.run t bus).log, InBank entry.register :=
  fun entry member => (inReach_of_mem_calibrate t bus entry member).inBank

/-- A calibration always asks something of the bus. -/
theorem log_calibrate_ne_nil (t : Transport ε σ) (bus : σ) :
    (calibrate.run t bus).log ≠ [] := by
  rw [run_calibrate]
  exact List.cons_ne_nil _ _

end BuckRegulator.Trim
