import BuckRegulator.Proofs.Board.RegisterMap
import BuckRegulator.Proofs.Trim.Phases

/-!
Calibration writes trim bytes back, so that it keeps them is not a matter of
where it writes. What is saved is what the registers hold, nothing is written
before everything is saved, and each byte returns to the register it came from.
So every planned write either goes to one of four registers that calibration is
for, or carries the byte that the register holds already; it is then harmless
however the board answers it.
-/

namespace BuckRegulator.Trim

open Board (value?_run value?_run_of_reads)
open Bus (Failure Procedure Request requests)

/-- The registers that calibration is for: both unlock registers, the status
register at the primary address and the one at the commit address. -/
def calibrationRegisters : List (UInt8 × UInt8) :=
  [(0x40, 0x0A), (0x41, 0x0A), (0x40, 0x0E), (0x42, 0x0E)]

def Write.Harmless (b : Board) (w : Write) : Prop :=
  (w.address, w.register) ∈ calibrationRegisters ∨
    b.value? w.address w.register = some w.value

theorem value?_of_mem_readEach {b : Board} (hmap : b.IsRegisterMap) (address : UInt8)
    (registers : List UInt8) (saved : Snapshot)
    (h : ((readEach address registers).run Board.transport b).result = some saved)
    {register value : UInt8} (member : (register, value) ∈ saved) :
    b.value? address register = some value := by
  induction registers generalizing b saved with
  | nil =>
      cases h
      cases member
  | cons first rest ih =>
      rw [run_readEach_cons] at h
      cases got : (b.read address first).1 with
      | error e =>
          simp only [Board.transport, got] at h
          cases h
      | ok value' =>
          simp only [Board.transport, got, Option.map_eq_some_iff] at h
          obtain ⟨later, hlater, rfl⟩ := h
          rcases List.mem_cons.mp member with here | there
          · cases here
            exact Board.value?_of_read hmap got
          · have hmap' : (b.read address first).2.IsRegisterMap :=
              Board.isRegisterMap_run (Bus.read address first) hmap
            have hvalue := ih hmap' later hlater there
            rwa [Board.value?_read] at hvalue

theorem value?_save (site : Site) (b : Board) (a r : UInt8) :
    ((save site).run Board.transport b).bus.value? a r = b.value? a r :=
  value?_run_of_reads (save site) b (isWrite_of_mem_save Board.transport site b) a r

theorem value?_inspect (address : UInt8) (registers : List UInt8) (b : Board)
    (a r : UInt8) :
    ((inspect address registers).run Board.transport b).bus.value? a r = b.value? a r := by
  apply value?_run
  intro value asked
  rw [requests_inspect] at asked
  obtain ⟨register, _, hread⟩ := List.mem_map.mp asked
  cases hread

/-- Harmless writes keep every register that calibration is not for, whether
they are acknowledged, dropped, fail, or fail and are stored all the same. -/
theorem value?_issue {b : Board} (faults : UInt8) {writes : List Write}
    (hwrites : ∀ w ∈ writes, w.Harmless b) {a r : UInt8}
    (hkept : (a, r) ∉ calibrationRegisters) :
    ((issue faults writes).run Board.transport b).bus.value? a r = b.value? a r := by
  apply value?_run
  intro value asked old stored
  rw [requests_issue] at asked
  obtain ⟨w, member, hrequest⟩ := List.mem_map.mp asked
  cases hrequest
  rcases hwrites w member with hlisted | hheld
  · exact absurd hlisted hkept
  · rw [Option.mem_def, hheld] at stored
    exact Option.some.inj stored

/-- Saved bytes are harmless to write back to the site they were saved from. -/
theorem harmless_of_mem_restore {b : Board} {site : Site} {saved : Snapshot}
    (hsaved : ∀ entry ∈ saved, b.value? site.address entry.1 = some entry.2) :
    ∀ w ∈ site.restore saved, w.Harmless b := by
  intro w member
  obtain ⟨entry, hentry, rfl⟩ := List.mem_map.mp member
  exact Or.inr (hsaved entry hentry)

theorem harmless_of_mem_soloWrites {b : Board} {site : Site} {saved : Snapshot}
    (hsaved : ∀ entry ∈ saved, b.value? site.address entry.1 = some entry.2) :
    ∀ w ∈ soloWrites site saved, w.Harmless b := by
  intro w member
  have hunlock : (site.address, unlockRegister) ∈ calibrationRegisters := by
    cases site <;> decide
  have hstatus : (Site.primary.address, statusRegister) ∈ calibrationRegisters := by
    decide
  rcases List.mem_cons.mp member with rfl | member
  · exact Or.inl hunlock
  rcases List.mem_cons.mp member with rfl | member
  · exact Or.inl hstatus
  · exact harmless_of_mem_restore hsaved w member

theorem harmless_of_mem_pairWrites {b : Board} {primary secondary : Snapshot}
    (hprimary : ∀ entry ∈ primary, b.value? Site.primary.address entry.1 = some entry.2)
    (hsecondary : ∀ entry ∈ secondary,
      b.value? Site.secondary.address entry.1 = some entry.2) :
    ∀ w ∈ pairWrites primary secondary, w.Harmless b := by
  intro w member
  have hunlocking : ∀ w ∈ [Site.primary.unlock, writeStatus Site.primary.pairStatus,
      Site.secondary.unlock, writeStatus Site.secondary.pairStatus],
      (w.address, w.register) ∈ calibrationRegisters := by
    decide
  have hcommit : (commit.address, commit.register) ∈ calibrationRegisters := by
    decide
  rcases List.mem_append.mp member with member | member
  · rcases List.mem_append.mp member with member | member
    · exact Or.inl (hunlocking w member)
    · exact harmless_of_mem_restore hsecondary w member
  · rcases List.mem_cons.mp member with rfl | member
    · exact Or.inl hcommit
    · exact harmless_of_mem_restore hprimary w member

theorem stored_of_save {b : Board} (hmap : b.IsRegisterMap) (site : Site)
    (saved : Snapshot) (h : ((save site).run Board.transport b).result = some saved) :
    ∀ entry ∈ saved, b.value? site.address entry.1 = some entry.2 :=
  fun _ member => value?_of_mem_readEach hmap site.address trimRegisters saved h member

theorem value?_perform_solo {b : Board} (hmap : b.IsRegisterMap) (site : Site)
    (a r : UInt8)
    (h : (a, r) ∉ calibrationRegisters ∨
      ((Plan.solo site).perform.run Board.transport b).result.1 ≠ .calibrated) :
    ((Plan.solo site).perform.run Board.transport b).bus.value? a r = b.value? a r := by
  have hsaving := value?_save site b
  have hstored := stored_of_save hmap site
  simp only [run_perform_solo] at h ⊢
  generalize (save site).run Board.transport b = saving at hsaving hstored h ⊢
  cases hresult : saving.result with
  | none => exact hsaving a r
  | some saved =>
      have hkept : (a, r) ∉ calibrationRegisters := by
        simpa [hresult] using h
      have hwrites : ∀ w ∈ soloWrites site saved, w.Harmless saving.bus := by
        apply harmless_of_mem_soloWrites
        intro entry member
        rw [hsaving]
        exact hstored saved hresult entry member
      simp only [value?_inspect]
      rw [value?_issue 0 hwrites hkept, hsaving]

theorem value?_perform_pair {b : Board} (hmap : b.IsRegisterMap) (a r : UInt8)
    (h : (a, r) ∉ calibrationRegisters ∨
      (Plan.pair.perform.run Board.transport b).result.1 ≠ .calibrated) :
    (Plan.pair.perform.run Board.transport b).bus.value? a r = b.value? a r := by
  have hfirst := value?_save .primary b
  have hmap' := Board.isRegisterMap_run (save .primary) hmap
  have hstored := stored_of_save hmap .primary
  simp only [run_perform_pair] at h ⊢
  generalize (save .primary).run Board.transport b = first at hfirst hmap' hstored h ⊢
  have hsecond := value?_save .secondary first.bus
  have hstored' := stored_of_save hmap' .secondary
  generalize (save .secondary).run Board.transport first.bus = second
    at hsecond hstored' h ⊢
  have hsaving (a r : UInt8) : second.bus.value? a r = b.value? a r :=
    (hsecond a r).trans (hfirst a r)
  cases hprimary : first.result with
  | none => exact hsaving a r
  | some primary =>
      cases hsecondary : second.result with
      | none => exact hsaving a r
      | some secondary =>
          have hkept : (a, r) ∉ calibrationRegisters := by
            simpa [hprimary, hsecondary] using h
          have hwrites : ∀ w ∈ pairWrites primary secondary, w.Harmless second.bus := by
            apply harmless_of_mem_pairWrites
            · intro entry member
              rw [hsaving]
              exact hstored primary hprimary entry member
            · intro entry member
              rw [hsecond]
              exact hstored' secondary hsecondary entry member
          simp only
          rw [value?_issue 0 hwrites hkept, hsaving]

/-- Carrying out a plan keeps every register that calibration is not for, and
all of them if it does not end in a calibration. -/
theorem value?_perform {b : Board} (hmap : b.IsRegisterMap) (plan : Plan) (a r : UInt8)
    (h : (a, r) ∉ calibrationRegisters ∨
      (plan.perform.run Board.transport b).result.1 ≠ .calibrated) :
    (plan.perform.run Board.transport b).bus.value? a r = b.value? a r := by
  cases plan with
  | rest outcome => rfl
  | solo site => exact value?_perform_solo hmap site a r h
  | pair => exact value?_perform_pair hmap a r h

theorem value?_calibrate {b : Board} (hmap : b.IsRegisterMap) (a r : UInt8)
    (h : (a, r) ∉ calibrationRegisters ∨
      (calibrate.run Board.transport b).result.outcome ≠ .calibrated) :
    (calibrate.run Board.transport b).bus.value? a r = b.value? a r := by
  let afterFirst := (b.read Site.primary.address statusRegister).2
  let afterSecond := (afterFirst.read Site.secondary.address statusRegister).2
  have hmap' : afterSecond.IsRegisterMap :=
    Board.isRegisterMap_read (Board.isRegisterMap_read hmap _ _) _ _
  have hvalue : afterSecond.value? a r = b.value? a r :=
    (Board.value?_read afterFirst _ _ a r).trans (Board.value?_read b _ _ a r)
  simp only [run_calibrate] at h ⊢
  exact (value?_perform hmap' _ a r h).trans hvalue

/-- Whatever fails, a calibration changes what is read back from at most four
registers. The trim bytes of both sites and the status of the secondary are not
among them, and nothing changes at all unless the outcome says that the chips
were calibrated. -/
theorem calibrate_keeps_registers (b : Board) (hmap : b.IsRegisterMap) :
    let run := calibrate.run Board.transport b
    (∀ a r, (a, r) ∉ [(0x40, 0x0A), (0x41, 0x0A), (0x40, 0x0E), (0x42, 0x0E)] →
      run.bus.value? a r = b.value? a r) ∧
    (∀ a ∈ [0x40, 0x41], ∀ r ∈ [0x0B, 0x0C, 0x0D],
      run.bus.value? a r = b.value? a r) ∧
    run.bus.value? 0x41 0x0E = b.value? 0x41 0x0E ∧
    (run.result.outcome ∈ [.noTargets, .alreadyCalibrated, .unsupported, .aborted] →
      ∀ a r, run.bus.value? a r = b.value? a r) := by
  have hkept (a r : UInt8) (h : (a, r) ∉ calibrationRegisters) :=
    value?_calibrate hmap a r (Or.inl h)
  refine ⟨hkept, ?_, hkept 0x41 0x0E (by decide), ?_⟩
  · intro a ha r hr
    apply hkept
    simp only [List.mem_cons, List.not_mem_nil, or_false] at ha hr
    rcases ha with rfl | rfl <;> rcases hr with rfl | rfl | rfl <;> decide
  · intro houtcome a r
    apply value?_calibrate hmap a r
    right
    intro hcalibrated
    rw [hcalibrated] at houtcome
    simp at houtcome

/-- Two fresh chips on a board that fails the unlock of the secondary, and one
write of its trim although the byte is stored. -/
def faultyPair : Board :=
  .ofLayouts [
      ⟨0x40, [(0x0B, 0x11), (0x0C, 0x22), (0x0D, 0x33), (0x0E, 0x00)], [], []⟩,
      ⟨0x41, [(0x0B, 0xA1), (0x0C, 0xA2), (0x0D, 0xA3), (0x0E, 0x40)], [0x0D], []⟩]
    [ { direction := some .write, address := some 0x41, register := some 0x0A },
      { direction := some .write, address := some 0x41, register := some 0x0C
        applied := true } ]

theorem faultyPair_keeps_trim :
    faultyPair.IsRegisterMap ∧
      (calibrate.run Board.transport faultyPair).result.outcome = .calibrated ∧
      (calibrate.run Board.transport faultyPair).bus.value? 0x41 0x0C = some 0xA2 := by
  have hmap : faultyPair.IsRegisterMap := Board.isRegisterMap_ofLayouts (by decide) _
  refine ⟨hmap, by decide, ?_⟩
  rw [(calibrate_keeps_registers faultyPair hmap).2.1 0x41 (by decide) 0x0C (by decide)]
  decide

end BuckRegulator.Trim
