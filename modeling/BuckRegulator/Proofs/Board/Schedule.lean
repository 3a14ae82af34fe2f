import BuckRegulator.Proofs.Board.Reliable

/-!
Rules can follow any schedule. A schedule says of each transaction, by its
number, whether it fails, how, and whether a failing write is stored. One rule
for each failing transaction does it, over any number of transactions. So what
holds of every board holds under every schedule.
-/

namespace BuckRegulator.Board

open Bus (Failure Procedure)

variable {α : Type} {n m : Nat} {schedule : Nat → Option (Failure × Bool)}

/-- The rule that fails transaction `k`, when `seen` transactions have passed. -/
def failing (seen k : Nat) (what : Failure × Bool) : Fault :=
  { skip := k, limit := some 1, failure := what.1, applied := what.2, seen }

def scheduled (n seen : Nat) (schedule : Nat → Option (Failure × Bool)) : List Fault :=
  (List.range n).filterMap fun k => (schedule k).map (failing seen k)

theorem fires_failing_iff (k : Nat) (what : Failure × Bool) (access : Access) :
    (failing m k what).fires access = true ↔ k = m := by
  change (decide (k ≤ m) && decide (m - k < 1)) = true ↔ k = m
  simp only [Bool.and_eq_true, decide_eq_true_eq]
  omega

theorem count_scheduled (access : Access) :
    (scheduled n m schedule).map (·.count access) = scheduled n (m + 1) schedule := by
  have hrule (k : Nat) : ((schedule k).map (failing m k)).map (·.count access) =
      (schedule k).map (failing (m + 1) k) := by
    cases schedule k with
    | none => rfl
    | some what => rfl
  rw [scheduled, List.map_filterMap, funext hrule, scheduled]

/-- The rule that fires is the one for the current transaction, if it has one. -/
theorem find?_scheduled (h : m < n) (access : Access) :
    (scheduled n m schedule).find? (·.fires access) = (schedule m).map (failing m m) := by
  rw [scheduled, List.find?_filterMap]
  cases hm : schedule m with
  | none =>
      have hnone : (List.range n).find?
          (fun k => ((schedule k).map (failing m k)).any (·.fires access)) = none := by
        apply List.find?_eq_none.mpr
        intro k _ hfires
        cases hk : schedule k with
        | none => simp [hk] at hfires
        | some what =>
            rw [hk, Option.map_some, Option.any_some, fires_failing_iff] at hfires
            rw [hfires, hm] at hk
            cases hk
      rw [hnone]
      rfl
  | some what =>
      have hfound : (List.range n).find?
          (fun k => ((schedule k).map (failing m k)).any (·.fires access)) = some m := by
        rw [List.find?_range_eq_some]
        refine ⟨?_, List.mem_range.mpr h, ?_⟩
        · rw [hm, Option.map_some, Option.any_some, fires_failing_iff]
        · intro k hk
          cases hs : schedule k with
          | none => rfl
          | some other =>
              have hlate : (failing m k other).fires access = false := by
                rw [Bool.eq_false_iff, Ne, fires_failing_iff]
                omega
              simp [hlate]
      rw [hfound, Option.bind_some, hm]

theorem faults_run (p : Procedure Failure α) {b : Board}
    (hb : b.faults = scheduled n m schedule) :
    (p.run transport b).bus.faults =
      scheduled n (m + (p.run transport b).log.length) schedule := by
  induction p generalizing b m with
  | done => exact hb
  | read address register next ih =>
      have hread : (b.read address register).2.faults = scheduled n (m + 1) schedule := by
        rw [faults_read, hb, count_scheduled]
      have hrest := ih (b.read address register).1 hread
      rw [Nat.add_right_comm] at hrest
      exact hrest
  | write address register value next ih =>
      have hwrite : (b.write address register value).2.faults =
          scheduled n (m + 1) schedule := by
        rw [faults_write, hb, count_scheduled]
      have hrest := ih (b.write address register value).1 hwrite
      rw [Nat.add_right_comm] at hrest
      exact hrest

/-- Whatever ran before, the next transaction fares as its number says. -/
theorem ruling?_after_run (p : Procedure Failure α) {b : Board}
    (hb : b.faults = scheduled n 0 schedule)
    (h : (p.run transport b).log.length < n) (access : Access) :
    ((p.run transport b).bus.ruling? access).map (fun rule => (rule.failure, rule.applied)) =
      schedule (p.run transport b).log.length := by
  have hfaults := faults_run p hb
  rw [Nat.zero_add] at hfaults
  rw [ruling?, hfaults, find?_scheduled h]
  cases schedule (p.run transport b).log.length with
  | none => rfl
  | some what => rfl

end BuckRegulator.Board
