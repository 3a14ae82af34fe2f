import BuckRegulator.Proofs.Ramp.Codec

/-!
Which entry of a table answers a query. A lookup stops at the first entry that covers
the chip: the entries before it answer nothing, and those behind it may be any others.
An entry that ignores the revision stops every query for its vendor and die id, so an
entry with the same key that stands behind it is dead. No lookup stops there, and the
table answers every query as it would without it. All of this holds of any table, with
its entries in any order and any of them repeated.
-/

namespace BuckRegulator.Ramp

/-- The position at which a lookup stops: the entry there covers the chip, and no
entry before it does. -/
structure StopsAt (table : List Profile) (vendor : Vendor) (die : Die)
    (j : Fin table.length) : Prop where
  covers : (table.get j).covers vendor die = true
  first : ∀ i < j, (table.get i).covers vendor die = false

variable {table : List Profile} {vendor : Vendor} {die : Die}

theorem StopsAt.le_of_covers {j i : Fin table.length} (h : StopsAt table vendor die j)
    (hcovers : (table.get i).covers vendor die = true) : j ≤ i := by
  refine Fin.not_lt.mp fun hlt => ?_
  rw [h.first i hlt] at hcovers
  cases hcovers

theorem StopsAt.unique {j k : Fin table.length} (hj : StopsAt table vendor die j)
    (hk : StopsAt table vendor die k) : j = k :=
  Fin.le_antisymm (hj.le_of_covers hk.covers) (hk.le_of_covers hj.covers)

theorem resolveIn_eq_ok_iff_stopsAt (table : List Profile) (vendor : Vendor) (die : Die)
    (p : Profile) :
    resolveIn table vendor die = .ok p ↔ ∃ j, StopsAt table vendor die j ∧ table.get j = p := by
  rw [resolveIn_eq_ok_iff, List.find?_eq_some_iff_getElem]
  constructor
  · rintro ⟨hcovers, j, hj, rfl, hearlier⟩
    refine ⟨⟨j, hj⟩, ⟨hcovers, fun i hi => ?_⟩, rfl⟩
    simpa using hearlier i hi
  · rintro ⟨j, hstop, rfl⟩
    refine ⟨hstop.covers, j, j.isLt, rfl, fun i hi => ?_⟩
    simpa using hstop.first ⟨i, Nat.lt_trans hi j.isLt⟩ hi

/-- Entries that do not cover the chip are passed over, and nothing behind the first
one that does is looked at. -/
theorem resolveIn_append_cons {before : List Profile} {p : Profile}
    (hbefore : ∀ q ∈ before, q.covers vendor die = false) (hcovers : p.covers vendor die = true)
    (after : List Profile) : resolveIn (before ++ p :: after) vendor die = .ok p := by
  rw [resolveIn_eq_ok_iff, List.find?_eq_some_iff_append]
  refine ⟨hcovers, before, after, rfl, fun q member => ?_⟩
  rw [hbefore q member]
  rfl

theorem StopsAt.uncovered_of_mem_take {j : Fin table.length}
    (h : StopsAt table vendor die j) : ∀ q ∈ table.take j, q.covers vendor die = false := by
  intro q member
  obtain ⟨i, hi, rfl⟩ := List.mem_take_iff_getElem.mp member
  have hlt : i < j := (Nat.lt_min.mp hi).1
  exact h.first ⟨i, by omega⟩ hlt

/-- The position is where the table begins to answer: the entries before it give no
answer, and with the entry there the rest of the table is of no account. -/
theorem stopsAt_iff (j : Fin table.length) :
    StopsAt table vendor die j ↔
      resolveIn (table.take j) vendor die = .error ⟨die⟩ ∧
        ∀ rest, resolveIn (table.take (j + 1) ++ rest) vendor die = .ok (table.get j) := by
  constructor
  · intro hstop
    refine ⟨?_, fun rest => ?_⟩
    · rw [resolveIn_eq_error_iff]
      exact ⟨rfl, hstop.uncovered_of_mem_take⟩
    · rw [List.take_succ_eq_append_getElem j.isLt, List.append_assoc]
      exact resolveIn_append_cons hstop.uncovered_of_mem_take hstop.covers rest
  · rintro ⟨hbefore, hanswer⟩
    have huncovered := ((resolveIn_eq_error_iff _ _ _ _).mp hbefore).2
    refine ⟨covers_of_resolveIn (hanswer []), fun i hi => ?_⟩
    exact huncovered _ (List.mem_take_iff_getElem.mpr ⟨i, by omega, rfl⟩)

/-- An entry answers for itself, or an earlier one with the same key does. -/
theorem exists_stopsAt_self (table : List Profile) (i : Fin table.length) :
    ∃ j ≤ i, StopsAt table (table.get i).vendor (table.get i).die j := by
  cases hresolve : resolveIn table (table.get i).vendor (table.get i).die with
  | error e =>
      have huncovered := ((resolveIn_eq_error_iff _ _ _ _).mp hresolve).2 (table.get i)
        (List.get_mem table i)
      rw [Profile.covers_self] at huncovered
      cases huncovered
  | ok p =>
      obtain ⟨j, hstop, _⟩ := (resolveIn_eq_ok_iff_stopsAt _ _ _ _).mp hresolve
      exact ⟨j, hstop.le_of_covers (Profile.covers_self (table.get i)), hstop⟩

/-- The entry ignores the revision, and the other has its vendor and die id. -/
structure Profile.Hides (p q : Profile) : Prop where
  unchecked : p.checkRev = false
  vendor : q.vendor = p.vendor
  id : q.die.id = p.die.id

theorem Profile.Hides.covers {p q : Profile} (h : p.Hides q)
    (hcovers : q.covers vendor die = true) : p.covers vendor die = true := by
  rw [covers_iff, h.vendor, h.id] at hcovers
  rw [covers_iff, h.unchecked]
  exact ⟨hcovers.1, hcovers.2.1, nofun⟩

theorem not_stopsAt_of_hides {k i : Fin table.length} (hlt : k < i)
    (h : (table.get k).Hides (table.get i)) : ¬StopsAt table vendor die i := by
  intro hstop
  have hearlier : i ≤ k := hstop.le_of_covers (h.covers hstop.covers)
  exact Fin.not_lt.mpr hearlier hlt

/-- A hidden entry can be taken out: a query that it covers is answered before it. -/
theorem resolveIn_eraseIdx_of_hides {k i : Fin table.length} (hlt : k < i)
    (h : (table.get k).Hides (table.get i)) (vendor : Vendor) (die : Die) :
    resolveIn (table.eraseIdx i) vendor die = resolveIn table vendor die := by
  have htable : table = table.take i ++ table.get i :: table.drop (i + 1) := by
    rw [List.get_eq_getElem, List.getElem_cons_drop, List.take_append_drop]
  have member : table.get k ∈ table.take i :=
    List.mem_take_iff_getElem.mpr ⟨k, by omega, rfl⟩
  have hskip : (table.take i).find? (·.covers vendor die) = none →
      (table.get i).covers vendor die = false := by
    intro hnone
    rw [Bool.eq_false_iff]
    intro hcovers
    exact List.find?_eq_none.mp hnone _ member (h.covers hcovers)
  conv => rhs; rw [htable]
  simp only [List.eraseIdx_eq_take_drop_succ, resolveIn, List.find?_append]
  cases hfirst : (table.take i).find? (·.covers vendor die) with
  | some p => rfl
  | none => rw [List.find?_cons_of_neg (by rw [hskip hfirst]; exact Bool.false_ne_true)]

/-- A lookup fails exactly if no entry covers the chip, and the failure names the nibbles
that were queried; otherwise it gives the entry at the first position that covers the
chip. The key of an entry is answered by the entry or by an earlier one of the same
vendor and die id that ignores the revision or has the same. Behind an entry that ignores
the revision no query is answered by an entry of its vendor and die id, and the table
without such an entry answers all queries alike. -/
theorem first_match_precedence (table : List Profile) :
    (∀ vendor die,
      (∀ e, resolveIn table vendor die = .error e ↔
        e = ⟨die⟩ ∧ ∀ p ∈ table, p.covers vendor die = false) ∧
      (∀ p, resolveIn table vendor die = .ok p ↔
        ∃ j, StopsAt table vendor die j ∧ table.get j = p) ∧
      ∀ j : Fin table.length, StopsAt table vendor die j ↔
        resolveIn (table.take j) vendor die = .error ⟨die⟩ ∧
          ∀ rest, resolveIn (table.take (j + 1) ++ rest) vendor die = .ok (table.get j)) ∧
      (∀ i : Fin table.length, let entry := table.get i
        ∃ j ≤ i, let found := table.get j
          StopsAt table entry.vendor entry.die j ∧
            resolveIn table entry.vendor entry.die = .ok found ∧
            (j < i → found.vendor = entry.vendor ∧ found.die.id = entry.die.id ∧
              (found.checkRev = false ∨ found.die.rev = entry.die.rev))) ∧
      ∀ k i : Fin table.length, k < i → (table.get k).Hides (table.get i) →
        ∀ vendor die, ¬StopsAt table vendor die i ∧
          resolveIn (table.eraseIdx i) vendor die = resolveIn table vendor die := by
  refine ⟨fun vendor die => ?_, fun i => ?_, ?_⟩
  · exact ⟨resolveIn_eq_error_iff table vendor die,
      resolveIn_eq_ok_iff_stopsAt table vendor die, stopsAt_iff⟩
  · obtain ⟨j, hle, hstop⟩ := exists_stopsAt_self table i
    have hanswer := (resolveIn_eq_ok_iff_stopsAt _ _ _ _).mpr ⟨j, hstop, rfl⟩
    obtain ⟨hvendor, hid, hrev⟩ := (Profile.covers_iff _ _ _).mp hstop.covers
    refine ⟨j, hle, hstop, hanswer, fun _ => ⟨hvendor, hid, ?_⟩⟩
    cases hcheck : (table.get j).checkRev with
    | false => exact Or.inl rfl
    | true => exact Or.inr (hrev hcheck)
  · intro k i hlt hhides vendor die
    exact ⟨not_stopsAt_of_hides hlt hhides, resolveIn_eraseIdx_of_hides hlt hhides vendor die⟩

/-- One die id: an entry for one revision, one for all, and two that it hides, of which
one repeats the first. -/
def crowdedTable : List Profile := [
  ⟨.silergy, ⟨0x8, 0x5⟩, true, 600000, 10000⟩,
  ⟨.silergy, ⟨0x8, 0x0⟩, false, 712500, 12500⟩,
  ⟨.silergy, ⟨0x8, 0x5⟩, true, 600000, 10000⟩,
  ⟨.silergy, ⟨0x8, 0x7⟩, true, 800000, 10000⟩]

/-- The key of the last entry is answered by the second, and the last can go. -/
theorem crowdedTable_precedence :
    let second : Fin crowdedTable.length := ⟨1, by decide⟩
    let last : Fin crowdedTable.length := ⟨3, by decide⟩
    (second < last ∧ (crowdedTable.get second).Hides (crowdedTable.get last)) ∧
      (∃ j < last, StopsAt crowdedTable .silergy ⟨0x8, 0x7⟩ j ∧
        ((crowdedTable.get j).checkRev = false ∨ (crowdedTable.get j).die.rev = 0x7)) ∧
      resolveIn crowdedTable .silergy ⟨0x8, 0x7⟩ = .ok (crowdedTable.get second) ∧
      ∀ vendor die, resolveIn (crowdedTable.eraseIdx 3) vendor die =
        resolveIn crowdedTable vendor die := by
  intro second last
  have hlt : second < last := by decide
  have hhides : (crowdedTable.get second).Hides (crowdedTable.get last) := ⟨rfl, rfl, rfl⟩
  have hsecond : StopsAt crowdedTable .silergy ⟨0x8, 0x7⟩ second := ⟨by decide, by decide⟩
  obtain ⟨hqueries, hkeys, hbehind⟩ := first_match_precedence crowdedTable
  obtain ⟨j, _, hstop, _, hearlier⟩ := hkeys last
  have hj : j = second := hstop.unique hsecond
  have hfirst : j < last := by
    rw [hj]
    exact hlt
  refine ⟨⟨hlt, hhides⟩, ⟨j, hfirst, hstop, (hearlier hfirst).2.2⟩, ?_, ?_⟩
  · exact ((hqueries _ _).2.1 _).mpr ⟨second, hsecond, rfl⟩
  · exact fun vendor die => (hbehind second last hlt hhides vendor die).2

end BuckRegulator.Ramp
