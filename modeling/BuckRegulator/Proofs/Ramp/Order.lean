import BuckRegulator.Proofs.Ramp.Codec

/-!
When the order of a table matters. A lookup sees the order only where two different
entries cover one chip: a table without such a pair answers as a set of entries would, and
with one the pair can be put either way round. The entries of the catalog overlap
nowhere, so its order is a matter of presentation.
-/

namespace BuckRegulator.Ramp

def Profile.Overlaps (p q : Profile) : Prop :=
  p.vendor = q.vendor ∧ p.die.id = q.die.id ∧
    (p.checkRev = true → q.checkRev = true → p.die.rev = q.die.rev)

instance (p q : Profile) : Decidable (p.Overlaps q) :=
  inferInstanceAs (Decidable (_ ∧ _))

theorem Profile.overlaps_of_covers {p q : Profile} {vendor : Vendor} {die : Die}
    (hp : p.covers vendor die = true) (hq : q.covers vendor die = true) : p.Overlaps q := by
  rw [covers_iff] at hp hq
  obtain ⟨hpVendor, hpId, hpRev⟩ := hp
  obtain ⟨hqVendor, hqId, hqRev⟩ := hq
  refine ⟨hpVendor.trans hqVendor.symm, hpId.trans hqId.symm, fun hpCheck hqCheck => ?_⟩
  exact (hpRev hpCheck).trans (hqRev hqCheck).symm

/-- The chip that an overlap is about has the revision of an entry that checks it. -/
theorem Profile.Overlaps.exists_covers {p q : Profile} (h : p.Overlaps q) :
    ∃ vendor die, p.covers vendor die = true ∧ q.covers vendor die = true := by
  obtain ⟨hvendor, hid, hrev⟩ := h
  cases hcheck : p.checkRev with
  | true =>
      refine ⟨p.vendor, p.die, p.covers_self, ?_⟩
      exact (covers_iff _ _ _).mpr ⟨hvendor.symm, hid.symm, fun hq => (hrev hcheck hq).symm⟩
  | false =>
      refine ⟨q.vendor, q.die, ?_, q.covers_self⟩
      rw [covers_iff, hcheck]
      exact ⟨hvendor, hid, nofun⟩

/-- Entries that overlap are equal, wherever they stand. -/
def Coherent (table : List Profile) : Prop :=
  ∀ p ∈ table, ∀ q ∈ table, p.Overlaps q → p = q

instance (table : List Profile) : Decidable (Coherent table) :=
  inferInstanceAs (Decidable (∀ p ∈ table, ∀ q ∈ table, p.Overlaps q → p = q))

theorem Coherent.perm {table other : List Profile} (h : Coherent table)
    (hperm : table.Perm other) : Coherent other := by
  intro p hp q hq
  exact h p (hperm.mem_iff.mpr hp) q (hperm.mem_iff.mpr hq)

/-- A coherent table answers as a set of entries would. -/
theorem Coherent.resolveIn_eq_ok_iff_mem {table : List Profile} (h : Coherent table)
    {vendor : Vendor} {die : Die} {p : Profile} :
    resolveIn table vendor die = .ok p ↔ p ∈ table ∧ p.covers vendor die = true := by
  constructor
  · intro hanswer
    exact ⟨mem_of_resolveIn hanswer, covers_of_resolveIn hanswer⟩
  · rintro ⟨member, hcovers⟩
    cases hanswer : resolveIn table vendor die with
    | error e =>
        have huncovered := ((resolveIn_eq_error_iff _ _ _ _).mp hanswer).2 p member
        rw [hcovers] at huncovered
        cases huncovered
    | ok q =>
        have hoverlap := Profile.overlaps_of_covers hcovers (covers_of_resolveIn hanswer)
        rw [h p member q (mem_of_resolveIn hanswer) hoverlap]

theorem Coherent.resolveIn_perm {table other : List Profile} (h : Coherent table)
    (hperm : table.Perm other) (vendor : Vendor) (die : Die) :
    resolveIn other vendor die = resolveIn table vendor die := by
  cases hanswer : resolveIn table vendor die with
  | ok p =>
      obtain ⟨member, hcovers⟩ := h.resolveIn_eq_ok_iff_mem.mp hanswer
      exact (h.perm hperm).resolveIn_eq_ok_iff_mem.mpr ⟨hperm.mem_iff.mp member, hcovers⟩
  | error e =>
      obtain ⟨hnamed, huncovered⟩ := (resolveIn_eq_error_iff _ _ _ _).mp hanswer
      rw [resolveIn_eq_error_iff]
      exact ⟨hnamed, fun p member => huncovered p (hperm.mem_iff.mpr member)⟩

/-- Coherence is all that it takes. Of two different entries that overlap, each is the
answer once it is put first. -/
theorem coherent_iff_resolveIn_perm (table : List Profile) :
    Coherent table ↔ ∀ other, table.Perm other → ∀ vendor die,
      resolveIn other vendor die = resolveIn table vendor die := by
  constructor
  · intro h other hperm vendor die
    exact h.resolveIn_perm hperm vendor die
  · intro hsame p hp q hq hoverlap
    obtain ⟨vendor, die, hpCovers, hqCovers⟩ := hoverlap.exists_covers
    have hput {r : Profile} (member : r ∈ table) (hcovers : r.covers vendor die = true) :
        resolveIn table vendor die = .ok r := by
      rw [← hsame _ (List.perm_cons_erase member) vendor die, resolveIn_eq_ok_iff]
      exact List.find?_cons_of_pos hcovers
    exact Except.ok.inj ((hput hp hpCovers).symm.trans (hput hq hqCovers))

/-- An entry for all revisions and one for a single revision of the same die. -/
example : ¬Coherent [⟨.silergy, ⟨0x8, 0x0⟩, false, 712500, 12500⟩,
    ⟨.silergy, ⟨0x8, 0x5⟩, true, 600000, 10000⟩] := by
  decide

/-- No chip is covered by the entries at two positions. -/
def Unambiguous (table : List Profile) : Prop :=
  ∀ i j : Fin table.length, ∀ vendor die,
    (table.get i).covers vendor die = true → (table.get j).covers vendor die = true → i = j

theorem unambiguous_iff (table : List Profile) :
    Unambiguous table ↔ ∀ i j : Fin table.length, (table.get i).Overlaps (table.get j) → i = j := by
  constructor
  · intro h i j hoverlap
    obtain ⟨vendor, die, hi, hj⟩ := hoverlap.exists_covers
    exact h i j vendor die hi hj
  · intro h i j vendor die hi hj
    exact h i j (Profile.overlaps_of_covers hi hj)

instance (table : List Profile) : Decidable (Unambiguous table) :=
  decidable_of_iff _ (unambiguous_iff table).symm

theorem Unambiguous.coherent {table : List Profile} (h : Unambiguous table) :
    Coherent table := by
  intro p hp q hq hoverlap
  obtain ⟨i, hi, rfl⟩ := List.getElem_of_mem hp
  obtain ⟨j, hj, rfl⟩ := List.getElem_of_mem hq
  have hsame := (unambiguous_iff table).mp h ⟨i, hi⟩ ⟨j, hj⟩ hoverlap
  simp only [Fin.mk.injEq] at hsame
  simp only [hsame]

theorem catalog_unambiguous : Unambiguous catalog := by
  decide

/-- If no chip is covered by entries at two positions of a table, then the table gives the
same answers in every order: the same entry, or the same failure. The catalog is such a
table. -/
theorem lookup_ignores_order :
    (∀ table other : List Profile, Unambiguous table → table.Perm other →
      ∀ vendor die, resolveIn other vendor die = resolveIn table vendor die) ∧
      Unambiguous catalog ∧
      ∀ other, catalog.Perm other → ∀ vendor die,
        resolveIn other vendor die = resolve vendor die := by
  refine ⟨?_, catalog_unambiguous, ?_⟩
  · intro table other h hperm
    exact (coherent_iff_resolveIn_perm table).mp h.coherent other hperm
  · intro other hperm
    exact (coherent_iff_resolveIn_perm catalog).mp catalog_unambiguous.coherent other hperm

def mixedTable : List Profile := [
  ⟨.silergy, ⟨0x8, 0x0⟩, false, 712500, 12500⟩,
  ⟨.fairchild, ⟨0x8, 0x1⟩, true, 600000, 10000⟩,
  ⟨.fairchild, ⟨0x8, 0xF⟩, true, 800000, 10000⟩]

/-- Backwards it still tells the vendors and the revisions apart, and so does the
catalog. -/
theorem mixedTable_reversed :
    (Unambiguous mixedTable ∧ mixedTable.Perm mixedTable.reverse) ∧
      resolveIn mixedTable.reverse .silergy ⟨0x8, 0xF⟩ =
        .ok ⟨.silergy, ⟨0x8, 0x0⟩, false, 712500, 12500⟩ ∧
      resolveIn mixedTable.reverse .fairchild ⟨0x8, 0x0⟩ = .error ⟨⟨0x8, 0x0⟩⟩ ∧
      catalog.Perm catalog.reverse ∧
      resolveIn catalog.reverse .fairchild ⟨0x0, 0xC⟩ =
        .ok ⟨.fairchild, ⟨0x0, 0xC⟩, true, 600000, 12500⟩ := by
  obtain ⟨htables, _, hcatalog⟩ := lookup_ignores_order
  have hunambiguous : Unambiguous mixedTable := by decide
  have hperm : mixedTable.Perm mixedTable.reverse := (List.reverse_perm _).symm
  have hreversed : catalog.Perm catalog.reverse := (List.reverse_perm _).symm
  refine ⟨⟨hunambiguous, hperm⟩, ?_, ?_, hreversed, ?_⟩
  · rw [htables _ _ hunambiguous hperm]
    rfl
  · rw [htables _ _ hunambiguous hperm]
    rfl
  · rw [hcatalog _ hreversed]
    rfl

end BuckRegulator.Ramp
