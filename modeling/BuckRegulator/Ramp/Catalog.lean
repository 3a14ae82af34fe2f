import BuckRegulator.Ramp.Profile

namespace BuckRegulator.Ramp

/-- No entry covers the chip; the queried nibbles are kept for diagnostics. -/
structure UnsupportedVariant where
  die : Die
  deriving DecidableEq, Repr

/-- The first entry of a table that covers the chip. -/
def resolveIn (table : List Profile) (vendor : Vendor) (die : Die) :
    Except UnsupportedVariant Profile :=
  match table.find? (·.covers vendor die) with
  | some profile => .ok profile
  | none => .error ⟨die⟩

/-- The known chip options, in match order. -/
def catalog : List Profile := [
  ⟨.fairchild, ⟨0x0, 0x3⟩, true, 600000, 10000⟩,
  ⟨.fairchild, ⟨0x0, 0xF⟩, true, 800000, 10000⟩,
  ⟨.fairchild, ⟨0x0, 0xC⟩, true, 600000, 12500⟩,
  ⟨.fairchild, ⟨0x1, 0x3⟩, true, 600000, 10000⟩,
  ⟨.fairchild, ⟨0x3, 0x3⟩, true, 600000, 10000⟩,
  ⟨.fairchild, ⟨0x4, 0xF⟩, true, 603000, 12826⟩,
  ⟨.fairchild, ⟨0x5, 0x3⟩, true, 600000, 10000⟩,
  ⟨.fairchild, ⟨0x8, 0x1⟩, true, 600000, 10000⟩,
  ⟨.fairchild, ⟨0x8, 0xF⟩, true, 600000, 10000⟩,
  ⟨.fairchild, ⟨0xC, 0xF⟩, true, 603000, 12826⟩,
  ⟨.silergy, ⟨0x8, 0x0⟩, false, 712500, 12500⟩,
  ⟨.silergy, ⟨0x9, 0x0⟩, false, 712500, 12500⟩]

def resolve (vendor : Vendor) (die : Die) : Except UnsupportedVariant Profile :=
  resolveIn catalog vendor die

/-- Where a profile stands in the catalog. Entries are pairwise different, so
the position identifies the entry. -/
def position? (p : Profile) : Option Nat :=
  catalog.idxOf? p

theorem resolveIn_eq_ok_iff (table : List Profile) (vendor : Vendor) (die : Die)
    (p : Profile) :
    resolveIn table vendor die = .ok p ↔
      table.find? (·.covers vendor die) = some p := by
  cases h : table.find? (·.covers vendor die) <;> simp [resolveIn, h]

theorem resolveIn_eq_error_iff (table : List Profile) (vendor : Vendor) (die : Die)
    (e : UnsupportedVariant) :
    resolveIn table vendor die = .error e ↔
      e = ⟨die⟩ ∧ ∀ p ∈ table, p.covers vendor die = false := by
  cases h : table.find? (·.covers vendor die) with
  | none =>
      have uncovered : ∀ p ∈ table, p.covers vendor die = false := by
        simpa using h
      simpa [resolveIn, h] using ⟨fun same => ⟨same.symm, uncovered⟩,
        fun same => same.1.symm⟩
  | some p =>
      have covered : p.covers vendor die = true :=
        List.find?_some (p := fun q : Profile => q.covers vendor die) h
      simp only [resolveIn, h, reduceCtorEq, false_iff, not_and]
      intro _ uncovered
      simp [uncovered p (List.mem_of_find?_eq_some h)] at covered

end BuckRegulator.Ramp
