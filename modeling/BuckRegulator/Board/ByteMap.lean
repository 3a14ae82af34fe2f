namespace BuckRegulator.Board

abbrev ByteMap (α : Type) := UInt8 → α

namespace ByteMap

variable {α : Type}

def set (map : ByteMap α) (key : UInt8) (value : α) : ByteMap α :=
  fun k => if k = key then value else map k

/-- Sets several keys in order, so the last value of a key counts. -/
def setAll (map : ByteMap α) (values : List (UInt8 × α)) : ByteMap α :=
  values.foldl (fun map entry => map.set entry.1 entry.2) map

def keys : List UInt8 :=
  (List.range UInt8.size).map UInt8.ofNat

def entries (map : ByteMap (Option α)) : List (UInt8 × α) :=
  keys.filterMap fun key => (map key).map (key, ·)

@[simp] theorem set_self (map : ByteMap α) (key : UInt8) (value : α) :
    map.set key value key = value := by
  simp [set]

theorem set_of_ne (map : ByteMap α) {key k : UInt8} (value : α) (h : k ≠ key) :
    map.set key value k = map k := by
  simp [set, h]

theorem mem_keys (key : UInt8) : key ∈ keys :=
  List.mem_map.mpr ⟨key.toNat, List.mem_range.mpr key.toNat_lt, by simp⟩

theorem mem_entries (map : ByteMap (Option α)) (key : UInt8) (value : α) :
    (key, value) ∈ map.entries ↔ map key = some value := by
  simp only [entries, List.mem_filterMap, Option.map_eq_some_iff, Prod.mk.injEq]
  constructor
  · rintro ⟨k, _, v, found, rfl, rfl⟩
    exact found
  · intro found
    exact ⟨key, mem_keys key, value, found, rfl, rfl⟩

end ByteMap

end BuckRegulator.Board
