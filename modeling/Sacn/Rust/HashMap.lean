import Mathlib.Data.Finmap

/-!
# Hash maps

`std::collections::HashMap` on Mathlib's `Finmap`: a finite set of keys with one value each. Two
maps with the same lookups are equal (`HashMap.ext`). What a `Finmap` does not have is an iteration
order, which Rust leaves unspecified too: a function that walks a map takes the order as a list of
the keys (`IsOrder`).

* `get_insert`, `get_remove`, `get_retain`, `get_mapVal`: each operation by its lookups.
-/

namespace Rust

variable {κ ν : Type} [DecidableEq κ]

/-- `HashMap<κ, ν>`. -/
abbrev HashMap (κ ν : Type) : Type := Finmap fun _ : κ => ν

namespace HashMap

/-- `get`. -/
def get (m : HashMap κ ν) (k : κ) : Option ν := Finmap.lookup k m

/-- `insert`. -/
def insert (m : HashMap κ ν) (k : κ) (v : ν) : HashMap κ ν := Finmap.insert k v m

/-- `remove`. -/
def remove (m : HashMap κ ν) (k : κ) : HashMap κ ν := Finmap.erase k m

/-- `len`. -/
def len (m : HashMap κ ν) : Nat := m.keys.card

/-- `is_empty`. -/
def isEmpty (m : HashMap κ ν) : Bool := m.len == 0

/-- `retain`. -/
def retain (m : HashMap κ ν) (p : κ → ν → Bool) : HashMap κ ν where
  entries := m.entries.filter fun e => p e.1 e.2
  nodupKeys := by
    rw [← Multiset.nodup_keys]
    exact Multiset.nodup_of_le (Multiset.map_le_map (Multiset.filter_le _ _))
      (Multiset.nodup_keys.mpr m.nodupKeys)

/-- A loop over `iter_mut` that replaces each value. -/
def mapVal (m : HashMap κ ν) (f : κ → ν → ν) : HashMap κ ν where
  entries := m.entries.map fun e => ⟨e.1, f e.1 e.2⟩
  nodupKeys := by
    rw [← Multiset.nodup_keys]
    have hkeys : (m.entries.map fun e => (⟨e.1, f e.1 e.2⟩ : Sigma fun _ : κ => ν)).keys =
        m.entries.keys := by
      simp [Multiset.keys]
    rw [hkeys]
    exact Multiset.nodup_keys.mpr m.nodupKeys

/-- `order` lists the keys of `m`, each once. -/
structure IsOrder (order : List κ) (m : HashMap κ ν) : Prop where
  nodup : order.Nodup
  mem : ∀ k, k ∈ order ↔ (m.get k).isSome

/-- **A map is its lookups.** -/
@[ext] theorem ext {m n : HashMap κ ν} (h : ∀ k, m.get k = n.get k) : m = n :=
  Finmap.ext_lookup h

theorem get_eq_some {m : HashMap κ ν} {k : κ} {v : ν} :
    m.get k = some v ↔ (⟨k, v⟩ : Sigma fun _ : κ => ν) ∈ m.entries :=
  Finmap.lookup_eq_some_iff

@[simp] theorem get_empty (k : κ) : (∅ : HashMap κ ν).get k = none := Finmap.lookup_empty k

theorem get_insert (m : HashMap κ ν) (k k' : κ) (v : ν) :
    (m.insert k v).get k' = if k' = k then some v else m.get k' := by
  split
  · rename_i h
    subst h
    exact Finmap.lookup_insert m
  · rename_i h
    exact Finmap.lookup_insert_of_ne m h

@[simp] theorem get_insert_self (m : HashMap κ ν) (k : κ) (v : ν) :
    (m.insert k v).get k = some v := Finmap.lookup_insert m

theorem get_remove (m : HashMap κ ν) (k k' : κ) :
    (m.remove k).get k' = if k' = k then none else m.get k' := by
  split
  · rename_i h
    subst h
    exact Finmap.lookup_erase k' m
  · rename_i h
    exact Finmap.lookup_erase_ne h

theorem get_retain (m : HashMap κ ν) (p : κ → ν → Bool) (k : κ) :
    (m.retain p).get k = (m.get k).filter (p k) := by
  ext v
  rw [get_eq_some, Option.filter_eq_some_iff, get_eq_some]
  exact Multiset.mem_filter

theorem get_mapVal (m : HashMap κ ν) (f : κ → ν → ν) (k : κ) :
    (m.mapVal f).get k = (m.get k).map (f k) := by
  ext v
  rw [get_eq_some, Option.map_eq_some_iff]
  constructor
  · intro h
    obtain ⟨⟨k', w⟩, hw, he⟩ := Multiset.mem_map.mp h
    cases he
    exact ⟨w, get_eq_some.mpr hw, rfl⟩
  · rintro ⟨w, hw, rfl⟩
    exact Multiset.mem_map.mpr ⟨⟨k, w⟩, get_eq_some.mp hw, rfl⟩

theorem mem_keys {m : HashMap κ ν} {k : κ} : k ∈ m.keys ↔ (m.get k).isSome := by
  rw [Finmap.mem_keys]
  exact Finmap.lookup_isSome.symm

theorem keys_insert (m : HashMap κ ν) (k : κ) (v : ν) :
    (m.insert k v).keys = Insert.insert k m.keys := by
  ext k'
  rw [mem_keys, get_insert, Finset.mem_insert, mem_keys]
  split
  · rename_i h
    simp [h]
  · rename_i h
    simp [h]

/-- A map whose keys are keys of another is no longer than it. -/
theorem len_le {m n : HashMap κ ν} (h : ∀ k, (m.get k).isSome → (n.get k).isSome) :
    m.len ≤ n.len :=
  Finset.card_le_card fun k hk => mem_keys.mpr (h k (mem_keys.mp hk))

theorem isEmpty_iff {m : HashMap κ ν} : m.isEmpty = true ↔ ∀ k, m.get k = none := by
  unfold isEmpty len
  rw [beq_iff_eq, Finset.card_eq_zero, Finset.eq_empty_iff_forall_notMem]
  refine forall_congr' fun k => ?_
  rw [mem_keys, Option.not_isSome_iff_eq_none]

theorem isEmpty_eq_false {m : HashMap κ ν} : m.isEmpty = false ↔ ∃ k, (m.get k).isSome := by
  rw [← Bool.not_eq_true, isEmpty_iff, not_forall]
  refine exists_congr fun k => ?_
  rw [← Option.not_isSome_iff_eq_none, not_not]

/-- A map has an iteration order. -/
theorem exists_isOrder (m : HashMap κ ν) : ∃ order, IsOrder order m :=
  ⟨m.keys.toList, m.keys.nodup_toList, fun k => by rw [Finset.mem_toList, mem_keys]⟩

end HashMap

end Rust
