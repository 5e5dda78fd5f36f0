import Mathlib.Data.List.Nodup
import Mathlib.Tactic.Common

/-!
# Vectors of records found by a key

A vector of records that is searched from the front for the first record with a given key, as a map
is when its order matters. `position` is where the search ends and `lookup` what it finds. When no
two records share a key (`Distinct`), replacing, removing and appending a record change what is
found for its own key only.

* `lookup_set`, `lookup_eraseIdx`, `lookup_modify`, `lookup_concat`: what is found after each update.
* `Distinct.set`, `Distinct.eraseIdx`, `Distinct.modify`, `Distinct.concat`: the updates keep the
  keys distinct.
-/

namespace Rust

namespace KeyedVec

variable {α κ : Type} [DecidableEq κ] (key : α → κ)

/-- The index of the first record with the key. -/
def position (xs : List α) (k : κ) : Option Nat := xs.findIdx? fun x => key x = k

/-- The first record with the key. -/
def lookup (xs : List α) (k : κ) : Option α := xs.find? fun x => key x = k

/-- No two records share a key. -/
def Distinct (xs : List α) : Prop := (xs.map key).Nodup

variable {key}

theorem lookup_append (xs ys : List α) (k : κ) :
    lookup key (xs ++ ys) k = (lookup key xs k).or (lookup key ys k) := List.find?_append

theorem lookup_cons (x : α) (xs : List α) (k : κ) :
    lookup key (x :: xs) k = if key x = k then some x else lookup key xs k := by
  unfold lookup
  rw [List.find?_cons]
  by_cases h : key x = k
  · rw [if_pos h, decide_eq_true h]
  · rw [if_neg h, decide_eq_false h]

theorem lookup_eq_none {xs : List α} {k : κ} :
    lookup key xs k = none ↔ ∀ x ∈ xs, key x ≠ k := by
  unfold lookup
  simp only [List.find?_eq_none, decide_eq_true_eq, ne_eq]

theorem lookup_mem {xs : List α} {k : κ} {x : α} (h : lookup key xs k = some x) :
    x ∈ xs ∧ key x = k :=
  ⟨List.mem_of_find?_eq_some h, by simpa using List.find?_some h⟩

/-- Where the search ends: in front of it no record has the key. -/
theorem position_split {xs : List α} {k : κ} {i : Nat} (h : position key xs k = some i) :
    ∃ pre x post, xs = pre ++ x :: post ∧ pre.length = i ∧ key x = k ∧ ∀ y ∈ pre, key y ≠ k := by
  obtain ⟨hi, hk, hbefore⟩ := List.findIdx?_eq_some_iff_getElem.mp h
  refine ⟨xs.take i, xs[i], xs.drop (i + 1), ?_, List.length_take_of_le (Nat.le_of_lt hi),
    by simpa using hk, ?_⟩
  · rw [← List.drop_eq_getElem_cons hi, List.take_append_drop]
  · intro y hy
    obtain ⟨j, hj, rfl⟩ := List.mem_take_iff_getElem.mp hy
    simpa using hbefore j (by omega)

theorem position_eq_none {xs : List α} {k : κ} :
    position key xs k = none ↔ lookup key xs k = none := by
  unfold position
  rw [List.findIdx?_eq_none_iff, lookup_eq_none]
  simp

/-- The search finds the record at its position. -/
theorem getElem?_position {xs : List α} {k : κ} {i : Nat} (h : position key xs k = some i) :
    xs[i]? = lookup key xs k := by
  obtain ⟨pre, x, post, rfl, rfl, hx, hpre⟩ := position_split h
  rw [lookup_append, lookup_eq_none.mpr hpre, lookup_cons, if_pos hx, Option.none_or,
    List.getElem?_append_right (Nat.le_refl _), Nat.sub_self]
  rfl

/-- When the keys are distinct, every record is found. -/
theorem lookup_of_mem {xs : List α} (hxs : Distinct key xs) {x : α} (hx : x ∈ xs) :
    lookup key xs (key x) = some x := by
  obtain ⟨pre, post, rfl⟩ := List.append_of_mem hx
  unfold Distinct at hxs
  rw [List.map_append, List.map_cons] at hxs
  have hpre : ∀ y ∈ pre, key y ≠ key x := fun y hy =>
    (List.nodup_append.mp hxs).2.2 _ (List.mem_map_of_mem hy) _ List.mem_cons_self
  rw [lookup_append, lookup_eq_none.mpr hpre, lookup_cons, if_pos rfl, Option.none_or]

/-- When the keys are distinct, the record found is the only one with its key. -/
theorem filter_of_lookup {xs : List α} (hxs : Distinct key xs) {k : κ} {x : α}
    (h : lookup key xs k = some x) : xs.filter (fun y => key y = k) = [x] := by
  obtain ⟨hx, rfl⟩ := lookup_mem h
  obtain ⟨pre, post, rfl⟩ := List.append_of_mem hx
  unfold Distinct at hxs
  rw [List.map_append, List.map_cons] at hxs
  obtain ⟨-, hpost, hpre⟩ := List.nodup_append.mp hxs
  have hbefore : ∀ y ∈ pre, key y ≠ key x := fun y hy =>
    hpre _ (List.mem_map_of_mem hy) _ List.mem_cons_self
  have hafter : ∀ y ∈ post, key y ≠ key x := fun y hy hk =>
    (List.nodup_cons.mp hpost).1 (hk ▸ List.mem_map_of_mem hy)
  rw [List.filter_append, List.filter_cons_of_pos (by simp),
    List.filter_eq_nil_iff.mpr (by simpa using hbefore),
    List.filter_eq_nil_iff.mpr (by simpa using hafter), List.nil_append]

theorem lookup_set {xs : List α} {k k' : κ} {i : Nat} {x : α} (h : position key xs k = some i)
    (hx : key x = k) : lookup key (xs.set i x) k' = if k' = k then some x else lookup key xs k' := by
  obtain ⟨pre, y, post, rfl, rfl, hy, hpre⟩ := position_split h
  rw [List.set_append_right _ _ (Nat.le_refl _), Nat.sub_self, List.set_cons_zero, lookup_append,
    lookup_append, lookup_cons, lookup_cons, hx, hy]
  by_cases hk : k' = k
  · subst hk
    rw [lookup_eq_none.mpr hpre, if_pos rfl, if_pos rfl, Option.none_or]
  · rw [if_neg (Ne.symm hk), if_neg (Ne.symm hk), if_neg hk]

theorem lookup_eraseIdx {xs : List α} (hxs : Distinct key xs) {k k' : κ} {i : Nat}
    (h : position key xs k = some i) :
    lookup key (xs.eraseIdx i) k' = if k' = k then none else lookup key xs k' := by
  obtain ⟨pre, y, post, rfl, rfl, hy, hpre⟩ := position_split h
  rw [List.eraseIdx_append_of_length_le (Nat.le_refl _), Nat.sub_self, List.eraseIdx_zero,
    List.tail_cons, lookup_append, lookup_append, lookup_cons, hy]
  by_cases hk : k' = k
  · subst hk
    have hpost : ∀ z ∈ post, key z ≠ k' := by
      intro z hz hzk
      unfold Distinct at hxs
      rw [List.map_append, List.map_cons] at hxs
      have hnotin := (List.nodup_cons.mp (List.nodup_append.mp hxs).2.1).1
      rw [hy, ← hzk] at hnotin
      exact hnotin (List.mem_map_of_mem hz)
    rw [lookup_eq_none.mpr hpre, lookup_eq_none.mpr hpost, if_pos rfl]
    rfl
  · rw [if_neg (Ne.symm hk), if_neg hk]

theorem lookup_concat {xs : List α} {x : α} (k : κ) (hx : lookup key xs (key x) = none) :
    lookup key (xs ++ [x]) k = if k = key x then some x else lookup key xs k := by
  rw [lookup_append, lookup_cons]
  by_cases hk : k = key x
  · rw [if_pos hk, if_pos hk.symm, hk, hx, Option.none_or]
  · rw [if_neg hk, if_neg (Ne.symm hk)]
    exact Option.or_none

/-- A record changed in place, its key kept. -/
theorem lookup_modify {xs : List α} {k k' : κ} {i : Nat} {f : α → α}
    (h : position key xs k = some i) (hf : ∀ x, key (f x) = key x) (hk : k' ≠ k) :
    lookup key (xs.modify i f) k' = lookup key xs k' := by
  obtain ⟨pre, y, post, rfl, rfl, hy, hpre⟩ := position_split h
  have hmodify : (pre ++ y :: post).modify pre.length f = pre ++ f y :: post :=
    List.modifyTailIdx_add _ 0 pre (y :: post)
  rw [hmodify, lookup_append, lookup_append, lookup_cons, lookup_cons, hf y, hy,
    if_neg (Ne.symm hk), if_neg (Ne.symm hk)]

/-- A change in place that keeps the keys, seen through what it does not change. -/
theorem map_lookup_modify {β : Type} {g : α → β} {f : α → α} (hf : ∀ x, key (f x) = key x)
    (hg : ∀ x, g (f x) = g x) (xs : List α) (i : Nat) (k : κ) :
    (lookup key (xs.modify i f) k).map g = (lookup key xs k).map g := by
  induction xs generalizing i with
  | nil => rw [List.modify_nil]
  | cons x xs ih =>
    cases i with
    | zero =>
      rw [List.modify_zero_cons, lookup_cons, lookup_cons, hf]
      split
      · exact congrArg some (hg x)
      · rfl
    | succ i =>
      rw [List.modify_succ_cons, lookup_cons, lookup_cons]
      split
      · rfl
      · exact ih i

theorem Distinct.set {xs : List α} (hxs : Distinct key xs) {k : κ} {i : Nat} {x : α}
    (h : position key xs k = some i) (hx : key x = k) : Distinct key (xs.set i x) := by
  obtain ⟨pre, y, post, rfl, rfl, hy, hpre⟩ := position_split h
  unfold Distinct at hxs ⊢
  rw [List.set_append_right _ _ (Nat.le_refl _), Nat.sub_self, List.set_cons_zero]
  rw [List.map_append, List.map_cons] at hxs ⊢
  rw [hx, ← hy]
  exact hxs

omit [DecidableEq κ] in
theorem Distinct.eraseIdx {xs : List α} (hxs : Distinct key xs) (i : Nat) :
    Distinct key (xs.eraseIdx i) := hxs.sublist ((List.eraseIdx_sublist xs i).map key)

omit [DecidableEq κ] in
theorem Distinct.filter {xs : List α} (hxs : Distinct key xs) (p : α → Bool) :
    Distinct key (xs.filter p) := hxs.sublist (List.filter_sublist.map key)

/-- Of a filtered list of distinct keys, the search finds what it found before, or nothing. -/
theorem lookup_filter {xs : List α} (hxs : Distinct key xs) (p : α → Bool) (k : κ) :
    lookup key (xs.filter p) k = (lookup key xs k).filter p := by
  cases hx : lookup key xs k with
  | none =>
    refine lookup_eq_none.mpr fun y hy => ?_
    exact lookup_eq_none.mp hx y (List.mem_filter.mp hy).1
  | some x =>
    obtain ⟨hmem, rfl⟩ := lookup_mem hx
    by_cases hp : p x = true
    · rw [Option.filter_some_pos hp]
      exact lookup_of_mem (hxs.filter p) (List.mem_filter.mpr ⟨hmem, hp⟩)
    · rw [Option.filter_some_neg (Bool.not_eq_true _ ▸ hp)]
      refine lookup_eq_none.mpr fun y hy hkey => hp ?_
      obtain ⟨hy, hpy⟩ := List.mem_filter.mp hy
      have hsame := lookup_of_mem hxs hy
      rw [hkey, hx] at hsame
      rw [Option.some.inj hsame]
      exact hpy

omit [DecidableEq κ] in
/-- A change in place that keeps the keys. -/
theorem map_key_modify (xs : List α) (i : Nat) {f : α → α} (hf : ∀ x, key (f x) = key x) :
    (xs.modify i f).map key = xs.map key := by
  refine List.ext_getElem? fun j => ?_
  rw [List.getElem?_map, List.getElem?_map, List.getElem?_modify]
  cases xs[j]? with
  | none => rfl
  | some x =>
    show some _ = some _
    split
    · rw [hf]
    · rfl

theorem position_modify (xs : List α) (k : κ) (i : Nat) {f : α → α} (hf : ∀ x, key (f x) = key x) :
    position key (xs.modify i f) k = position key xs k := by
  have hposition : ∀ ys : List α, position key ys k = (ys.map key).findIdx? (· = k) := fun ys => by
    rw [List.findIdx?_map]
    rfl
  rw [hposition, hposition, map_key_modify xs i hf]

omit [DecidableEq κ] in
theorem Distinct.modify {xs : List α} (hxs : Distinct key xs) (i : Nat) {f : α → α}
    (hf : ∀ x, key (f x) = key x) : Distinct key (xs.modify i f) := by
  unfold Distinct
  rw [map_key_modify xs i hf]
  exact hxs

theorem Distinct.concat {xs : List α} (hxs : Distinct key xs) {x : α}
    (hx : lookup key xs (key x) = none) : Distinct key (xs ++ [x]) := by
  unfold Distinct at hxs ⊢
  rw [List.map_append, List.map_cons, List.map_nil]
  refine List.nodup_append.mpr ⟨hxs, List.nodup_singleton _, ?_⟩
  intro a ha b hb
  obtain ⟨y, hy, rfl⟩ := List.mem_map.mp ha
  rw [List.mem_singleton.mp hb]
  exact lookup_eq_none.mp hx y hy

end KeyedVec

end Rust
