import Mathlib.Data.List.InsertIdx
import Mathlib.Order.Basic
import Mathlib.Data.List.Sort

/-!
# Vectors kept sorted

`slice::binary_search`, as the standard library runs it, and the two updates that go with it: a
value not found is inserted where the search says, a value found is removed there. On a strictly
ascending vector the search decides membership and both updates keep the vector strictly ascending,
so a vector updated only in this way is a finite set in ascending order.

* **`binarySearch_ok`, `binarySearch_error`**: what an answer of the search means.
* `pairwise_vecInsert`, `pairwise_eraseIdx`: the updates keep the order, and `mem_vecInsert`,
  `mem_eraseIdx`: they add and remove the value.
* `insertSorted`: the search and the insertion together; **`foldl_insertSorted_eq_self`**: inserting
  many values changes nothing iff all of them are there.
* `getElem_of_numbered`: where the elements of a vector sorted by their numbers are.
-/

namespace Rust

variable {α : Type} [LinearOrder α]

/-- The loop of `binary_search`: the window `base .. base + size`, halved while it has more than
one element. -/
def bisect (xs : List α) (x : α) : Nat → Nat → Nat → Nat
  | 0, _, base => base
  | fuel + 1, size, base =>
    if size ≤ 1 then base
    else
      let half := size / 2
      let mid := base + half
      bisect xs x fuel (size - half) (if xs[mid]?.any (x < ·) then base else mid)

/-- `binary_search`: `ok` and the index of the value, or `error` and the index at which it belongs.
The loop halves the window, so as many steps as there are elements are enough. -/
def binarySearch (xs : List α) (x : α) : Except Nat Nat :=
  let base := bisect xs x xs.length xs.length 0
  match xs[base]? with
  | none => .error 0
  | some y => if y = x then .ok base else .error (if y < x then base + 1 else base)

/-- The window `base .. base + size` holds the last element that is at most `x`, if there is one. -/
structure Window (xs : List α) (x : α) (size base : Nat) : Prop where
  fits : base + size ≤ xs.length
  nonempty : 0 < size
  below : 0 < base → ∀ y, xs[base]? = some y → y ≤ x
  above : ∀ j y, base + size ≤ j → xs[j]? = some y → x < y

/-- Halving the window keeps what it holds. -/
theorem Window.halve {xs : List α} {x : α} {size base : Nat} (hs : xs.Pairwise (· < ·))
    (h : Window xs x size base) (hsize : 1 < size) :
    Window xs x (size - size / 2)
      (if xs[base + size / 2]?.any (x < ·) then base else base + size / 2) := by
  have hfits := h.fits
  have hhalf : 0 < size / 2 ∧ size / 2 < size := ⟨by omega, by omega⟩
  have hmid : base + size / 2 < xs.length := by omega
  rw [List.getElem?_eq_getElem hmid, Option.any_some]
  by_cases hlt : x < xs[base + size / 2]
  · rw [if_pos (decide_eq_true hlt)]
    refine ⟨by omega, by omega, h.below, fun j y hj hy => ?_⟩
    obtain ⟨hjlt, rfl⟩ := List.getElem?_eq_some_iff.mp hy
    rcases Nat.lt_or_ge (base + size / 2) j with hmj | hjm
    · exact hlt.trans (List.pairwise_iff_getElem.mp hs _ _ hmid hjlt hmj)
    · have hj' : j = base + size / 2 := by omega
      subst hj'
      exact hlt
  · rw [if_neg (by simpa using hlt)]
    refine ⟨by omega, by omega, fun _ y hy => ?_, fun j y hj hy => ?_⟩
    · obtain ⟨_, rfl⟩ := List.getElem?_eq_some_iff.mp hy
      exact not_lt.mp hlt
    · exact h.above j y (by omega) hy

theorem Window.bisect {xs : List α} {x : α} (hs : xs.Pairwise (· < ·)) {fuel : Nat} :
    ∀ {size base : Nat}, size ≤ fuel + 1 → Window xs x size base →
      Window xs x 1 (bisect xs x fuel size base) := by
  induction fuel with
  | zero =>
    intro size base hfuel h
    have hsize : size = 1 := by
      have := h.nonempty
      omega
    rw [hsize] at h
    exact h
  | succ fuel ih =>
    intro size base hfuel h
    unfold Rust.bisect
    split
    · have hsize : size = 1 := by
        have := h.nonempty
        omega
      rw [hsize] at h
      exact h
    · exact ih (by omega) (h.halve hs (by omega))

/-- Where the search ends on a vector with elements. -/
theorem window_binarySearch {xs : List α} (hs : xs.Pairwise (· < ·)) (x : α) (hne : 0 < xs.length) :
    Window xs x 1 (bisect xs x xs.length xs.length 0) := by
  refine Window.bisect hs (Nat.le_succ _) ⟨by omega, hne, fun h => absurd h (by omega), ?_⟩
  intro j y hj hy
  have hnone : xs[j]? = none := List.getElem?_eq_none (by omega)
  rw [hnone] at hy
  exact absurd hy (by simp)

/-- **A value found** is at the index the search gives. -/
theorem binarySearch_ok {xs : List α} {x : α} {i : Nat} (h : binarySearch xs x = .ok i) :
    xs[i]? = some x := by
  unfold binarySearch at h
  simp only at h
  split at h
  · exact absurd h (by simp)
  · rename_i y hy
    by_cases hyx : y = x
    · rw [if_pos hyx] at h
      rw [← Except.ok.inj h, hy, hyx]
    · rw [if_neg hyx] at h
      exact absurd h (by simp)

/-- **A value not found** is not there, and belongs at the index the search gives. -/
theorem binarySearch_error {xs : List α} (hs : xs.Pairwise (· < ·)) {x : α} {i : Nat}
    (h : binarySearch xs x = .error i) :
    i ≤ xs.length ∧ (∀ y ∈ xs.take i, y < x) ∧ ∀ y ∈ xs.drop i, x < y := by
  rcases Nat.eq_zero_or_pos xs.length with hnil | hne
  · obtain rfl := List.length_eq_zero_iff.mp hnil
    have hi : i = 0 := (Except.error.inj h).symm
    subst hi
    simp
  · have hw := window_binarySearch hs x hne
    unfold binarySearch at h
    generalize bisect xs x xs.length xs.length 0 = base at hw h
    have hbase : base < xs.length := hw.fits
    simp only [List.getElem?_eq_getElem hbase] at h
    have hne : xs[base] ≠ x := by
      intro hyx
      simp only [hyx, if_true] at h
      exact absurd h (by simp)
    simp only [if_neg hne] at h
    have hafter : ∀ y ∈ xs.drop (base + 1), x < y := by
      intro y hy
      obtain ⟨j, hj⟩ := List.mem_iff_getElem?.mp hy
      rw [List.getElem?_drop] at hj
      exact hw.above _ y (by omega) hj
    by_cases hlt : xs[base] < x
    · rw [if_pos hlt] at h
      obtain rfl := Except.error.inj h
      refine ⟨by omega, fun y hy => ?_, hafter⟩
      obtain ⟨j, hj, rfl⟩ := List.mem_take_iff_getElem.mp hy
      rcases Nat.lt_or_ge j base with hjb | hbj
      · exact (List.pairwise_iff_getElem.mp hs j base (by omega) hbase hjb).trans hlt
      · have hj' : j = base := by omega
        subst hj'
        exact hlt
    · rw [if_neg hlt] at h
      obtain rfl := Except.error.inj h
      have hxy : x < xs[base] := lt_of_le_of_ne (not_lt.mp hlt) (Ne.symm hne)
      -- the window only moves off the front past elements that are at most `x`
      have hzero : base = 0 := by
        by_contra hpos
        exact hlt (lt_of_le_of_ne
          (hw.below (by omega) _ (List.getElem?_eq_getElem hbase)) hne)
      subst hzero
      refine ⟨by omega, by simp, fun y hy => ?_⟩
      rw [List.drop_eq_getElem_cons hbase] at hy
      rcases List.mem_cons.mp hy with rfl | hy
      · exact hxy
      · exact hafter y hy

/-- The search decides membership. -/
theorem binarySearch_isOk {xs : List α} (hs : xs.Pairwise (· < ·)) {x : α} :
    (∃ i, binarySearch xs x = .ok i) ↔ x ∈ xs := by
  constructor
  · rintro ⟨i, h⟩
    exact List.mem_of_getElem? (binarySearch_ok h)
  · intro hx
    cases h : binarySearch xs x with
    | ok i => exact ⟨i, rfl⟩
    | error i =>
      obtain ⟨_, hbefore, hafter⟩ := binarySearch_error hs h
      rw [← List.take_append_drop i xs] at hx
      rcases List.mem_append.mp hx with hx | hx
      · exact absurd (hbefore x hx) (lt_irrefl x)
      · exact absurd (hafter x hx) (lt_irrefl x)

theorem notMem_of_binarySearch {xs : List α} (hs : xs.Pairwise (· < ·)) {x : α} {i : Nat}
    (h : binarySearch xs x = .error i) : x ∉ xs := by
  intro hx
  obtain ⟨j, hj⟩ := (binarySearch_isOk hs).mpr hx
  rw [hj] at h
  exact absurd h (by simp)

/-! ## Updates -/

/-- `Vec::insert`, at an index within the vector. -/
def vecInsert (xs : List α) (i : Nat) (x : α) : List α := xs.take i ++ x :: xs.drop i

omit [LinearOrder α] in
theorem mem_vecInsert {xs : List α} {i : Nat} {x y : α} :
    y ∈ vecInsert xs i x ↔ y = x ∨ y ∈ xs := by
  have hxs : y ∈ xs ↔ y ∈ xs.take i ∨ y ∈ xs.drop i := by
    rw [← List.mem_append, List.take_append_drop]
  unfold vecInsert
  rw [hxs, List.mem_append, List.mem_cons]
  exact or_left_comm

/-- Inserting where the search says keeps the vector ascending. -/
theorem pairwise_vecInsert {xs : List α} (hs : xs.Pairwise (· < ·)) {x : α} {i : Nat}
    (h : binarySearch xs x = .error i) : (vecInsert xs i x).Pairwise (· < ·) := by
  obtain ⟨_, hbefore, hafter⟩ := binarySearch_error hs h
  have hcross : ∀ a ∈ xs.take i, ∀ b ∈ xs.drop i, a < b := fun a ha b hb =>
    (hbefore a ha).trans (hafter b hb)
  refine List.pairwise_append.mpr ⟨hs.sublist (List.take_sublist i xs),
    List.pairwise_cons.mpr ⟨hafter, hs.sublist (List.drop_sublist i xs)⟩, ?_⟩
  intro a ha b hb
  rcases List.mem_cons.mp hb with rfl | hb
  · exact hbefore a ha
  · exact hcross a ha b hb

/-- Removing where the search says keeps the vector ascending. -/
theorem pairwise_eraseIdx {xs : List α} (hs : xs.Pairwise (· < ·)) (i : Nat) :
    (xs.eraseIdx i).Pairwise (· < ·) := hs.sublist (List.eraseIdx_sublist xs i)

theorem mem_eraseIdx {xs : List α} (hs : xs.Pairwise (· < ·)) {x y : α} {i : Nat}
    (h : binarySearch xs x = .ok i) : y ∈ xs.eraseIdx i ↔ y ∈ xs ∧ y ≠ x := by
  obtain ⟨hi, rfl⟩ := List.getElem?_eq_some_iff.mp (binarySearch_ok h)
  have hnodup : xs.Nodup := hs.imp fun hlt => ne_of_lt hlt
  rw [← List.Nodup.erase_getElem hnodup i hi, hnodup.mem_erase_iff, and_comm]

/-- The value inserted where the search says, unless it is found. -/
def insertSorted (xs : List α) (x : α) : List α :=
  match binarySearch xs x with
  | .ok _ => xs
  | .error i => vecInsert xs i x

theorem pairwise_insertSorted {xs : List α} (hs : xs.Pairwise (· < ·)) (x : α) :
    (insertSorted xs x).Pairwise (· < ·) := by
  unfold insertSorted
  split
  · exact hs
  · rename_i i hi
    exact pairwise_vecInsert hs hi

theorem mem_insertSorted {xs : List α} {x y : α} : y ∈ insertSorted xs x ↔ y = x ∨ y ∈ xs := by
  unfold insertSorted
  split
  · rename_i i hi
    refine (or_iff_right_of_imp ?_).symm
    rintro rfl
    exact List.mem_of_getElem? (binarySearch_ok hi)
  · exact mem_vecInsert

/-- A value that is there is found, and nothing is inserted. -/
theorem insertSorted_of_mem {xs : List α} (hs : xs.Pairwise (· < ·)) {x : α} (h : x ∈ xs) :
    insertSorted xs x = xs := by
  obtain ⟨i, hi⟩ := (binarySearch_isOk hs).mpr h
  unfold insertSorted
  rw [hi]

theorem mem_foldl_insertSorted {ys : List α} {y : α} :
    ∀ {xs : List α}, y ∈ ys.foldl insertSorted xs ↔ y ∈ ys ∨ y ∈ xs := by
  induction ys with
  | nil => simp
  | cons x ys ih =>
    intro xs
    rw [List.foldl_cons, ih, mem_insertSorted, List.mem_cons, or_left_comm, or_assoc]

theorem pairwise_foldl_insertSorted {ys : List α} :
    ∀ {xs : List α}, xs.Pairwise (· < ·) → (ys.foldl insertSorted xs).Pairwise (· < ·) := by
  induction ys with
  | nil => exact fun hs => hs
  | cons y ys ih => exact fun hs => ih (pairwise_insertSorted hs y)

/-- Distinct values inserted into an empty vector. -/
theorem length_foldl_insertSorted {ys : List α} (h : ys.Nodup) :
    (ys.foldl insertSorted []).length = ys.length := by
  have hs : (ys.foldl insertSorted []).Pairwise (· < ·) := pairwise_foldl_insertSorted .nil
  have hnodup := hs.imp fun hlt => ne_of_lt hlt
  refine ((List.perm_ext_iff_of_nodup hnodup h).mpr fun y => ?_).length_eq
  rw [mem_foldl_insertSorted]
  exact or_iff_left List.not_mem_nil

/-- Inserting many values changes nothing iff all of them are there. -/
theorem foldl_insertSorted_eq_self {xs : List α} (hs : xs.Pairwise (· < ·)) {ys : List α} :
    ys.foldl insertSorted xs = xs ↔ ∀ y ∈ ys, y ∈ xs := by
  constructor
  · intro h y hy
    rw [← h]
    exact mem_foldl_insertSorted.mpr (.inl hy)
  · intro h
    induction ys with
    | nil => rfl
    | cons y ys ih =>
      obtain ⟨hy, hys⟩ := List.forall_mem_cons.mp h
      rw [List.foldl_cons, insertSorted_of_mem hs hy]
      exact ih hys

/-- A vector sorted by a number, with an element for each number up to `n` and no two for one below
`n`, has the element with number `i` at position `i`. -/
theorem getElem_of_numbered {β : Type} {key : β → Nat} {v : List β} {n : Nat}
    (hsorted : v.Pairwise fun a b => key a ≤ key b) (hevery : ∀ i ≤ n, ∃ a ∈ v, key a = i)
    (honce : v.Pairwise fun a b => key a = key b → n ≤ key a) :
    ∀ i ≤ n, ∃ hi : i < v.length, key v[i] = i := by
  have hle : ∀ i j (hi : i < v.length) (hj : j < v.length), i ≤ j → key v[i] ≤ key v[j] := by
    intro i j hi hj hij
    rcases Nat.lt_or_eq_of_le hij with hlt | rfl
    · exact List.pairwise_iff_getElem.mp hsorted i j hi hj hlt
    · exact Nat.le_refl _
  intro i
  induction i with
  | zero =>
    intro hi
    obtain ⟨a, ha, hkey⟩ := hevery 0 hi
    obtain ⟨k, hk, rfl⟩ := List.getElem_of_mem ha
    have hpos : 0 < v.length := Nat.zero_lt_of_lt hk
    have hfirst := hle 0 k hpos hk (Nat.zero_le k)
    rw [hkey] at hfirst
    exact ⟨hpos, Nat.le_zero.mp hfirst⟩
  | succ i ih =>
    intro hi
    obtain ⟨hlt, hbefore⟩ := ih (Nat.le_of_succ_le hi)
    obtain ⟨a, ha, hkey⟩ := hevery (i + 1) hi
    obtain ⟨k, hk, rfl⟩ := List.getElem_of_mem ha
    have hik : i < k := by
      by_contra hki
      have hback := hle k i hk hlt (Nat.not_lt.mp hki)
      omega
    have hlt' : i + 1 < v.length := Nat.lt_of_le_of_lt hik hk
    have hupper := hle (i + 1) k hlt' hk hik
    have hlower := hle i (i + 1) hlt hlt' (Nat.le_succ i)
    -- a number below `i + 1` would be that of the element before, a second time
    refine ⟨hlt', ?_⟩
    by_contra hne
    have hlast := List.pairwise_iff_getElem.mp honce i (i + 1) hlt hlt' (Nat.lt_succ_self i)
      (by omega)
    omega

/-- `u16: Ord`. -/
instance instLinearOrderUInt16 : LinearOrder UInt16 where
  le_refl := UInt16.le_refl
  le_trans _ _ _ := UInt16.le_trans
  le_antisymm _ _ := UInt16.le_antisymm
  le_total := UInt16.le_total
  lt_iff_le_not_ge a b := by
    rw [UInt16.not_le]
    exact ⟨fun h => ⟨UInt16.le_of_lt h, h⟩, fun h => h.2⟩
  toDecidableLE := inferInstance
  toDecidableLT := inferInstance
  toDecidableEq := inferInstance

end Rust
