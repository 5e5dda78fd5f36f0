import Mathlib.Data.List.Basic
import Mathlib.Tactic.SplitIfs
import Sacn.Rust.Outcome

/-!
# Slices: checked reads and writes of a buffer

`&buf[a..b]`, `buf[i]` and their `&mut` forms on a list of elements. Every access is checked and
panics out of range, as the Rust operators do. `List.extract` is the total slice: what a checked
read returns when it returns.

A function that writes through `&mut [T]` is a function from the old contents to the new ones.
`modify buf a b f` runs `f` on `&mut buf[a..b]` and leaves the rest of the buffer alone.

* `slice_eq_ok`, `index_eq_ok` and their `_eq_panic` forms decide each read.
* `modify_drop`, `setIndex_drop`: a buffer already written up to `a` is
  `w ++ buf.drop a` with `w` the written part; the next write there appends to `w`.
-/

namespace Rust

open Outcome

variable {ε α : Type}

/-- `isize::MAX` on a 64-bit target. Neither a slice nor a vector takes more bytes;
`Vec::with_capacity` panics when asked to. -/
def isizeMax : Nat := 0x7fffffffffffffff

/-! ## Reads -/

/-- `&buf[a..b]`. -/
def slice (buf : List α) (a b : Nat) : Outcome ε (List α) :=
  if a ≤ b ∧ b ≤ buf.length then .ok (buf.extract a b) else .panic

/-- `&buf[a..]`. -/
def sliceFrom (buf : List α) (a : Nat) : Outcome ε (List α) :=
  if a ≤ buf.length then .ok (buf.drop a) else .panic

/-- `buf[i]`. -/
def index (buf : List α) (i : Nat) : Outcome ε α :=
  match buf[i]? with
  | some x => .ok x
  | none => .panic

@[simp] theorem slice_eq_ok {buf s : List α} {a b : Nat} :
    (slice buf a b : Outcome ε _) = .ok s ↔ (a ≤ b ∧ b ≤ buf.length) ∧ buf.extract a b = s := by
  unfold slice
  split <;> simp [*]

@[simp] theorem slice_eq_panic {buf : List α} {a b : Nat} :
    (slice buf a b : Outcome ε _) = .panic ↔ ¬ (a ≤ b ∧ b ≤ buf.length) := by
  unfold slice
  split <;> simp [*]

@[simp] theorem sliceFrom_eq_ok {buf s : List α} {a : Nat} :
    (sliceFrom buf a : Outcome ε _) = .ok s ↔ a ≤ buf.length ∧ buf.drop a = s := by
  unfold sliceFrom
  split <;> simp [*]

@[simp] theorem sliceFrom_eq_panic {buf : List α} {a : Nat} :
    (sliceFrom buf a : Outcome ε _) = .panic ↔ buf.length < a := by
  unfold sliceFrom
  split <;> simp only [reduceCtorEq, true_iff, false_iff] <;> omega

@[simp] theorem index_eq_ok {buf : List α} {i : Nat} {x : α} :
    (index buf i : Outcome ε _) = .ok x ↔ buf[i]? = some x := by
  unfold index
  cases buf[i]? <;> simp

@[simp] theorem index_eq_panic {buf : List α} {i : Nat} :
    (index buf i : Outcome ε _) = .panic ↔ buf.length ≤ i := by
  unfold index
  cases h : buf[i]? with
  | none => simpa using List.getElem?_eq_none_iff.mp h
  | some x =>
    have hlt := (List.getElem?_eq_some_iff.mp h).1
    simpa using hlt

theorem slice_ok {buf : List α} {a b : Nat} (hab : a ≤ b) (hb : b ≤ buf.length) :
    (slice buf a b : Outcome ε _) = .ok (buf.extract a b) := if_pos ⟨hab, hb⟩

theorem length_extract (buf : List α) (a b : Nat) :
    (buf.extract a b).length = min (b - a) (buf.length - a) := by
  simp [List.extract_eq_take_drop]

theorem length_extract_of_le {buf : List α} {a b : Nat} (hb : b ≤ buf.length) :
    (buf.extract a b).length = b - a := by
  rw [length_extract]
  omega

/-- A slice of a longer buffer only depends on what comes before its end. -/
theorem extract_append_left {w r : List α} {a b : Nat} (hb : b ≤ w.length) :
    (w ++ r).extract a b = w.extract a b := by
  rw [List.extract_eq_take_drop, List.extract_eq_take_drop, List.drop_append]
  rw [List.take_append_of_le_length]
  rw [List.length_drop]
  omega

/-- A slice past a prefix is a slice of the rest. -/
theorem extract_append_right {w r : List α} {a b : Nat} (ha : w.length ≤ a) :
    (w ++ r).extract a b = r.extract (a - w.length) (b - w.length) := by
  rw [List.extract_eq_take_drop, List.extract_eq_take_drop, List.drop_append]
  rw [List.drop_eq_nil_of_le ha, List.nil_append]
  congr 1
  omega

theorem extract_zero_length (w : List α) : w.extract 0 w.length = w := by
  simp [List.extract_eq_take_drop]

/-- The first `n` slices of `size` elements each, the last one cut off at the end, joined. -/
theorem flatten_extract (buf : List α) (size n : Nat) :
    ((List.range n).map fun i =>
      buf.extract (i * size) (min ((i + 1) * size) buf.length)).flatten = buf.take (n * size) := by
  induction n with
  | zero => rw [Nat.zero_mul, List.take_zero]; rfl
  | succ n ih =>
    have hlast : buf.extract (n * size) (min ((n + 1) * size) buf.length) =
        (buf.drop (n * size)).take size := by
      rw [List.extract_eq_take_drop, List.take_eq_take_iff, List.length_drop, Nat.succ_mul]
      omega
    rw [List.range_succ, List.map_append, List.flatten_append, ih, Nat.succ_mul, List.take_add]
    simp [hlast]

/-! ## Writes -/

/-- Runs `f` on `&mut buf[a..b]`. -/
def modify (buf : List α) (a b : Nat) (f : List α → Outcome ε (List α)) :
    Outcome ε (List α) := do
  let mid ← slice buf a b
  let mid' ← f mid
  return buf.take a ++ mid' ++ buf.drop b

/-- Runs `f` on `&mut buf[a..]`. -/
def modifyFrom (buf : List α) (a : Nat) (f : List α → Outcome ε (List α)) :
    Outcome ε (List α) := do
  let rest ← sliceFrom buf a
  let rest' ← f rest
  return buf.take a ++ rest'

/-- `buf[i] = x`. -/
def setIndex (buf : List α) (i : Nat) (x : α) : Outcome ε (List α) :=
  if i < buf.length then .ok (buf.set i x) else .panic

/-- `dst.copy_from_slice(src)`: panics unless the lengths agree. -/
def copyFromSlice (src : List α) (dst : List α) : Outcome ε (List α) :=
  if dst.length = src.length then .ok src else .panic

theorem modify_drop {w buf new : List α} {a b : Nat} {f : List α → Outcome ε (List α)}
    (hw : w.length = a) (hab : a ≤ b) (hb : b ≤ buf.length)
    (hf : ∀ s : List α, s.length = b - a → f s = .ok new) :
    modify (w ++ buf.drop a) a b f = .ok (w ++ new ++ buf.drop b) := by
  have hlen : (buf.drop a).length = buf.length - a := List.length_drop
  have hs : ((w ++ buf.drop a).extract a b).length = b - a :=
    length_extract_of_le (by rw [List.length_append]; omega)
  have hdrop : (w ++ buf.drop a).drop b = buf.drop b := by
    rw [List.drop_append, List.drop_eq_nil_of_le (by omega), List.nil_append, List.drop_drop]
    congr 1
    omega
  unfold modify
  rw [slice_ok hab (by rw [List.length_append]; omega), ok_bind, hf _ hs, ok_bind, pure_eq, hdrop,
    List.take_append_of_le_length (by omega), List.take_of_length_le (by omega)]

theorem modify_zero {buf new : List α} {b : Nat} {f : List α → Outcome ε (List α)}
    (hb : b ≤ buf.length) (hf : ∀ s : List α, s.length = b → f s = .ok new) :
    modify buf 0 b f = .ok (new ++ buf.drop b) :=
  modify_drop (w := []) rfl (Nat.zero_le b) hb hf

/-- A second write to a part already written. -/
theorem modify_within {w mid r new : List α} {a n : Nat} {f : List α → Outcome ε (List α)}
    (hw : w.length = a) (hn : n ≤ mid.length) (hf : f (mid.take n) = .ok new) :
    modify (w ++ mid ++ r) a (a + n) f = .ok (w ++ (new ++ mid.drop n) ++ r) := by
  have hs : (w ++ mid ++ r).extract a (a + n) = mid.take n := by
    rw [List.append_assoc, extract_append_right (by omega), hw, extract_append_left (by omega)]
    simp [List.extract_eq_take_drop]
  have htake : (w ++ mid ++ r).take a = w := by
    rw [List.append_assoc, List.take_append_of_le_length (by omega),
      List.take_of_length_le (by omega)]
  have hdrop : (w ++ mid ++ r).drop (a + n) = mid.drop n ++ r := by
    rw [List.append_assoc, ← List.drop_drop, ← hw, List.drop_left,
      List.drop_append_of_le_length hn]
  unfold modify
  rw [slice_ok (by omega) (by simp only [List.length_append]; omega), ok_bind, hs, hf, ok_bind,
    pure_eq, htake, hdrop]
  simp only [List.append_assoc]

/-- A copy that succeeds has replaced as many elements as it copied. -/
theorem modify_copy_eq_ok {buf buf' src : List α} {a : Nat}
    (h : (modify buf a (a + src.length) (copyFromSlice src) : Outcome ε _) = .ok buf') :
    a + src.length ≤ buf.length ∧ buf' = buf.take a ++ src ++ buf.drop (a + src.length) := by
  obtain ⟨mid, hmid, h⟩ := bind_eq_ok.mp h
  obtain ⟨new, hnew, h⟩ := bind_eq_ok.mp h
  unfold copyFromSlice at hnew
  split at hnew
  · obtain rfl := ok.inj hnew
    exact ⟨(slice_eq_ok.mp hmid).1.2, (ok.inj h).symm⟩
  · exact absurd hnew (by simp)

theorem modifyFrom_append {w buf : List α} {a : Nat} {f : List α → Outcome ε (List α)}
    (hw : w.length = a) (ha : a ≤ buf.length) :
    modifyFrom (w ++ buf.drop a) a f = (do return w ++ (← f (buf.drop a))) := by
  subst hw
  unfold modifyFrom sliceFrom
  rw [if_pos (by simp), ok_bind, List.drop_left, List.take_left]

theorem setIndex_drop {w buf : List α} {y : α} {i : Nat} (hw : w.length = i)
    (hi : i < buf.length) :
    (setIndex (w ++ buf.drop i) i y : Outcome ε _) = .ok (w ++ [y] ++ buf.drop (i + 1)) := by
  have hcons : buf.drop i = buf[i] :: buf.drop (i + 1) := (List.getElem_cons_drop hi).symm
  unfold setIndex
  rw [if_pos (by rw [List.length_append, List.length_drop]; omega), hcons,
    List.set_append_right _ _ (by omega), hw, Nat.sub_self, List.set_cons_zero]
  simp

/-- A second write to the element written last. -/
theorem setIndex_last {w r : List α} {x y : α} {i : Nat} (hw : w.length = i) :
    (setIndex (w ++ [x] ++ r) i y : Outcome ε _) = .ok (w ++ [y] ++ r) := by
  unfold setIndex
  rw [if_pos (by simp; omega)]
  subst hw
  simp

theorem index_last {w r : List α} {x : α} {i : Nat} (hw : w.length = i) :
    (index (w ++ [x] ++ r) i : Outcome ε _) = .ok x := by
  subst hw
  simp

theorem copyFromSlice_ok {src dst : List α} (h : dst.length = src.length) :
    (copyFromSlice src dst : Outcome ε _) = .ok src := if_pos h

end Rust
