import Mathlib.Data.List.Perm.Lattice
import Sacn.Rust.Outcome

/-!
# Folding a fallible operation

An accumulator takes the items of a list one after the other, and an item may be refused.

* **`foldlM_cases`**: what one step adds to a description of the items taken so far, the fold says
  of the whole list, and it is refused iff two of its items do not go together.
* `Largest`: the maximum of the values that satisfy a predicate, and how it changes with one more.
-/

namespace Rust

/-! ## Folds -/

section Fold

variable {ε α β : Type}

/-- **The rule for folds.** `D` describes what has been taken; `C` says which items go together. The
step takes an item that goes with all the others and refuses any other with `e`. -/
theorem foldlM_cases {op : β → α → Outcome ε β} {D : List α → β → Prop} {C : α → α → Prop} {e : ε}
    (htake : ∀ l b a, D l b → (∀ x ∈ l, C x a) → ∃ b', op b a = .ok b' ∧ D (l ++ [a]) b')
    (hrefuse : ∀ l b a, D l b → ¬ (∀ x ∈ l, C x a) → op b a = .err e) {rest : List α} :
    ∀ {l : List α} {b : β}, D l b → l.Pairwise C →
      ((l ++ rest).Pairwise C ∧ ∃ b', rest.foldlM op b = .ok b' ∧ D (l ++ rest) b') ∨
      (¬ (l ++ rest).Pairwise C ∧ rest.foldlM op b = .err e) := by
  induction rest with
  | nil =>
    intro l b hb hl
    rw [List.append_nil]
    exact .inl ⟨hl, b, rfl, hb⟩
  | cons a rest ih =>
    intro l b hb hl
    rw [List.foldlM_cons, List.append_cons]
    by_cases ha : ∀ x ∈ l, C x a
    · obtain ⟨b', hop, hb'⟩ := htake l b a hb ha
      rw [hop]
      refine ih hb' (List.pairwise_append.mpr ⟨hl, List.pairwise_singleton C a, fun x hx y hy => ?_⟩)
      rw [List.mem_singleton.mp hy]
      exact ha x hx
    · refine .inr ⟨fun hpair => ha fun x hx => ?_, ?_⟩
      · have hsnoc := (List.pairwise_append.mp hpair).1
        exact (List.pairwise_append.mp hsnoc).2.2 x hx a (List.mem_singleton.mpr rfl)
      · rw [hrefuse l b a hb ha]
        rfl

end Fold

/-! ## Maxima -/

/-- `m` is the largest value with `p`. -/
def Largest {α : Type} [LE α] (p : α → Prop) (m : α) : Prop := p m ∧ ∀ w, p w → w ≤ m

namespace Largest

variable {α : Type} [LE α]

theorem congr {p q : α → Prop} {m : α} (h : ∀ w, p w ↔ q w) (hm : Largest p m) : Largest q m :=
  ⟨(h m).mp hm.1, fun w hw => hm.2 w ((h w).mpr hw)⟩

/-- There is only one. -/
theorem unique [Std.Antisymm fun a b : α => a ≤ b] {p : α → Prop} {m n : α} (hm : Largest p m)
    (hn : Largest p n) : m = n :=
  Std.Antisymm.antisymm m n (hn.2 m hm.1) (hm.2 n hn.1)

/-- The largest value of two predicates. -/
theorem or [Max α] [Std.IsLinearOrder α] [Std.LawfulOrderMax α] {p q : α → Prop} {m n : α}
    (hm : Largest p m) (hn : Largest q n) : Largest (fun w => p w ∨ q w) (max m n) := by
  refine ⟨?_, ?_⟩
  · rcases Std.max_eq_or (a := m) (b := n) with h | h
    · rw [h]
      exact .inl hm.1
    · rw [h]
      exact .inr hn.1
  · rintro w (hw | hw)
    · exact Std.le_trans (hm.2 w hw) Std.left_le_max
    · exact Std.le_trans (hn.2 w hw) Std.right_le_max

end Largest

instance instLawfulOrderMaxUInt8 : Std.LawfulOrderMax UInt8 :=
  .of_max_le_iff (fun a b c => by
    show (if a ≤ b then b else a) ≤ c ↔ _
    grind) fun a b => by
    show (if a ≤ b then b else a) = a ∨ (if a ≤ b then b else a) = b
    grind

end Rust
