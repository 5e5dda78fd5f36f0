import Mathlib.Data.List.Forall2
import Mathlib.Tactic.Common

/-!
# A one-place buffer

A cell holds at most one item. In each step one item may arrive, and the cell may drop what it
holds, hold the item instead, hand the item on at once and empty itself, or hand on what it holds.

* `Cell.InOrder.step`: whatever the steps, the items handed on come in the order they arrived in.
-/

namespace Rust

namespace Cell

variable {α : Type}

/-- One step: the item that arrives, what is held before, what is handed on, what is held after. -/
inductive Step (arrival : Option α) : Option α → List α → Option α → Prop where
  | hold {held held' : Option α} (h : ∀ a, held' = some a → held = some a) :
      Step arrival held [] held'
  | store {held : Option α} {a : α} (h : arrival = some a) : Step arrival held [] (some a)
  | pass {held : Option α} {a : α} (h : arrival = some a) : Step arrival held [a] none
  | release {a : α} : Step arrival (some a) [a] none

/-- The item arrived at the position. -/
def CameAt (arrivals : List (Option α)) (pos : Nat) (a : α) : Prop := arrivals[pos]? = some (some a)

/-- The items handed on, each with the time at which it was, came at strictly increasing positions,
none later than it was handed on; what is held came after all of them. -/
def InOrder (arrivals : List (Option α)) (handed : List (Nat × α)) (held : Option α) : Prop :=
  ∃ positions : List Nat, positions.Pairwise (· < ·) ∧ (∀ p ∈ positions, p < arrivals.length) ∧
    List.Forall₂ (fun pos d => CameAt arrivals pos d.2 ∧ pos ≤ d.1) positions handed ∧
    ∀ a, held = some a → ∃ pos, CameAt arrivals pos a ∧ ∀ p ∈ positions, p < pos

theorem inOrder_empty : InOrder ([] : List (Option α)) [] none :=
  ⟨[], .nil, by simp, .nil, by simp⟩

theorem CameAt.lt {arrivals : List (Option α)} {pos : Nat} {a : α} (h : CameAt arrivals pos a) :
    pos < arrivals.length := (List.getElem?_eq_some_iff.mp h).1

theorem CameAt.append {arrivals : List (Option α)} {pos : Nat} {a : α}
    (h : CameAt arrivals pos a) (later : List (Option α)) : CameAt (arrivals ++ later) pos a :=
  (List.getElem?_append_left h.lt).trans h

theorem cameAt_last (arrivals : List (Option α)) (a : α) :
    CameAt (arrivals ++ [some a]) arrivals.length a := by
  unfold CameAt
  rw [List.getElem?_append_right (Nat.le_refl _), Nat.sub_self]
  rfl

/-- One more item handed on, which came after the others. -/
theorem InOrder.hand {arrivals : List (Option α)} {handed : List (Nat × α)} {positions : List Nat}
    {pos now : Nat} {a : α} (hsorted : positions.Pairwise (· < ·))
    (hcame : List.Forall₂ (fun pos d => CameAt arrivals pos d.2 ∧ pos ≤ d.1) positions handed)
    (hpos : CameAt arrivals pos a) (hlast : ∀ p ∈ positions, p < pos) (hnow : pos ≤ now) :
    InOrder arrivals (handed ++ [(now, a)]) none := by
  refine ⟨positions ++ [pos], ?_, fun p hp => ?_, ?_, by simp⟩
  · refine List.pairwise_append.mpr ⟨hsorted, List.pairwise_singleton _ _, fun p hp q hq => ?_⟩
    rw [List.mem_singleton.mp hq]
    exact hlast p hp
  · rcases List.mem_append.mp hp with hp | hp
    · exact Nat.lt_trans (hlast p hp) hpos.lt
    · rw [List.mem_singleton.mp hp]
      exact hpos.lt
  · exact List.rel_append hcame (.cons ⟨hpos, hnow⟩ .nil)

/-- **A cell hands items on in the order of their arrival.** -/
theorem InOrder.step {arrivals : List (Option α)} {handed : List (Nat × α)}
    {arrival held held' : Option α} {out : List α} (h : InOrder arrivals handed held)
    (hstep : Step arrival held out held') :
    InOrder (arrivals ++ [arrival]) (handed ++ out.map fun a => (arrivals.length, a)) held' := by
  obtain ⟨positions, hsorted, hbound, hcame, hheld⟩ := h
  have hcame' : List.Forall₂ (fun pos d => CameAt (arrivals ++ [arrival]) pos d.2 ∧ pos ≤ d.1)
      positions handed := hcame.imp fun _ _ hp => ⟨hp.1.append _, hp.2⟩
  cases hstep with
  | hold hkept =>
    refine ⟨positions, hsorted, fun p hp => ?_, by simpa using hcame', fun a ha => ?_⟩
    · rw [List.length_append]
      exact Nat.lt_add_right _ (hbound p hp)
    · obtain ⟨pos, hpos, hlast⟩ := hheld a (hkept a ha)
      exact ⟨pos, hpos.append _, hlast⟩
  | store harrival =>
    subst harrival
    refine ⟨positions, hsorted, fun p hp => ?_, by simpa using hcame', ?_⟩
    · rw [List.length_append]
      exact Nat.lt_add_right _ (hbound p hp)
    · rintro a ⟨⟩
      exact ⟨arrivals.length, cameAt_last arrivals _, hbound⟩
  | pass harrival =>
    subst harrival
    exact InOrder.hand hsorted hcame' (cameAt_last arrivals _) hbound (Nat.le_refl _)
  | @release a =>
    obtain ⟨pos, hpos, hlast⟩ := hheld a rfl
    exact InOrder.hand hsorted hcame' (hpos.append _) hlast (Nat.le_of_lt hpos.lt)

end Cell

end Rust
