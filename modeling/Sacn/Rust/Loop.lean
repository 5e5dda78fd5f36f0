import Sacn.Rust.Outcome

/-!
# While loops

`while cond { body }` on a state, for at most as many turns as it is given fuel. A body can return
early with `Err`, or panic; both end the loop.

* **`whileLoop_eq`**: the rule for loops. A function that satisfies the equations of a loop is what
  the loop computes, if a measure goes down with every turn, and the loop ends within that measure.
-/

namespace Rust

open Outcome

variable {ε σ α : Type}

/-- `while cond { body }` from `s`, for fewer than `fuel` turns; `none` if it takes more. -/
def whileLoop (cond : σ → Bool) (body : σ → Outcome ε σ) : Nat → σ → Option (Outcome ε σ)
  | 0, _ => none
  | fuel + 1, s =>
    if cond s then
      match body s with
      | .ok s' => whileLoop cond body fuel s'
      | .err e => some (.err e)
      | .panic => some .panic
    else some (.ok s)

/-- **The rule for loops.** `R s` is what the loop and the statements behind it, `after`, make of the
state `s`; `m` is the measure. -/
theorem whileLoop_eq {cond : σ → Bool} {body : σ → Outcome ε σ} {I : σ → Prop} {m : σ → Nat}
    {after R : σ → Outcome ε α}
    (hdone : ∀ s, I s → cond s = false → R s = after s)
    (hturn : ∀ s, I s → cond s = true → R s = body s >>= R)
    (hkept : ∀ s s', I s → cond s = true → body s = .ok s' → I s' ∧ m s' < m s) :
    ∀ {fuel : Nat} {s : σ}, I s → m s < fuel →
      (whileLoop cond body fuel s).map (· >>= after) = some (R s) := by
  intro fuel
  induction fuel with
  | zero => exact fun _ hfuel => absurd hfuel (Nat.not_lt_zero _)
  | succ fuel ih =>
    intro s hs hfuel
    unfold whileLoop
    cases hcond : cond s with
    | false =>
      rw [if_neg Bool.false_ne_true, Option.map_some, ok_bind, hdone s hs hcond]
    | true =>
      rw [if_pos rfl, hturn s hs hcond]
      cases hbody : body s with
      | ok s' =>
        obtain ⟨hs', hlt⟩ := hkept s s' hs hcond hbody
        exact ih hs' (Nat.lt_of_lt_of_le hlt (Nat.le_of_lt_succ hfuel))
      | err e => rfl
      | panic => rfl

end Rust
