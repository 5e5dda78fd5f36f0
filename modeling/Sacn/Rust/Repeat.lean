import Sacn.Rust.Method

/-!
# `loop`

`loop { .. }` whose body may `return`, over what its turns take from outside, one input a turn. A
turn that returns nothing goes on to the next; the loop has no result while the inputs last.

* `GoesOn`: turns that all go on.
* **`repeatBody_cases`**: every turn goes on, or the loop ends with the first that does not.
-/

namespace Rust

variable {σ ε ι α : Type}

/-- How a turn ends the loop, if it does. -/
def Outcome.settled : Outcome ε (Option α) → Option (Outcome ε α)
  | .ok none => none
  | .ok (some a) => some (.ok a)
  | .err e => some (.err e)
  | .panic => some .panic

theorem Outcome.settled_eq_none {x : Outcome ε (Option α)} : x.settled = none ↔ x = .ok none := by
  rcases x with (_ | a) | e | _ <;> simp [settled]

/-- `loop { body }`: how it ends and the state it leaves; `none` if it is still going after the last
input. -/
def repeatBody (body : ι → Method σ ε (Option α)) : List ι → σ → Option (Outcome ε α) × σ
  | [], s => (none, s)
  | i :: is, s =>
    match ((body i).run s).1.settled with
    | none => repeatBody body is ((body i).run s).2
    | some o => (some o, ((body i).run s).2)

/-- Turns that return nothing. -/
inductive GoesOn (body : ι → Method σ ε (Option α)) : List ι → σ → σ → Prop where
  | nil (s : σ) : GoesOn body [] s s
  | cons {i : ι} {is : List ι} {s s' s'' : σ} (h : (body i).run s = (.ok none, s'))
      (hrest : GoesOn body is s' s'') : GoesOn body (i :: is) s s''

variable {body : ι → Method σ ε (Option α)}

/-- **How a loop goes**: over all its inputs, or up to the first turn that returns. -/
theorem repeatBody_cases (body : ι → Method σ ε (Option α)) (is : List ι) (s : σ) :
    (∃ s', GoesOn body is s s' ∧ repeatBody body is s = (none, s')) ∨
    ∃ pre i post mid o, is = pre ++ i :: post ∧ GoesOn body pre s mid ∧
      ((body i).run mid).1.settled = some o ∧
      repeatBody body is s = (some o, ((body i).run mid).2) := by
  induction is generalizing s with
  | nil => exact .inl ⟨s, .nil s, rfl⟩
  | cons i is ih =>
    unfold repeatBody
    cases hsettled : ((body i).run s).1.settled with
    | some o => exact .inr ⟨[], i, is, s, o, rfl, .nil s, hsettled, rfl⟩
    | none =>
      have hon : (body i).run s = (.ok none, ((body i).run s).2) :=
        Prod.ext (Outcome.settled_eq_none.mp hsettled) rfl
      rcases ih ((body i).run s).2 with ⟨s', hgoes, hrun⟩ | ⟨pre, j, post, mid, o, rfl, hgoes, hend, hrun⟩
      · exact .inl ⟨s', .cons hon hgoes, hrun⟩
      · exact .inr ⟨i :: pre, j, post, mid, o, rfl, .cons hon hgoes, hend, hrun⟩

end Rust
