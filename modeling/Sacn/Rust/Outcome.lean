import Mathlib.Tactic.Common

/-!
# How a Rust call ends

A call of a Rust function that returns `Result<T, E>` ends in one of three ways: `Ok`, `Err` or a
panic (an index or a slice out of range, an `unwrap` of nothing). `Outcome ε α` keeps the three
apart, so that "never panics" is a statement about the model and not an assumption of it. `?` is
the monad's bind: it stops at the first `Err` and at the first panic.

* `bind_eq_ok`, `bind_eq_panic`: how a sequence of steps can succeed or panic.
* `Raises`: the errors that can occur.
* `throwIf c e` is the guard `if c { return Err(e) }`.
-/

namespace Rust

/-- How a call ends: `Ok`, `Err`, or a panic. -/
inductive Outcome (ε α : Type) where
  | ok (a : α)
  | err (e : ε)
  | panic
  deriving DecidableEq, Repr

namespace Outcome

variable {ε α β : Type}

/-- `x?` followed by the rest. -/
def bind : Outcome ε α → (α → Outcome ε β) → Outcome ε β
  | ok a, f => f a
  | err e, _ => err e
  | panic, _ => panic

instance : Monad (Outcome ε) where
  pure := ok
  bind := bind

instance : LawfulMonad (Outcome ε) :=
  LawfulMonad.mk' _ (fun x => by cases x <;> rfl) (fun _ _ => rfl)
    (fun x _ _ => by cases x <;> rfl)

@[simp] theorem pure_eq (a : α) : (pure a : Outcome ε α) = ok a := rfl

@[simp] theorem ok_bind (a : α) (f : α → Outcome ε β) : (ok a >>= f) = f a := rfl

@[simp] theorem err_bind (e : ε) (f : α → Outcome ε β) : (err e >>= f) = err e := rfl

@[simp] theorem panic_bind (f : α → Outcome ε β) : ((panic : Outcome ε α) >>= f) = panic := rfl

@[simp] theorem map_ok (f : α → β) (a : α) : f <$> (ok a : Outcome ε α) = ok (f a) := rfl

/-- A sequence succeeds iff its first step does and the rest succeeds on its value. -/
@[simp] theorem bind_eq_ok {x : Outcome ε α} {f : α → Outcome ε β} {b : β} :
    (x >>= f) = ok b ↔ ∃ a, x = ok a ∧ f a = ok b := by
  cases x <;> simp

/-- A sequence panics iff its first step does, or succeeds with a value the rest panics on. -/
theorem bind_eq_panic {x : Outcome ε α} {f : α → Outcome ε β} :
    (x >>= f) = panic ↔ x = panic ∨ ∃ a, x = ok a ∧ f a = panic := by
  cases x <;> simp

/-- `if c { return Err(e) }`. -/
def throwIf (c : Prop) [Decidable c] (e : ε) : Outcome ε Unit :=
  if c then err e else ok ()

theorem throwIf_neg {c : Prop} [Decidable c] (h : ¬ c) (e : ε) : throwIf c e = ok () := if_neg h

/-- A guard lets the rest run iff its condition fails. -/
@[simp] theorem throwIf_eq_ok {c : Prop} [Decidable c] {e : ε} {a : Unit} :
    throwIf c e = ok a ↔ ¬ c := by
  unfold throwIf
  split <;> simp [*]

@[simp] theorem throwIf_eq_panic {c : Prop} [Decidable c] {e : ε} :
    throwIf c e = panic ↔ False := by
  unfold throwIf
  split <;> simp

/-- `Result::unwrap`. -/
def unwrap : Outcome ε α → Outcome ε α
  | ok a => ok a
  | _ => panic

/-- `Result::map_err`. -/
def mapErr (f : ε → ε) : Outcome ε α → Outcome ε α
  | err e => err (f e)
  | x => x

/-- `Result::ok`. -/
def toOption : Outcome ε α → Option α
  | ok a => some a
  | _ => none

@[simp] theorem unwrap_eq_ok {x : Outcome ε α} {a : α} : x.unwrap = ok a ↔ x = ok a := by
  cases x <;> simp [unwrap]

@[simp] theorem mapErr_eq_ok {f : ε → ε} {x : Outcome ε α} {a : α} :
    x.mapErr f = ok a ↔ x = ok a := by
  cases x <;> simp [mapErr]

/-! ### The errors that can occur -/

/-- The call ends with no error but those with `P`. -/
def Raises (P : ε → Prop) (x : Outcome ε α) : Prop := ∀ e, x = err e → P e

namespace Raises

variable {P : ε → Prop}

theorem ok (a : α) : Raises P (Outcome.ok a) := fun _ h => absurd h (by simp)

theorem panic : Raises P (Outcome.panic : Outcome ε α) := fun _ h => absurd h (by simp)

theorem err {e : ε} (h : P e) : Raises P (Outcome.err e : Outcome ε α) := by
  intro e' he
  rwa [← Outcome.err.inj he]

theorem throwIf {c : Prop} [Decidable c] {e : ε} (h : P e) : Raises P (throwIf c e) := by
  unfold Outcome.throwIf
  split
  · exact err h
  · exact ok ()

theorem bind {x : Outcome ε α} {f : α → Outcome ε β} (hx : Raises P x)
    (hf : ∀ a, Raises P (f a)) : Raises P (x >>= f) := by
  intro e he
  cases x with
  | ok a => exact hf a e he
  | err e' => exact hx e (congrArg Outcome.err (Outcome.err.inj he))
  | panic => exact absurd he (by simp)

end Raises

end Outcome

end Rust
