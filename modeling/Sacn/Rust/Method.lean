import Sacn.Rust.Outcome

/-!
# Methods on `&mut self`

A method that takes `&mut self` and returns `Result` leaves a state behind however it ends: what it
wrote before an early return stays written. `Method σ ε α` is how the call ends together with the
state it leaves, so the state on an error is part of the model.

* `run_bind` and its cases `run_bind_of_ok`, `run_bind_of_err`, `run_bind_of_panic`: a sequence
  stops at the first step that does not end with `Ok`, in the state that step left.
* `run_bind_eq_ok`: how a sequence can succeed.
* `Keeps`, `Preserves`, `Raises`: frame conditions, invariants and the errors that can occur, closed
  under sequencing.
* `Ends`: how a method ends from one state, on both exits, and without a panic.
-/

namespace Rust

/-- A method on `&mut σ`: from the state before to how the call ends and the state after. -/
structure Method (σ ε α : Type) where
  run : σ → Outcome ε α × σ

namespace Method

variable {σ τ ε α β : Type}

instance : Monad (Method σ ε) where
  pure a := ⟨fun s => (.ok a, s)⟩
  bind x f := ⟨fun s =>
    match x.run s with
    | (.ok a, s') => (f a).run s'
    | (.err e, s') => (.err e, s')
    | (.panic, s') => (.panic, s')⟩

/-- The whole state. -/
def get : Method σ ε σ := ⟨fun s => (.ok s, s)⟩

/-- Overwrites the whole state. -/
def set (s' : σ) : Method σ ε Unit := ⟨fun _ => (.ok (), s')⟩

/-- Updates the state. -/
def modify (f : σ → σ) : Method σ ε Unit := ⟨fun s => (.ok (), f s)⟩

/-- `return Err(e)`. -/
def throw (e : ε) : Method σ ε α := ⟨fun s => (.err e, s)⟩

/-- `panic!()`. -/
def panic : Method σ ε α := ⟨fun s => (.panic, s)⟩

/-- `if c { return Err(e) }`. -/
def throwIf (c : Prop) [Decidable c] (e : ε) : Method σ ε Unit :=
  if c then throw e else pure ()

/-- A call that does not touch the state. -/
def lift (x : Outcome ε α) : Method σ ε α := ⟨fun s => (x, s)⟩

/-- A call whose error is mapped, as `map_err` does. -/
def mapErr (f : ε → ε) (x : Method σ ε α) : Method σ ε α :=
  ⟨fun s => ((x.run s).1.mapErr f, (x.run s).2)⟩

/-- A method of a field of the state. -/
def onField (field : σ → τ) (update : σ → τ → σ) (x : Method τ ε α) : Method σ ε α :=
  ⟨fun s => ((x.run (field s)).1, update s (x.run (field s)).2)⟩

@[simp] theorem run_pure (a : α) (s : σ) : (pure a : Method σ ε α).run s = (.ok a, s) := rfl

@[simp] theorem run_get (s : σ) : (get : Method σ ε σ).run s = (.ok s, s) := rfl

@[simp] theorem run_set (s s' : σ) : (set s' : Method σ ε Unit).run s = (.ok (), s') := rfl

@[simp] theorem run_modify (f : σ → σ) (s : σ) :
    (modify f : Method σ ε Unit).run s = (.ok (), f s) := rfl

@[simp] theorem run_throw (e : ε) (s : σ) : (throw e : Method σ ε α).run s = (.err e, s) := rfl

@[simp] theorem run_panic (s : σ) : (panic : Method σ ε α).run s = (.panic, s) := rfl

@[simp] theorem run_lift (x : Outcome ε α) (s : σ) : (lift x : Method σ ε α).run s = (x, s) := rfl

theorem run_throwIf_pos {c : Prop} [Decidable c] (h : c) (e : ε) (s : σ) :
    (throwIf c e).run s = (.err e, s) := by
  unfold throwIf
  rw [if_pos h, run_throw]

theorem run_throwIf_neg {c : Prop} [Decidable c] (h : ¬ c) (e : ε) (s : σ) :
    (throwIf c e).run s = (.ok (), s) := by
  unfold throwIf
  rw [if_neg h, run_pure]

theorem run_mapErr (f : ε → ε) (x : Method σ ε α) (s : σ) :
    (mapErr f x).run s = ((x.run s).1.mapErr f, (x.run s).2) := rfl

theorem run_onField (field : σ → τ) (update : σ → τ → σ) (x : Method τ ε α) (s : σ) :
    (onField field update x).run s = ((x.run (field s)).1, update s (x.run (field s)).2) := rfl

theorem run_bind (x : Method σ ε α) (f : α → Method σ ε β) (s : σ) :
    (x >>= f).run s = match x.run s with
      | (.ok a, s') => (f a).run s'
      | (.err e, s') => (.err e, s')
      | (.panic, s') => (.panic, s') := rfl

theorem run_bind_of_ok {x : Method σ ε α} {s s' : σ} {a : α} (h : x.run s = (.ok a, s'))
    (f : α → Method σ ε β) : (x >>= f).run s = (f a).run s' := by
  rw [run_bind, h]

theorem run_bind_of_err {x : Method σ ε α} {s s' : σ} {e : ε} (h : x.run s = (.err e, s'))
    (f : α → Method σ ε β) : (x >>= f).run s = (.err e, s') := by
  rw [run_bind, h]

/-- The error of the first step is the error of the sequence. -/
theorem run_bind_fst_err {x : Method σ ε α} {s : σ} {e : ε} (h : (x.run s).1 = .err e)
    (f : α → Method σ ε β) : ((x >>= f).run s).1 = .err e := by
  have hx : x.run s = (.err e, (x.run s).2) := Prod.ext h rfl
  rw [run_bind_of_err hx]

/-! ## How a method can succeed -/

/-- A sequence succeeds iff each step does, from the state the step before left. -/
@[simp] theorem run_bind_eq_ok {x : Method σ ε α} {f : α → Method σ ε β} {s s'' : σ} {b : β} :
    (x >>= f).run s = (.ok b, s'') ↔ ∃ a s', x.run s = (.ok a, s') ∧ (f a).run s' = (.ok b, s'') := by
  rw [run_bind]
  rcases hx : x.run s with ⟨_ | _ | _, s'⟩
  · constructor
    · exact fun h => ⟨_, s', rfl, h⟩
    · rintro ⟨a, t, h, hf⟩
      cases h
      exact hf
  all_goals simp

@[simp] theorem run_throwIf_eq_ok {c : Prop} [Decidable c] {e : ε} {s s' : σ} {a : Unit} :
    (throwIf c e).run s = (.ok a, s') ↔ ¬ c ∧ s' = s := by
  unfold throwIf
  split <;> simp [*, eq_comm]

/-- A loop of checks succeeds iff each check does, and changes nothing. -/
theorem run_forM_lift_eq_ok {f : α → Outcome ε Unit} {as : List α} {s s' : σ} {u : Unit} :
    (as.forM fun a => (lift (f a) : Method σ ε Unit)).run s = (.ok u, s') ↔
      (∀ a ∈ as, f a = .ok ()) ∧ s' = s := by
  induction as with
  | nil => simp [eq_comm]
  | cons a as ih =>
    rw [List.forall_mem_cons]
    refine run_bind_eq_ok.trans ?_
    constructor
    · rintro ⟨_, t, ha, has⟩
      obtain ⟨hf, rfl⟩ := Prod.mk.inj ha
      exact ⟨⟨hf, (ih.mp has).1⟩, (ih.mp has).2⟩
    · rintro ⟨⟨ha, has⟩, hs⟩
      exact ⟨(), s, by rw [run_lift, ha], ih.mpr ⟨has, hs⟩⟩

/-! ## What a method leaves alone -/

/-- The method does not change what `f` reads, however it ends. -/
def Keeps (f : σ → τ) (x : Method σ ε α) : Prop := ∀ s, f (x.run s).2 = f s

namespace Keeps

variable {f : σ → τ}

theorem pure (a : α) : Keeps f (Pure.pure a : Method σ ε α) := fun _ => rfl

theorem get : Keeps f (Method.get : Method σ ε σ) := fun _ => rfl

theorem throw (e : ε) : Keeps f (Method.throw e : Method σ ε α) := fun _ => rfl

theorem panic : Keeps f (Method.panic : Method σ ε α) := fun _ => rfl

theorem lift (x : Outcome ε α) : Keeps f (Method.lift x : Method σ ε α) := fun _ => rfl

theorem throwIf (c : Prop) [Decidable c] (e : ε) :
    Keeps f (Method.throwIf c e : Method σ ε Unit) := by
  intro s
  unfold Method.throwIf
  split <;> rfl

theorem modify {g : σ → σ} (h : ∀ s, f (g s) = f s) :
    Keeps f (Method.modify g : Method σ ε Unit) := h

theorem bind {x : Method σ ε α} {g : α → Method σ ε β} (hx : Keeps f x)
    (hg : ∀ a, Keeps f (g a)) : Keeps f (x >>= g) := by
  intro s
  have hs := hx s
  rw [run_bind]
  rcases hr : x.run s with ⟨_ | _ | _, s'⟩
  · rw [hr] at hs
    exact (hg _ s').trans hs
  all_goals
    rw [hr] at hs
    exact hs

theorem forM {x : α → Method σ ε Unit} {as : List α} (h : ∀ a ∈ as, Keeps f (x a)) :
    Keeps f (as.forM x) := by
  induction as with
  | nil => exact pure ()
  | cons a as ih =>
    exact bind (h a List.mem_cons_self) fun _ => ih fun b hb => h b (List.mem_cons_of_mem a hb)

theorem forM_option {x : α → Method σ ε Unit} {o : Option α} (h : ∀ a ∈ o, Keeps f (x a)) :
    Keeps f (o.forM x) := by
  cases o with
  | none => exact pure ()
  | some a => exact h a rfl

theorem onField {ρ : Type} {field : σ → ρ} {update : σ → ρ → σ} {x : Method ρ ε α}
    (h : ∀ s r, f (update s r) = f s) : Keeps f (Method.onField field update x) :=
  fun s => h s _

/-- What the rest of a method leaves alone is what the first step made it. -/
theorem run_bind {x : Method σ ε α} {g : α → Method σ ε β} (hg : ∀ a, Keeps f (g a)) (s : σ) :
    f ((x >>= g).run s).2 = f (x.run s).2 := by
  rw [Method.run_bind]
  rcases x.run s with ⟨_ | _ | _, s'⟩
  · exact hg _ s'
  · rfl
  · rfl

end Keeps

/-! ## Invariants -/

/-- The method keeps the invariant, however it ends. -/
def Preserves (P : σ → Prop) (x : Method σ ε α) : Prop := ∀ s, P s → P (x.run s).2

namespace Preserves

variable {P : σ → Prop}

theorem of_keeps {f : σ → τ} {x : Method σ ε α} (h : Keeps f x)
    (hP : ∀ s s', f s' = f s → P s → P s') : Preserves P x := fun s => hP s _ (h s)

theorem pure (a : α) : Preserves P (Pure.pure a : Method σ ε α) := fun _ h => h

theorem lift (x : Outcome ε α) : Preserves P (Method.lift x : Method σ ε α) := fun _ h => h

theorem throwIf (c : Prop) [Decidable c] (e : ε) :
    Preserves P (Method.throwIf c e : Method σ ε Unit) := by
  intro s hs
  unfold Method.throwIf
  split <;> exact hs

theorem modify {g : σ → σ} (h : ∀ s, P s → P (g s)) :
    Preserves P (Method.modify g : Method σ ε Unit) := h

theorem bind {x : Method σ ε α} {g : α → Method σ ε β} (hx : Preserves P x)
    (hg : ∀ a, Preserves P (g a)) : Preserves P (x >>= g) := by
  intro s hs
  have hs' := hx s hs
  rw [run_bind]
  rcases hr : x.run s with ⟨_ | _ | _, s'⟩
  · rw [hr] at hs'
    exact hg _ s' hs'
  all_goals
    rw [hr] at hs'
    exact hs'

theorem forM {x : α → Method σ ε Unit} {as : List α} (h : ∀ a ∈ as, Preserves P (x a)) :
    Preserves P (as.forM x) := by
  induction as with
  | nil => exact pure ()
  | cons a as ih =>
    exact bind (h a List.mem_cons_self) fun _ => ih fun b hb => h b (List.mem_cons_of_mem a hb)

theorem forM_option {x : α → Method σ ε Unit} {o : Option α} (h : ∀ a ∈ o, Preserves P (x a)) :
    Preserves P (o.forM x) := by
  cases o with
  | none => exact pure ()
  | some a => exact h a rfl

/-- The rest of a method may use that the state it read is the state it runs in. -/
theorem get_bind {g : σ → Method σ ε β} (h : ∀ s, P s → P ((g s).run s).2) :
    Preserves P (Method.get >>= g) := h

end Preserves

/-! ## Errors -/

/-- From a state with `I` the method ends with no error but those with `P`. -/
def Raises (I : σ → Prop) (P : ε → Prop) (x : Method σ ε α) : Prop :=
  ∀ s, I s → ∀ e, (x.run s).1 = .err e → P e

namespace Raises

variable {I : σ → Prop} {P : ε → Prop}

theorem pure (a : α) : Raises I P (Pure.pure a : Method σ ε α) :=
  fun _ _ _ h => absurd h (by simp)

theorem get : Raises I P (Method.get : Method σ ε σ) := fun _ _ _ h => absurd h (by simp)

theorem modify (g : σ → σ) : Raises I P (Method.modify g : Method σ ε Unit) :=
  fun _ _ _ h => absurd h (by simp)

theorem panic : Raises I P (Method.panic : Method σ ε α) := fun _ _ _ h => absurd h (by simp)

theorem lift {x : Outcome ε α} (h : ∀ e, x = .err e → P e) : Raises I P (Method.lift x) :=
  fun _ _ e he => h e he

theorem bind {x : Method σ ε α} {g : α → Method σ ε β} (hx : Raises I P x) (hI : Preserves I x)
    (hg : ∀ a, Raises I P (g a)) : Raises I P (x >>= g) := by
  intro s hs e he
  have hs' := hI s hs
  rw [run_bind] at he
  rcases hr : x.run s with ⟨a | e' | _, s'⟩
  · rw [hr] at he hs'
    exact hg a s' hs' e he
  · rw [hr] at he
    exact hx s hs e ((congrArg Prod.fst hr).trans (congrArg Outcome.err (Outcome.err.inj he)))
  · rw [hr] at he
    exact absurd he (by simp)

theorem forM {x : α → Method σ ε Unit} {as : List α} (h : ∀ a ∈ as, Raises I P (x a))
    (hI : ∀ a ∈ as, Preserves I (x a)) : Raises I P (as.forM x) := by
  induction as with
  | nil => exact pure ()
  | cons a as ih =>
    exact bind (h a List.mem_cons_self) (hI a List.mem_cons_self) fun _ =>
      ih (fun b hb => h b (List.mem_cons_of_mem a hb)) fun b hb => hI b (List.mem_cons_of_mem a hb)

theorem onField {ρ : Type} {field : σ → ρ} {update : σ → ρ → σ} {x : Method ρ ε α}
    (h : Raises (fun _ => True) P x) : Raises I P (Method.onField field update x) :=
  fun s _ e he => h (field s) trivial e he

end Raises

/-! ## How a method ends -/

/-- From `s` the method ends with a value and a state that meet `Q`, or with an error and a state
that meet `E`. It does not panic. -/
def Ends (x : Method σ ε α) (s : σ) (Q : α → σ → Prop) (E : ε → σ → Prop) : Prop :=
  match x.run s with
  | (.ok a, s') => Q a s'
  | (.err e, s') => E e s'
  | (.panic, _) => False

namespace Ends

variable {s : σ} {Q : β → σ → Prop} {E : ε → σ → Prop}

theorem of_err {x : Method σ ε β} {e : ε} {s' : σ} (h : x.run s = (.err e, s')) (hE : E e s') :
    Ends x s Q E := by
  unfold Ends
  rw [h]
  exact hE

theorem imp {x : Method σ ε β} {R : β → σ → Prop} (h : Ends x s R E)
    (hQ : ∀ b s', R b s' → Q b s') : Ends x s Q E := by
  unfold Ends at h ⊢
  rcases hr : x.run s with ⟨b | e | _, s'⟩
  · rw [hr] at h
    exact hQ b s' h
  · rw [hr] at h
    exact h
  · rw [hr] at h
    exact h

theorem bind {x : Method σ ε α} {g : α → Method σ ε β} {R : α → σ → Prop} (hx : Ends x s R E)
    (hg : ∀ a s', R a s' → Ends (g a) s' Q E) : Ends (x >>= g) s Q E := by
  unfold Ends at hx ⊢
  rw [run_bind]
  rcases hr : x.run s with ⟨a | e | _, s'⟩
  · rw [hr] at hx
    exact hg a s' hx
  · rw [hr] at hx
    exact hx
  · rw [hr] at hx
    exact hx

theorem mono {x : Method σ ε β} {R : β → σ → Prop} {F : ε → σ → Prop} (h : Ends x s R F)
    (hQ : ∀ b s', R b s' → Q b s') (hE : ∀ e s', F e s' → E e s') : Ends x s Q E := by
  unfold Ends at h ⊢
  rcases hr : x.run s with ⟨b | e | _, s'⟩
  · rw [hr] at h
    exact hQ b s' h
  · rw [hr] at h
    exact hE e s' h
  · rw [hr] at h
    exact h

/-- A method of a field ends as it does on the field. -/
theorem onField {ρ : Type} {field : σ → ρ} {update : σ → ρ → σ} {x : Method ρ ε β}
    {R : β → ρ → Prop} {F : ε → ρ → Prop} (h : Ends x (field s) R F) :
    Ends (Method.onField field update x) s (fun b s' => ∃ t, s' = update s t ∧ R b t)
      fun e s' => ∃ t, s' = update s t ∧ F e t := by
  unfold Ends at h ⊢
  rw [run_onField]
  rcases hr : x.run (field s) with ⟨b | e | _, t⟩
  · rw [hr] at h
    exact ⟨t, rfl, h⟩
  · rw [hr] at h
    exact ⟨t, rfl, h⟩
  · rw [hr] at h
    exact h

/-- A method that ends does not panic. -/
theorem ne_panic {x : Method σ ε β} (h : Ends x s Q E) : (x.run s).1 ≠ .panic := by
  unfold Ends at h
  rcases hr : x.run s with ⟨b | e | _, s'⟩
  · exact fun hp => absurd hp (by simp)
  · exact fun hp => absurd hp (by simp)
  · rw [hr] at h
    exact h.elim

theorem returns {x : Method σ ε β} {b : β} {s' : σ} (h : x.run s = (.ok b, s')) (hQ : Q b s') :
    Ends x s Q E := by
  unfold Ends
  rw [h]
  exact hQ

theorem get_bind {g : σ → Method σ ε β} (h : Ends (g s) s Q E) : Ends (Method.get >>= g) s Q E := h

theorem lift_bind {y : Outcome ε α} {g : α → Method σ ε β} (hpanic : y ≠ .panic)
    (herr : ∀ e, y = .err e → E e s) (hok : ∀ a, y = .ok a → Ends (g a) s Q E) :
    Ends (Method.lift y >>= g) s Q E := by
  cases y with
  | ok a => exact hok a rfl
  | err e => exact herr e rfl
  | panic => exact absurd rfl hpanic

theorem lift_ok_bind {y : Outcome ε α} {a : α} {g : α → Method σ ε β} (hy : y = .ok a)
    (h : Ends (g a) s Q E) : Ends (Method.lift y >>= g) s Q E := by
  rw [hy]
  exact h

theorem throwIf_bind {c : Prop} [Decidable c] {e : ε} {g : Unit → Method σ ε β} (herr : c → E e s)
    (hok : ¬ c → Ends (g ()) s Q E) : Ends (Method.throwIf c e >>= g) s Q E := by
  by_cases hc : c
  · exact .of_err (run_bind_of_err (run_throwIf_pos hc e s) g) (herr hc)
  · unfold Ends
    rw [run_bind_of_ok (run_throwIf_neg hc e s)]
    exact hok hc

/-- A loop. `P` holds before each step, of the elements still to come. -/
theorem forM {f : α → Method σ ε Unit} {P : List α → σ → Prop}
    (hstep : ∀ a as s, P (a :: as) s → Ends (f a) s (fun _ => P as) E) {as : List α} :
    ∀ {s : σ}, P as s → Ends (as.forM f) s (fun _ => P []) E := by
  induction as with
  | nil => exact fun h => h
  | cons a as ih => exact fun h => bind (hstep a as _ h) fun _ _ => ih

/-- A loop of checks, then the rest. -/
theorem forM_lift_bind {f : α → Outcome ε Unit} {g : Unit → Method σ ε β} {as : List α}
    (hpanic : ∀ a ∈ as, f a ≠ .panic) (herr : ∀ a ∈ as, ∀ e, f a = .err e → E e s)
    (hok : (∀ a ∈ as, f a = .ok ()) → Ends (g ()) s Q E) :
    Ends (as.forM (fun a => Method.lift (f a)) >>= g) s Q E := by
  refine bind (R := fun _ s' => (∀ a ∈ as, f a = .ok ()) ∧ s' = s) ?_ ?_
  · clear hok
    induction as with
    | nil => exact ⟨fun _ h => absurd h List.not_mem_nil, rfl⟩
    | cons a as ih =>
      have hrest := ih (fun b hb => hpanic b (List.mem_cons_of_mem a hb))
        fun b hb => herr b (List.mem_cons_of_mem a hb)
      refine lift_bind (hpanic a List.mem_cons_self) (herr a List.mem_cons_self) fun _ ha => ?_
      refine hrest.imp fun _ s' h => ⟨List.forall_mem_cons.mpr ⟨ha, h.1⟩, h.2⟩
  · rintro _ _ ⟨hall, rfl⟩
    exact hok hall

end Ends

end Method

end Rust
