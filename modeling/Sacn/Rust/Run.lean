import Mathlib.Data.List.Forall2
import Mathlib.Tactic.Common

/-!
# Runs with their history

A system takes calls one after the other; each leaves a state and returns a result. A run is the
history of its calls, each with what it returned, and the state they lead to.

* `Run.invariant`, `Run.reaches`: what holds at the start and is kept by every step holds of every
  run.
* `Run.split`: a run up to one of its events; `Run.extend`: a run and then more calls.
* **`Run.refines`**: a system whose every call is a block of calls of another.
* `Since log p q`: some event of the history has `p`, and no later one has `q`.
* `since_snoc`: how one more event changes that.
-/

namespace Rust

variable {σ κ ο : Type}

/-- The runs of `step` from a state of `start`, by calls that `allowed` lets through in the state
they are made in. -/
inductive Run (step : σ → κ → ο × σ) (start : σ → Prop) (allowed : σ → κ → Prop) :
    List (κ × ο) → σ → Prop where
  | nil {s : σ} (h : start s) : Run step start allowed [] s
  | snoc {log : List (κ × ο)} {s : σ} (h : Run step start allowed log s) (c : κ)
      (hc : allowed s c) : Run step start allowed (log ++ [(c, (step s c).1)]) (step s c).2

namespace Run

variable {step : σ → κ → ο × σ} {start : σ → Prop} {allowed : σ → κ → Prop}

/-- **The rule for runs.** -/
theorem invariant {P : List (κ × ο) → σ → Prop} {log : List (κ × ο)} {s : σ}
    (h : Run step start allowed log s) (hstart : ∀ s, start s → P [] s)
    (hstep : ∀ log s c, allowed s c → P log s → P (log ++ [(c, (step s c).1)]) (step s c).2) :
    P log s := by
  induction h with
  | nil h => exact hstart _ h
  | snoc _ c hc ih => exact hstep _ _ c hc ih

/-- An invariant of the state alone. -/
theorem reaches {P : σ → Prop} {log : List (κ × ο)} {s : σ} (h : Run step start allowed log s)
    (hstart : ∀ s, start s → P s) (hstep : ∀ s c, allowed s c → P s → P (step s c).2) : P s := by
  induction h with
  | nil h => exact hstart _ h
  | snoc _ c hc ih => exact hstep _ c hc ih

/-- A run up to one of its events. -/
theorem split {pre post : List (κ × ο)} {e : κ × ο} {s : σ}
    (h : Run step start allowed (pre ++ e :: post) s) :
    ∃ s', Run step start allowed pre s' ∧ allowed s' e.1 ∧ e.2 = (step s' e.1).1 := by
  generalize hlog : pre ++ e :: post = log at h
  induction h generalizing post with
  | nil _ => exact absurd hlog (by simp)
  | @snoc log s h c hc ih =>
    rcases List.eq_nil_or_concat post with rfl | ⟨rest, y, rfl⟩
    · obtain ⟨rfl, he⟩ := List.append_inj' hlog rfl
      obtain rfl := List.singleton_inj.mp he
      exact ⟨s, h, hc, rfl⟩
    · refine @ih rest ?_
      rw [List.concat_eq_append, ← List.cons_append, ← List.append_assoc] at hlog
      exact (List.append_inj' hlog rfl).1

end Run

/-- The events of calls made one after the other, and the state they lead to. -/
def events (step : σ → κ → ο × σ) : σ → List κ → List (κ × ο) × σ
  | s, [] => ([], s)
  | s, c :: calls =>
    ((c, (step s c).1) :: (events step (step s c).2 calls).1, (events step (step s c).2 calls).2)

theorem events_append (step : σ → κ → ο × σ) (s : σ) (calls calls' : List κ) :
    events step s (calls ++ calls') =
      ((events step s calls).1 ++ (events step (events step s calls).2 calls').1,
        (events step (events step s calls).2 calls').2) := by
  induction calls generalizing s with
  | nil => rfl
  | cons c calls ih =>
    rw [List.cons_append, events, ih]
    rfl

/-- What each of the calls keeps. -/
theorem events_invariant {step : σ → κ → ο × σ} {P : σ → Prop} {calls : List κ} {s : σ}
    (hcall : ∀ c ∈ calls, ∀ s, P s → P (step s c).2) (hs : P s) : P (events step s calls).2 := by
  induction calls generalizing s with
  | nil => exact hs
  | cons c calls ih =>
    exact ih (fun d hd => hcall d (List.mem_cons_of_mem c hd)) (hcall c List.mem_cons_self s hs)

/-- What each of the calls does in the states that they keep. -/
theorem events_all {step : σ → κ → ο × σ} {P : σ → Prop} {Q : κ × ο → Prop} {calls : List κ}
    {s : σ} (hcall : ∀ c ∈ calls, ∀ s, P s → Q (c, (step s c).1) ∧ P (step s c).2) (hs : P s) :
    ∀ e ∈ (events step s calls).1, Q e := by
  induction calls generalizing s with
  | nil => exact fun e he => absurd he List.not_mem_nil
  | cons c calls ih =>
    obtain ⟨hfirst, hnext⟩ := hcall c List.mem_cons_self s hs
    intro e he
    rcases List.mem_cons.mp he with rfl | hrest
    · exact hfirst
    · exact ih (fun d hd => hcall d (List.mem_cons_of_mem c hd)) hnext e hrest

theorem events_calls (step : σ → κ → ο × σ) (s : σ) (calls : List κ) :
    (events step s calls).1.map Prod.fst = calls := by
  induction calls generalizing s with
  | nil => rfl
  | cons c calls ih => exact congrArg (c :: ·) (ih (step s c).2)

/-- A run, and then more calls. -/
theorem Run.extend {step : σ → κ → ο × σ} {start : σ → Prop} {allowed : σ → κ → Prop}
    {calls : List κ} {log : List (κ × ο)} {s : σ} (h : Run step start allowed log s)
    (hcalls : ∀ c ∈ calls, ∀ s, allowed s c) :
    Run step start allowed (log ++ (events step s calls).1) (events step s calls).2 := by
  induction calls generalizing log s with
  | nil => rwa [events, List.append_nil]
  | cons c calls ih =>
    have hnext := ih (h.snoc c (hcalls c List.mem_cons_self s))
      fun d hd => hcalls d (List.mem_cons_of_mem c hd)
    rwa [List.append_assoc, List.singleton_append] at hnext

/-- **Refinement**: where every call of a system is a block of calls of another on what `abs` makes
of its state, every run is a run of the other, block by block. `block` says what an event is taken
for, and `P` what is kept of a state and the blocks before it. -/
theorem Run.refines {τ κ' ο' : Type} {step : σ → κ → ο × σ} {step' : τ → κ' → ο' × τ}
    {start : σ → Prop} {start' : τ → Prop} {allowed : σ → κ → Prop} {allowed' : τ → κ' → Prop}
    (abs : σ → τ) (block : κ × ο → List (κ' × ο') → Prop) (P : σ → List (κ' × ο') → Prop)
    (hstart : ∀ s, start s → start' (abs s) ∧ P s [])
    (hstep : ∀ s c, allowed s c → ∃ calls, (∀ d ∈ calls, ∀ t, allowed' t d) ∧
      (events step' (abs s) calls).2 = abs (step s c).2 ∧
      block (c, (step s c).1) (events step' (abs s) calls).1 ∧
      ∀ log', P s log' → P (step s c).2 (log' ++ (events step' (abs s) calls).1))
    {log : List (κ × ο)} {s : σ} (h : Run step start allowed log s) :
    ∃ blocks, Run step' start' allowed' blocks.flatten (abs s) ∧ List.Forall₂ block log blocks ∧
      P s blocks.flatten := by
  induction h with
  | nil h => exact ⟨[], .nil (hstart _ h).1, .nil, (hstart _ h).2⟩
  | @snoc log s _ c hc ih =>
    obtain ⟨blocks, hrun, hblocks, hkept⟩ := ih
    obtain ⟨calls, hcalls, hreach, hblock, hkeep⟩ := hstep _ c hc
    refine ⟨blocks ++ [(events step' (abs s) calls).1], ?_, ?_, ?_⟩
    · rw [List.flatten_concat, ← hreach]
      exact hrun.extend hcalls
    · exact List.rel_append hblocks (.cons hblock .nil)
    · rw [List.flatten_concat]
      exact hkeep _ hkept

/-! ## Since -/

/-- Some event of the history has `p`, and no later one has `q`. -/
def Since {ε : Type} (log : List ε) (p q : ε → Prop) : Prop :=
  ∃ pre e post, log = pre ++ e :: post ∧ p e ∧ ∀ x ∈ post, ¬ q x

theorem since_exists {ε τ : Type} {log : List ε} {p : τ → ε → Prop} {q : ε → Prop} :
    Since log (fun e => ∃ t, p t e) q ↔ ∃ t, Since log (p t) q := by
  constructor
  · rintro ⟨pre, e, post, heq, ⟨t, hp⟩, hq⟩
    exact ⟨t, pre, e, post, heq, hp, hq⟩
  · rintro ⟨t, pre, e, post, heq, hp, hq⟩
    exact ⟨pre, e, post, heq, ⟨t, hp⟩, hq⟩

theorem since_snoc {ε : Type} {log : List ε} {p q : ε → Prop} {e : ε} :
    Since (log ++ [e]) p q ↔ p e ∨ (Since log p q ∧ ¬ q e) := by
  constructor
  · rintro ⟨pre, x, post, heq, hp, hq⟩
    rcases List.eq_nil_or_concat post with rfl | ⟨rest, y, rfl⟩
    · obtain ⟨-, he⟩ := List.append_inj' heq rfl
      rw [List.singleton_inj.mp he]
      exact .inl hp
    · have hsplit : log ++ [e] = (pre ++ x :: rest) ++ [y] := by
        rw [heq, List.concat_eq_append, List.append_assoc, List.cons_append]
      obtain ⟨hlog, he⟩ := List.append_inj' hsplit rfl
      refine .inr ⟨⟨pre, x, rest, hlog, hp, fun z hz => hq z (by simp [hz])⟩, ?_⟩
      rw [List.singleton_inj.mp he]
      exact hq y (by simp)
  · rintro (hp | ⟨⟨pre, x, post, rfl, hp, hq⟩, he⟩)
    · exact ⟨log, e, [], rfl, hp, by simp⟩
    · refine ⟨pre, x, post ++ [e], by simp, hp, fun z hz => ?_⟩
      rcases List.mem_append.mp hz with hz | hz
      · exact hq z hz
      · rw [List.mem_singleton.mp hz]
        exact he

end Rust
