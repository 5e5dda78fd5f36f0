import Sacn.Receive.Results

/-!
# The deadline of `recv` (`receive.rs`)

How long a `recv` takes when its socket is silent. No wait is longer than the time after which a
stream is lost, so that a call with a longer timeout makes several; the waits together last as long
as the timeout, whatever it is.

* `recvBody_idle`, `recvBody_late`: a turn of a receiver that announces no timeouts.
* **`recv_times_out`**: such a receiver returns at its deadline, after a number of waits that the
  timeout bounds.
* **`recv_without_deadline`**: it waits on without a timeout, or with one that the clock cannot count
  to.
-/

namespace Sacn

open Rust Rust.Outcome SacnReceiver

/-- The wait of the socket is over, and nothing was there. -/
def SocketRead.Idle (read : SocketRead) : Prop :=
  ∃ kind msg, read = .failed kind msg ∧ (SacnError.io kind msg).isTimeout = true

namespace Listener

/-- The socket has nothing to read. -/
def Silent (l : Listener) : Prop := ∀ n, l.taken ≤ n → (l.reads n).Idle

/-- A turn starts when the wait of the turn before is over, or at most `slack` later. -/
def Punctual (deadline : Option Nat) (slack : Nat) (turns : List LoopTurn) : Prop :=
  turns.IsChain fun t t' => t.clock + actualTimeout deadline t.clock ≤ t'.clock ∧
    t'.clock ≤ t.clock + actualTimeout deadline t.clock + slack

/-- How many waits it takes to wait for so long. -/
def waitsFor (time : Nat) : Nat :=
  (time + (e131NetworkDataLossTimeout - 1)) / e131NetworkDataLossTimeout

/-! ## One turn -/

section Turns

variable {deadline : Option Nat} {t : LoopTurn} {l : Listener}

/-- **A turn in which nothing is read** goes on. -/
theorem recvBody_idle {r : SacnReceiver} (hchecks : (checks t.turn).run l.receiver = (.ok (), r))
    (hset : t.timeoutSet = none) (hidle : (l.reads l.taken).Idle)
    (hlive : ¬ Expired deadline t.clock) :
    (recvBody deadline t).run l = (.ok none, afterRead deadline t l r) := by
  obtain ⟨kind, msg, hread, hkind⟩ := hidle
  rw [recvBody_reads ⟨hchecks, hlive, hset⟩, hread]
  unfold handleRead SocketRead.packet
  simp only
  rw [if_pos hkind]
  rfl

/-- **A turn past the deadline** ends the call. -/
theorem recvBody_late (hquiet : l.receiver.announceTimeout = false)
    (hlate : Expired deadline t.clock) :
    (recvBody deadline t).run l =
      (.err noDataAvailable, l.withReceiver (l.receiver.swept t.turn)) := by
  unfold recvBody
  rw [Method.run_bind, run_onReceiver, checks_swept hquiet]
  exact Method.run_bind_of_err (Method.run_throwIf_pos (any_expired.mpr hlate) _ _) _

end Turns

theorem Silent.afterRead {l : Listener} (h : l.Silent) (deadline : Option Nat) (t : LoopTurn)
    (r : SacnReceiver) : (Listener.afterRead deadline t l r).Silent :=
  fun n hn => h n (Nat.le_of_succ_le hn)

theorem not_expired_none (clock : Nat) : ¬ Expired none clock := by
  rintro ⟨_, h, -⟩
  exact absurd h (by simp)

/-! ## A call -/

/-- One wait fewer once a wait is over. -/
theorem waitsFor_rest {dl c clock : Nat} (hc : c ≤ clock) (hlive : clock < dl) :
    waitsFor (dl - (clock + actualTimeout (some dl) clock)) + 1 ≤ waitsFor (dl - c) := by
  unfold waitsFor actualTimeout
  have htime : e131NetworkDataLossTimeout = 2500000000 := rfl
  simp only [htime]
  rcases le_total (dl - clock) 2500000000 with hle | hle
  · rw [min_eq_left hle]
    omega
  · rw [min_eq_right hle]
    omega

/-- **The turns of a silent socket**, up to the deadline: `c` is the time from which the first turn
may start. -/
theorem repeatBody_silent {dl slack : Nat} {turns : List LoopTurn}
    (hpunctual : Punctual (some dl) slack turns) (hset : ∀ t ∈ turns, t.timeoutSet = none) :
    ∀ {l : Listener} {c : Nat}, l.receiver.announceTimeout = false → l.Silent →
      (∀ t ∈ turns.head?, c ≤ t.clock ∧ t.clock ≤ c + slack) → c ≤ dl →
      waitsFor (dl - c) < turns.length →
      ∃ pre t post, turns = pre ++ t :: post ∧ pre.length ≤ waitsFor (dl - c) ∧ dl ≤ t.clock ∧
        t.clock ≤ dl + slack ∧
        (repeatBody (recvBody (some dl)) turns l).1 = some (.err noDataAvailable) ∧
        (repeatBody (recvBody (some dl)) turns l).2.taken = l.taken + pre.length ∧
        ∃ waits, (repeatBody (recvBody (some dl)) turns l).2.waits = l.waits ++ waits ∧
          ∀ wait ∈ waits, 0 < wait ∧ wait ≤ e131NetworkDataLossTimeout := by
  induction turns with
  | nil => exact fun _ _ _ _ hlen => absurd hlen (Nat.not_lt_zero _)
  | cons t turns ih =>
    intro l c hquiet hsilent hfirst hc hlen
    obtain ⟨hstart, hstop⟩ := hfirst t rfl
    by_cases hlate : dl ≤ t.clock
    · have hexpired : Expired (some dl) t.clock := ⟨dl, rfl, hlate⟩
      have hrun := recvBody_late hquiet hexpired
      refine ⟨[], t, turns, rfl, Nat.zero_le _, hlate, by omega, ?_, ?_, [], ?_, by simp⟩
      · rw [repeatBody, hrun]
        rfl
      · rw [repeatBody, hrun]
        rfl
      · rw [repeatBody, hrun]
        exact (List.append_nil _).symm
    · have hlive : ¬ Expired (some dl) t.clock := by
        rintro ⟨_, ⟨⟩, h⟩
        exact hlate h
      have hrun := recvBody_idle (checks_swept hquiet t.turn) (hset t List.mem_cons_self)
        (hsilent l.taken le_rfl) hlive
      have hrest := waitsFor_rest hstart (Nat.lt_of_not_le hlate)
      obtain ⟨pre, t', post, rfl, hpre, hfrom, hto, hended, htaken, waits, hwaits, hbounds⟩ :=
        ih (List.IsChain.tail hpunctual) (fun t' ht' => hset t' (List.mem_cons_of_mem t ht'))
          (l := afterRead (some dl) t l (l.receiver.swept t.turn)) hquiet (hsilent.afterRead _ t _)
          (c := t.clock + actualTimeout (some dl) t.clock)
          (fun t' ht' => hpunctual.rel_head? ht') (add_actualTimeout_le hlive)
          (by
            rw [List.length_cons] at hlen
            omega)
      refine ⟨t :: pre, t', post, rfl, ?_, hfrom, hto, ?_, ?_,
        actualTimeout (some dl) t.clock :: waits, ?_, List.forall_mem_cons.mpr
          ⟨⟨actualTimeout_pos hlive, actualTimeout_le (some dl) t.clock⟩, hbounds⟩⟩
      · rw [List.length_cons]
        omega
      · rw [repeatBody, hrun]
        exact hended
      · rw [repeatBody, hrun]
        refine htaken.trans ?_
        show l.taken + 1 + pre.length = l.taken + (pre.length + 1)
        omega
      · rw [repeatBody, hrun]
        exact hwaits.trans (List.append_cons _ _ _).symm

/-- **The turns of a silent socket** without a deadline. -/
theorem repeatBody_waits {turns : List LoopTurn} (hset : ∀ t ∈ turns, t.timeoutSet = none) :
    ∀ {l : Listener}, l.receiver.announceTimeout = false → l.Silent →
      (repeatBody (recvBody none) turns l).1 = none ∧
        (repeatBody (recvBody none) turns l).2.waits =
          l.waits ++ List.replicate turns.length e131NetworkDataLossTimeout := by
  induction turns with
  | nil => exact fun _ _ => ⟨rfl, (List.append_nil _).symm⟩
  | cons t turns ih =>
    intro l hquiet hsilent
    have hrun := recvBody_idle (checks_swept hquiet t.turn) (hset t List.mem_cons_self)
      (hsilent l.taken le_rfl) (not_expired_none t.clock)
    obtain ⟨hgoing, hwaits⟩ := ih (fun t' ht' => hset t' (List.mem_cons_of_mem t ht'))
      (l := afterRead none t l (l.receiver.swept t.turn)) hquiet (hsilent.afterRead none t _)
    rw [repeatBody, hrun]
    refine ⟨hgoing, hwaits.trans ?_⟩
    rw [List.length_cons, List.replicate_succ]
    exact (List.append_cons _ _ _).symm

end Listener

section Calls

variable {l : Listener} {start slack : Nat} {zero : Turn} {turns : List LoopTurn}

/-- **A `recv` on a silent socket returns at its deadline** if the receiver does not announce timeouts
and the clock can count to it: not before it, and no later than the last wait ends late, after at
most as many waits as the timeout needs, none of them zero and none longer than a stream may be
silent. -/
theorem recv_times_out {timeout : Nat} (htimeout : 0 < timeout)
    (hfits : start + timeout < instantLimit) (hquiet : l.receiver.announceTimeout = false)
    (hsilent : l.Silent) (hset : ∀ t ∈ turns, t.timeoutSet = none)
    (hpunctual : Listener.Punctual (some (start + timeout)) slack turns)
    (hstart : ∀ t ∈ turns.head?, start ≤ t.clock ∧ t.clock ≤ start + slack)
    (hturns : Listener.waitsFor timeout < turns.length) :
    ∃ pre t post, turns = pre ++ t :: post ∧ pre.length ≤ Listener.waitsFor timeout ∧
      start + timeout ≤ t.clock ∧ t.clock ≤ start + timeout + slack ∧
      (l.recv (some timeout) start zero turns).1 = some (.err noDataAvailable) ∧
      (l.recv (some timeout) start zero turns).2.taken = l.taken + pre.length ∧
      ∃ waits, (l.recv (some timeout) start zero turns).2.waits = l.waits ++ waits ∧
        ∀ wait ∈ waits, 0 < wait ∧ wait ≤ e131NetworkDataLossTimeout := by
  have hdeadline : (some timeout).bind (checkedAdd start) = some (start + timeout) := if_pos hfits
  have hsilence := Listener.repeatBody_silent hpunctual hset hquiet hsilent hstart
    (Nat.le_add_right start timeout) (by rwa [Nat.add_sub_cancel_left])
  rw [Nat.add_sub_cancel_left] at hsilence
  unfold Listener.recv
  rw [if_neg fun hguard => absurd hguard.2.1 (by simp),
    if_neg fun hzero => htimeout.ne' (Option.some.inj hzero), hdeadline]
  exact hsilence

/-- **A `recv` without a deadline waits on** at a silent socket if the receiver does not announce
timeouts, for as many turns as there are, and never longer at a time than the sources have to be
looked at. A timeout past what the clock counts to is none. -/
theorem recv_without_deadline {timeout : Option Nat} (htimeout : timeout ≠ some 0)
    (hnone : timeout.bind (checkedAdd start) = none)
    (hguard : l.receiver.universes ≠ [e131DiscoveryUniverse])
    (hquiet : l.receiver.announceTimeout = false) (hsilent : l.Silent)
    (hset : ∀ t ∈ turns, t.timeoutSet = none) :
    (l.recv timeout start zero turns).1 = none ∧
      (l.recv timeout start zero turns).2.waits =
        l.waits ++ List.replicate turns.length e131NetworkDataLossTimeout := by
  unfold Listener.recv
  rw [if_neg fun h => hguard h.1, if_neg htimeout, hnone]
  exact Listener.repeatBody_waits hset hquiet hsilent

end Calls

/-! ## A silent socket -/

/-- It listens to universe 7, and every read of its socket times out. -/
def silentListener : Listener :=
  { namedListener with reads := fun _ => .failed .wouldBlock "" }

theorem silentListener_silent : silentListener.Silent := fun _ _ => ⟨.wouldBlock, "", rfl, rfl⟩

/-- The turns of a `recv` for three seconds. -/
def silentTurns : List LoopTurn :=
  [{ idleLoopTurn with clock := 0 }, { idleLoopTurn with clock := 2500000000 },
    { idleLoopTurn with clock := 3000000000 }]

theorem silentTurns_set : ∀ t ∈ silentTurns, t.timeoutSet = none := by
  simp [silentTurns, idleLoopTurn]

theorem silentListener_times_out : ∃ pre t post, silentTurns = pre ++ t :: post ∧
    pre.length ≤ Listener.waitsFor 3000000000 ∧ 0 + 3000000000 ≤ t.clock ∧
    t.clock ≤ 0 + 3000000000 + 0 ∧
    (silentListener.recv (some 3000000000) 0 idleTurn silentTurns).1 =
      some (.err noDataAvailable) ∧
    (silentListener.recv (some 3000000000) 0 idleTurn silentTurns).2.taken =
      silentListener.taken + pre.length ∧
    ∃ waits, (silentListener.recv (some 3000000000) 0 idleTurn silentTurns).2.waits =
        silentListener.waits ++ waits ∧
      ∀ wait ∈ waits, 0 < wait ∧ wait ≤ e131NetworkDataLossTimeout := by
  have hpunctual : Listener.Punctual (some (0 + 3000000000)) 0 silentTurns := by
    simp [Listener.Punctual, silentTurns, actualTimeout, e131NetworkDataLossTimeout]
  have hstart : ∀ t ∈ silentTurns.head?, 0 ≤ t.clock ∧ t.clock ≤ 0 + 0 := by simp [silentTurns]
  exact recv_times_out (by decide) (by decide) rfl silentListener_silent silentTurns_set hpunctual
    hstart (by decide)

theorem silentListener_waits :
    (silentListener.recv none 0 idleTurn silentTurns).1 = none ∧
      (silentListener.recv none 0 idleTurn silentTurns).2.waits =
        silentListener.waits ++ List.replicate silentTurns.length e131NetworkDataLossTimeout :=
  recv_without_deadline (by decide) rfl (by decide +kernel) rfl silentListener_silent
    silentTurns_set

end Sacn
