import Sacn.Receive.Deadline

/-!
# Lost sources and `recv` (`receive.rs`)

A receiver that announces timeouts, on a socket that has fallen silent. The search for a stream that
has timed out can stop at a source that is still alive, but when every source has fallen silent it
finds one, whatever the order of the maps, so that a `recv` that would wait for ever returns.

* `findTimedOut_all`: the search when everything has timed out.
* `checks_announcing`: the checks of a turn that find nothing leave the data table as it is.
* **`recv_announces_loss`**: the call returns by the first turn that finds everything timed out.
-/

namespace Sacn

open Rust Rust.Outcome SacnReceiver

/-- **Where every stream of the table is overdue**, the search finds one, in any order. -/
theorem findTimedOut_all {t : SeqTable} {amb : Ambient} (ht : NoEmptySource t)
    (horder : amb.order.Valid t) {cid : Uuid} {u : UInt16} (htracked : (t.lookup cid u).isSome)
    (hall : ∀ c v, (t.lookup c v).isSome → t.Overdue amb.sweep c v) :
    ∃ p, findTimedOut e131NetworkDataLossTimeout t amb amb.order.srcs none = some p := by
  obtain ⟨s, hs⟩ := Option.isSome_iff_exists.mp htracked
  obtain ⟨universes, hm, -⟩ := Option.bind_eq_some_iff.mp hs
  have hmem : cid ∈ amb.order.srcs := (horder.srcs.mem cid).mpr (by rw [hm]; rfl)
  obtain ⟨first, rest, hsrcs⟩ := List.exists_cons_of_ne_nil (List.ne_nil_of_mem hmem)
  -- the first source has a stream, and it is overdue
  obtain ⟨m, hfirst⟩ := Option.isSome_iff_exists.mp
    ((horder.srcs.mem first).mp (by rw [hsrcs]; exact List.mem_cons_self))
  obtain ⟨v, hv⟩ := HashMap.isEmpty_eq_false.mp (ht first m hfirst)
  obtain ⟨s', hlookup, hold⟩ := hall first v (by rwa [lookup_of_get hfirst v])
  rw [lookup_of_get hfirst v] at hlookup
  obtain ⟨w, hw⟩ := findTimedOutUni_isSome (horder.unis first m hfirst) hlookup hold
  have hfound : ((HashMap.get t first).bind fun universes =>
      findTimedOutUni e131NetworkDataLossTimeout universes (amb.sweep first)
        (amb.order.unis first)) = some w := by
    rw [hfirst]
    exact hw
  rw [hsrcs, findTimedOut, hfound]
  exact findTimedOut_some

/-- **The announcing checks**: an entry of the data table that is found is announced; otherwise
that table stays as it is. -/
theorem SequenceNumbering.checkTimeouts_data (data sync : Ambient) (n : SequenceNumbering) :
    (∀ cid u, findTimedOut e131NetworkDataLossTimeout n.dataSequences data data.order.srcs none =
        some (cid, u) →
      ((SequenceNumbering.checkTimeouts true data sync).run n).1 = .err (.universeTimeout cid u)) ∧
    (findTimedOut e131NetworkDataLossTimeout n.dataSequences data data.order.srcs none = none →
      ((SequenceNumbering.checkTimeouts true data sync).run n).2.dataSequences =
        n.dataSequences) := by
  unfold SequenceNumbering.checkTimeouts onData onSync
  rw [Method.run_bind, Method.run_onField]
  constructor
  · intro cid u hp
    rw [checkTimeouts_announce_err hp]
  · intro hnone
    rw [checkTimeouts_announce_ok hnone]
    rfl

theorem checks_announcing (turn : Turn) {r : SacnReceiver} (hannounce : r.announceTimeout = true) :
    (∃ cid u r', (checks turn).run r = (.err (.universeTimeout cid u), r')) ∨
    findTimedOut e131NetworkDataLossTimeout r.sequences.dataSequences turn.data
        turn.data.order.srcs none = none ∧
      ∃ r', (checks turn).run r = (.ok (), r') ∧ r'.announceTimeout = true ∧
        r'.sequences.dataSequences = r.sequences.dataSequences := by
  obtain ⟨hfound, hsame⟩ := SequenceNumbering.checkTimeouts_data turn.data turn.sync r.sequences
  rcases Listener.checks_cases turn r with ⟨hrun, hended⟩ | ⟨-, cid, u, hrun, -⟩
  · refine .inr ?_
    unfold ReceiverCall.ended at hended
    simp only [hannounce] at hended
    cases hsearch : findTimedOut e131NetworkDataLossTimeout r.sequences.dataSequences turn.data
        turn.data.order.srcs none with
    | some p =>
      have herr : ((onSequences (SequenceNumbering.checkTimeouts true turn.data turn.sync)).run
          r).1 = .err (.universeTimeout p.1 p.2) := hfound p.1 p.2 hsearch
      rw [herr] at hended
      exact absurd hended (by simp [Functor.map, Outcome.bind])
    | none =>
      refine ⟨rfl, _, hrun, ?_, ?_⟩
      · have hkept := (ReceiverCall.OfLoop.timeouts turn.data turn.sync).settings (r := r)
        exact (congrArg (·.2.2.2.2.2) hkept).trans hannounce
      · show ((onSequences (SequenceNumbering.checkTimeouts r.announceTimeout turn.data
          turn.sync)).run r).2.sequences.dataSequences = _
        rw [hannounce]
        exact hsame hsearch
  · exact .inl ⟨cid, u, _, hrun⟩

/-! ## The loop -/

/-- **The turns of a silent socket** up to the one that finds everything timed out. -/
theorem repeatBody_announces {turns : List LoopTurn} (hset : ∀ t ∈ turns, t.timeoutSet = none)
    {table : SeqTable} (htable : NoEmptySource table) {cid : Uuid} {u : UInt16}
    (htracked : (table.lookup cid u).isSome)
    (hvalid : ∀ t ∈ turns, t.turn.data.order.Valid table)
    (hlost : ∃ t ∈ turns, ∀ c v, (table.lookup c v).isSome →
      table.Overdue t.turn.data.sweep c v) :
    ∀ {l : Listener}, l.receiver.announceTimeout = true →
      l.receiver.sequences.dataSequences = table → l.Silent →
      ∃ c v, (repeatBody (Listener.recvBody none) turns l).1 =
        some (.err (.universeTimeout c v)) := by
  induction turns with
  | nil =>
    obtain ⟨_, ht, -⟩ := hlost
    exact absurd ht List.not_mem_nil
  | cons t turns ih =>
    intro l hannounce hl hsilent
    rcases checks_announcing t.turn hannounce with ⟨c, v, r, hchecks⟩ |
      ⟨hnone, r, hchecks, hr, hsame⟩
    · have hrun : (Listener.recvBody none t).run l =
          (.err (.universeTimeout c v), l.withReceiver r) := by
        unfold Listener.recvBody
        rw [Method.run_bind, Listener.run_onReceiver, hchecks]
      refine ⟨c, v, ?_⟩
      rw [repeatBody, hrun]
      rfl
    · have hrun := Listener.recvBody_idle hchecks (hset t List.mem_cons_self)
        (hsilent l.taken le_rfl) (Listener.not_expired_none t.clock)
      have hlater : ∃ t' ∈ turns, ∀ c v, (table.lookup c v).isSome →
          table.Overdue t'.turn.data.sweep c v := by
        obtain ⟨t', ht', hall⟩ := hlost
        rcases List.mem_cons.mp ht' with rfl | hmem
        · obtain ⟨p, hp⟩ := findTimedOut_all htable (hvalid t' List.mem_cons_self) htracked hall
          rw [hl, hp] at hnone
          exact absurd hnone (by simp)
        · exact ⟨t', hmem, hall⟩
      rw [repeatBody, hrun]
      exact ih (fun t' ht' => hset t' (List.mem_cons_of_mem t ht'))
        (fun t' ht' => hvalid t' (List.mem_cons_of_mem t ht')) hlater
        (l := Listener.afterRead none t l r) hr (hsame.trans hl) (hsilent.afterRead none t r)

/-- No source of a session has an empty map. -/
theorem Session.tidy {sourceLimit : Option Nat} {allowed : ReceiverCall → Prop}
    {log : List ApiEvent} {l : Listener} (h : Session sourceLimit allowed log l) :
    l.receiver.Tidy := by
  refine Session.reaches (P := SacnReceiver.Tidy) h (fun r hr => ?_) fun _ c _ hr => c.tidy_next hr
  have hrun : ReceiverRun (CreatedWith sourceLimit) (fun _ _ => True) [] r := .nil hr
  exact hrun.tidy_listens.1

/-- **The loss of the sources does not go unnoticed**: in any session, a receiver that announces
timeouts and tracks a stream returns from a `recv` without a deadline once no source sends any
more, by the first turn in which every stream is overdue, whatever the order of the maps. -/
theorem recv_announces_loss {sourceLimit : Option Nat} {allowed : ReceiverCall → Prop}
    {log : List ApiEvent} {l : Listener} (h : Session sourceLimit allowed log l)
    (hannounce : l.receiver.announceTimeout = true) (hsilent : l.Silent) {cid : Uuid} {u : UInt16}
    (htracked : (l.receiver.sequences.dataSequences.lookup cid u).isSome)
    {timeout : Option Nat} {start : Nat} {zero : Turn} {turns : List LoopTurn}
    (hguard : l.receiver.universes ≠ [e131DiscoveryUniverse]) (htimeout : timeout ≠ some 0)
    (hnone : timeout.bind (checkedAdd start) = none) (hset : ∀ t ∈ turns, t.timeoutSet = none)
    (hvalid : ∀ t ∈ turns, t.turn.data.order.Valid l.receiver.sequences.dataSequences)
    (hlost : ∃ t ∈ turns, ∀ c v, (l.receiver.sequences.dataSequences.lookup c v).isSome →
      l.receiver.sequences.dataSequences.Overdue t.turn.data.sweep c v) :
    ∃ c v, (l.recv timeout start zero turns).1 = some (.err (.universeTimeout c v)) := by
  unfold Listener.recv
  rw [if_neg fun hall => hguard hall.1, if_neg htimeout, hnone]
  exact repeatBody_announces hset (Session.tidy h) htracked hvalid hlost hannounce rfl hsilent

/-- The receiver that was delivered the packet, once it announces timeouts. -/
def lostListener : Listener :=
  let l := (Listener.afterRead none idleLoopTurn namedListener
    ((checks idleTurn).run namedListener.receiver).2).withReceiver
      ((handlePacket idleTurn namedPacket).run ((checks idleTurn).run namedListener.receiver).2).2
  l.withReceiver ((ReceiverCall.setFlags false false false true).next l.receiver)

theorem lostListener_session :
    ∃ log, Session none ReceiverCall.MergesAsProvided log lostListener := by
  have hsession := namedSession
  rw [namedListener_recv] at hsession
  refine ⟨_, hsession.snoc (.call (.setFlags false false false true)) ?_⟩
  rintro m ⟨⟩
  exact ⟨rfl, by rintro merge ⟨⟩⟩

/-- Its table has the one stream. -/
theorem lostListener_table : lostListener.receiver.sequences.dataSequences =
    HashMap.insert ∅ (.repeated 2) (HashMap.insert ∅ 7 { sequenceNumber := 0, lastRecv := 0 }) := by
  decide +kernel

theorem isOrder_insert_empty {κ ν : Type} [DecidableEq κ] (k : κ) (v : ν) :
    HashMap.IsOrder [k] (HashMap.insert ∅ k v) := by
  refine ⟨List.nodup_singleton k, fun j => ?_⟩
  rw [HashMap.get_insert, List.mem_singleton]
  split
  · rename_i h
    exact iff_of_true h rfl
  · rename_i h
    rw [HashMap.get_empty]
    exact iff_of_false h (by simp)

/-- A turn, two and a half seconds on, that walks the table. -/
def lostTurn : LoopTurn :=
  { idleLoopTurn with turn := { idleTurn with data :=
      { sweep := fun _ _ => 2500000000
        order := { srcs := [.repeated 2], unis := fun _ => [7] }
        stamp := 0 } } }

theorem lostTurn_valid : lostTurn.turn.data.order.Valid
    lostListener.receiver.sequences.dataSequences := by
  rw [lostListener_table]
  refine ⟨isOrder_insert_empty _ _, fun cid universes hm => ?_⟩
  rw [HashMap.get_insert] at hm
  split at hm
  · obtain rfl := Option.some.inj hm
    exact isOrder_insert_empty _ _
  · rw [HashMap.get_empty] at hm
    exact absurd hm (by simp)

theorem lostListener_lookup (c : Uuid) (v : UInt16) {s : TimedStampedSeqNo}
    (h : lostListener.receiver.sequences.dataSequences.lookup c v = some s) : s.lastRecv = 0 := by
  rw [lostListener_table] at h
  obtain ⟨universes, hm, hg⟩ := Option.bind_eq_some_iff.mp h
  rw [HashMap.get_insert] at hm
  split at hm
  · obtain rfl := Option.some.inj hm
    rw [HashMap.get_insert] at hg
    split at hg
    · obtain rfl := Option.some.inj hg
      rfl
    · rw [HashMap.get_empty] at hg
      exact absurd hg (by simp)
  · rw [HashMap.get_empty] at hm
    exact absurd hm (by simp)

theorem lostListener_announces_loss : ∃ c v,
    (lostListener.recv none 0 idleTurn [lostTurn]).1 = some (.err (.universeTimeout c v)) := by
  obtain ⟨log, hsession⟩ := lostListener_session
  have hsilent : lostListener.Silent := by
    intro n hn
    have hread : lostListener.reads n = .failed .wouldBlock "" :=
      if_neg (Nat.one_le_iff_ne_zero.mp hn)
    exact ⟨.wouldBlock, "", hread, rfl⟩
  have htracked :
      (lostListener.receiver.sequences.dataSequences.lookup (.repeated 2) 7).isSome := by
    rw [lostListener_table]
    decide
  refine recv_announces_loss hsession rfl hsilent htracked (by decide +kernel) (by decide) rfl ?_ ?_
    ⟨lostTurn, List.mem_singleton_self _, fun c v hsome => ?_⟩
  · exact fun t ht => List.mem_singleton.mp ht ▸ rfl
  · exact fun t ht => List.mem_singleton.mp ht ▸ lostTurn_valid
  · obtain ⟨s, hs⟩ := Option.isSome_iff_exists.mp hsome
    refine ⟨s, hs, ?_⟩
    unfold timedOut elapsed
    rw [lostListener_lookup c v hs]
    rfl

end Sacn
