import Sacn.Receive.Listening
import Sacn.Receive.Recv

/-!
# One source's timeout and another source's data (`receive.rs`)

`check_seq_number` sweeps the whole table before it looks at the packet. With timeouts announced, a
sweep that finds a stream timed out, any stream, returns `UniverseTimeout` for it, and
`handle_data_packet` ends with that error: the packet is off the socket and is not handled.

* `noEmptySource_checkSeqNumber`, `ReceiverCall.tidy_next`: no source is empty, with timeouts
  announced or not.
* `checkTimeouts_spared`, `exists_stopping_order`: the sweep lets the packet through under every
  order iff no stream is overdue.
* `listenUniverse_outcome`: when a universe can be listened to.
* **`dataPacket_taken_iff`**: exactly when a packet that is in sequence and within the limit is
  delivered, or stored through the merge function, whatever the order of the maps.
* `overdueStream_costs_packet`: a packet of one source lost to the timeout of another.
-/

namespace Sacn

open Rust SacnReceiver

/-! ## No source is empty -/

theorem noEmptySource_checkTimeouts (announceTimeout : Bool) (amb : Ambient) :
    Method.Preserves NoEmptySource
      (checkTimeouts e131NetworkDataLossTimeout announceTimeout amb) := by
  intro t ht
  cases announceTimeout with
  | false => exact t.noEmptySource_sweep _ _
  | true =>
    rcases hfound : findTimedOut e131NetworkDataLossTimeout t amb amb.order.srcs none with
      _ | ⟨cid, u⟩
    · rw [checkTimeouts_announce_ok hfound]
      exact ht
    · rw [checkTimeouts_announce_err hfound]
      exact noEmptySource_removeEntry ht cid u

theorem noEmptySource_checkSeqNumber (sourceLimit : Option Nat) (cid : Uuid)
    (sequenceNumber : UInt8) (uni : UInt16) (announceTimeout : Bool) (amb : Ambient) :
    Method.Preserves NoEmptySource
      (checkSeqNumber sourceLimit cid sequenceNumber uni announceTimeout amb) := by
  intro t ht
  have hswept := noEmptySource_checkTimeouts announceTimeout amb t ht
  rcases hsweep : (checkTimeouts e131NetworkDataLossTimeout announceTimeout amb).run t with
    ⟨_ | _ | _, swept⟩
  · rw [hsweep] at hswept
    rcases @checkSeqNumber_after sourceLimit cid sequenceNumber uni _ _ _ _ hsweep with
      ⟨hrun, -⟩ | ⟨_, _, hrun, -⟩ | ⟨hrun, -⟩
    · rw [hrun]
      exact noEmptySource_record hswept cid uni _
    · rw [hrun]
      exact hswept
    · rw [hrun]
      exact hswept
  all_goals
    rw [hsweep] at hswept
    unfold checkSeqNumber
    rw [Method.run_bind, hsweep]
    exact hswept

/-- No source of the table of data packets is empty. -/
def SacnReceiver.Tidy (r : SacnReceiver) : Prop := NoEmptySource r.sequences.dataSequences

theorem tidy_of_keeps {α : Type} {x : Method SacnReceiver SacnError α}
    (h : Method.Keeps (fun r => r.sequences.dataSequences) x) :
    Method.Preserves SacnReceiver.Tidy x :=
  .of_keeps h fun _ _ hs hr => by
    unfold SacnReceiver.Tidy
    rw [hs]
    exact hr

theorem tidy_terminateStream (cid : Uuid) (uni : UInt16) {r : SacnReceiver} (h : r.Tidy) :
    (terminateStream cid uni r).Tidy := by
  unfold SacnReceiver.Tidy
  rw [terminateStream_eq]
  show NoEmptySource ((SequenceNumbering.removeSeqNumbers cid uni).run r.sequences).2.dataSequences
  rw [removeSeqNumbers_state]
  split
  · exact noEmptySource_forget h cid uni
  · exact h

theorem tidy_handleDataPacket (cid : Uuid) (pkt : DataPacketFramingLayer) (amb : Ambient)
    (recvTimestamp : Nat) :
    Method.Preserves SacnReceiver.Tidy (handleDataPacket cid pkt amb recvTimestamp) := by
  refine preserves_handleDataPacket (fun _ _ hs => tidy_terminateStream cid pkt.uni hs) ?_
  refine preserves_acceptDataPacket (fun _ _ r hr => ?_) (fun _ hs => hs) ?_ fun _ => ?_
  · exact noEmptySource_checkSeqNumber _ _ _ _ _ _ r.sequences.dataSequences hr
  · exact tidy_of_keeps (keeps_listenUniverses _ (fun _ _ => rfl) fun _ _ => rfl)
  · exact tidy_of_keeps (keeps_storeWaitingData _ fun _ _ => rfl)

theorem tidy_handleSyncPacket (cid : Uuid) (pkt : SynchronizationPacketFramingLayer)
    (amb : Ambient) (order : List UInt16) (now : UInt16 → Nat) :
    Method.Preserves SacnReceiver.Tidy (handleSyncPacket cid pkt amb order now) := by
  refine tidy_of_keeps (.bind .get fun s => ?_)
  split
  · exact .pure _
  · exact .bind (fun _ => rfl) fun _ =>
      .bind (.bind .get fun s => keeps_takeWaitingData fun _ _ => rfl) fun _ => .pure _

/-- **No call leaves a source empty**, timeouts announced or not. -/
theorem ReceiverCall.tidy_next {r : SacnReceiver} (hr : r.Tidy) (c : ReceiverCall) :
    (c.next r).Tidy := by
  cases c with
  | listenUniverses universes =>
    exact tidy_of_keeps (keeps_listenUniverses universes (fun _ _ => rfl) fun _ _ => rfl) r hr
  | muteUniverse uni =>
    exact tidy_of_keeps (keeps_muteUniverse uni (fun _ _ => rfl) fun _ _ => rfl) r hr
  | handleDataPacket cid pkt amb recvTimestamp =>
    exact tidy_handleDataPacket cid pkt amb recvTimestamp r hr
  | handleSyncPacket cid pkt amb order now =>
    exact tidy_handleSyncPacket cid pkt amb order now r hr
  | handleUniverseDiscoveryPacket cid pkt now =>
    have hsame := handleUniverseDiscoveryPacket_keeps (f := SacnReceiver.sequences)
      (fun _ _ => rfl) (fun _ _ => rfl) cid pkt now r
    unfold SacnReceiver.Tidy ReceiverCall.next
    rw [hsame]
    exact hr
  | checkTimeouts data sync =>
    have hdata : Method.Preserves (fun n : SequenceNumbering => NoEmptySource n.dataSequences)
        (SequenceNumbering.checkTimeouts r.announceTimeout data sync) :=
      .bind (fun n hn => noEmptySource_checkTimeouts r.announceTimeout data n.dataSequences hn)
        fun _ _ hn => hn
    exact hdata r.sequences hr
  | resetSources =>
    intro cid universes hm
    have hempty : HashMap.get (resetSources.next r).sequences.dataSequences cid = none :=
      HashMap.get_empty cid
    rw [hempty] at hm
    exact absurd hm (by simp)
  | checkWaitingDataTimeouts now => exact hr
  | clearWaitingData uni => exact hr
  | clearAllWaitingData => exact hr
  | removeExpiredSources now => exact hr
  | setMergeFn merge => exact hr
  | setMulticastEnabled val => exact hr
  | setFlags _ _ _ _ => exact hr

/-! ## The sweep of a check -/

/-- The entry of `u` at `cid` has timed out when the sweep looks at it. -/
def SeqTable.Overdue (t : SeqTable) (sweep : Uuid → UInt16 → Nat) (cid : Uuid) (u : UInt16) :
    Prop :=
  Expired e131NetworkDataLossTimeout (sweep cid u) t cid u

/-- Nothing is found in a table where nothing is overdue. -/
theorem findTimedOut_spared {t : SeqTable} {amb : Ambient}
    (hspared : ∀ cid u, ¬ t.Overdue amb.sweep cid u) (srcs : List Uuid) :
    findTimedOut e131NetworkDataLossTimeout t amb srcs none = none := by
  cases srcs with
  | nil => rfl
  | cons cid srcs =>
    rw [findTimedOut]
    split
    · rename_i u hfound
      obtain ⟨universes, hm, hu⟩ := Option.bind_eq_some_iff.mp hfound
      obtain ⟨s, hg, hs⟩ := findTimedOutUni_eq_some hu
      exact absurd ⟨s, (lookup_of_get hm u).trans hg, hs⟩ (hspared cid u)
    · rfl

/-- **A sweep of a table where nothing is overdue** returns `Ok` and forgets nothing, timeouts
announced or not. -/
theorem checkTimeouts_spared {t : SeqTable} (ht : NoEmptySource t) {amb : Ambient}
    (hspared : ∀ cid u, ¬ t.Overdue amb.sweep cid u) (announceTimeout : Bool) :
    (checkTimeouts e131NetworkDataLossTimeout announceTimeout amb).run t =
      (.ok (), t.sweep e131NetworkDataLossTimeout amb.sweep) := by
  cases announceTimeout with
  | false => exact checkTimeouts_silent _ amb t
  | true =>
    have hsame : t.sweep e131NetworkDataLossTimeout amb.sweep = t := by
      refine SeqTable.ext_of_noEmpty (t.noEmptySource_sweep _ _) ht fun cid u => ?_
      rw [SeqTable.lookup_sweep]
      cases hl : t.lookup cid u with
      | none => rfl
      | some s =>
        have hyoung : timedOut e131NetworkDataLossTimeout s (amb.sweep cid u) ≠ true :=
          fun hold => hspared cid u ⟨s, hl, hold⟩
        exact Option.filter_some_pos (by simpa using hyoung)
    rw [hsame]
    exact checkTimeouts_announce_ok (findTimedOut_spared hspared _)

/-- An overdue stream ends the announcing sweep of a walk that starts with its source. -/
theorem exists_stopping_order {t : SeqTable} {sweep : Uuid → UInt16 → Nat} {cid : Uuid}
    {u : UInt16} (hoverdue : t.Overdue sweep cid u) (stamp : Nat) :
    ∃ order : IterOrder, order.Valid t ∧ ∃ c v,
      (checkTimeouts e131NetworkDataLossTimeout true { sweep, order, stamp }).run t =
        (.err (.universeTimeout c v), t.removeEntry c v) := by
  obtain ⟨order, hvalid⟩ := IterOrder.exists_valid t
  obtain ⟨s, hl, hs⟩ := hoverdue
  obtain ⟨universes, hm, hg⟩ := Option.bind_eq_some_iff.mp hl
  have hsome : (HashMap.get t cid).isSome := by
    rw [hm]
    rfl
  have hmem := (hvalid.srcs.mem cid).mpr hsome
  refine ⟨⟨cid :: order.srcs.erase cid, order.unis⟩, ⟨⟨?_, fun k => ?_⟩, hvalid.unis⟩, ?_⟩
  · exact (List.perm_cons_erase hmem).nodup_iff.mp hvalid.srcs.nodup
  · rw [← (List.perm_cons_erase hmem).mem_iff, hvalid.srcs.mem]
  · obtain ⟨v, hv⟩ := findTimedOutUni_isSome (hvalid.unis cid universes hm) hg hs
    obtain ⟨⟨c, w⟩, hq⟩ := @findTimedOut_some e131NetworkDataLossTimeout t
      { sweep, order := ⟨cid :: order.srcs.erase cid, order.unis⟩, stamp } (order.srcs.erase cid)
      (cid, v)
    refine ⟨c, w, checkTimeouts_announce_err ?_⟩
    have hfound : ((HashMap.get t cid).bind fun universes =>
        findTimedOutUni e131NetworkDataLossTimeout universes (sweep cid) (order.unis cid)) =
          some v := by
      rw [hm]
      exact hv
    rw [findTimedOut]
    simp only [hfound]
    exact hq

/-! ## Listening to the sync address -/

/-- The receiver listens to the universe, or need not join its group, or its socket joins it. -/
def SacnReceiver.CanListen (r : SacnReceiver) (uni : UInt16) : Prop :=
  r.isListening uni = true ∨ r.receiver.isMulticastEnabled = false ∨
    ∀ group, r.receiver.multicastAddr uni = .ok group →
      r.receiver.socket.results r.receiver.socket.calls group = none

/-- **Listening to a legal universe** fails with the join, and with nothing else. -/
theorem listenUniverse_outcome {r : SacnReceiver} (hr : r.Listens) {uni : UInt16}
    (huni : UniverseInRange uni) :
    (((listenUniverse uni).run r).1 = .ok () ∧ r.CanListen uni) ∨
      ∃ e, ((listenUniverse uni).run r).1 = .err e ∧ ¬ r.CanListen uni := by
  rcases listenUniverse_cases r huni with ⟨⟨i, hsearch⟩, hrun⟩ |
    ⟨i, hsearch, ⟨hoff, hrun⟩ | ⟨hon, group, hgroup, ⟨hjoins, hrun⟩ | ⟨kind, msg, hfails, hrun⟩⟩⟩
  · have hmem : uni ∈ r.universes := List.mem_of_getElem? (binarySearch_ok hsearch)
    exact .inl ⟨by rw [hrun], .inl (List.contains_iff_mem.mpr hmem)⟩
  · exact .inl ⟨by rw [hrun], .inr (.inl hoff)⟩
  · refine .inl ⟨by rw [hrun], .inr (.inr fun g hg => ?_)⟩
    obtain rfl := Outcome.ok.inj (hgroup.symm.trans hg)
    exact hjoins
  · refine .inr ⟨.io kind msg, by rw [hrun], ?_⟩
    rintro (hlisten | hoff | hcan)
    · exact notMem_of_binarySearch hr.ascending hsearch (List.contains_iff_mem.mp hlisten)
    · rw [hoff] at hon
      exact absurd hon (by simp)
    · rw [hcan group hgroup] at hfails
      exact absurd hfails (by simp)

theorem listenUniverses_outcome {r : SacnReceiver} (hr : r.Listens) {uni : UInt16}
    (huni : UniverseInRange uni) :
    (((listenUniverses [uni]).run r).1 = .ok () ∧ r.CanListen uni) ∨
      ∃ e, ((listenUniverses [uni]).run r).1 = .err e ∧ ¬ r.CanListen uni := by
  have hrun : ((listenUniverses [uni]).run r).1 = ((listenUniverse uni).run r).1 := by
    unfold listenUniverses
    rw [Method.run_bind_of_ok ((Method.run_forM_lift_eq_ok (u := ())).mpr
      ⟨fun u hu => isUniverseInRange_eq_ok.mpr (List.mem_singleton.mp hu ▸ huni), rfl⟩)]
    have hloop : ([uni].forM listenUniverse).run r =
        (listenUniverse uni >>= fun _ => pure ()).run r := rfl
    rw [hloop, Method.run_bind]
    rcases (listenUniverse uni).run r with ⟨_ | _ | _, s⟩ <;> rfl
  rw [hrun]
  exact listenUniverse_outcome hr huni

/-! ## A packet the receiver is to take -/

/-- What is held for the universe of `d` once `d` is stored: `d`, or what the merge function makes
of the frame that was held and `d`. -/
def SacnReceiver.mergedWith (r : SacnReceiver) (d : DMXData) : Outcome SacnError DMXData :=
  match r.waitingData.get d.uni with
  | none => .ok d
  | some held => r.mergeFunc held d

/-- The call stores `d` through the merge function: the merged frame is held for its universe, and
the other held frames stay. -/
def StoresFrame (r : SacnReceiver) (d : DMXData)
    (res : Outcome SacnError (Option (List DMXData)) × SacnReceiver) : Prop :=
  ∃ frame, r.mergedWith d = .ok frame ∧ res.1 = .ok none ∧
    res.2.waitingData = r.waitingData.insert d.uni frame

/-- No frame is held for the universe of `d`, or the merge function takes the one that is and `d`.
-/
def SacnReceiver.MergeTakes (r : SacnReceiver) (d : DMXData) : Prop :=
  ∀ held, r.waitingData.get d.uni = some held → ∃ frame, r.mergeFunc held d = .ok frame

theorem SacnReceiver.mergeTakes_iff {r : SacnReceiver} {d : DMXData} :
    r.MergeTakes d ↔ ∃ frame, r.mergedWith d = .ok frame := by
  unfold SacnReceiver.MergeTakes SacnReceiver.mergedWith
  cases r.waitingData.get d.uni with
  | none => exact iff_of_true (fun held h => absurd h (by simp)) ⟨d, rfl⟩
  | some held => simp

/-- The default merge function takes every two frames. -/
theorem SacnReceiver.mergeTakes_default {r : SacnReceiver} (h : r.mergeFunc = defaultMergeFunc)
    (d : DMXData) : r.MergeTakes d := by
  intro held _
  rw [h]
  unfold defaultMergeFunc discardLowestPriorityThenPrevious
  split
  · exact ⟨held, rfl⟩
  · exact ⟨d, rfl⟩

/-- The packet is delivered, or stored for its sync address. -/
def Taken (r : SacnReceiver) (cid : Uuid) (pkt : DataPacketFramingLayer) (recvTimestamp : Nat)
    (res : Outcome SacnError (Option (List DMXData)) × SacnReceiver) : Prop :=
  if pkt.synchronizationAddress = e131NoSyncAddr then
    res.1 = .ok (some [dmxData cid pkt recvTimestamp])
  else StoresFrame r (dmxData cid pkt recvTimestamp) res

/-- The packet is no preview and no termination, of a universe that is listened to, in sequence for
its own stream, and its source is within the limit once what has timed out is gone. The parser has
checked the sync address. -/
structure DataPacketFramingLayer.Wanted (pkt : DataPacketFramingLayer) (r : SacnReceiver)
    (cid : Uuid) (sweep : Uuid → UInt16 → Nat) : Prop where
  syncAddr_le : pkt.synchronizationAddress ≤ 63999
  noPreview : pkt.previewData = false
  notTerminated : pkt.streamTerminated = false
  listening : r.isListening pkt.uni = true
  inSequence : verdict (fresh (r.sequences.dataSequences.lookup cid pkt.uni) (sweep cid pkt.uni))
    pkt.sequenceNumber = .ok ()
  room : (r.sequences.dataSequences.sweep e131NetworkDataLossTimeout sweep).HasRoom
    r.sourceLimit cid

section Packet

variable {r : SacnReceiver} {cid : Uuid} {pkt : DataPacketFramingLayer} {amb : Ambient}
  {recvTimestamp : Nat}

theorem DataPacketFramingLayer.Wanted.handled (h : pkt.Wanted r cid amb.sweep)
    (recvTimestamp : Nat) :
    (handleDataPacket cid pkt amb recvTimestamp).run r =
      (acceptDataPacket cid pkt amb recvTimestamp).run r := by
  unfold handleDataPacket
  rw [Method.run_bind_of_ok (Method.run_get r), if_neg (by simp [h.noPreview]),
    if_neg (by simp [h.notTerminated]), if_neg (by simp [h.listening])]

/-- **The check lets a wanted packet through** when its sweep announces nothing. -/
theorem DataPacketFramingLayer.Wanted.checked (h : pkt.Wanted r cid amb.sweep) (htidy : r.Tidy)
    (hspared : r.announceTimeout = true →
      ∀ c u, ¬ r.sequences.dataSequences.Overdue amb.sweep c u) :
    ∃ t, (checkSeqNumber r.sourceLimit cid pkt.sequenceNumber pkt.uni r.announceTimeout amb).run
      r.sequences.dataSequences = (.ok (), t) := by
  have hsweep : (checkTimeouts e131NetworkDataLossTimeout r.announceTimeout amb).run
      r.sequences.dataSequences =
        (.ok (), r.sequences.dataSequences.sweep e131NetworkDataLossTimeout amb.sweep) := by
    by_cases hannounce : r.announceTimeout = true
    · exact checkTimeouts_spared htidy (hspared hannounce) _
    · rw [Bool.eq_false_iff.mpr hannounce]
      exact checkTimeouts_silent _ amb _
  rw [checkSeqNumber_run hsweep h.room, lookup_sweep_fresh, h.inSequence]
  exact ⟨_, rfl⟩

/-- A call that fails has not taken the packet. -/
theorem not_taken_of_err {res : Outcome SacnError (Option (List DMXData)) × SacnReceiver}
    {e : SacnError} (herr : res.1 = .err e) : ¬ Taken r cid pkt recvTimestamp res := by
  unfold Taken StoresFrame
  rw [herr]
  split <;> simp

/-- `store_waiting_data` stores the frame iff the merge function takes it. -/
theorem storesFrame_iff {s : SacnReceiver} (hheld : s.waitingData = r.waitingData)
    (hmerge : s.mergeFunc = r.mergeFunc) (d : DMXData) :
    StoresFrame r d ((do storeWaitingData d; return none).run s) ↔ r.MergeTakes d := by
  rw [SacnReceiver.mergeTakes_iff]
  refine exists_congr fun frame => and_iff_left_of_imp fun hmerged => ?_
  unfold SacnReceiver.mergedWith at hmerged
  rw [Method.run_bind, storeWaitingData_run, hheld, hmerge]
  cases hget : r.waitingData.get d.uni with
  | none =>
    rw [hget] at hmerged
    obtain rfl := Outcome.ok.inj hmerged
    exact ⟨rfl, rfl⟩
  | some held =>
    simp only [hget] at hmerged
    simp only [hmerged]
    refine ⟨rfl, HashMap.ext fun u => ?_⟩
    show ((r.waitingData.remove d.uni).insert d.uni frame).get u =
      (r.waitingData.insert d.uni frame).get u
    rw [HashMap.get_insert, HashMap.get_insert]
    split
    · rfl
    · rename_i hu
      rw [HashMap.get_remove, if_neg hu]

/-- **After its check a packet is taken** iff its sync address, if it has one, can be listened to and
the merge function takes its frame. -/
theorem taken_iff_of_checked (hlistens : r.Listens) (haddr : pkt.synchronizationAddress ≤ 63999)
    {t : SeqTable} (hcheck : (checkSeqNumber r.sourceLimit cid pkt.sequenceNumber pkt.uni
      r.announceTimeout amb).run r.sequences.dataSequences = (.ok (), t)) :
    Taken r cid pkt recvTimestamp ((acceptDataPacket cid pkt amb recvTimestamp).run r) ↔
      (pkt.synchronizationAddress ≠ e131NoSyncAddr → r.CanListen pkt.synchronizationAddress ∧
        r.MergeTakes (dmxData cid pkt recvTimestamp)) := by
  have hchecked := run_checkDataSeqNumber hcheck
  unfold acceptDataPacket
  rw [Method.run_bind_of_ok (Method.run_get r), Method.run_bind_of_ok hchecked]
  by_cases hsync : pkt.synchronizationAddress = e131NoSyncAddr
  · rw [if_pos hsync]
    refine iff_of_true ?_ (fun hne => absurd hsync hne)
    unfold Taken
    rw [if_pos hsync]
    rfl
  · rw [if_neg hsync]
    have huni : UniverseInRange pkt.synchronizationAddress := by
      refine .inr ⟨?_, haddr⟩
      rw [UInt16.le_iff_toNat_le]
      exact Nat.one_le_iff_ne_zero.mpr fun h0 => hsync (UInt16.toNat_inj.mp h0)
    have hkeeps := fun s : SacnReceiver => keeps_listenUniverses (f := SacnReceiver.held)
      [pkt.synchronizationAddress] (fun _ _ => rfl) (fun _ _ => rfl) s
    obtain ⟨hheld, hmerge⟩ := Prod.mk.inj
      (hkeeps { r with sequences := { r.sequences with dataSequences := t } })
    rcases @listenUniverses_outcome
      { r with sequences := { r.sequences with dataSequences := t } } ⟨hlistens.1, hlistens.2⟩ _
      huni with ⟨hok, hcan⟩ | ⟨e, herr, hcannot⟩
    · rw [Method.run_bind_of_ok (Prod.ext hok rfl)]
      unfold Taken
      rw [if_neg hsync, @storesFrame_iff r _ hheld hmerge]
      exact ⟨fun htakes _ => ⟨hcan, htakes⟩, fun h => (h hsync).2⟩
    · refine iff_of_false ?_ fun h => hcannot (h hsync).1
      rw [Method.run_bind_of_err (Prod.ext herr rfl)]
      exact not_taken_of_err rfl

/-- A packet whose check fails is not taken. -/
theorem not_taken_of_refused {e : SacnError} {t : SeqTable}
    (hcheck : (checkSeqNumber r.sourceLimit cid pkt.sequenceNumber pkt.uni r.announceTimeout
      amb).run r.sequences.dataSequences = (.err e, t)) :
    ¬ Taken r cid pkt recvTimestamp ((acceptDataPacket cid pkt amb recvTimestamp).run r) := by
  have hchecked := run_checkDataSeqNumber hcheck
  unfold acceptDataPacket
  rw [Method.run_bind_of_ok (Method.run_get r), Method.run_bind_of_err hchecked]
  exact not_taken_of_err rfl

end Packet

/-- With timeouts announced, an overdue stream costs the packet in some walk of the table. -/
theorem exists_losing_order {cid : Uuid} {pkt : DataPacketFramingLayer} {r : SacnReceiver}
    {sweep : Uuid → UInt16 → Nat} (h : pkt.Wanted r cid sweep)
    (hannounce : r.announceTimeout = true) {c : Uuid} {u : UInt16}
    (hoverdue : r.sequences.dataSequences.Overdue sweep c u) (stamp recvTimestamp : Nat) :
    ∃ order : IterOrder, order.Valid r.sequences.dataSequences ∧
      ¬ Taken r cid pkt recvTimestamp
        ((handleDataPacket cid pkt { sweep, order, stamp } recvTimestamp).run r) := by
  obtain ⟨order, hvalid, c', v, hsweep⟩ := exists_stopping_order hoverdue stamp
  have hcheck : (checkSeqNumber r.sourceLimit cid pkt.sequenceNumber pkt.uni r.announceTimeout
      { sweep, order, stamp }).run r.sequences.dataSequences =
        (.err (.universeTimeout c' v), r.sequences.dataSequences.removeEntry c' v) := by
    rw [hannounce]
    exact Method.run_bind_of_err hsweep _
  refine ⟨order, hvalid, ?_⟩
  rw [DataPacketFramingLayer.Wanted.handled h]
  exact not_taken_of_refused hcheck

/-! ## When the packet is taken -/

theorem ReceiverRun.tidy_listens {sourceLimit : Option Nat} {log : List ReceiverEvent}
    {r : SacnReceiver} (h : ReceiverRun (CreatedWith sourceLimit) (fun _ _ => True) log r) :
    r.Tidy ∧ r.Listens := by
  refine h.reaches (P := fun r => r.Tidy ∧ r.Listens) (fun s hnew => ?_) fun s c _ hs =>
    ⟨c.tidy_next hs.1, (c.listens_next hs.2).1⟩
  refine ⟨?_, listens_of_created hnew⟩
  obtain ⟨ip, socket, hcreated⟩ := hnew
  have hempty : s.sequences = .new :=
    withIp_keeps (f := SacnReceiver.sequences) hcreated (fun _ _ => rfl) fun _ _ => rfl
  unfold SacnReceiver.Tidy
  rw [hempty]
  exact fun cid _ hm => absurd ((HashMap.get_empty cid).symm.trans hm) (by simp)

/-- **A packet is taken, whatever the order of the maps**, exactly when timeouts are not announced
or no stream of the table is overdue, and its sync address, if it has one, can be listened to and no
frame is held for its universe or the merge function takes both. -/
theorem dataPacket_taken_iff {sourceLimit : Option Nat} {log : List ReceiverEvent}
    {r : SacnReceiver} (hrun : ReceiverRun (CreatedWith sourceLimit) (fun _ _ => True) log r)
    {cid : Uuid} {pkt : DataPacketFramingLayer} {sweep : Uuid → UInt16 → Nat}
    (h : pkt.Wanted r cid sweep) (stamp recvTimestamp : Nat) :
    (∀ order : IterOrder, order.Valid r.sequences.dataSequences →
      Taken r cid pkt recvTimestamp
        ((handleDataPacket cid pkt { sweep, order, stamp } recvTimestamp).run r)) ↔
    (r.announceTimeout = true → ∀ c u, ¬ r.sequences.dataSequences.Overdue sweep c u) ∧
      (pkt.synchronizationAddress ≠ e131NoSyncAddr → r.CanListen pkt.synchronizationAddress ∧
        r.MergeTakes (dmxData cid pkt recvTimestamp)) := by
  obtain ⟨htidy, hlistens⟩ := hrun.tidy_listens
  constructor
  · intro htaken
    have hspared : r.announceTimeout = true →
        ∀ c u, ¬ r.sequences.dataSequences.Overdue sweep c u := by
      intro hannounce c u hoverdue
      obtain ⟨order, hvalid, hlost⟩ := exists_losing_order h hannounce hoverdue stamp
        recvTimestamp
      exact hlost (htaken order hvalid)
    refine ⟨hspared, ?_⟩
    obtain ⟨order, hvalid⟩ := IterOrder.exists_valid r.sequences.dataSequences
    have hone := htaken order hvalid
    rw [DataPacketFramingLayer.Wanted.handled h] at hone
    obtain ⟨t, hcheck⟩ := @DataPacketFramingLayer.Wanted.checked r cid pkt
      { sweep, order, stamp } h htidy hspared
    exact (taken_iff_of_checked hlistens h.syncAddr_le hcheck).mp hone
  · rintro ⟨hspared, hstored⟩ order -
    rw [DataPacketFramingLayer.Wanted.handled h]
    obtain ⟨t, hcheck⟩ := @DataPacketFramingLayer.Wanted.checked r cid pkt
      { sweep, order, stamp } h htidy hspared
    exact (taken_iff_of_checked hlistens h.syncAddr_le hcheck).mpr hstored

/-! ## Two streams -/

/-- A packet of universe 1, for a sync address. -/
def pairPkt (synchronizationAddress : UInt16) (sequenceNumber : UInt8) : DataPacketFramingLayer :=
  { samplePkt with synchronizationAddress, sequenceNumber }

/-- The packet of a source, at an instant. -/
def pairData (cid : Uuid) (pkt : DataPacketFramingLayer) (now : Nat) : ReceiverCall :=
  .handleDataPacket cid pkt
    { sweep := fun _ _ => now, order := { srcs := [.repeated 1], unis := fun _ => [1] }
      stamp := now } now

/-- The receiver announces timeouts, and has received a packet of one source, and a second later one
of another, which it holds for sync address 7. -/
def pairReceiver : SacnReceiver :=
  (pairData (.repeated 2) (pairPkt 7 0) 1000000000).next
    ((pairData (.repeated 1) (pairPkt 0 0) 0).next
      ((ReceiverCall.listenUniverses [1]).next
        ((ReceiverCall.setFlags false false false true).next newReceiver)))

theorem pairReceiver_run :
    ∃ log, ReceiverRun (CreatedWith none) (fun _ _ => True) log pairReceiver := by
  have hstart : ReceiverRun (CreatedWith none) (fun _ _ => True) [] newReceiver :=
    .nil newReceiver_created
  have hflags := hstart.snoc (.setFlags false false false true) trivial
  have hlisten := hflags.snoc (.listenUniverses [1]) trivial
  have hfirst := hlisten.snoc (pairData (.repeated 1) (pairPkt 0 0) 0) trivial
  exact ⟨_, hfirst.snoc (pairData (.repeated 2) (pairPkt 7 0) 1000000000) trivial⟩

theorem pairReceiver_table : pairReceiver.sequences.dataSequences =
    (SeqTable.record ∅ (.repeated 1) 1 { sequenceNumber := 0, lastRecv := 0 }).record (.repeated 2)
      1 { sequenceNumber := 0, lastRecv := 1000000000 } := by
  decide +kernel

/-- The next packet of the second source is one the receiver is to take, at any instant. -/
theorem pairReceiver_wanted {addr : UInt16} (haddr : addr ≤ 63999) (now : Nat) :
    (pairPkt addr 1).Wanted pairReceiver (.repeated 2) fun _ _ => now where
  syncAddr_le := haddr
  noPreview := rfl
  notTerminated := rfl
  listening := show pairReceiver.isListening 1 = true by decide +kernel
  inSequence := by
    show verdict (fresh (pairReceiver.sequences.dataSequences.lookup (.repeated 2) 1) now) 1 =
      .ok ()
    rw [pairReceiver_table, SeqTable.lookup_record, if_pos ⟨rfl, rfl⟩]
    unfold fresh
    by_cases hyoung : now - 1000000000 < e131NetworkDataLossTimeout
    · rw [Option.filter_some_pos (by simpa using hyoung)]
      decide
    · rw [Option.filter_some_neg (by simpa using hyoung)]
      rfl
  room := .inr rfl

/-- Two seconds after the first packet no stream is overdue. -/
theorem pairReceiver_spared (cid : Uuid) (u : UInt16) :
    ¬ pairReceiver.sequences.dataSequences.Overdue (fun _ _ => 2000000000) cid u := by
  rintro ⟨s, hl, hold⟩
  rw [pairReceiver_table, SeqTable.lookup_record, SeqTable.lookup_record] at hl
  have hnone : SeqTable.lookup ∅ cid u = none := congrArg (Option.bind · _) (HashMap.get_empty cid)
  have hyoung : timedOut e131NetworkDataLossTimeout s 2000000000 ≠ true := by
    split at hl
    · rw [← Option.some.inj hl]
      decide
    · split at hl
      · rw [← Option.some.inj hl]
        decide
      · rw [hnone] at hl
        exact absurd hl (by simp)
  exact hyoung hold

/-- Then a packet for sync address 7 is merged with the frame that is held, although timeouts are
announced. -/
theorem pairReceiver_takes :
    (pairReceiver.waitingData.get 1).isSome ∧
    ∃ order : IterOrder, order.Valid pairReceiver.sequences.dataSequences ∧
      Taken pairReceiver (.repeated 2) (pairPkt 7 1) 2000000000
        ((handleDataPacket (.repeated 2) (pairPkt 7 1)
          { sweep := fun _ _ => 2000000000, order, stamp := 2000000000 } 2000000000).run
            pairReceiver) := by
  obtain ⟨log, hrun⟩ := pairReceiver_run
  obtain ⟨order, hvalid⟩ := IterOrder.exists_valid pairReceiver.sequences.dataSequences
  have hlistening : pairReceiver.CanListen 7 := .inl (by decide +kernel)
  have htakes : pairReceiver.MergeTakes (dmxData (.repeated 2) (pairPkt 7 1) 2000000000) :=
    SacnReceiver.mergeTakes_default rfl _
  refine ⟨by decide +kernel, order, hvalid, ?_⟩
  exact (dataPacket_taken_iff hrun (pairReceiver_wanted (by decide) 2000000000) 2000000000
    2000000000).mpr ⟨fun _ => pairReceiver_spared, fun _ => ⟨hlistening, htakes⟩⟩ order hvalid

/-- **The timeout of one source costs a packet of another**: 2.6 s after the only packet of the
first source, and 1.6 s after the last of the second, the next packet of the second is lost. -/
theorem overdueStream_costs_packet :
    ¬ ∀ (sourceLimit : Option Nat) (log : List ReceiverEvent) (r : SacnReceiver),
      ReceiverRun (CreatedWith sourceLimit) (fun _ _ => True) log r →
      ∀ (cid : Uuid) (pkt : DataPacketFramingLayer) (amb : Ambient) (recvTimestamp : Nat),
        pkt.Wanted r cid amb.sweep → amb.order.Valid r.sequences.dataSequences →
        Taken r cid pkt recvTimestamp ((handleDataPacket cid pkt amb recvTimestamp).run r) := by
  intro h
  obtain ⟨log, hrun⟩ := pairReceiver_run
  have hoverdue : pairReceiver.sequences.dataSequences.Overdue (fun _ _ => 2600000000)
      (.repeated 1) 1 := by
    refine ⟨{ sequenceNumber := 0, lastRecv := 0 }, ?_, by decide⟩
    rw [pairReceiver_table, SeqTable.lookup_record, if_neg (by decide), SeqTable.lookup_record,
      if_pos ⟨rfl, rfl⟩]
  obtain ⟨order, hvalid, hlost⟩ := exists_losing_order
    (@pairReceiver_wanted 0 (by decide) 2600000000) rfl hoverdue 2600000000 2600000000
  exact hlost (h _ _ _ hrun _ _ _ _ (pairReceiver_wanted (by decide) 2600000000) hvalid)

end Sacn
