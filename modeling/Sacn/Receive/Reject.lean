import Sacn.Receive.Slots
import Sacn.Receive.Waiting

/-!
# Packets that are rejected (`receive.rs`)

A packet that is out of sequence, or of a source beyond the limit, ends the handler with an error.
With timeouts not announced, the check of its number has swept the table by then.

* `OnlyExpiredGone`: what the sweep does to the table.
* **`rejected_packet_leaves_no_trace`**: nothing else of the receiver has changed.
-/

namespace Sacn

open Rust SacnReceiver

/-- The errors of a packet whose number or source is not accepted. -/
def SacnError.Rejects (e : SacnError) : Prop :=
  (∃ sequenceNumber expected diff, e = .outOfSequence sequenceNumber expected diff) ∨
    ∃ sources, e = .sourcesExceededError sources

/-- `t'` has the entries of `t` that were younger than the timeout when they were looked at, as they
were, and the sources that have one. -/
structure OnlyExpiredGone (t : SeqTable) (now : Uuid → UInt16 → Nat) (t' : SeqTable) : Prop where
  entries : ∀ cid u, t'.lookup cid u =
    (t.lookup cid u).filter fun s => elapsed s.lastRecv (now cid u) < e131NetworkDataLossTimeout
  sources : ∀ cid, (HashMap.get t' cid).isSome ↔ ∃ u, (t'.lookup cid u).isSome

theorem onlyExpiredGone_sweep (t : SeqTable) (now : Uuid → UInt16 → Nat) :
    OnlyExpiredGone t now (t.sweep e131NetworkDataLossTimeout now) where
  entries cid u := by
    rw [SeqTable.lookup_sweep]
    refine congrArg (Option.filter · _) (funext fun s => ?_)
    unfold timedOut
    rw [← decide_not]
    exact decide_eq_decide.mpr Nat.not_le
  sources cid := by
    unfold SeqTable.lookup
    cases hget : HashMap.get (t.sweep e131NetworkDataLossTimeout now) cid with
    | none => simp
    | some universes =>
      rw [SeqTable.get_sweep] at hget
      have hsome := (Option.filter_eq_some_iff.mp hget).2
      refine iff_of_true rfl (HashMap.isEmpty_eq_false.mp ?_)
      simpa using hsome

/-! ## The checks -/

/-- A check that rejects the packet leaves the swept table; any other is passed. -/
theorem checkSeqNumber_rejects (sourceLimit : Option Nat) (cid : Uuid) (sequenceNumber : UInt8)
    (uni : UInt16) (amb : Ambient) (t : SeqTable) :
    (∃ e t', (checkSeqNumber sourceLimit cid sequenceNumber uni false amb).run t = (.err e, t') ∧
      OnlyExpiredGone t amb.sweep t') ∨
    ∃ t', (checkSeqNumber sourceLimit cid sequenceNumber uni false amb).run t = (.ok (), t') := by
  have hsweep := onlyExpiredGone_sweep t amb.sweep
  rcases checkSeqNumber_cases sourceLimit cid sequenceNumber uni amb t with ⟨hrun, -⟩ |
    ⟨_, _, hrun, -⟩ | ⟨hrun, -⟩
  · exact .inr ⟨_, hrun⟩
  · exact .inl ⟨_, _, hrun, hsweep⟩
  · exact .inl ⟨_, _, hrun, hsweep⟩

/-! ## What comes after a check -/

/-- No error of the merge function is one of the check. -/
def SacnReceiver.MergeNeverRejects (r : SacnReceiver) : Prop :=
  ∀ i n e, r.mergeFunc i n = .err e → ¬ e.Rejects

theorem mergeNeverRejects_of_keeps {α : Type} {x : Method SacnReceiver SacnError α}
    (h : Method.Keeps SacnReceiver.mergeFunc x) :
    Method.Preserves SacnReceiver.MergeNeverRejects x :=
  .of_keeps h fun _ _ hs hr i n e he => hr i n e (hs ▸ he)

theorem call_raises (group : SocketAddr) (msg : String) :
    Method.Raises (fun _ => True) (fun e => ¬ e.Rejects) (MulticastSocket.call group msg) := by
  intro socket _ e he
  unfold MulticastSocket.call at he
  rw [Method.run_bind_of_ok (Method.run_get socket),
    Method.run_bind_of_ok (Method.run_set socket _)] at he
  split at he
  · exact absurd he (by simp)
  · obtain rfl := Outcome.err.inj he
    simp [SacnError.Rejects]

theorem isUniverseInRange_raises (uni : UInt16) (e : SacnError) (h : isUniverseInRange uni = .err e) :
    ¬ e.Rejects := by
  unfold isUniverseInRange Outcome.throwIf at h
  split at h
  · obtain rfl := Outcome.err.inj h
    simp [SacnError.Rejects]
  · exact absurd h (by simp)

theorem groupCall_raises (uni : UInt16) (msg : SacnNetworkReceiver → String) :
    Method.Raises (fun _ => True) (fun e => ¬ e.Rejects) (do
      let nr ← Method.get
      let group ← Method.lift (nr.multicastAddr uni)
      SacnNetworkReceiver.onSocket (MulticastSocket.call group (msg nr))) := by
  refine .bind .get (fun _ _ => trivial) fun nr => .bind (.lift fun e he => ?_) (fun _ _ => trivial)
    fun group => .onField (call_raises group _)
  unfold SacnNetworkReceiver.multicastAddr universeToIpv6MulticastAddr
    universeToIpv4MulticastAddr at he
  cases hrange : isUniverseInRange uni with
  | ok _ =>
    rw [hrange] at he
    split at he <;> exact absurd he (by simp)
  | err e' =>
    rw [hrange] at he
    have heq : e' = e := by split at he <;> exact Outcome.err.inj he
    exact heq ▸ isUniverseInRange_raises uni e' hrange
  | panic =>
    rw [hrange] at he
    split at he <;> exact absurd he (by simp)

/-- Listening fails for an illegal universe or in the socket. -/
theorem listenUniverses_raises {I : SacnReceiver → Prop} (universes : List UInt16)
    (hreceiver : ∀ r receiver, I r → I { r with receiver })
    (huniverses : ∀ r universes, I r → I { r with universes }) :
    Method.Raises I (fun e => ¬ e.Rejects) (listenUniverses universes) := by
  have hchecks : Method.Preserves I (universes.forM fun u =>
      (Method.lift (isUniverseInRange u) : Method SacnReceiver SacnError Unit)) :=
    .forM fun u _ => .lift _
  have hturn : ∀ u, Method.Raises I (fun e => ¬ e.Rejects) (listenUniverse u) ∧
      Method.Preserves I (listenUniverse u) := by
    intro u
    refine ⟨.bind .get (fun _ hs => hs) fun r => ?_, .get_bind fun r hr => ?_⟩
    · cases binarySearch r.universes u with
      | ok i => exact .pure ()
      | error i =>
        refine .bind (.modify _) (.modify fun s hs => huniverses s _ hs) fun _ => ?_
        split
        · exact .onField (groupCall_raises u _)
        · exact .pure ()
    · cases binarySearch r.universes u with
      | ok i => exact hr
      | error i =>
        simp only
        rw [Method.run_bind_of_ok (Method.run_modify _ r)]
        split
        · exact hreceiver _ _ (huniverses _ _ hr)
        · exact huniverses _ _ hr
  exact .bind (.forM (fun u _ => .lift (isUniverseInRange_raises u)) fun u _ => .lift _) hchecks
    fun _ => .forM (fun u _ => (hturn u).1) fun u _ => (hturn u).2

theorem storeWaitingData_raises (data : DMXData) :
    Method.Raises SacnReceiver.MergeNeverRejects (fun e => ¬ e.Rejects)
      (storeWaitingData data) := by
  intro r hr e he
  rw [storeWaitingData_run] at he
  cases hget : r.waitingData.get data.uni with
  | none =>
    rw [hget] at he
    exact absurd he (by simp)
  | some existing =>
    rw [hget] at he
    simp only at he
    cases hmerge : r.mergeFunc existing data with
    | ok merged =>
      rw [hmerge] at he
      exact absurd he (by simp)
    | err e' =>
      rw [hmerge] at he
      obtain rfl := Outcome.err.inj he
      exact hr existing data e' hmerge
    | panic =>
      rw [hmerge] at he
      exact absurd he (by simp)

theorem takeWaitingData_raises {I : SacnReceiver → Prop} {P : SacnError → Prop}
    {now : UInt16 → Nat} {keys : List UInt16}
    (hwaiting : ∀ r waitingData, I r → I { r with waitingData }) :
    ∀ {res : List DMXData}, Method.Raises I P (takeWaitingData now keys res) := by
  induction keys with
  | nil => exact .pure _
  | cons k keys ih =>
    refine .bind .get (fun _ hs => hs) fun r => ?_
    cases r.waitingData.get k with
    | none => exact .panic
    | some data => exact .bind (.modify _) (.modify fun s hs => hwaiting s _ hs) fun _ => ih

/-! ## The handlers -/

/-- What follows the check of a data packet. -/
theorem dataRest_raises (cid : Uuid) (pkt : DataPacketFramingLayer) (recvTimestamp : Nat) :
    Method.Raises SacnReceiver.MergeNeverRejects (fun e => ¬ e.Rejects)
      (if pkt.synchronizationAddress = e131NoSyncAddr then do
        Method.modify (clearWaitingData pkt.uni)
        return some [dmxData cid pkt recvTimestamp]
      else do
        listenUniverses [pkt.synchronizationAddress]
        storeWaitingData (dmxData cid pkt recvTimestamp)
        return none) := by
  split
  · exact .bind (.modify _) (.modify fun _ hs => hs) fun _ => .pure _
  · refine .bind (listenUniverses_raises _ (fun _ _ hs => hs) fun _ _ hs => hs) ?_ fun _ =>
      .bind (storeWaitingData_raises _) ?_ fun _ => .pure _
    · exact mergeNeverRejects_of_keeps (keeps_listenUniverses _ (fun _ _ => rfl) fun _ _ => rfl)
    · exact mergeNeverRejects_of_keeps (keeps_storeWaitingData _ fun _ _ => rfl)

section Handlers

variable {r : SacnReceiver} {cid : Uuid} {amb : Ambient} {e : SacnError}

/-- **A data packet that is rejected.** -/
theorem handleDataPacket_rejected (hquiet : r.announceTimeout = false)
    (hmerge : r.MergeNeverRejects) {pkt : DataPacketFramingLayer} {recvTimestamp : Nat}
    (he : ((handleDataPacket cid pkt amb recvTimestamp).run r).1 = .err e) (hrejects : e.Rejects) :
    ∃ t, OnlyExpiredGone r.sequences.dataSequences amb.sweep t ∧
      ((handleDataPacket cid pkt amb recvTimestamp).run r).2 =
        { r with sequences := { r.sequences with dataSequences := t } } := by
  unfold handleDataPacket at he ⊢
  rw [Method.run_bind_of_ok (Method.run_get r)] at he ⊢
  split at he
  · exact absurd he (by simp)
  rename_i hpreview
  rw [if_neg hpreview]
  split at he
  · -- a termination is announced by an error of its own
    rw [Method.run_bind_of_ok (Method.run_modify _ r)] at he
    by_cases hannounce : r.announceStreamTermination = true
    · rw [Method.run_bind_of_err (Method.run_throwIf_pos hannounce _ _)] at he
      obtain rfl := Outcome.err.inj he
      exact absurd hrejects (by simp [SacnError.Rejects])
    · rw [Method.run_bind_of_ok (Method.run_throwIf_neg hannounce _ _)] at he
      exact absurd he (by simp)
  rename_i hterminated
  rw [if_neg hterminated]
  split at he
  · exact absurd he (by simp)
  rename_i hlisten
  rw [if_neg hlisten]
  unfold acceptDataPacket at he ⊢
  rw [Method.run_bind_of_ok (Method.run_get r)] at he ⊢
  rcases checkSeqNumber_rejects r.sourceLimit cid pkt.sequenceNumber pkt.uni amb
    r.sequences.dataSequences with ⟨e', t, hcheck, hgone⟩ | ⟨t, hcheck⟩
  · rw [← hquiet] at hcheck
    refine ⟨t, hgone, ?_⟩
    rw [Method.run_bind_of_err (run_checkDataSeqNumber hcheck)]
  · rw [← hquiet] at hcheck
    rw [Method.run_bind_of_ok (run_checkDataSeqNumber hcheck)] at he
    refine absurd hrejects (dataRest_raises cid pkt recvTimestamp _ ?_ e he)
    exact hmerge

/-- **A sync packet that is rejected.** -/
theorem handleSyncPacket_rejected (hquiet : r.announceTimeout = false)
    {pkt : SynchronizationPacketFramingLayer} {order : List UInt16} {now : UInt16 → Nat}
    (he : ((handleSyncPacket cid pkt amb order now).run r).1 = .err e) :
    ∃ t, OnlyExpiredGone r.sequences.syncSequences amb.sweep t ∧
      ((handleSyncPacket cid pkt amb order now).run r).2 =
        { r with sequences := { r.sequences with syncSequences := t } } := by
  unfold handleSyncPacket at he ⊢
  rw [Method.run_bind_of_ok (Method.run_get r)] at he ⊢
  split at he
  · exact absurd he (by simp)
  rename_i hlisten
  rw [if_neg hlisten]
  rcases checkSeqNumber_rejects r.sourceLimit cid pkt.sequenceNumber pkt.synchronizationAddress amb
    r.sequences.syncSequences with ⟨e', t, hcheck, hgone⟩ | ⟨t, hcheck⟩
  · rw [← hquiet] at hcheck
    refine ⟨t, hgone, ?_⟩
    rw [Method.run_bind_of_err (run_checkSyncSeqNumber hcheck)]
  · rw [← hquiet] at hcheck
    rw [Method.run_bind_of_ok (run_checkSyncSeqNumber hcheck)] at he
    have hrest : Method.Raises (fun _ => True) (fun _ => False) (do
        let res ← rtrvWaitingData pkt.synchronizationAddress order now
        return if res.isEmpty then none else some res) :=
      .bind (.bind .get (fun _ _ => trivial) fun _ => takeWaitingData_raises fun _ _ _ => trivial)
        (fun _ _ => trivial) fun _ => .pure _
    exact absurd (hrest _ trivial e he) id

end Handlers

/-- **A rejected packet leaves no trace.** With timeouts not announced, and a merge function that
fails only with `DmxMergeError`, as `set_merge_fn` asks for: after a data packet or a sync packet
that is out of sequence, or of a source beyond the limit, the receiver is what it was but for the
expired entries of the table of that packet type. -/
theorem rejected_packet_leaves_no_trace {r : SacnReceiver} (hquiet : r.announceTimeout = false)
    (hmerge : ∀ i n e, r.mergeFunc i n = .err e → e = .dmxMergeError) (cid : Uuid) (amb : Ambient)
    (e : SacnError) (hrejects : e.Rejects) :
    (∀ pkt recvTimestamp,
      ((handleDataPacket cid pkt amb recvTimestamp).run r).1 = .err e →
        ∃ t, OnlyExpiredGone r.sequences.dataSequences amb.sweep t ∧
          ((handleDataPacket cid pkt amb recvTimestamp).run r).2 =
            { r with sequences := { r.sequences with dataSequences := t } }) ∧
    ∀ pkt order now,
      ((handleSyncPacket cid pkt amb order now).run r).1 = .err e →
        ∃ t, OnlyExpiredGone r.sequences.syncSequences amb.sweep t ∧
          ((handleSyncPacket cid pkt amb order now).run r).2 =
            { r with sequences := { r.sequences with syncSequences := t } } := by
  refine ⟨fun pkt recvTimestamp he => ?_, fun pkt order now he => ?_⟩
  · refine handleDataPacket_rejected hquiet (fun i n e' he' => ?_) he hrejects
    rw [hmerge i n e' he']
    simp [SacnError.Rejects]
  · exact handleSyncPacket_rejected hquiet he

/-- The packet that `holdingReceiver` has received, once more. -/
theorem repeated_packet_leaves_no_trace :
    ∃ t, OnlyExpiredGone holdingReceiver.sequences.dataSequences stillAmbient.sweep t ∧
      ((handleDataPacket (.repeated 1) samplePkt stillAmbient 0).run holdingReceiver).2 =
        { holdingReceiver with
          sequences := { holdingReceiver.sequences with dataSequences := t } } := by
  have hmerge : ∀ i n e, holdingReceiver.mergeFunc i n = .err e → e = .dmxMergeError := by
    intro i n e he
    have hdefault : holdingReceiver.mergeFunc i n =
        if i.priority > n.priority then .ok i else .ok n := rfl
    rw [hdefault] at he
    split at he <;> exact absurd he (by simp)
  exact (rejected_packet_leaves_no_trace rfl hmerge (.repeated 1) stillAmbient (.outOfSequence 0 0 0)
    (.inl ⟨0, 0, 0, rfl⟩)).1 samplePkt 0 (by decide)

end Sacn
