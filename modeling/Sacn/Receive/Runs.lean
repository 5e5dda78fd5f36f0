import Sacn.Receive.Receiver
import Sacn.Receive.Slots

/-!
# Runs of a receiver (`receive.rs`)

A run is the history of the calls an application makes, with the data each returned, and the
receiver they lead to. `seqCall` is the check of a sequence number that the handler of a packet
makes, for a packet that gets so far.

* `ReceiverCall.keeps`: the parts of the receiver that no call but a setter writes.
* `next_of_seqCall`, `next_of_seqCall_none`: what a call does to the sequence numbers.
-/

namespace Sacn

open Rust SacnReceiver

/-- The data a call returns. -/
def ReceiverCall.ended (r : SacnReceiver) :
    ReceiverCall → Outcome SacnError (Option (List DMXData))
  | listenUniverses universes => (fun _ => none) <$> ((SacnReceiver.listenUniverses universes).run r).1
  | muteUniverse uni => (fun _ => none) <$> ((SacnReceiver.muteUniverse uni).run r).1
  | handleDataPacket cid pkt amb recvTimestamp =>
    ((SacnReceiver.handleDataPacket cid pkt amb recvTimestamp).run r).1
  | handleSyncPacket cid pkt amb order now =>
    ((SacnReceiver.handleSyncPacket cid pkt amb order now).run r).1
  | checkTimeouts data sync => (fun _ => none) <$> ((SacnReceiver.onSequences
      (SequenceNumbering.checkTimeouts r.announceTimeout data sync)).run r).1
  | _ => .ok none

/-- A call with the data it returned. -/
abbrev ReceiverEvent : Type := ReceiverCall × Outcome SacnError (Option (List DMXData))

/-- A receiver that `with_ip` has made. -/
def CreatedWith (sourceLimit : Option Nat) (r : SacnReceiver) : Prop :=
  ∃ ip socket, withIp ip sourceLimit socket = .ok r

theorem newReceiver_created : CreatedWith none newReceiver :=
  ⟨{ ip := .v4 0 0 0 0, port := acnSdtMulticastPort }, { results := fun _ _ => none, calls := 0 },
    withIp_eq_ok.mpr ⟨by simp, rfl⟩⟩

/-- The runs of a receiver, by calls that `allowed` lets through. -/
abbrev ReceiverRun (start : SacnReceiver → Prop) (allowed : SacnReceiver → ReceiverCall → Prop) :
    List ReceiverEvent → SacnReceiver → Prop :=
  Run (fun r c => (c.ended r, c.next r)) start allowed

/-- The call does not turn the announcement of timeouts on. -/
def ReceiverCall.Quiet (c : ReceiverCall) : Prop :=
  ∀ preview discovery termination timeout,
    c = .setFlags preview discovery termination timeout → timeout = false

/-! ## What no call writes -/

section Keeps

variable {τ : Type} {f : SacnReceiver → τ}

/-- **What no call but a setter writes.** -/
theorem ReceiverCall.keeps (hreceiver : ∀ r receiver, f { r with receiver } = f r)
    (huniverses : ∀ r universes, f { r with universes } = f r)
    (hsequences : ∀ r sequences, f { r with sequences } = f r)
    (hwaiting : ∀ r waitingData, f { r with waitingData } = f r)
    (hdiscovered : ∀ r discoveredSources, f { r with discoveredSources } = f r)
    (hpartially : ∀ r partiallyDiscoveredSources, f { r with partiallyDiscoveredSources } = f r)
    {r : SacnReceiver} {c : ReceiverCall}
    (hmerge : ∀ mergeFunc, c = .setMergeFn mergeFunc → f { r with mergeFunc } = f r)
    (hflags : ∀ processPreviewData announceSourceDiscovery announceStreamTermination
      announceTimeout, c = .setFlags processPreviewData announceSourceDiscovery
        announceStreamTermination announceTimeout → f { r with
          processPreviewData, announceSourceDiscovery, announceStreamTermination
          announceTimeout } = f r) : f (c.next r) = f r := by
  cases c with
  | listenUniverses universes => exact keeps_listenUniverses universes hreceiver huniverses r
  | muteUniverse uni => exact keeps_muteUniverse uni hreceiver huniverses r
  | handleDataPacket cid pkt amb recvTimestamp =>
    refine Method.Keeps.bind .get (fun s => ?_) r
    split
    · exact .pure _
    · split
      · exact .bind (.modify (terminateStream_keeps hsequences hdiscovered cid pkt.uni)) fun _ =>
          .bind (.throwIf _ _) fun _ => .pure _
      · split
        · exact .pure _
        · exact keeps_acceptDataPacket cid pkt amb recvTimestamp hreceiver huniverses hsequences
            hwaiting
  | handleSyncPacket cid pkt amb order now =>
    exact keeps_handleSyncPacket cid pkt amb order now hsequences hwaiting r
  | handleUniverseDiscoveryPacket cid pkt now =>
    exact handleUniverseDiscoveryPacket_keeps hdiscovered hpartially cid pkt now r
  | checkTimeouts data sync => exact keeps_onSequences _ hsequences r
  | checkWaitingDataTimeouts now => exact hwaiting r _
  | clearWaitingData uni => exact hwaiting r _
  | clearAllWaitingData => exact hwaiting r _
  | removeExpiredSources now =>
    exact (hdiscovered { r with partiallyDiscoveredSources :=
      (SacnReceiver.removeExpiredSources now r).partiallyDiscoveredSources } _).trans
        (hpartially r _)
  | resetSources =>
    have hcleared := hsequences r (SequenceNumbering.clear.run r.sequences).2
    have hemptied := hpartially { r with sequences := (SequenceNumbering.clear.run r.sequences).2 } []
    exact (hdiscovered { r with
      sequences := (SequenceNumbering.clear.run r.sequences).2
      partiallyDiscoveredSources := [] } []).trans (hemptied.trans hcleared)
  | setMergeFn merge => exact hmerge merge rfl
  | setMulticastEnabled val => exact hreceiver r _
  | setFlags processPreviewData announceSourceDiscovery announceStreamTermination
      announceTimeout => exact hflags _ _ _ _ rfl

end Keeps

theorem ReceiverCall.next_sourceLimit (r : SacnReceiver) (c : ReceiverCall) :
    (c.next r).sourceLimit = r.sourceLimit :=
  ReceiverCall.keeps (fun _ _ => rfl) (fun _ _ => rfl) (fun _ _ => rfl) (fun _ _ => rfl)
    (fun _ _ => rfl) (fun _ _ => rfl) (fun _ _ => rfl) fun _ _ _ _ _ => rfl

theorem ReceiverCall.Quiet.next {r : SacnReceiver} {c : ReceiverCall} (hc : c.Quiet)
    (h : r.announceTimeout = false) : (c.next r).announceTimeout = false := by
  refine (ReceiverCall.keeps (fun _ _ => rfl) (fun _ _ => rfl) (fun _ _ => rfl) (fun _ _ => rfl)
    (fun _ _ => rfl) (fun _ _ => rfl) (fun _ _ => rfl) ?_).trans h
  intro preview discovery termination timeout heq
  exact (hc _ _ _ _ heq).trans h.symm

/-! ## The check of a packet -/

/-- The check the handler of a packet makes, if the packet gets so far. -/
def ReceiverCall.seqCall (r : SacnReceiver) : ReceiverCall → Option SeqCall
  | handleDataPacket cid pkt amb _ =>
    if (pkt.previewData && !r.processPreviewData) || pkt.streamTerminated ||
      !r.isListening pkt.uni then none
    else some { stream := { kind := .data, cid, uni := pkt.uni }
                sequenceNumber := pkt.sequenceNumber, amb }
  | handleSyncPacket cid pkt amb _ _ =>
    if !r.isListening pkt.synchronizationAddress then none
    else some { stream := { kind := .sync, cid, uni := pkt.synchronizationAddress }
                sequenceNumber := pkt.sequenceNumber, amb }
  | _ => none

/-- A data packet that gets as far as its check is judged by `acceptDataPacket`. -/
theorem handleDataPacket_of_seqCall {r : SacnReceiver} {cid : Uuid}
    {pkt : DataPacketFramingLayer} {amb : Ambient} {recvTimestamp : Nat} {check : SeqCall}
    (h : (ReceiverCall.handleDataPacket cid pkt amb recvTimestamp).seqCall r = some check) :
    check = { stream := { kind := .data, cid, uni := pkt.uni }
              sequenceNumber := pkt.sequenceNumber, amb } ∧
      (handleDataPacket cid pkt amb recvTimestamp).run r =
        (acceptDataPacket cid pkt amb recvTimestamp).run r := by
  rw [ReceiverCall.seqCall] at h
  split at h
  · exact absurd h (by simp)
  · rename_i hreach
    rw [Bool.or_eq_true, Bool.or_eq_true, not_or, not_or] at hreach
    refine ⟨(Option.some.inj h).symm, ?_⟩
    unfold handleDataPacket
    rw [Method.run_bind_of_ok (Method.run_get r), if_neg hreach.1.1, if_neg hreach.1.2,
      if_neg hreach.2]

theorem handleSyncPacket_of_seqCall {r : SacnReceiver} {cid : Uuid}
    {pkt : SynchronizationPacketFramingLayer} {amb : Ambient} {order : List UInt16}
    {now : UInt16 → Nat} {check : SeqCall}
    (h : (ReceiverCall.handleSyncPacket cid pkt amb order now).seqCall r = some check) :
    check = { stream := { kind := .sync, cid, uni := pkt.synchronizationAddress }
              sequenceNumber := pkt.sequenceNumber, amb } ∧
      ¬ (!r.isListening pkt.synchronizationAddress) = true := by
  rw [ReceiverCall.seqCall] at h
  split at h
  · exact absurd h (by simp)
  · rename_i hlisten
    exact ⟨(Option.some.inj h).symm, hlisten⟩

/-- **What the check of a packet does to the receiver**: the rest of the handler leaves the sequence
numbers as the check made them, and returns the error of the check. -/
theorem ReceiverCall.next_of_seqCall {r : SacnReceiver} (hquiet : r.announceTimeout = false)
    {c : ReceiverCall} {check : SeqCall} (h : c.seqCall r = some check) :
    (c.next r).sequences = ((check.check r.sourceLimit).run r.sequences).2 ∧
      ∀ e, ((check.check r.sourceLimit).run r.sequences).1 = .err e → c.ended r = .err e := by
  cases c with
  | handleDataPacket cid pkt amb recvTimestamp =>
    obtain ⟨rfl, hrun⟩ := handleDataPacket_of_seqCall h
    unfold ReceiverCall.next ReceiverCall.ended
    simp only [hrun]
    unfold acceptDataPacket
    rw [Method.run_bind_of_ok (Method.run_get r), hquiet]
    constructor
    · refine (Method.Keeps.run_bind (fun _ => ?_) r).trans rfl
      split
      · exact .bind (.modify fun _ => rfl) fun _ => .pure _
      · exact .bind (keeps_listenUniverses _ (fun _ _ => rfl) fun _ _ => rfl) fun _ =>
          .bind (keeps_storeWaitingData _ fun _ _ => rfl) fun _ => .pure _
    · intro e he
      refine Method.run_bind_fst_err ?_ _
      exact he
  | handleSyncPacket cid pkt amb order now =>
    obtain ⟨rfl, hlisten⟩ := handleSyncPacket_of_seqCall h
    unfold ReceiverCall.next ReceiverCall.ended
    simp only
    unfold SacnReceiver.handleSyncPacket
    rw [Method.run_bind_of_ok (Method.run_get r), if_neg hlisten, hquiet]
    constructor
    · refine (Method.Keeps.run_bind (fun _ => ?_) r).trans rfl
      exact .bind (.bind .get fun s => keeps_takeWaitingData fun _ _ => rfl) fun _ => .pure _
    · intro e he
      refine Method.run_bind_fst_err ?_ _
      exact he
  | _ => exact absurd h (by simp [ReceiverCall.seqCall])

/-- The tables of `n'` have no source that those of `n` do not have. -/
def SequenceNumbering.NoNewSource (n n' : SequenceNumbering) : Prop :=
  ∀ kind cid, (HashMap.get (n'.table kind) cid).isSome → (HashMap.get (n.table kind) cid).isSome

theorem noNewSource_removeSeqNumbers (n : SequenceNumbering) (cid : Uuid) (uni : UInt16) :
    n.NoNewSource ((SequenceNumbering.removeSeqNumbers cid uni).run n).2 := by
  rw [removeSeqNumbers_state]
  split
  · intro kind
    cases kind <;> exact fun _ => SeqTable.isSome_of_forget
  · exact fun _ _ h => h

theorem noNewSource_checkTimeouts (n : SequenceNumbering) (data sync : Ambient) :
    n.NoNewSource ((SequenceNumbering.checkTimeouts false data sync).run n).2 := by
  intro kind
  cases kind <;> exact fun _ => SeqTable.isSome_of_sweep

/-- **A call that checks no packet** takes no source in. -/
theorem ReceiverCall.next_of_seqCall_none {r : SacnReceiver} (hquiet : r.announceTimeout = false)
    {c : ReceiverCall} (h : c.seqCall r = none) :
    r.sequences.NoNewSource (c.next r).sequences := by
  have hsame : ∀ {n : SequenceNumbering}, n = r.sequences → r.sequences.NoNewSource n := by
    rintro _ rfl _ _ h
    exact h
  cases c with
  | listenUniverses universes =>
    exact hsame (keeps_listenUniverses universes (fun _ _ => rfl) (fun _ _ => rfl) r)
  | muteUniverse uni => exact hsame (keeps_muteUniverse uni (fun _ _ => rfl) (fun _ _ => rfl) r)
  | handleDataPacket cid pkt amb recvTimestamp =>
    rw [ReceiverCall.seqCall] at h
    unfold ReceiverCall.next SacnReceiver.handleDataPacket
    simp only
    rw [Method.run_bind_of_ok (Method.run_get r)]
    split
    · exact hsame rfl
    · split
      · rw [Method.run_bind_of_ok (Method.run_modify _ r)]
        have hrest : Method.Keeps SacnReceiver.sequences (do
            Method.throwIf (r.announceStreamTermination = true)
              (SacnError.universeTerminated cid pkt.uni)
            return (none : Option (List DMXData))) := .bind (.throwIf _ _) fun _ => .pure _
        rw [hrest, terminateStream_eq]
        exact noNewSource_removeSeqNumbers r.sequences cid pkt.uni
      · split
        · exact hsame rfl
        · rename_i hpreview hterminated hlisten
          rw [if_neg (by simp_all)] at h
          exact absurd h (by simp)
  | handleSyncPacket cid pkt amb order now =>
    rw [ReceiverCall.seqCall] at h
    unfold ReceiverCall.next SacnReceiver.handleSyncPacket
    simp only
    rw [Method.run_bind_of_ok (Method.run_get r)]
    split
    · exact hsame rfl
    · rename_i hlisten
      rw [if_neg hlisten] at h
      exact absurd h (by simp)
  | handleUniverseDiscoveryPacket cid pkt now =>
    exact hsame (handleUniverseDiscoveryPacket_keeps (fun _ _ => rfl) (fun _ _ => rfl) cid pkt now r)
  | checkTimeouts data sync =>
    have hrun : ((ReceiverCall.checkTimeouts data sync).next r).sequences =
        ((SequenceNumbering.checkTimeouts r.announceTimeout data sync).run r.sequences).2 := rfl
    rw [hrun, hquiet]
    exact noNewSource_checkTimeouts r.sequences data sync
  | checkWaitingDataTimeouts now => exact hsame rfl
  | clearWaitingData uni => exact hsame rfl
  | clearAllWaitingData => exact hsame rfl
  | removeExpiredSources now => exact hsame rfl
  | resetSources =>
    intro kind cid hsome
    have hempty : HashMap.get ((resetSources.next r).sequences.table kind) cid = none := by
      cases kind <;> exact HashMap.get_empty cid
    rw [hempty] at hsome
    exact absurd hsome (by simp)
  | setMergeFn merge => exact hsame rfl
  | setMulticastEnabled val => exact hsame rfl
  | setFlags _ _ _ _ => exact hsame rfl

end Sacn
