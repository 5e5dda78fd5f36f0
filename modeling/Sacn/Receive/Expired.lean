import Sacn.Receive.Listening

/-!
# Expired data and live data (`receive.rs`)

A held frame is looked at for its age by `check_waiting_data_timeouts`, at the top of the receive
loop, and by `rtrv_waiting_data`, when it is released. `store_waiting_data` does not look: it merges
the new frame with whatever is held.

* `held_next`: a young frame stays, or is delivered, whatever is called in between.
* `absent_next`: a frame that is not held, and is not made, is not delivered.
* **`delivered_iff_not_outranked`**: a synchronised frame is delivered by the sync packet exactly
  when no expired frame of a higher priority was held for its universe.
-/

namespace Sacn

open Rust SacnReceiver

/-! ## The frame in between -/

/-- The calls between a data packet of `u` and its sync packet: no data packet of `u`, no clearing,
and every look at what is held for `u` is earlier than `stop`. -/
structure Between (u : UInt16) (stop : Nat) (r : SacnReceiver) (c : ReceiverCall) : Prop
    extends ListenStep r c where
  data : ∀ cid pkt amb recvTimestamp, c = .handleDataPacket cid pkt amb recvTimestamp → pkt.uni ≠ u
  clear : c ≠ .clearWaitingData u ∧ c ≠ .clearAllWaitingData
  sync : ∀ cid pkt amb order now, c = .handleSyncPacket cid pkt amb order now → now u < stop
  sweep : ∀ now, c = .checkWaitingDataTimeouts now → now u < stop

/-- If the frame is held for `u`, it still is, or has been handed out. -/
def StaysOrGiven (u : UInt16) (f : DMXData) (m : HashMap UInt16 DMXData) (frames : List DMXData)
    (m' : HashMap UInt16 DMXData) : Prop :=
  m.get u = some f → m'.get u = some f ∨ f ∈ frames

theorem StaysOrGiven.nothing {u : UInt16} {f : DMXData} (m : HashMap UInt16 DMXData) :
    StaysOrGiven u f m [] m := .inl

section Step

variable {u : UInt16} {f : DMXData} {r : SacnReceiver}

theorem handleDataPacket_stays (cid : Uuid) {pkt : DataPacketFramingLayer} (hu : pkt.uni ≠ u)
    (amb : Ambient) (recvTimestamp : Nat) :
    HeldStep (StaysOrGiven u f) (handleDataPacket cid pkt amb recvTimestamp) r := by
  refine HeldStep.bind StaysOrGiven.nothing .get fun _ s _ _ => ?_
  split
  · exact StaysOrGiven.nothing _
  · split
    · exact HeldStep.bind StaysOrGiven.nothing
        (.modify (terminateStream_keeps (fun _ _ => rfl) (fun _ _ => rfl) cid pkt.uni)) fun _ t _ _ =>
          HeldStep.bind StaysOrGiven.nothing (.throwIf _ _) fun _ _ _ _ => StaysOrGiven.nothing _
    · split
      · exact StaysOrGiven.nothing _
      · refine HeldStep.bind StaysOrGiven.nothing .get fun _ _ _ _ =>
          HeldStep.bind StaysOrGiven.nothing (fun _ => rfl) fun _ t _ _ => ?_
        split
        · intro hf
          exact .inl (((HashMap.get_remove _ _ _).trans (if_neg hu.symm)).trans hf)
        · refine HeldStep.bind StaysOrGiven.nothing
            (keeps_listenUniverses _ (fun _ _ => rfl) fun _ _ => rfl) fun _ w _ _ => ?_
          refine heldStep_storeWaitingData fun hf => .inl ?_
          have hsame : ((storeWaitingData (dmxData cid pkt recvTimestamp)).run w).2.waitingData.get u =
              w.waitingData.get u := get_storeWaitingData_of_ne hu.symm
          exact hsame.trans hf

/-- A release gives the frames of its address that are young enough, and leaves the others. -/
theorem handleSyncPacket_stays (cid : Uuid) (pkt : SynchronizationPacketFramingLayer)
    (amb : Ambient) {order : List UInt16} {now : UInt16 → Nat}
    (horder : HashMap.IsOrder order r.waitingData)
    (hyoung : elapsed f.recvTimestamp (now u) < e131NetworkDataLossTimeout) :
    HeldStep (StaysOrGiven u f) (handleSyncPacket cid pkt amb order now) r := by
  refine HeldStep.bind StaysOrGiven.nothing .get fun _ s _ hs => ?_
  split
  · exact StaysOrGiven.nothing _
  · refine HeldStep.bind StaysOrGiven.nothing (fun _ => rfl) fun _ t _ ht => ?_
    rw [← (Prod.mk.inj (ht.trans hs)).1] at horder
    unfold HeldStep
    rw [Method.run_bind_of_ok (rtrvWaitingData_run horder)]
    show StaysOrGiven u f _ (framesOf (.ok (released _))) _
    rw [framesOf_released]
    intro hf
    by_cases haddr : f.syncUni = pkt.synchronizationAddress
    · refine .inr (List.mem_filterMap.mpr ⟨u, (mem_keysOf horder).mpr ⟨f, hf, haddr⟩, ?_⟩)
      exact youngFrame_eq_some.mpr ⟨hf, hyoung⟩
    · refine .inl (get_foldl_remove.trans ((if_neg fun hu => haddr ?_).trans hf))
      obtain ⟨d, hd, hd'⟩ := (mem_keysOf horder).mp hu
      rw [Option.some.inj (hf.symm.trans hd)]
      exact hd'

/-- **A young frame stays or is delivered** by a call in between. -/
theorem held_next {c : ReceiverCall} {stop : Nat} (hc : Between u stop r c)
    (hstop : stop = f.recvTimestamp + e131NetworkDataLossTimeout)
    (hf : r.waitingData.get u = some f) :
    (c.next r).waitingData.get u = some f ∨ f ∈ framesOf (c.ended r) := by
  have hyoung : ∀ now, now < stop → elapsed f.recvTimestamp now < e131NetworkDataLossTimeout := by
    intro now hnow
    have hpos : 0 < e131NetworkDataLossTimeout := by decide
    unfold elapsed
    omega
  have hkept : ∀ {s : SacnReceiver}, s.held = r.held → s.waitingData.get u = some f := fun hs => by
    rw [(Prod.mk.inj hs).1]
    exact hf
  cases c with
  | listenUniverses universes =>
    exact .inl (hkept (keeps_listenUniverses universes (fun _ _ => rfl) (fun _ _ => rfl) r))
  | muteUniverse uni =>
    exact .inl (hkept (keeps_muteUniverse uni (fun _ _ => rfl) (fun _ _ => rfl) r))
  | handleDataPacket cid pkt amb recvTimestamp =>
    exact handleDataPacket_stays cid (hc.data _ _ _ _ rfl) amb recvTimestamp hf
  | handleSyncPacket cid pkt amb order now =>
    exact handleSyncPacket_stays cid pkt amb (hc.order _ _ _ _ _ rfl)
      (hyoung _ (hc.sync _ _ _ _ _ rfl)) hf
  | handleUniverseDiscoveryPacket cid pkt now =>
    exact .inl (hkept (handleUniverseDiscoveryPacket_keeps (fun _ _ => rfl) (fun _ _ => rfl) cid pkt
      now r))
  | checkTimeouts data sync => exact .inl (hkept (keeps_onSequences _ (fun _ _ => rfl) r))
  | checkWaitingDataTimeouts now =>
    refine .inl ((HashMap.get_retain _ _ _).trans ?_)
    rw [hf]
    exact Option.filter_some_pos (decide_eq_true (hyoung _ (hc.sweep now rfl)))
  | clearWaitingData uni =>
    refine .inl ((HashMap.get_remove _ _ _).trans ((if_neg fun hu => ?_).trans hf))
    exact hc.clear.1 (hu ▸ rfl)
  | clearAllWaitingData => exact absurd rfl hc.clear.2
  | removeExpiredSources now => exact .inl hf
  | resetSources => exact .inl hf
  | setMergeFn merge => exact .inl hf
  | setMulticastEnabled val => exact .inl hf
  | setFlags _ _ _ _ => exact .inl hf

/-- **A frame of `u` that is not held** is not delivered, and is not held after the call. -/
theorem absent_next {c : ReceiverCall} {stop : Nat} (hc : Between u stop r c) (huni : f.uni = u)
    (hkeyed : ∀ v d, r.waitingData.get v = some d → d.uni = v)
    (hmerge : KeepsUniverse r.mergeFunc) (hf : ∀ v, r.waitingData.get v ≠ some f) :
    f ∉ framesOf (c.ended r) ∧ ∀ v, (c.next r).waitingData.get v ≠ some f := by
  obtain ⟨hframes, hheld⟩ := ReceiverCall.oldOr hkeyed hmerge hc.toListenStep
  have hnever : ¬ Makes r c f := by
    rintro ⟨cid, pkt, amb, recvTimestamp, hcall, -, hpkt, -⟩
    exact hc.data cid pkt amb recvTimestamp hcall (hpkt.trans huni)
  refine ⟨fun hmem => ?_, fun v hv => ?_⟩
  · rcases hframes f hmem with ⟨v, hv⟩ | hmakes
    · exact hf v hv
    · exact hnever hmakes
  · rcases hheld v f hv with hold | ⟨hmakes, -⟩
    · exact hf v hold
    · exact hnever hmakes

end Step

/-! ## The data packet -/

/-- A frame of a higher priority that has expired at `now` is held for the universe. -/
def SacnReceiver.HoldsExpiredAbove (r : SacnReceiver) (uni : UInt16) (priority : UInt8) (now : Nat) :
    Prop :=
  ∃ d, r.waitingData.get uni = some d ∧ d.priority > priority ∧
    e131NetworkDataLossTimeout ≤ elapsed d.recvTimestamp now

section Data

variable {r : SacnReceiver} {cid : Uuid} {pkt : DataPacketFramingLayer} {amb : Ambient}
  {recvTimestamp : Nat}

theorem DataPacketFramingLayer.AcceptedBy.handled (h : pkt.AcceptedBy r cid amb)
    (recvTimestamp : Nat) : (handleDataPacket cid pkt amb recvTimestamp).run r =
      (acceptDataPacket cid pkt amb recvTimestamp).run r := by
  unfold handleDataPacket
  rw [Method.run_bind_of_ok (Method.run_get r), if_neg (by simp [h.plain.1]),
    if_neg (by simp [h.plain.2]), if_neg (by simp [h.listening])]

/-- An accepted synchronised packet is stored. -/
theorem waitingData_of_accepted (h : pkt.AcceptedBy r cid amb)
    (hsync : pkt.synchronizationAddress ≠ e131NoSyncAddr)
    (hok : ((handleDataPacket cid pkt amb recvTimestamp).run r).1 = .ok none) :
    ∃ s, s.held = r.held ∧ ((handleDataPacket cid pkt amb recvTimestamp).run r).2.waitingData =
      ((storeWaitingData (dmxData cid pkt recvTimestamp)).run s).2.waitingData := by
  rw [h.handled] at hok ⊢
  obtain ⟨r', hrun⟩ : ∃ r', (acceptDataPacket cid pkt amb recvTimestamp).run r = (.ok none, r') :=
    ⟨_, Prod.ext hok rfl⟩
  rw [hrun]
  unfold acceptDataPacket at hrun
  rw [Method.run_bind_of_ok (Method.run_get r)] at hrun
  obtain ⟨_, s, hcheck, hrest⟩ := Method.run_bind_eq_ok.mp hrun
  rw [if_neg hsync] at hrest
  obtain ⟨_, t, hlisten, hstore⟩ := Method.run_bind_eq_ok.mp hrest
  obtain ⟨_, w, hstored, hend⟩ := Method.run_bind_eq_ok.mp hstore
  have hs : s.held = r.held := by
    have hkeeps := keeps_onSequences (f := SacnReceiver.held) (SequenceNumbering.checkDataSeqNumber
      r.sourceLimit cid pkt.sequenceNumber pkt.uni r.announceTimeout amb) (fun _ _ => rfl) r
    rwa [hcheck] at hkeeps
  have ht : t.held = s.held := by
    have hkeeps := keeps_listenUniverses (f := SacnReceiver.held) [pkt.synchronizationAddress]
      (fun _ _ => rfl) (fun _ _ => rfl) s
    rwa [hlisten] at hkeeps
  refine ⟨t, ht.trans hs, ?_⟩
  rw [hstored, ← (Prod.mk.inj hend).2]

/-- **What is held after it**, with the default merge function: the packet's frame, or the frame of a
higher priority that was held. -/
theorem held_after_accepted (hmerge : r.mergeFunc = defaultMergeFunc) (h : pkt.AcceptedBy r cid amb)
    (hsync : pkt.synchronizationAddress ≠ e131NoSyncAddr)
    (hok : ((handleDataPacket cid pkt amb recvTimestamp).run r).1 = .ok none) :
    ((∀ d, r.waitingData.get pkt.uni = some d → ¬ d.priority > pkt.priority) →
      ((handleDataPacket cid pkt amb recvTimestamp).run r).2.waitingData.get pkt.uni =
        some (dmxData cid pkt recvTimestamp)) ∧
    (∀ d, r.waitingData.get pkt.uni = some d → d.priority > pkt.priority →
      ((handleDataPacket cid pkt amb recvTimestamp).run r).2.waitingData.get pkt.uni = some d) ∧
    ∀ u, u ≠ pkt.uni → ((handleDataPacket cid pkt amb recvTimestamp).run r).2.waitingData.get u =
      r.waitingData.get u := by
  obtain ⟨s, hs, hstored⟩ := waitingData_of_accepted h hsync hok
  obtain ⟨hheld, hfunc⟩ := Prod.mk.inj hs
  have huni : (dmxData cid pkt recvTimestamp).uni = pkt.uni := rfl
  have hpriority : (dmxData cid pkt recvTimestamp).priority = pkt.priority := rfl
  have hinto := storeWaitingData_run (dmxData cid pkt recvTimestamp) s
  rw [hheld, hfunc, hmerge, huni] at hinto
  rw [hstored]
  refine ⟨fun hnone => ?_, fun d hd hhigh => ?_, fun u hu => ?_⟩
  · cases hget : r.waitingData.get pkt.uni with
    | none =>
      rw [hget] at hinto
      rw [hinto]
      exact HashMap.get_insert_self _ _ _
    | some d =>
      have htakes : defaultMergeFunc d (dmxData cid pkt recvTimestamp) =
          .ok (dmxData cid pkt recvTimestamp) := if_neg (hnone d hget)
      rw [hget] at hinto
      simp only [htakes] at hinto
      rw [hinto]
      exact HashMap.get_insert_self _ _ _
  · have hkeepsOld : defaultMergeFunc d (dmxData cid pkt recvTimestamp) = .ok d := if_pos hhigh
    rw [hd] at hinto
    simp only [hkeepsOld] at hinto
    rw [hinto]
    exact HashMap.get_insert_self _ _ _
  · have hsame : ((storeWaitingData (dmxData cid pkt recvTimestamp)).run s).2.waitingData.get u =
        s.waitingData.get u := get_storeWaitingData_of_ne hu
    rw [hsame, hheld]

/-- **A frame of a higher priority keeps it out**: the packet's frame is nowhere among those held
after it. -/
theorem absent_of_outranked (hmerge : r.mergeFunc = defaultMergeFunc)
    (hkeyed : ∀ v e, r.waitingData.get v = some e → e.uni = v) (hkeeps : KeepsUniverse r.mergeFunc)
    (haccept : pkt.AcceptedBy r cid amb) (hsync : pkt.synchronizationAddress ≠ e131NoSyncAddr)
    (hok : ((handleDataPacket cid pkt amb recvTimestamp).run r).1 = .ok none) {d : DMXData}
    (hd : r.waitingData.get pkt.uni = some d) (hhigh : d.priority > pkt.priority) :
    (∀ v e, ((handleDataPacket cid pkt amb recvTimestamp).run r).2.waitingData.get v = some e →
        e.uni = v) ∧
      KeepsUniverse ((handleDataPacket cid pkt amb recvTimestamp).run r).2.mergeFunc ∧
      ∀ v, ((handleDataPacket cid pkt amb recvTimestamp).run r).2.waitingData.get v ≠
        some (dmxData cid pkt recvTimestamp) := by
  obtain ⟨-, hkept, hothers⟩ := held_after_accepted hmerge haccept hsync hok
  have hfunc : ((handleDataPacket cid pkt amb recvTimestamp).run r).2.mergeFunc = r.mergeFunc :=
    ReceiverCall.keeps (f := SacnReceiver.mergeFunc)
      (c := .handleDataPacket cid pkt amb recvTimestamp) (fun _ _ => rfl) (fun _ _ => rfl)
      (fun _ _ => rfl) (fun _ _ => rfl) (fun _ _ => rfl) (fun _ _ => rfl) (by rintro _ ⟨⟩)
      (by rintro _ _ _ _ ⟨⟩)
  refine ⟨fun v e he => ?_, hfunc ▸ hkeeps, fun v hv => ?_⟩
  · by_cases hu : v = pkt.uni
    · rw [hu, hkept d hd hhigh] at he
      rw [hu, ← Option.some.inj he]
      exact hkeyed pkt.uni d hd
    · exact hkeyed v e ((hothers v hu).symm.trans he)
  · by_cases hu : v = pkt.uni
    · rw [hu, hkept d hd hhigh] at hv
      rw [Option.some.inj hv] at hhigh
      exact absurd hhigh (Std.lt_irrefl (a := pkt.priority))
    · exact hu (hkeyed v _ ((hothers v hu).symm.trans hv)).symm

end Data

/-! ## Delivery -/

/-- Some call of the history handed the frame out. -/
def GivenIn (log : List ListenEvent) (f : DMXData) : Prop :=
  ∃ e ∈ log, f ∈ framesOf (e.1.ended e.2)

theorem givenIn_snoc {log : List ListenEvent} {e : ListenEvent} {f : DMXData} :
    GivenIn (log ++ [e]) f ↔ GivenIn log f ∨ f ∈ framesOf (e.1.ended e.2) := by
  unfold GivenIn
  constructor
  · rintro ⟨x, hx, hf⟩
    rcases List.mem_append.mp hx with hx | hx
    · exact .inl ⟨x, hx, hf⟩
    · rw [List.mem_singleton.mp hx] at hf
      exact .inr hf
  · rintro (⟨x, hx, hf⟩ | hf)
    · exact ⟨x, List.mem_append_left _ hx, hf⟩
    · exact ⟨e, by simp, hf⟩

/-- The calls made after `start`, up to `stop`. -/
abbrev LaterRun (start : SacnReceiver) (u : UInt16) (stop : Nat) :
    List ListenEvent → SacnReceiver → Prop :=
  Run (fun r c => (r, c.next r)) (· = start) (Between u stop)

section Later

variable {start r : SacnReceiver} {u : UInt16} {stop : Nat} {log : List ListenEvent} {f : DMXData}

/-- A young frame that was held at the start is held or has been handed out. -/
theorem LaterRun.stays (h : LaterRun start u stop log r)
    (hstop : stop = f.recvTimestamp + e131NetworkDataLossTimeout)
    (hf : start.waitingData.get u = some f) : r.waitingData.get u = some f ∨ GivenIn log f := by
  refine h.invariant (P := fun log r => r.waitingData.get u = some f ∨ GivenIn log f)
    (fun s hs => .inl (hs ▸ hf)) fun log s c hc hs => ?_
  rcases hs with hheld | hgiven
  · exact (held_next hc hstop hheld).imp id fun hgive => givenIn_snoc.mpr (.inr hgive)
  · exact .inr (givenIn_snoc.mpr (.inl hgiven))

/-- A frame of `u` that was not held at the start is not held and has not been handed out. -/
theorem LaterRun.absent (h : LaterRun start u stop log r) (huni : f.uni = u)
    (hkeyed : ∀ v d, start.waitingData.get v = some d → d.uni = v)
    (hmerge : KeepsUniverse start.mergeFunc) (hf : ∀ v, start.waitingData.get v ≠ some f) :
    (∀ v d, r.waitingData.get v = some d → d.uni = v) ∧ KeepsUniverse r.mergeFunc ∧
      (∀ v, r.waitingData.get v ≠ some f) ∧ ¬ GivenIn log f := by
  refine h.invariant (P := fun log r => (∀ v d, r.waitingData.get v = some d → d.uni = v) ∧
    KeepsUniverse r.mergeFunc ∧ (∀ v, r.waitingData.get v ≠ some f) ∧ ¬ GivenIn log f)
    (fun s hs => ?_) fun log s c hc ⟨hkeyed, hmerge, hf, hnot⟩ => ?_
  · rw [hs]
    exact ⟨hkeyed, hmerge, hf, fun ⟨_, he, _⟩ => absurd he (by simp)⟩
  · obtain ⟨hgive, hheld⟩ := absent_next hc huni hkeyed hmerge hf
    obtain ⟨hkeyed', hmerge'⟩ := keyed_next hkeyed hmerge hc.toListenStep
    exact ⟨hkeyed', hmerge', hheld, fun h => (givenIn_snoc.mp h).elim hnot hgive⟩

end Later

/-- **Live data loses to expired data.** A synchronised data packet is accepted at `recvTimestamp`,
and an accepted sync packet of its address follows before that frame is too old. If every frame of a
higher priority that is held for the universe when the packet comes has expired by then, the
packet's frame is delivered exactly when there is no such frame. -/
theorem delivered_iff_not_outranked {log : List ListenEvent} {r : SacnReceiver}
    (hrun : ListenRun log r) (hmerge : r.mergeFunc = defaultMergeFunc) {cid : Uuid}
    {pkt : DataPacketFramingLayer} {amb : Ambient} {recvTimestamp : Nat}
    (haccept : pkt.AcceptedBy r cid amb) (hsync : pkt.synchronizationAddress ≠ e131NoSyncAddr)
    (hok : ((handleDataPacket cid pkt amb recvTimestamp).run r).1 = .ok none)
    {later : List ListenEvent} {r' : SacnReceiver}
    (hlater : LaterRun ((handleDataPacket cid pkt amb recvTimestamp).run r).2 pkt.uni
      (recvTimestamp + e131NetworkDataLossTimeout) later r')
    {syncCid : Uuid} {syncPkt : SynchronizationPacketFramingLayer} {syncAmb : Ambient}
    {order : List UInt16} {now : UInt16 → Nat}
    (haddr : syncPkt.synchronizationAddress = pkt.synchronizationAddress)
    (horder : HashMap.IsOrder order r'.waitingData)
    (hnow : now pkt.uni < recvTimestamp + e131NetworkDataLossTimeout)
    (hlisten : r'.isListening syncPkt.synchronizationAddress = true)
    (hcheck : ((SequenceNumbering.checkSyncSeqNumber r'.sourceLimit syncCid syncPkt.sequenceNumber
      syncPkt.synchronizationAddress r'.announceTimeout syncAmb).run r'.sequences).1 = .ok ()) :
    ((∀ d, r.waitingData.get pkt.uni = some d → d.priority > pkt.priority →
        e131NetworkDataLossTimeout ≤ elapsed d.recvTimestamp recvTimestamp) →
      GivenIn (later ++ [(.handleSyncPacket syncCid syncPkt syncAmb order now, r')])
        (dmxData cid pkt recvTimestamp)) ↔
    ¬ r.HoldsExpiredAbove pkt.uni pkt.priority recvTimestamp := by
  obtain ⟨hstored, -⟩ := held_after_accepted hmerge haccept hsync hok
  constructor
  · rintro hdelivers ⟨d, hd, hhigh, hexpired⟩
    have hlive : ∀ d, r.waitingData.get pkt.uni = some d → d.priority > pkt.priority →
        e131NetworkDataLossTimeout ≤ elapsed d.recvTimestamp recvTimestamp := by
      intro e he _
      rw [← Option.some.inj (hd.symm.trans he)]
      exact hexpired
    obtain ⟨hkeyed, hfunc, habsent⟩ :=
      absent_of_outranked hmerge hrun.accounted.keyed hrun.accounted.merge haccept hsync hok hd hhigh
    obtain ⟨hkeyed, hfunc, hnot, hgiven⟩ := hlater.absent rfl hkeyed hfunc habsent
    have hlast : Between pkt.uni (recvTimestamp + e131NetworkDataLossTimeout) r'
        (.handleSyncPacket syncCid syncPkt syncAmb order now) := by
      refine ⟨⟨by rintro _ _ _ _ ⟨⟩, ?_, by rintro _ ⟨⟩⟩, by rintro _ _ _ _ ⟨⟩, by simp, ?_,
        by rintro _ ⟨⟩⟩
      · rintro _ _ _ _ _ ⟨⟩
        exact horder
      · rintro _ _ _ _ _ ⟨⟩
        exact hnow
    rcases givenIn_snoc.mp (hdelivers hlive) with hearlier | hfinal
    · exact hgiven hearlier
    · exact (absent_next hlast rfl hkeyed hfunc hnot).1 hfinal
  · intro hnone hlive
    have hstart := hstored fun d hd hhigh => hnone ⟨d, hd, hhigh, hlive d hd hhigh⟩
    refine givenIn_snoc.mpr ((hlater.stays rfl hstart).symm.imp id fun hheld => ?_)
    show _ ∈ framesOf ((handleSyncPacket syncCid syncPkt syncAmb order now).run r').1
    rw [handleSyncPacket_run horder hlisten hcheck, framesOf_released]
    refine List.mem_filterMap.mpr ⟨pkt.uni, (mem_keysOf horder).mpr ⟨_, hheld, haddr.symm⟩, ?_⟩
    refine youngFrame_eq_some.mpr ⟨hheld, ?_⟩
    have hpos : 0 < e131NetworkDataLossTimeout := by decide
    show now pkt.uni - recvTimestamp < e131NetworkDataLossTimeout
    omega

/-! ## A lost frame -/

/-- A packet of universe 1 with a high priority. -/
def highPkt : DataPacketFramingLayer := { samplePkt with priority := 150 }

/-- It listens to universe 1 and has received the packet at 0. -/
def outrankedReceiver : SacnReceiver :=
  (ReceiverCall.handleDataPacket (.repeated 1) highPkt stillAmbient 0).next
    ((ReceiverCall.listenUniverses [1]).next newReceiver)

theorem outrankedReceiver_run : ∃ log, ListenRun log outrankedReceiver :=
  have hpkt : highPkt.InDomain := ⟨⟨by decide, by decide⟩, by decide, by decide, by decide, by decide⟩
  ⟨_, (newReceiver_listenRun.snoc _ (listenStep_listen newReceiver [1])).snoc _
    (listenStep_data _ (.repeated 1) hpkt)⟩

/-- A call made 2.5 s later. -/
def lateAmbient : Ambient :=
  ambientAt e131NetworkDataLossTimeout { srcs := [], unis := fun _ => [] }

/-- The receiver once another source's packet has come, 2.5 s later. -/
def lateReceiver : SacnReceiver :=
  (ReceiverCall.handleDataPacket (.repeated 2) samplePkt lateAmbient
    e131NetworkDataLossTimeout).next outrankedReceiver

theorem lateReceiver_held : lateReceiver.waitingData =
    (HashMap.remove (HashMap.insert ∅ 1 (dmxData (.repeated 1) highPkt 0)) 1).insert 1
      (dmxData (.repeated 1) highPkt 0) := rfl

theorem lateReceiver_isOrder : HashMap.IsOrder [1] lateReceiver.waitingData := by
  refine ⟨by decide, fun k => ?_⟩
  rw [lateReceiver_held, HashMap.get_insert, List.mem_singleton]
  split
  · simp [*]
  · rename_i hk
    rw [HashMap.get_remove, if_neg hk, HashMap.get_insert, if_neg hk, HashMap.get_empty]
    simp [hk]

theorem outrankedReceiver_accepts :
    samplePkt.AcceptedBy outrankedReceiver (.repeated 2) lateAmbient :=
  ⟨by decide, by decide, by decide⟩

/-- The sync packet that comes with the late packet. -/
def lateSync : SynchronizationPacketFramingLayer :=
  { sequenceNumber := 0, synchronizationAddress := 7 }

theorem lateReceiver_delivered_iff :
    ((∀ d, outrankedReceiver.waitingData.get 1 = some d → d.priority > 100 →
        e131NetworkDataLossTimeout ≤ elapsed d.recvTimestamp e131NetworkDataLossTimeout) →
      GivenIn ([] ++ [(.handleSyncPacket (.repeated 2) lateSync lateAmbient [1] fun _ =>
        e131NetworkDataLossTimeout, lateReceiver)])
        (dmxData (.repeated 2) samplePkt e131NetworkDataLossTimeout)) ↔
    ¬ outrankedReceiver.HoldsExpiredAbove 1 100 e131NetworkDataLossTimeout := by
  obtain ⟨log, hrun⟩ := outrankedReceiver_run
  exact delivered_iff_not_outranked hrun rfl outrankedReceiver_accepts (by decide) (by decide)
    (.nil rfl) rfl lateReceiver_isOrder (by decide) (by decide) (by decide)

/-- A frame of priority 150 that has been held for 2.5 s defeats one of priority 100 that has just
come, and is then too old to be delivered itself: the sync packet that follows at once delivers
nothing. -/
theorem expired_frame_defeats_live :
    (∃ log, ListenRun log outrankedReceiver) ∧
    outrankedReceiver.mergeFunc = defaultMergeFunc ∧
    (∀ d, outrankedReceiver.waitingData.get 1 = some d → d.priority > samplePkt.priority →
      e131NetworkDataLossTimeout ≤ elapsed d.recvTimestamp e131NetworkDataLossTimeout) ∧
    samplePkt.AcceptedBy outrankedReceiver (.repeated 2) lateAmbient ∧
    ((handleDataPacket (.repeated 2) samplePkt lateAmbient e131NetworkDataLossTimeout).run
      outrankedReceiver).1 = .ok none ∧
    lateReceiver.isListening 7 = true ∧
    ((SequenceNumbering.checkSyncSeqNumber lateReceiver.sourceLimit (.repeated 2) 0 7
      lateReceiver.announceTimeout lateAmbient).run lateReceiver.sequences).1 = .ok () ∧
    HashMap.IsOrder [1] lateReceiver.waitingData ∧
    ((handleSyncPacket (.repeated 2) lateSync lateAmbient [1] fun _ =>
      e131NetworkDataLossTimeout).run lateReceiver).1 = .ok none := by
  have hheld : outrankedReceiver.waitingData =
      HashMap.insert ∅ 1 (dmxData (.repeated 1) highPkt 0) := rfl
  refine ⟨outrankedReceiver_run, rfl, fun d hd _ => ?_, outrankedReceiver_accepts, by decide,
    by decide, by decide, lateReceiver_isOrder, by decide⟩
  rw [hheld] at hd
  obtain rfl := Option.some.inj ((HashMap.get_insert_self _ _ _).symm.trans hd)
  decide

end Sacn
