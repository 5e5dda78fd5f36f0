import Sacn.Receive.Receiver

/-!
# Data waiting for synchronisation (`receive.rs`)

The receiver holds at most one frame for each universe and releases them by sync address.

* `Reachable.waiting`: in every reachable state a frame is held under its own universe, and waits
  for a sync address.
* `takeWaitingData_run`: the loop that takes frames out.
* **`release_exact`**: an accepted sync packet releases the young frames of its address, drops its
  old ones, and leaves all others.
-/

namespace Sacn

open Rust Rust.Outcome SacnReceiver

/-- What is held under a universe is a frame of that universe that waits for a sync address. -/
def WaitingKeyed (waitingData : HashMap UInt16 DMXData) : Prop :=
  ∀ u d, waitingData.get u = some d → d.uni = u ∧ d.syncUni ≠ 0

/-- The invariant: the frames are keyed, and the merge function is one of the crate's. -/
structure SacnReceiver.Waiting (r : SacnReceiver) : Prop where
  keyed : WaitingKeyed r.waitingData
  provided : Provided r.mergeFunc

/-- What the invariant is about. -/
def SacnReceiver.held (r : SacnReceiver) : HashMap UInt16 DMXData × MergeFn :=
  (r.waitingData, r.mergeFunc)

theorem SacnReceiver.Waiting.of_held {r r' : SacnReceiver} (h : r'.held = r.held)
    (hr : r.Waiting) : r'.Waiting := by
  obtain ⟨hdata, hmerge⟩ := Prod.mk.inj h
  exact ⟨hdata ▸ hr.keyed, hmerge ▸ hr.provided⟩

/-- The frames a call returned. -/
def framesOf : Outcome SacnError (Option (List DMXData)) → List DMXData
  | .ok (some frames) => frames
  | _ => []

/-- What a call does to the held frames, with the frames it returns, is as `Q` says. -/
def HeldStep (Q : HashMap UInt16 DMXData → List DMXData → HashMap UInt16 DMXData → Prop)
    (x : Method SacnReceiver SacnError (Option (List DMXData))) (r : SacnReceiver) : Prop :=
  Q r.waitingData (framesOf (x.run r).1) (x.run r).2.waitingData

/-- A first step that leaves the held frames alone: what is left to look at is the rest, when it
succeeds. -/
theorem HeldStep.bind {Q : HashMap UInt16 DMXData → List DMXData → HashMap UInt16 DMXData → Prop}
    (hnothing : ∀ m, Q m [] m) {α : Type} {x : Method SacnReceiver SacnError α}
    {g : α → Method SacnReceiver SacnError (Option (List DMXData))} {r : SacnReceiver}
    (hx : Method.Keeps SacnReceiver.held x)
    (hg : ∀ a s, x.run r = (.ok a, s) → s.held = r.held → HeldStep Q (g a) s) :
    HeldStep Q (x >>= g) r := by
  have hkeeps := hx r
  unfold HeldStep
  rw [Method.run_bind]
  rcases hrun : x.run r with ⟨a | _ | _, s⟩
  · rw [hrun] at hkeeps
    have hstep := hg a s hrun hkeeps
    unfold HeldStep at hstep
    rw [(Prod.mk.inj hkeeps).1] at hstep
    exact hstep
  all_goals
    rw [hrun] at hkeeps
    have hsame : s.waitingData = r.waitingData := (Prod.mk.inj hkeeps).1
    simp only [hsame]
    exact hnothing r.waitingData

/-! ## Updates of the held frames -/

theorem WaitingKeyed.remove {m : HashMap UInt16 DMXData} (h : WaitingKeyed m) (u : UInt16) :
    WaitingKeyed (m.remove u) := by
  intro v d hd
  rw [HashMap.get_remove] at hd
  split at hd
  · exact absurd hd (by simp)
  · exact h v d hd

theorem WaitingKeyed.insert {m : HashMap UInt16 DMXData} (h : WaitingKeyed m) {u : UInt16}
    {d : DMXData} (huni : d.uni = u) (hsync : d.syncUni ≠ 0) : WaitingKeyed (m.insert u d) := by
  intro v e he
  rw [HashMap.get_insert] at he
  split at he
  · rename_i hv
    obtain rfl := Option.some.inj he
    exact ⟨huni.trans hv.symm, hsync⟩
  · exact h v e he

theorem WaitingKeyed.retain {m : HashMap UInt16 DMXData} (h : WaitingKeyed m)
    (p : UInt16 → DMXData → Bool) : WaitingKeyed (m.retain p) := by
  intro v d hd
  rw [HashMap.get_retain] at hd
  exact h v d (Option.filter_eq_some_iff.mp hd).1

theorem waiting_clear {r : SacnReceiver} (h : r.Waiting) (u : UInt16) :
    (clearWaitingData u r).Waiting := ⟨h.keyed.remove u, h.provided⟩

/-- **`store_waiting_data`**, by what is held for the frame's universe. -/
theorem storeWaitingData_run (data : DMXData) (r : SacnReceiver) :
    (storeWaitingData data).run r = match r.waitingData.get data.uni with
      | none => (.ok (), { r with waitingData := r.waitingData.insert data.uni data })
      | some existing => match r.mergeFunc existing data with
        | .ok merged => (.ok (),
            { r with waitingData := (r.waitingData.remove data.uni).insert data.uni merged })
        | .err e => (.err e, clearWaitingData data.uni r)
        | .panic => (.panic, clearWaitingData data.uni r) := by
  unfold storeWaitingData
  rw [Method.run_bind_of_ok (Method.run_get r)]
  cases r.waitingData.get data.uni with
  | none => rfl
  | some existing =>
    simp only
    rw [Method.run_bind_of_ok (Method.run_modify _ r), Method.run_bind]
    cases r.mergeFunc existing data <;> rfl

/-- Storing a frame that waits for a sync address. -/
theorem preserves_storeWaitingData {data : DMXData} (hsync : data.syncUni ≠ 0) :
    Method.Preserves SacnReceiver.Waiting (storeWaitingData data) := by
  intro r hr
  have hclear := waiting_clear hr data.uni
  rw [storeWaitingData_run]
  cases hget : r.waitingData.get data.uni with
  | none => exact ⟨hr.keyed.insert rfl hsync, hr.provided⟩
  | some existing =>
    have hexisting := hr.keyed data.uni existing hget
    simp only
    cases hmerge : r.mergeFunc existing data with
    | ok merged =>
      obtain ⟨huni, haddr⟩ := hr.provided.keeps_address hmerge hexisting.1
      have hmerged : merged.syncUni ≠ 0 := by
        rcases haddr with h | h
        · rw [h]
          exact hexisting.2
        · rw [h]
          exact hsync
      exact ⟨hclear.keyed.insert huni hmerged, hr.provided⟩
    | err e => exact hclear
    | panic => exact hclear

theorem preserves_takeWaitingData {now : UInt16 → Nat} {keys : List UInt16} :
    ∀ {res : List DMXData},
      Method.Preserves SacnReceiver.Waiting (takeWaitingData now keys res) := by
  induction keys with
  | nil => exact .pure _
  | cons k keys ih =>
    refine .get_bind fun r hr => ?_
    cases r.waitingData.get k with
    | none => exact hr
    | some data => exact ih _ (waiting_clear hr k)

/-! ## Every call -/

theorem waiting_handleDataPacket (cid : Uuid) (pkt : DataPacketFramingLayer) (amb : Ambient)
    (recvTimestamp : Nat) : Method.Preserves SacnReceiver.Waiting
      (SacnReceiver.handleDataPacket cid pkt amb recvTimestamp) := by
  refine preserves_handleDataPacket (fun _ s hs => ?_) ?_
  · exact hs.of_held (terminateStream_keeps (fun _ _ => rfl) (fun _ _ => rfl) cid pkt.uni s)
  · refine preserves_acceptDataPacket (fun _ _ => ?_) (fun s hs => waiting_clear hs pkt.uni) ?_
      fun hsync => preserves_storeWaitingData hsync
    · exact .of_keeps (keeps_onSequences _ fun _ _ => rfl) fun _ _ => .of_held
    · exact .of_keeps (keeps_listenUniverses _ (fun _ _ => rfl) fun _ _ => rfl) fun _ _ => .of_held

theorem waiting_handleSyncPacket (cid : Uuid) (pkt : SynchronizationPacketFramingLayer)
    (amb : Ambient) (order : List UInt16) (now : UInt16 → Nat) :
    Method.Preserves SacnReceiver.Waiting
      (SacnReceiver.handleSyncPacket cid pkt amb order now) := by
  refine .get_bind fun r hr => ?_
  split
  · exact hr
  · refine Method.Preserves.bind (.of_keeps (keeps_onSequences _ fun _ _ => rfl) fun _ _ => .of_held)
      (fun _ => ?_) r hr
    exact .bind (.get_bind fun s hs => preserves_takeWaitingData s hs) fun _ => .pure _

/-- The calls that leave the receiver with one of the crate's merge functions. -/
def ReceiverCall.MergesAsProvided (c : ReceiverCall) : Prop :=
  ∀ merge, c = .setMergeFn merge → Provided merge

theorem ReceiverCall.waiting_next {r : SacnReceiver} {c : ReceiverCall} (hr : r.Waiting)
    (hc : c.MergesAsProvided) : (c.next r).Waiting := by
  cases c with
  | listenUniverses universes =>
    exact hr.of_held (keeps_listenUniverses universes (fun _ _ => rfl) (fun _ _ => rfl) r)
  | muteUniverse uni =>
    exact hr.of_held (keeps_muteUniverse uni (fun _ _ => rfl) (fun _ _ => rfl) r)
  | handleDataPacket cid pkt amb recvTimestamp =>
    exact waiting_handleDataPacket cid pkt amb recvTimestamp r hr
  | handleSyncPacket cid pkt amb order now =>
    exact waiting_handleSyncPacket cid pkt amb order now r hr
  | handleUniverseDiscoveryPacket cid pkt now =>
    exact hr.of_held
      (handleUniverseDiscoveryPacket_keeps (fun _ _ => rfl) (fun _ _ => rfl) cid pkt now r)
  | checkTimeouts data sync => exact hr.of_held (keeps_onSequences _ (fun _ _ => rfl) r)
  | checkWaitingDataTimeouts now => exact ⟨hr.keyed.retain _, hr.provided⟩
  | clearWaitingData uni => exact waiting_clear hr uni
  | clearAllWaitingData =>
    exact ⟨fun u d hd => absurd ((HashMap.get_empty u).symm.trans hd) (by simp), hr.provided⟩
  | removeExpiredSources now => exact ⟨hr.keyed, hr.provided⟩
  | resetSources => exact ⟨hr.keyed, hr.provided⟩
  | setMergeFn merge => exact ⟨hr.keyed, hc merge rfl⟩
  | setMulticastEnabled val => exact ⟨hr.keyed, hr.provided⟩
  | setFlags _ _ _ _ => exact ⟨hr.keyed, hr.provided⟩

/-- **The invariant holds in every reachable state.** -/
theorem SacnReceiver.Reachable.waiting {r : SacnReceiver}
    (h : r.Reachable ReceiverCall.MergesAsProvided) : r.Waiting := by
  induction h with
  | new ip sourceLimit socket r h =>
    have hbound : (bound ip sourceLimit socket).Waiting :=
      ⟨fun u d hd => absurd ((HashMap.get_empty u).symm.trans hd) (by simp), .inl rfl⟩
    exact hbound.of_held (withIp_keeps h (fun _ _ => rfl) fun _ _ => rfl)
  | step r c _ hc ih => exact c.waiting_next ih hc

/-! ## Release -/

/-- The frame held under `k`, if it is still young when its turn comes. -/
def youngFrame (m : HashMap UInt16 DMXData) (now : UInt16 → Nat) (k : UInt16) : Option DMXData :=
  (m.get k).filter fun d => elapsed d.recvTimestamp (now k) < e131NetworkDataLossTimeout

/-- **The loop of `rtrv_waiting_data`**: the frames under the keys are taken out, the young ones in
the order of the keys. -/
theorem takeWaitingData_run {now : UInt16 → Nat} {keys : List UInt16} :
    ∀ {r : SacnReceiver} {res : List DMXData}, keys.Nodup →
      (∀ k ∈ keys, (r.waitingData.get k).isSome) →
      (takeWaitingData now keys res).run r =
        (.ok (res ++ keys.filterMap (youngFrame r.waitingData now)),
          { r with waitingData := keys.foldl HashMap.remove r.waitingData }) := by
  induction keys with
  | nil => intro r res _ _; simp [takeWaitingData]
  | cons k keys ih =>
    intro r res hnodup hheld
    obtain ⟨hk, hnodup⟩ := List.nodup_cons.mp hnodup
    obtain ⟨d, hd⟩ := Option.isSome_iff_exists.mp (hheld k List.mem_cons_self)
    have hother : ∀ k' ∈ keys, (clearWaitingData k r).waitingData.get k' = r.waitingData.get k' := by
      intro k' hk'
      refine (HashMap.get_remove r.waitingData k k').trans (if_neg ?_)
      rintro rfl
      exact hk hk'
    have hframes : keys.filterMap (youngFrame (clearWaitingData k r).waitingData now) =
        keys.filterMap (youngFrame r.waitingData now) := by
      refine List.filterMap_congr fun k' hk' => ?_
      unfold youngFrame
      rw [hother k' hk']
    unfold takeWaitingData
    rw [Method.run_bind_of_ok (Method.run_get r), hd]
    simp only
    rw [Method.run_bind_of_ok (Method.run_modify _ r), ih hnodup, hframes, List.filterMap_cons]
    · have hyoung : youngFrame r.waitingData now k =
          if elapsed d.recvTimestamp (now k) < e131NetworkDataLossTimeout then some d else none := by
        unfold youngFrame
        rw [hd, Option.filter_some]
        simp only [decide_eq_true_eq]
      rw [hyoung]
      by_cases hlt : elapsed d.recvTimestamp (now k) < e131NetworkDataLossTimeout
      · simp only [if_pos hlt, List.append_assoc, List.singleton_append]
        rfl
      · simp only [if_neg hlt]
        rfl
    · intro k' hk'
      rw [hother k' hk']
      exact hheld k' (List.mem_cons_of_mem k hk')

theorem get_foldl_remove {keys : List UInt16} {u : UInt16} :
    ∀ {m : HashMap UInt16 DMXData},
      (keys.foldl HashMap.remove m).get u = if u ∈ keys then none else m.get u := by
  induction keys with
  | nil => intro m; simp
  | cons k keys ih =>
    intro m
    rw [List.foldl_cons, ih, HashMap.get_remove]
    by_cases hk : u = k
    · simp [hk]
    · simp [hk]

/-- What an accepted sync packet returns for the frames it releases. -/
def released (frames : List DMXData) : Option (List DMXData) :=
  if frames.isEmpty then none else some frames

/-- The keys `rtrv_waiting_data` finds. -/
def keysOf (r : SacnReceiver) (syncUni : UInt16) (order : List UInt16) : List UInt16 :=
  order.filter fun u => (r.waitingData.get u).any (·.syncUni = syncUni)

theorem mem_keysOf {r : SacnReceiver} {syncUni : UInt16} {order : List UInt16}
    (horder : HashMap.IsOrder order r.waitingData) {u : UInt16} :
    u ∈ keysOf r syncUni order ↔ ∃ d, r.waitingData.get u = some d ∧ d.syncUni = syncUni := by
  unfold keysOf
  rw [List.mem_filter, horder.mem]
  cases r.waitingData.get u <;> simp

/-- **`rtrv_waiting_data`** takes out the frames of the address and returns the young ones. -/
theorem rtrvWaitingData_run {r : SacnReceiver} {syncUni : UInt16} {order : List UInt16}
    {now : UInt16 → Nat} (horder : HashMap.IsOrder order r.waitingData) :
    (rtrvWaitingData syncUni order now).run r =
      (.ok ((keysOf r syncUni order).filterMap (youngFrame r.waitingData now)),
        { r with waitingData := (keysOf r syncUni order).foldl HashMap.remove r.waitingData }) := by
  have hnodup : (keysOf r syncUni order).Nodup := horder.nodup.filter _
  have hheld : ∀ k ∈ keysOf r syncUni order, (r.waitingData.get k).isSome := fun k hk =>
    (horder.mem k).mp (List.mem_filter.mp hk).1
  unfold rtrvWaitingData
  rw [Method.run_bind_of_ok (Method.run_get r)]
  exact takeWaitingData_run hnodup hheld

/-- **`handle_sync_packet`** of a packet that is listened for and in sequence. -/
theorem handleSyncPacket_run {r : SacnReceiver} {cid : Uuid}
    {pkt : SynchronizationPacketFramingLayer} {amb : Ambient} {order : List UInt16}
    {now : UInt16 → Nat} (horder : HashMap.IsOrder order r.waitingData)
    (hlisten : r.isListening pkt.synchronizationAddress = true)
    (haccept : ((SequenceNumbering.checkSyncSeqNumber r.sourceLimit cid pkt.sequenceNumber
      pkt.synchronizationAddress r.announceTimeout amb).run r.sequences).1 = .ok ()) :
    (SacnReceiver.handleSyncPacket cid pkt amb order now).run r =
      (.ok (released ((keysOf r pkt.synchronizationAddress order).filterMap
          (youngFrame r.waitingData now))),
        { r with
          sequences := ((SequenceNumbering.checkSyncSeqNumber r.sourceLimit cid
            pkt.sequenceNumber pkt.synchronizationAddress r.announceTimeout amb).run r.sequences).2
          waitingData := (keysOf r pkt.synchronizationAddress order).foldl HashMap.remove
            r.waitingData }) := by
  have hrelease := @rtrvWaitingData_run { r with
    sequences := ((SequenceNumbering.checkSyncSeqNumber r.sourceLimit cid pkt.sequenceNumber
      pkt.synchronizationAddress r.announceTimeout amb).run r.sequences).2 }
    pkt.synchronizationAddress order now horder
  unfold SacnReceiver.handleSyncPacket onSequences
  rw [Method.run_bind_of_ok (Method.run_get r), hlisten]
  simp only [Bool.not_true, Bool.false_eq_true, if_false]
  rw [Method.run_bind, Method.run_onField, haccept]
  simp only
  rw [Method.run_bind_of_ok hrelease]
  rfl

theorem youngFrame_eq_some {m : HashMap UInt16 DMXData} {now : UInt16 → Nat} {k : UInt16}
    {d : DMXData} : youngFrame m now k = some d ↔
      m.get k = some d ∧ elapsed d.recvTimestamp (now k) < e131NetworkDataLossTimeout := by
  unfold youngFrame
  rw [Option.filter_eq_some_iff, decide_eq_true_eq]

/-- The young frames of an address, each once. -/
theorem youngFrames_spec {r : SacnReceiver} {syncUni : UInt16} {order : List UInt16}
    {now : UInt16 → Nat} (hkeyed : ∀ u d, r.waitingData.get u = some d → d.uni = u)
    (horder : HashMap.IsOrder order r.waitingData) :
    (((keysOf r syncUni order).filterMap (youngFrame r.waitingData now)).map (·.uni)).Nodup ∧
    ∀ d, d ∈ (keysOf r syncUni order).filterMap (youngFrame r.waitingData now) ↔
      r.waitingData.get d.uni = some d ∧ d.syncUni = syncUni ∧
        elapsed d.recvTimestamp (now d.uni) < e131NetworkDataLossTimeout := by
  refine ⟨?_, fun d => ?_⟩
  · have hnodup : (keysOf r syncUni order).Nodup := horder.nodup.filter _
    rw [List.Nodup, List.pairwise_map]
    refine List.Pairwise.filterMap _ (fun k k' hne d hd d' hd' => ?_) hnodup
    rw [hkeyed k d (youngFrame_eq_some.mp hd).1, hkeyed k' d' (youngFrame_eq_some.mp hd').1]
    exact hne
  · rw [List.mem_filterMap]
    constructor
    · rintro ⟨k, hk, hd⟩
      obtain ⟨hget, hyoung⟩ := youngFrame_eq_some.mp hd
      obtain ⟨e, he, hsync⟩ := (mem_keysOf horder).mp hk
      obtain rfl : d = e := Option.some.inj (hget.symm.trans he)
      obtain rfl : d.uni = k := hkeyed k d hget
      exact ⟨hget, hsync, hyoung⟩
    · rintro ⟨hget, hsync, hyoung⟩
      exact ⟨d.uni, (mem_keysOf horder).mpr ⟨d, hget, hsync⟩,
        youngFrame_eq_some.mpr ⟨hget, hyoung⟩⟩

/-- **The release of synchronised data is exact.** In every reachable state, a frame is held under
its own universe and waits for a sync address; and a sync packet whose sequence number is accepted
returns, once each, the held frames of its address that are younger than the timeout, takes out
every frame of its address, and leaves all others. -/
theorem release_exact {r : SacnReceiver} (hr : r.Reachable ReceiverCall.MergesAsProvided) :
    (∀ u d, r.waitingData.get u = some d → d.uni = u ∧ d.syncUni ≠ 0) ∧
    ∀ (cid : Uuid) (pkt : SynchronizationPacketFramingLayer) (amb : Ambient)
      (order : List UInt16) (now : UInt16 → Nat),
      HashMap.IsOrder order r.waitingData →
      r.isListening pkt.synchronizationAddress = true →
      ((SequenceNumbering.checkSyncSeqNumber r.sourceLimit cid pkt.sequenceNumber
        pkt.synchronizationAddress r.announceTimeout amb).run r.sequences).1 = .ok () →
      ∃ frames r', (SacnReceiver.handleSyncPacket cid pkt amb order now).run r =
          (.ok (released frames), r') ∧
        (frames.map (·.uni)).Nodup ∧
        (∀ d, d ∈ frames ↔ r.waitingData.get d.uni = some d ∧
          d.syncUni = pkt.synchronizationAddress ∧
          elapsed d.recvTimestamp (now d.uni) < e131NetworkDataLossTimeout) ∧
        ∀ u, r'.waitingData.get u =
          (r.waitingData.get u).filter (·.syncUni ≠ pkt.synchronizationAddress) := by
  have hkeyed := hr.waiting.keyed
  refine ⟨hkeyed, fun cid pkt amb order now horder hlisten haccept => ?_⟩
  obtain ⟨hnodup, hmem⟩ := youngFrames_spec (fun u d hd => (hkeyed u d hd).1) horder
  refine ⟨_, _, handleSyncPacket_run horder hlisten haccept, hnodup, hmem, fun u => ?_⟩
  refine get_foldl_remove.trans ?_
  cases hget : r.waitingData.get u with
  | none => simp
  | some d =>
    by_cases hsync : d.syncUni = pkt.synchronizationAddress
    · rw [if_pos ((mem_keysOf horder).mpr ⟨d, hget, hsync⟩),
        Option.filter_some_neg (by simpa using hsync)]
    · rw [if_neg, Option.filter_some_pos (by simpa using hsync)]
      intro hu
      obtain ⟨e, he, hsync'⟩ := (mem_keysOf horder).mp hu
      obtain rfl := Option.some.inj (hget.symm.trans he)
      exact hsync hsync'

/-- A clock that stands still, with maps that are never walked. -/
def stillAmbient : Ambient :=
  { sweep := fun _ _ => 0, order := { srcs := [], unis := fun _ => [] }, stamp := 0 }

/-- A data packet of universe 1 that waits for sync address 7. -/
def samplePkt : DataPacketFramingLayer :=
  { sourceName := "Stage", priority := 100, synchronizationAddress := 7, sequenceNumber := 0
    previewData := false, streamTerminated := false, forceSynchronization := false, uni := 1
    data := { propertyValues := [0, 255] } }

/-- It listens to universe 1 and has received the packet. -/
def holdingReceiver : SacnReceiver :=
  (ReceiverCall.handleDataPacket (.repeated 1) samplePkt stillAmbient 0).next
    ((ReceiverCall.listenUniverses [1]).next newReceiver)

theorem holdingReceiver_isOrder : HashMap.IsOrder [1] holdingReceiver.waitingData := by
  have hheld : holdingReceiver.waitingData =
      HashMap.insert ∅ 1 (dmxData (.repeated 1) samplePkt 0) := rfl
  refine ⟨by decide, fun k => ?_⟩
  rw [hheld, HashMap.get_insert, List.mem_singleton]
  split <;> simp [*]

theorem holdingReceiver_release :
    ∃ frames r', (SacnReceiver.handleSyncPacket (.repeated 1)
        { sequenceNumber := 0, synchronizationAddress := 7 } stillAmbient [1] fun _ => 0).run
          holdingReceiver = (.ok (released frames), r') ∧
      dmxData (.repeated 1) samplePkt 0 ∈ frames ∧
      r'.waitingData.get 1 = none := by
  have hreach : holdingReceiver.Reachable ReceiverCall.MergesAsProvided :=
    .step _ _ (.step _ _ (newReceiver_reachable _) (by rintro _ ⟨⟩)) (by rintro _ ⟨⟩)
  have hheld : holdingReceiver.waitingData =
      HashMap.insert ∅ 1 (dmxData (.repeated 1) samplePkt 0) := rfl
  obtain ⟨frames, r', hrun, _, hframes, hleft⟩ := (release_exact hreach).2
    (.repeated 1) { sequenceNumber := 0, synchronizationAddress := 7 } stillAmbient [1]
    (fun _ => 0) holdingReceiver_isOrder (by decide) (by decide)
  refine ⟨frames, r', hrun, (hframes _).mpr ⟨by rw [hheld]; rfl, rfl, by decide⟩, ?_⟩
  rw [hleft, hheld]
  rfl

end Sacn
