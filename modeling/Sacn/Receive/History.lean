import Sacn.Receive.Runs
import Sacn.Receive.Waiting
import Sacn.Rust.Cell

/-!
# What a receiver delivers, in the order it arrived (`receive.rs`)

With the default merge function the frames held for one universe are a cell: a synchronised data
packet puts its frame there or is dropped for the one that is held, an unsynchronised one empties
the cell and is delivered at once, and a sync packet delivers what is held.

* `ReceiverCall.cell_step`: every call is a step of the cell of every universe.
* **`delivered_in_order`**: over a run, the frames delivered for a universe come from data packets
  with strictly increasing positions.
-/

namespace Sacn

open Rust SacnReceiver

/-- The frame of the data packet a call is made with. -/
def ReceiverCall.frame : ReceiverCall → Option DMXData
  | handleDataPacket cid pkt _ recvTimestamp => some (dmxData cid pkt recvTimestamp)
  | _ => none

/-- The frames of one universe. -/
def ofUniverse (u : UInt16) (frames : List DMXData) : List DMXData :=
  frames.filter fun d => d.uni = u

theorem ofUniverse_cons (u : UInt16) (d : DMXData) (frames : List DMXData) :
    ofUniverse u (d :: frames) =
      if d.uni = u then d :: ofUniverse u frames else ofUniverse u frames := by
  unfold ofUniverse
  rw [List.filter_cons]
  simp only [decide_eq_true_eq]

/-- A call is a step of the cell of a universe. -/
def CellStep (arrival : Option DMXData) (u : UInt16)
    (x : Method SacnReceiver SacnError (Option (List DMXData))) (r : SacnReceiver) : Prop :=
  HeldStep (fun m frames m' => Cell.Step arrival (m.get u) (ofUniverse u frames) (m'.get u)) x r

variable {arrival : Option DMXData} {u : UInt16} {r : SacnReceiver}

/-- A call that returns no frame and puts none under the universe. -/
theorem cell_hold {held held' : Option DMXData} {frames : List DMXData} (hframes : frames = [])
    (hheld : ∀ d, held' = some d → held = some d) :
    Cell.Step arrival held (ofUniverse u frames) held' := by
  rw [hframes]
  exact .hold hheld

theorem CellStep.bind {α : Type} {x : Method SacnReceiver SacnError α}
    {g : α → Method SacnReceiver SacnError (Option (List DMXData))}
    (hx : Method.Keeps SacnReceiver.held x)
    (hg : ∀ a s, s.held = r.held → CellStep arrival u (g a) s) :
    CellStep arrival u (x >>= g) r :=
  HeldStep.bind (fun _ => cell_hold rfl fun _ h => h) hx fun a s _ hs => hg a s hs

/-! ## Data packets -/

theorem get_storeWaitingData_of_ne {data : DMXData} (hu : u ≠ data.uni) :
    ((storeWaitingData data).run r).2.waitingData.get u = r.waitingData.get u := by
  rw [storeWaitingData_run]
  cases r.waitingData.get data.uni with
  | none => exact (HashMap.get_insert _ _ _ _).trans (if_neg hu)
  | some existing =>
    have hremove : (r.waitingData.remove data.uni).get u = r.waitingData.get u :=
      (HashMap.get_remove _ _ _).trans (if_neg hu)
    simp only
    cases r.mergeFunc existing data with
    | ok merged => exact ((HashMap.get_insert _ _ _ _).trans (if_neg hu)).trans hremove
    | err e => exact hremove
    | panic => exact hremove

/-- Storing a frame with the default merge function: it is held, or the frame held before is. -/
theorem get_storeWaitingData_self (hmerge : r.mergeFunc = defaultMergeFunc) (data : DMXData) :
    ((storeWaitingData data).run r).2.waitingData.get data.uni = some data ∨
      ((storeWaitingData data).run r).2.waitingData.get data.uni =
        r.waitingData.get data.uni := by
  rw [storeWaitingData_run, hmerge]
  cases r.waitingData.get data.uni with
  | none => exact .inl (HashMap.get_insert_self _ _ _)
  | some existing =>
    unfold defaultMergeFunc discardLowestPriorityThenPrevious
    by_cases hpriority : existing.priority > data.priority
    · simp only [if_pos hpriority]
      exact .inr (HashMap.get_insert_self _ _ _)
    · simp only [if_neg hpriority]
      exact .inl (HashMap.get_insert_self _ _ _)

/-- The end of `handle_data_packet` for a synchronised packet. -/
theorem heldStep_storeWaitingData
    {Q : HashMap UInt16 DMXData → List DMXData → HashMap UInt16 DMXData → Prop} {data : DMXData}
    (h : Q r.waitingData [] ((storeWaitingData data).run r).2.waitingData) :
    HeldStep Q (do storeWaitingData data; return none) r := by
  have hstate : ((do storeWaitingData data; return none :
      Method SacnReceiver SacnError (Option (List DMXData))).run r).2 =
        ((storeWaitingData data).run r).2 :=
    Method.Keeps.run_bind (f := id) (fun _ => .pure _) r
  have hframes : framesOf ((do storeWaitingData data; return none :
      Method SacnReceiver SacnError (Option (List DMXData))).run r).1 = [] := by
    rw [Method.run_bind]
    rcases (storeWaitingData data).run r with ⟨_ | _ | _, s⟩ <;> rfl
  unfold HeldStep
  rw [hstate, hframes]
  exact h

/-- A synchronised data packet. -/
theorem storeWaitingData_cell (hmerge : r.mergeFunc = defaultMergeFunc) (data : DMXData) :
    CellStep (some data) u (do storeWaitingData data; return none) r := by
  refine heldStep_storeWaitingData ?_
  by_cases hu : u = data.uni
  · subst hu
    rcases get_storeWaitingData_self hmerge data with hstored | hkept
    · rw [hstored]
      exact .store rfl
    · exact cell_hold rfl fun d hd => hkept.symm.trans hd
  · exact cell_hold rfl fun d hd => (get_storeWaitingData_of_ne hu).symm.trans hd

/-- **A data packet that gets as far as its check** is a step of every cell. -/
theorem acceptDataPacket_cell (hmerge : r.mergeFunc = defaultMergeFunc) (cid : Uuid)
    (pkt : DataPacketFramingLayer) (amb : Ambient) (recvTimestamp : Nat) :
    CellStep (some (dmxData cid pkt recvTimestamp)) u
      (acceptDataPacket cid pkt amb recvTimestamp) r := by
  refine CellStep.bind .get fun _ s hs => CellStep.bind (fun _ => rfl) fun _ t ht => ?_
  have hmerge' : t.mergeFunc = defaultMergeFunc :=
    ((Prod.mk.inj ht).2.trans (Prod.mk.inj hs).2).trans hmerge
  split
  · -- the packet is not synchronised: its frame is delivered, and what is held for its universe goes
    have hcleared : (clearWaitingData pkt.uni t).waitingData.get u =
        if u = pkt.uni then none else t.waitingData.get u := HashMap.get_remove _ _ _
    show Cell.Step _ _ (ofUniverse u [dmxData cid pkt recvTimestamp])
      ((clearWaitingData pkt.uni t).waitingData.get u)
    have huni : (dmxData cid pkt recvTimestamp).uni = pkt.uni := rfl
    rw [hcleared, ofUniverse_cons, huni]
    by_cases hu : u = pkt.uni
    · rw [if_pos hu, if_pos hu.symm]
      exact .pass rfl
    · rw [if_neg hu, if_neg (Ne.symm hu)]
      exact .hold fun _ h => h
  · exact CellStep.bind (keeps_listenUniverses _ (fun _ _ => rfl) fun _ _ => rfl)
      fun _ s hs => storeWaitingData_cell ((Prod.mk.inj hs).2.trans hmerge') _

theorem handleDataPacket_cell (hmerge : r.mergeFunc = defaultMergeFunc) (cid : Uuid)
    (pkt : DataPacketFramingLayer) (amb : Ambient) (recvTimestamp : Nat) :
    CellStep (some (dmxData cid pkt recvTimestamp)) u
      (handleDataPacket cid pkt amb recvTimestamp) r := by
  refine CellStep.bind .get fun _ s hs => ?_
  have hmerge' : s.mergeFunc = defaultMergeFunc := (Prod.mk.inj hs).2.trans hmerge
  split
  · exact cell_hold rfl fun _ h => h
  · split
    · exact CellStep.bind (.modify (terminateStream_keeps (fun _ _ => rfl) (fun _ _ => rfl) cid pkt.uni)) fun _ t _ =>
        CellStep.bind (.throwIf _ _) fun _ _ _ => cell_hold rfl fun _ h => h
    · split
      · exact cell_hold rfl fun _ h => h
      · exact acceptDataPacket_cell hmerge' cid pkt amb recvTimestamp

/-! ## Sync packets -/

/-- The frames a release returns for one universe: the one that is held there, or none. -/
theorem ofUniverse_young {now : UInt16 → Nat} {m : HashMap UInt16 DMXData} (hm : WaitingKeyed m) :
    ∀ {keys : List UInt16}, keys.Nodup →
      ofUniverse u (keys.filterMap (youngFrame m now)) =
        if u ∈ keys then (youngFrame m now u).toList else []
  | [], _ => rfl
  | k :: keys, hkeys => by
    obtain ⟨hk, hkeys⟩ := List.nodup_cons.mp hkeys
    have ih : ofUniverse u (keys.filterMap (youngFrame m now)) =
        if u ∈ keys then (youngFrame m now u).toList else [] := ofUniverse_young hm hkeys
    rw [List.filterMap_cons]
    by_cases hu : u = k
    · subst hu
      rw [if_neg hk] at ih
      rw [if_pos List.mem_cons_self]
      cases hyoung : youngFrame m now u with
      | none => exact ih
      | some d =>
        have huni : d.uni = u := (hm u d (youngFrame_eq_some.mp hyoung).1).1
        simp only [ofUniverse_cons, if_pos huni, ih]
        rfl
    · have hmem : u ∈ k :: keys ↔ u ∈ keys := by simp [hu]
      simp only [hmem]
      rw [← ih]
      cases hyoung : youngFrame m now k with
      | none => rfl
      | some d =>
        have huni : ¬ d.uni = u := by
          rw [(hm k d (youngFrame_eq_some.mp hyoung).1).1]
          exact Ne.symm hu
        simp only [ofUniverse_cons, if_neg huni]

theorem framesOf_released (frames : List DMXData) : framesOf (.ok (released frames)) = frames := by
  unfold released
  split
  · rename_i h
    exact (List.isEmpty_iff.mp h).symm
  · rfl

theorem handleSyncPacket_cell (hm : WaitingKeyed r.waitingData) (cid : Uuid)
    (pkt : SynchronizationPacketFramingLayer) (amb : Ambient) {order : List UInt16}
    (now : UInt16 → Nat) (horder : HashMap.IsOrder order r.waitingData) :
    CellStep arrival u (handleSyncPacket cid pkt amb order now) r := by
  refine CellStep.bind .get fun _ s hs => ?_
  split
  · exact cell_hold rfl fun _ h => h
  · refine CellStep.bind (fun _ => rfl) fun _ t ht => ?_
    have hheld : t.waitingData = r.waitingData := (Prod.mk.inj (ht.trans hs)).1
    rw [← hheld] at hm horder
    have hkeys : (keysOf t pkt.synchronizationAddress order).Nodup := horder.nodup.filter _
    unfold CellStep HeldStep
    rw [Method.run_bind_of_ok (rtrvWaitingData_run horder)]
    show Cell.Step _ _ (ofUniverse u (framesOf (.ok (released _)))) _
    rw [framesOf_released, ofUniverse_young hm hkeys]
    simp only [Method.run_pure, get_foldl_remove]
    split
    · cases hyoung : youngFrame t.waitingData now u with
      | none => exact .hold fun _ h => absurd h (by simp)
      | some d =>
        rw [(youngFrame_eq_some.mp hyoung).1]
        exact .release
    · exact .hold fun _ h => h

/-! ## Runs -/

/-- **A call without a data or sync packet** returns no frame, and what is held after it was held
before. -/
theorem ReceiverCall.held_of_noPacket {c : ReceiverCall}
    (hdata : ¬ ∃ cid pkt amb recvTimestamp, c = .handleDataPacket cid pkt amb recvTimestamp)
    (hsync : ¬ ∃ cid pkt amb order now, c = .handleSyncPacket cid pkt amb order now) :
    framesOf (c.ended r) = [] ∧
      ∀ u d, (c.next r).waitingData.get u = some d → r.waitingData.get u = some d := by
  have hnone : ∀ x : Outcome SacnError Unit,
      framesOf ((fun _ => (none : Option (List DMXData))) <$> x) = [] := fun x => by
    cases x <;> rfl
  have hkept : ∀ {s : SacnReceiver}, s.held = r.held → ∀ u d, s.waitingData.get u = some d →
      r.waitingData.get u = some d := fun hs u d hd => by
    rw [← (Prod.mk.inj hs).1]
    exact hd
  cases c with
  | listenUniverses universes =>
    exact ⟨hnone _, hkept (keeps_listenUniverses universes (fun _ _ => rfl) (fun _ _ => rfl) r)⟩
  | muteUniverse uni =>
    exact ⟨hnone _, hkept (keeps_muteUniverse uni (fun _ _ => rfl) (fun _ _ => rfl) r)⟩
  | handleDataPacket cid pkt amb recvTimestamp => exact absurd ⟨_, _, _, _, rfl⟩ hdata
  | handleSyncPacket cid pkt amb order now => exact absurd ⟨_, _, _, _, _, rfl⟩ hsync
  | handleUniverseDiscoveryPacket cid pkt now =>
    exact ⟨rfl, hkept (handleUniverseDiscoveryPacket_keeps (fun _ _ => rfl) (fun _ _ => rfl) cid
      pkt now r)⟩
  | checkTimeouts data sync =>
    exact ⟨hnone _, hkept (keeps_onSequences _ (fun _ _ => rfl) r)⟩
  | checkWaitingDataTimeouts now =>
    refine ⟨rfl, fun u d hd => ?_⟩
    have hget : (r.waitingData.retain fun u data =>
      elapsed data.recvTimestamp (now u) < e131NetworkDataLossTimeout).get u = some d := hd
    rw [HashMap.get_retain] at hget
    exact (Option.filter_eq_some_iff.mp hget).1
  | clearWaitingData uni =>
    refine ⟨rfl, fun u d hd => ?_⟩
    have hget : (r.waitingData.remove uni).get u = some d := hd
    rw [HashMap.get_remove] at hget
    split at hget
    · exact absurd hget (by simp)
    · exact hget
  | clearAllWaitingData =>
    exact ⟨rfl, fun u d hd => absurd ((HashMap.get_empty u).symm.trans hd) (by simp)⟩
  | removeExpiredSources now => exact ⟨rfl, hkept rfl⟩
  | resetSources => exact ⟨rfl, hkept rfl⟩
  | setMergeFn merge => exact ⟨rfl, fun _ _ h => h⟩
  | setMulticastEnabled val => exact ⟨rfl, hkept rfl⟩
  | setFlags _ _ _ _ => exact ⟨rfl, hkept rfl⟩

/-- **Every call is a step of the cell of every universe.** -/
theorem ReceiverCall.cell_step (hmerge : r.mergeFunc = defaultMergeFunc)
    (hm : WaitingKeyed r.waitingData) {c : ReceiverCall}
    (horder : ∀ cid pkt amb order now, c = .handleSyncPacket cid pkt amb order now →
      HashMap.IsOrder order r.waitingData) :
    Cell.Step c.frame (r.waitingData.get u) (ofUniverse u (framesOf (c.ended r)))
      ((c.next r).waitingData.get u) := by
  by_cases hdata : ∃ cid pkt amb recvTimestamp, c = .handleDataPacket cid pkt amb recvTimestamp
  · obtain ⟨cid, pkt, amb, recvTimestamp, rfl⟩ := hdata
    exact handleDataPacket_cell hmerge cid pkt amb recvTimestamp
  · by_cases hsync : ∃ cid pkt amb order now, c = .handleSyncPacket cid pkt amb order now
    · obtain ⟨cid, pkt, amb, order, now, rfl⟩ := hsync
      exact handleSyncPacket_cell hm cid pkt amb now (horder _ _ _ _ _ rfl)
    · obtain ⟨hframes, hheld⟩ := ReceiverCall.held_of_noPacket hdata hsync
      exact cell_hold hframes (hheld u)

/-- The calls of a receiver that keeps the default merge function; the held frames are walked in
some order. -/
structure DefaultMerge (r : SacnReceiver) (c : ReceiverCall) : Prop where
  merge : ∀ mergeFunc, c = .setMergeFn mergeFunc → mergeFunc = defaultMergeFunc
  order : ∀ cid pkt amb order now, c = .handleSyncPacket cid pkt amb order now →
    HashMap.IsOrder order r.waitingData

/-- The frames of a universe that a history delivered, each with the position of its delivery. -/
def deliveredFor (u : UInt16) (log : List ReceiverEvent) : List (Nat × DMXData) :=
  log.zipIdx.flatMap fun e => (ofUniverse u (framesOf e.1.2)).map fun d => (e.2, d)

theorem deliveredFor_snoc (u : UInt16) (log : List ReceiverEvent) (e : ReceiverEvent) :
    deliveredFor u (log ++ [e]) =
      deliveredFor u log ++ (ofUniverse u (framesOf e.2)).map fun d => (log.length, d) := by
  unfold deliveredFor
  rw [List.zipIdx_append, List.flatMap_append]
  simp

/-- The invariant: the cell of the universe has handed on what was delivered. -/
structure History (u : UInt16) (log : List ReceiverEvent) (r : SacnReceiver) : Prop where
  waiting : r.Waiting
  merge : r.mergeFunc = defaultMergeFunc
  cell : Cell.InOrder (log.map fun e => e.1.frame) (deliveredFor u log) (r.waitingData.get u)

theorem history_of_created {sourceLimit : Option Nat} (h : CreatedWith sourceLimit r) :
    History u [] r := by
  obtain ⟨ip, socket, hnew⟩ := h
  have hheld : r.held = (bound ip sourceLimit socket).held :=
    withIp_keeps hnew (fun _ _ => rfl) fun _ _ => rfl
  refine ⟨(SacnReceiver.Reachable.new ip sourceLimit socket r hnew).waiting,
    (Prod.mk.inj hheld).2, ?_⟩
  rw [(Prod.mk.inj hheld).1]
  exact Cell.inOrder_empty

theorem History.next {log : List ReceiverEvent} (h : History u log r) {c : ReceiverCall}
    (hc : DefaultMerge r c) : History u (log ++ [(c, c.ended r)]) (c.next r) := by
  refine ⟨c.waiting_next h.waiting fun mergeFunc heq => .inl (hc.merge mergeFunc heq), ?_, ?_⟩
  · have hmerge : (c.next r).mergeFunc = r.mergeFunc :=
      ReceiverCall.keeps (f := SacnReceiver.mergeFunc) (fun _ _ => rfl) (fun _ _ => rfl)
        (fun _ _ => rfl) (fun _ _ => rfl) (fun _ _ => rfl) (fun _ _ => rfl)
        (fun mergeFunc heq => (hc.merge mergeFunc heq).trans h.merge.symm) fun _ _ _ _ _ => rfl
    exact hmerge.trans h.merge
  · have hstep := h.cell.step (ReceiverCall.cell_step h.merge h.waiting.keyed hc.order)
    rw [List.length_map] at hstep
    rw [List.map_append, deliveredFor_snoc]
    exact hstep

/-- **Delivered data never goes back in time.** Over a run with the default merge function, the
frames delivered for a universe are the frames of data packets received at strictly increasing
positions, none later than the call that delivers it. -/
theorem delivered_in_order {sourceLimit : Option Nat} {log : List ReceiverEvent}
    (h : ReceiverRun (CreatedWith sourceLimit) DefaultMerge log r) (u : UInt16) :
    ∃ positions : List Nat, positions.Pairwise (· < ·) ∧
      List.Forall₂ (fun pos delivery => pos ≤ delivery.1 ∧ ∃ cid pkt amb recvTimestamp res,
        log[pos]? = some (.handleDataPacket cid pkt amb recvTimestamp, res) ∧
        delivery.2 = dmxData cid pkt recvTimestamp) positions (deliveredFor u log) := by
  have hhistory : History u log r :=
    h.invariant (fun _ => history_of_created) fun _ _ _ hc hs => hs.next hc
  obtain ⟨positions, hsorted, -, hcame, -⟩ := hhistory.cell
  refine ⟨positions, hsorted, hcame.imp fun pos delivery hpos => ⟨hpos.2, ?_⟩⟩
  have hframe := hpos.1
  unfold Cell.CameAt at hframe
  rw [List.getElem?_map, Option.map_eq_some_iff] at hframe
  obtain ⟨⟨c, res⟩, hevent, hc⟩ := hframe
  cases c with
  | handleDataPacket cid pkt amb recvTimestamp =>
    exact ⟨cid, pkt, amb, recvTimestamp, res, hevent, (Option.some.inj hc).symm⟩
  | _ => exact absurd hc (by simp [ReceiverCall.frame])

/-- The packet after `samplePkt`, not synchronised. -/
def nextPkt : DataPacketFramingLayer :=
  { samplePkt with sequenceNumber := 1, synchronizationAddress := 0 }

/-- A frame of universe 1 is held and then released, and the next one is delivered at once. -/
theorem heldFrame_delivered :
    ∃ (log : List ReceiverEvent) (r : SacnReceiver),
      ReceiverRun (CreatedWith none) DefaultMerge log r ∧
      deliveredFor 1 log =
        [(2, dmxData (.repeated 1) samplePkt 0), (3, dmxData (.repeated 1) nextPkt 0)] ∧
      ∃ positions : List Nat, positions.Pairwise (· < ·) ∧
        List.Forall₂ (fun pos delivery => pos ≤ delivery.1) positions (deliveredFor 1 log) := by
  have hstart : ReceiverRun (CreatedWith none) DefaultMerge [] newReceiver :=
    .nil newReceiver_created
  have hlisten := hstart.snoc (.listenUniverses [1]) ⟨by rintro _ ⟨⟩, by rintro _ _ _ _ _ ⟨⟩⟩
  have hdata := hlisten.snoc (.handleDataPacket (.repeated 1) samplePkt stillAmbient 0)
    ⟨by rintro _ ⟨⟩, by rintro _ _ _ _ _ ⟨⟩⟩
  have hsync := hdata.snoc (.handleSyncPacket (.repeated 1)
    { sequenceNumber := 0, synchronizationAddress := 7 } stillAmbient [1] fun _ => 0)
    ⟨by rintro _ ⟨⟩, by rintro _ _ _ _ _ ⟨⟩; exact holdingReceiver_isOrder⟩
  have hnext := hsync.snoc (.handleDataPacket (.repeated 1) nextPkt stillAmbient 0)
    ⟨by rintro _ ⟨⟩, by rintro _ _ _ _ _ ⟨⟩⟩
  obtain ⟨positions, hsorted, hcame⟩ := delivered_in_order hnext 1
  exact ⟨_, _, hnext, by decide +kernel, positions, hsorted, hcame.imp fun _ _ hpos => hpos.1⟩

end Sacn
