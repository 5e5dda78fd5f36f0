import Sacn.EndToEnd.Delivery
import Sacn.Receive.Recv

/-!
# Synchronised data end to end

`send` with a sync address puts each part of the data on a universe of its own. A receiver that
listens to the universes holds the parts in whatever order they arrive, and the source's sync packet
releases them together.

* `Ready`: what is asked of the receiver at the start.
* **`sync_end_to_end`**: the frames released by the sync packet are the parts of the data, each on
  its universe.
-/

namespace Sacn

open Rust Rust.Outcome SacnSourceInternal

/-! ## The packets of a synchronised send -/

/-- The framing layer of the packet `send_universe` builds. -/
def SacnSourceInternal.dataLayer (src : SacnSourceInternal) (data : List UInt8) (priority : UInt8)
    (syncAddress : UInt16) (part : UInt16 × Nat) : DataPacketFramingLayer :=
  { sourceName := src.name, priority, synchronizationAddress := syncAddress
    sequenceNumber := src.dataSequence part.1, previewData := src.previewData
    streamTerminated := false, forceSynchronization := false, uni := part.1
    data := { propertyValues := dataPart data part.2 } }

/-- The framing layers of the packets of a `send`. -/
def SacnSourceInternal.sendLayers (src : SacnSourceInternal) (universes : List UInt16)
    (data : List UInt8) (priority : UInt8) (syncAddress : UInt16) : List DataPacketFramingLayer :=
  (universes.zipIdx.take (requiredUniverses data)).map (src.dataLayer data priority syncAddress)

/-- The packet of the source with this framing layer. -/
def dataPacketOf (cid : Uuid) (pkt : DataPacketFramingLayer) : AcnRootLayerProtocol :=
  { pdu := { cid, data := .dataPacket pkt } }

/-- The sync packet of the source with this framing layer. -/
def syncPacketOf (cid : Uuid) (pkt : SynchronizationPacketFramingLayer) : AcnRootLayerProtocol :=
  { pdu := { cid, data := .synchronizationPacket pkt } }

section Layers

variable (src : SacnSourceInternal) (universes : List UInt16) (data : List UInt8) (priority : UInt8)
  (syncAddress : UInt16)

theorem sendPackets_eq : src.sendPackets universes data priority syncAddress =
    (src.sendLayers universes data priority syncAddress).map (dataPacketOf src.cid) := by
  unfold sendPackets sendLayers
  rw [List.map_map]
  rfl

theorem map_uni_sendLayers :
    (src.sendLayers universes data priority syncAddress).map DataPacketFramingLayer.uni =
      universes.take (requiredUniverses data) := by
  unfold sendLayers
  rw [List.map_map]
  exact map_fst_parts universes (requiredUniverses data)

theorem flatMap_values_sendLayers (h : requiredUniverses data ≤ universes.length) :
    ((src.sendLayers universes data priority syncAddress).flatMap fun pkt =>
      pkt.data.propertyValues) = data := by
  have hvalues : (src.sendLayers universes data priority syncAddress).map
      (fun pkt => pkt.data.propertyValues) =
        ((universes.zipIdx.take (requiredUniverses data)).map Prod.snd).map (dataPart data) := by
    unfold sendLayers
    rw [List.map_map, List.map_map]
    rfl
  rw [List.flatMap_def, hvalues, map_snd_parts h, flatten_dataPart]

end Layers

/-- A permutation of a mapped list is the map of a permutation. -/
theorem exists_perm_of_perm_map {α β : Type} {f : α → β} {ys : List β} :
    ∀ {xs : List α}, ys.Perm (xs.map f) → ∃ xs' : List α, xs'.Perm xs ∧ ys = xs'.map f := by
  induction ys with
  | nil =>
    intro xs h
    have hnil : xs = [] := List.map_eq_nil_iff.mp (List.nil_perm.mp h)
    exact ⟨[], hnil ▸ .refl _, rfl⟩
  | cons y ys ih =>
    intro xs h
    obtain ⟨x, hx, rfl⟩ := List.mem_map.mp (h.mem_iff.mp List.mem_cons_self)
    obtain ⟨pre, post, rfl⟩ := List.append_of_mem hx
    have hrest : ys.Perm ((pre ++ post).map f) := by
      rw [List.map_append, List.map_cons] at h
      rw [List.map_append]
      exact (h.trans List.perm_middle).cons_inv
    obtain ⟨xs', hperm, rfl⟩ := ih hrest
    exact ⟨x :: xs', (hperm.cons x).trans List.perm_middle.symm, rfl⟩

/-! ## Both sides -/

/-- The receiver listens to the universes, holds no frame, tracks no sequence number of the source
and has room for it; it does not announce timeouts, and its multicast joins succeed. -/
structure SacnReceiver.Ready (r : SacnReceiver) (cid : Uuid) (universes : List UInt16) : Prop where
  quiet : r.announceTimeout = false
  joins : r.JoinsSucceed
  listens : ∀ u ∈ universes, r.isListening u = true
  empty : ∀ u, r.waitingData.get u = none
  dataNumbers : ∀ u, r.sequences.dataSequences.lookup cid u = none
  syncNumbers : ∀ u, r.sequences.syncSequences.lookup cid u = none
  dataRoom : r.sequences.dataSequences.Room r.sourceLimit cid
  syncRoom : r.sequences.syncSequences.Room r.sourceLimit cid

theorem SacnReceiver.Ready.holding {r : SacnReceiver} {cid : Uuid} {universes : List UInt16}
    (h : r.Ready cid universes) (s : UInt16) (start : Nat) : Holding cid s start [] r where
  quiet := h.quiet
  joins := h.joins
  distinct := List.nodup_nil
  addressed := by simp
  frames := by simp [h.empty]
  listens := fun hne => absurd rfl hne
  dataNumbers := fun u _ => h.dataNumbers u
  syncNumbers := h.syncNumbers
  dataRoom := h.dataRoom
  syncRoom := h.syncRoom

/-- **The frames a sync packet releases**, after the data packets came in any order. -/
theorem SacnReceiver.Ready.release {r : SacnReceiver} {cid : Uuid} {universes : List UInt16}
    (h : r.Ready cid universes) {s : UInt16} (hs : UniverseInRange s) (hs0 : s ≠ e131NoSyncAddr)
    {pkts : List DataPacketFramingLayer} (hne : pkts ≠ [])
    (hplain : ∀ pkt ∈ pkts, pkt.previewData = false ∧ pkt.streamTerminated = false ∧
      pkt.synchronizationAddress = s) (hlistens : ∀ pkt ∈ pkts, pkt.uni ∈ universes)
    (hdistinct : (pkts.map DataPacketFramingLayer.uni).Nodup)
    {turns : List (Turn × List UInt8)} {start stop : Nat}
    (hpackets : List.Forall₂ (fun (t : Turn × List UInt8) pkt =>
      recvDatagram t.2 = .ok (dataPacketOf cid pkt)) turns pkts)
    (hturns : ∀ t ∈ turns, t.1.Within start stop) {last : Turn} (hlast : last.Within start stop)
    (hyoung : stop - start < e131NetworkDataLossTimeout)
    (horder : HashMap.IsOrder last.order ((r.recvTurns turns).2.swept last).waitingData)
    {syncDatagram : List UInt8} {syncPkt : SynchronizationPacketFramingLayer}
    (hsync : recvDatagram syncDatagram = .ok (syncPacketOf cid syncPkt))
    (haddr : syncPkt.synchronizationAddress = s) :
    ∃ frames, (r.recvTurns (turns ++ [(last, syncDatagram)])).1 =
        List.replicate pkts.length (.ok none) ++ [.ok (some frames)] ∧
      (frames.map fun d => (d.uni, d.values)).Perm
        (pkts.map fun pkt => (pkt.uni, pkt.data.propertyValues)) := by
  obtain ⟨r', hruns, hafter⟩ := Holding.recvTurns_data hpackets hturns hyoung hs hs0 hplain
    (h.holding s start) (fun pkt hpkt => h.listens _ (hlistens pkt hpkt)) hdistinct
  generalize hheld : List.zipWith (fun (t : Turn × List UInt8) pkt => dmxData cid pkt t.1.now) turns
    pkts = held at hafter
  rw [List.nil_append] at hafter
  have hmap : (held.map fun d => (d.uni, d.values)) =
      pkts.map fun pkt => (pkt.uni, pkt.data.propertyValues) := by
    have hlength := hpackets.length_eq
    rw [← hheld, List.map_zipWith]
    exact List.ext_getElem (by simp [hlength]) fun i _ _ => by simp [dmxData]
  rw [hruns] at horder
  have hheldne : held ≠ [] := by
    rintro rfl
    exact hne (List.map_eq_nil_iff.mp hmap.symm)
  obtain ⟨frames, hframes, hperm⟩ := hafter.recvTurn_sync hlast hyoung hsync haddr hheldne horder
  refine ⟨frames, ?_, hmap ▸ hperm.map _⟩
  rw [SacnReceiver.recvTurns_append, hruns, hpackets.length_eq]
  exact congrArg (fun o => _ ++ [o]) hframes

/-- The packets of a `send` from a source with a legal name are packets the parser returns. -/
theorem sendLayers_inDomain {src : SacnSourceInternal} {universes : List UInt16} {data : List UInt8}
    {priority : UInt8} {s : UInt16} (hname : NameInDomain src.name)
    (hpriority : priority ≤ e131MaxPriority) (hrange : ∀ u ∈ universes, 1 ≤ u ∧ u ≤ 63999)
    (hs : s ≤ 63999) : ∀ pkt ∈ src.sendLayers universes data priority s, pkt.InDomain := by
  intro pkt hpkt
  obtain ⟨part, hpart, rfl⟩ := List.mem_map.mp hpkt
  have huni : part.1 ∈ universes :=
    List.fst_mem_of_mem_zipIdx (List.mem_of_mem_take hpart)
  exact ⟨hname, hpriority, hs, hrange _ huni, length_dataPart_le data part.2⟩

/-- The data packets of a synchronised send of `data`, by their framing layers. -/
structure SyncLayers (universes : List UInt16) (data : List UInt8) (s : UInt16)
    (layers : List DataPacketFramingLayer) : Prop where
  domain : ∀ pkt ∈ layers, pkt.InDomain
  plain : ∀ pkt ∈ layers, pkt.previewData = false ∧ pkt.streamTerminated = false ∧
    pkt.synchronizationAddress = s
  unis : layers.map DataPacketFramingLayer.uni = universes.take (requiredUniverses data)
  values : (layers.flatMap fun pkt => pkt.data.propertyValues) = data
  length : layers.length = requiredUniverses data
  nonempty : layers ≠ []

/-- What a successful synchronised `send` puts on the wire. -/
theorem send_syncLayers {src sent : SacnSourceInternal} {universes : List UInt16}
    {data : List UInt8} {priority : Option UInt8} {dstIp : Option SocketAddr} {s : UInt16}
    (hdistinct : universes.Nodup) (hrange : ∀ u ∈ universes, 1 ≤ u ∧ u ≤ 63999) (hs : s ≤ 63999)
    (hname : NameInDomain src.name) (hpreview : src.previewData = false)
    (hsend : (send universes data priority dstIp (some s)).run src = (.ok (), sent)) :
    ∃ layers, SyncLayers universes data s layers ∧
      Emits src sent (layers.map (dataPacketOf src.cid)) ∧ sent.cid = src.cid := by
  obtain ⟨hdata, hcount, hpriority, hemits, hsending⟩ := send_emits hdistinct hsend
  have hunis := map_uni_sendLayers src universes data (priority.getD e131DefaultPriority) s
  have hlength : (src.sendLayers universes data (priority.getD e131DefaultPriority) s).length =
      requiredUniverses data := by
    have := congrArg List.length hunis
    rwa [List.length_map, List.length_take, Nat.min_eq_left hcount] at this
  refine ⟨_, ⟨sendLayers_inDomain hname hpriority hrange hs, ?_, hunis,
    flatMap_values_sendLayers src universes data _ _ hcount, hlength, ?_⟩, ?_, hsending.cid⟩
  · intro pkt hpkt
    obtain ⟨part, -, rfl⟩ := List.mem_map.mp hpkt
    exact ⟨hpreview, rfl, rfl⟩
  · refine List.ne_nil_of_length_pos ?_
    rw [hlength]
    exact requiredUniverses_pos hdata
  · rw [← sendPackets_eq]
    exact hemits

/-- What a receiver that is ready makes of these packets, in any order, and the sync packet. -/
theorem SyncLayers.received {cid : Uuid} {universes : List UInt16} {data : List UInt8} {s : UInt16}
    {layers : List DataPacketFramingLayer} (h : SyncLayers universes data s layers)
    (hdistinct : universes.Nodup) (hs : 1 ≤ s ∧ s ≤ 63999) {r : SacnReceiver}
    (hready : r.Ready cid universes) {turns : List (Turn × List UInt8)} {last : Turn}
    {start stop : Nat}
    (hperm : (turns.map Prod.snd).Perm (layers.map fun pkt => (dataPacketOf cid pkt).encode))
    (hturns : ∀ t ∈ turns, t.1.Within start stop) (hlast : last.Within start stop)
    (hyoung : stop - start < e131NetworkDataLossTimeout)
    (horder : HashMap.IsOrder last.order ((r.recvTurns turns).2.swept last).waitingData)
    {syncDatagram : List UInt8} {syncPkt : SynchronizationPacketFramingLayer}
    (hsync : recvDatagram syncDatagram = .ok (syncPacketOf cid syncPkt))
    (haddr : syncPkt.synchronizationAddress = s) :
    ∃ frames inOrder, (r.recvTurns (turns ++ [(last, syncDatagram)])).1 =
        List.replicate (requiredUniverses data) (.ok none) ++ [.ok (some frames)] ∧
      frames.Perm inOrder ∧
      inOrder.map DMXData.uni = universes.take (requiredUniverses data) ∧
      inOrder.flatMap DMXData.values = data := by
  -- the packets, in the order in which the turns take them
  obtain ⟨pkts, hpkts, hsame⟩ := exists_perm_of_perm_map hperm
  have hreceives : List.Forall₂ (fun d pkt => recvDatagram d = .ok (dataPacketOf cid pkt))
      (turns.map Prod.snd) pkts := by
    rw [hsame]
    exact List.forall₂_map_left_iff.mpr (List.forall₂_same.mpr fun pkt hpkt =>
      (carries_encode (p := dataPacketOf cid pkt) (h.domain pkt (hpkts.mem_iff.mp hpkt))).receives)
  have hunis := hpkts.map DataPacketFramingLayer.uni
  rw [h.unis] at hunis
  have hs0 : s ≠ e131NoSyncAddr := fun heq => absurd (heq ▸ hs.1) (by decide)
  obtain ⟨frames, hruns, hframes⟩ := hready.release (.inr hs) hs0
    (fun hnil => h.nonempty (List.nil_perm.mp (hnil ▸ hpkts)))
    (fun pkt hpkt => h.plain pkt (hpkts.mem_iff.mp hpkt))
    (fun pkt hpkt => List.mem_of_mem_take (hunis.mem_iff.mp (List.mem_map_of_mem hpkt)))
    (hunis.nodup_iff.mpr (hdistinct.sublist (List.take_sublist _ _)))
    (List.forall₂_map_left_iff.mp hreceives) hturns hlast hyoung horder hsync haddr
  -- the frames, in the order in which the packets were sent
  obtain ⟨inOrder, hinOrder, hmap⟩ := exists_perm_of_perm_map
    ((hframes.trans (hpkts.map _)).symm)
  rw [hpkts.length_eq, h.length] at hruns
  refine ⟨frames, inOrder, hruns, hinOrder.symm, ?_, ?_⟩
  · have huni := congrArg (List.map Prod.fst) hmap
    rw [List.map_map, List.map_map] at huni
    exact huni.symm.trans h.unis
  · have hvalue := congrArg (fun ps => (List.map Prod.snd ps).flatten) hmap
    simp only [List.map_map] at hvalue
    rw [← h.values, List.flatMap_def, List.flatMap_def]
    exact hvalue.symm

/-- **Synchronised data end to end.** A successful `send` of some data on distinct universes with a
sync address, from a source that is not in preview mode and whose name fits its field, and the sync
packet after it: every receiver that is ready for them and handles the data packets in any order and
then the sync packet, all within the timeout, gets nothing from the data packets and from the sync
packet one frame for each universe used, whose values in the order of the universes are the data. -/
theorem sync_end_to_end {src sent synced : SacnSourceInternal} {universes : List UInt16}
    {data : List UInt8} {priority : Option UInt8} {dstIp syncIp : Option SocketAddr} {s : UInt16}
    (hdistinct : universes.Nodup) (hrange : ∀ u ∈ universes, 1 ≤ u ∧ u ≤ 63999)
    (hs : 1 ≤ s ∧ s ≤ 63999) (hname : NameInDomain src.name) (hpreview : src.previewData = false)
    (hsend : (send universes data priority dstIp (some s)).run src = (.ok (), sent))
    (hsync : (sendSyncPacket s syncIp).run sent = (.ok (), synced)) :
    ∃ (datagrams : List (SocketAddr × List UInt8)) (syncDatagram : SocketAddr × List UInt8),
      sent.socket.sent = src.socket.sent ++ datagrams ∧
      datagrams.length = requiredUniverses data ∧
      synced.socket.sent = sent.socket.sent ++ [syncDatagram] ∧
      ∀ (r : SacnReceiver) (turns : List (Turn × List UInt8)) (last : Turn) (start stop : Nat),
        r.Ready src.cid universes → (turns.map Prod.snd).Perm (datagrams.map Prod.snd) →
        (∀ t ∈ turns, t.1.Within start stop) → last.Within start stop →
        stop - start < e131NetworkDataLossTimeout →
        HashMap.IsOrder last.order ((r.recvTurns turns).2.swept last).waitingData →
        ∃ frames inOrder, (r.recvTurns (turns ++ [(last, syncDatagram.2)])).1 =
            List.replicate (requiredUniverses data) (.ok none) ++ [.ok (some frames)] ∧
          frames.Perm inOrder ∧
          inOrder.map DMXData.uni = universes.take (requiredUniverses data) ∧
          inOrder.flatMap DMXData.values = data := by
  obtain ⟨layers, hlayers, hemits, hcid⟩ :=
    send_syncLayers hdistinct hrange hs.2 hname hpreview hsend
  obtain ⟨datagrams, hsent, hencoded⟩ := hemits.encoded fun p hp => by
    obtain ⟨pkt, hpkt, rfl⟩ := List.mem_map.mp hp
    exact E131RootLayerData.InDomain.packable (hlayers.domain pkt hpkt)
  have hsyncDomain : (sent.syncPacket s).InDomain := ⟨hs⟩
  obtain ⟨syncDatagrams, hsyncSent, hsyncEncoded⟩ := (sendSyncPacket_emits hsync).encoded
    fun p hp => List.mem_singleton.mp hp ▸ trivial
  obtain ⟨syncDatagram, rfl⟩ := List.length_eq_one_iff.mp
    (by simpa using congrArg List.length hsyncEncoded)
  have hsyncPkt : sent.syncPacket s = syncPacketOf src.cid
      { sequenceNumber := sent.syncSequence s, synchronizationAddress := s } := by
    unfold syncPacket
    rw [hcid]
    rfl
  have hreceives : recvDatagram syncDatagram.2 = .ok (syncPacketOf src.cid
      { sequenceNumber := sent.syncSequence s, synchronizationAddress := s }) := by
    rw [List.cons.inj hsyncEncoded |>.1, ← hsyncPkt]
    exact (carries_encode hsyncDomain).receives
  rw [List.map_map] at hencoded
  refine ⟨datagrams, syncDatagram, hsent, ?_, hsyncSent,
    fun r turns last start stop hready hperm hturns hlast hyoung horder => ?_⟩
  · have hcount := congrArg List.length hencoded
    rwa [List.length_map, List.length_map, hlayers.length] at hcount
  · exact hlayers.received hdistinct hs hready (hencoded ▸ hperm) hturns hlast hyoung horder
      hreceives rfl

/-- A source with two data universes and a sync address. -/
def syncSource : SacnSourceInternal := ((registerUniverses [1, 2, 7]).run sampleSource).2

/-- More data than one packet takes. -/
def syncData : List UInt8 := List.replicate 513 0 ++ [255]

/-- The source after its `send`. -/
def syncSourceSent : SacnSourceInternal :=
  ((send [1, 2] syncData none none (some 7)).run syncSource).2

/-- A receiver of the data universes. -/
def syncReceiver : SacnReceiver := ((SacnReceiver.listenUniverses [1, 2]).run newReceiver).2

theorem syncReceiver_ready : syncReceiver.Ready syncSource.cid [1, 2] where
  quiet := rfl
  joins := fun _ _ => rfl
  listens := List.forall_mem_cons.mpr ⟨by decide, List.forall_mem_singleton.mpr (by decide)⟩
  empty := HashMap.get_empty
  dataNumbers := fun _ => rfl
  syncNumbers := fun _ => rfl
  dataRoom := rfl
  syncRoom := rfl

/-- A turn on a clock that stands still. -/
def stillTurn : Turn :=
  { data := stillAmbient, sync := stillAmbient, waiting := fun _ => 0, check := stillAmbient
    now := 0, order := [], release := fun _ => 0 }

/-- One such turn for each datagram. -/
def stillTurns (datagrams : List (SocketAddr × List UInt8)) : List (Turn × List UInt8) :=
  datagrams.map fun d => (stillTurn, d.2)

theorem map_snd_stillTurns (datagrams : List (SocketAddr × List UInt8)) :
    (stillTurns datagrams).map Prod.snd = datagrams.map Prod.snd := by
  unfold stillTurns
  rw [List.map_map]
  rfl

/-- The second part arrives first. -/
theorem syncSource_released :
    ∃ datagrams, syncSourceSent.socket.sent = syncSource.socket.sent ++ datagrams ∧
      datagrams.length = 2 ∧
      ∃ last frames inOrder,
        (syncReceiver.recvTurns ((stillTurns datagrams).reverse ++ [last])).1 =
          [.ok none, .ok none, .ok (some frames)] ∧
        frames.Perm inOrder ∧ inOrder.map DMXData.uni = [1, 2] ∧
        inOrder.flatMap DMXData.values = syncData := by
  have hsent : ((send [1, 2] syncData none none (some 7)).run syncSource).1 = .ok () := by
    decide +kernel
  have hsynced : ((sendSyncPacket 7 none).run syncSourceSent).1 = .ok () := by
    decide +kernel
  have hcount : requiredUniverses syncData = 2 := by decide +kernel
  have hsend : (send [1, 2] syncData none none (some 7)).run syncSource =
      (.ok (), syncSourceSent) := by
    rw [syncSourceSent, ← hsent]
  have hsync : (sendSyncPacket 7 none).run syncSourceSent =
      (.ok (), ((sendSyncPacket 7 none).run syncSourceSent).2) := by
    rw [← hsynced]
  obtain ⟨datagrams, syncDatagram, hdatagrams, hlength, -, hreceive⟩ := @sync_end_to_end syncSource
    syncSourceSent _ [1, 2] syncData none none none 7 (by decide)
    (List.forall_mem_cons.mpr ⟨by decide, List.forall_mem_singleton.mpr (by decide)⟩) (by decide)
    ⟨by decide, by decide⟩ rfl hsend hsync
  rw [hcount] at hlength hreceive
  obtain ⟨order, horder⟩ := HashMap.exists_isOrder
    ((syncReceiver.recvTurns (stillTurns datagrams).reverse).2.swept stillTurn).waitingData
  have hturn : stillTurn.Within 0 0 :=
    ⟨Nat.le_refl 0, fun _ => Nat.le_refl 0, fun _ => Nat.le_refl 0⟩
  obtain ⟨frames, inOrder, hruns, hframes⟩ := hreceive syncReceiver
    (stillTurns datagrams).reverse { stillTurn with order } 0 0 syncReceiver_ready
    (by
      rw [List.map_reverse, map_snd_stillTurns]
      exact List.reverse_perm _)
    (fun t ht => by
      obtain ⟨d, -, rfl⟩ := List.mem_map.mp (List.mem_reverse.mp ht)
      exact hturn)
    ⟨hturn.now, hturn.waiting, hturn.release⟩ (by decide) horder
  exact ⟨datagrams, hdatagrams, hlength, _, frames, inOrder, hruns, hframes⟩

end Sacn
