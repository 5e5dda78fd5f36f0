import Sacn.Receive.Network
import Sacn.Receive.Waiting

/-!
# The receive loop (`receive.rs`)

One turn of the loop of `SacnReceiver::recv` in which the socket has a datagram: the timeouts are
checked, the datagram is parsed and its packet handled. `recv` goes on to the next turn while a
turn gives no data.

* `listenUniverse_run`: listening to a universe when the multicast join succeeds.
* **`Holding.recvTurn_data`**: a turn with the first packet of a stream of a source adds its frame
  to those that are held, and returns nothing.
* `Holding.recvTurns_data`: any number of such turns.
* **`Holding.recvTurn_sync`**: a turn with the first sync packet of the source returns them all.
-/

namespace Sacn

open Rust Rust.Outcome SacnReceiver

/-! ## One turn -/

/-- What one turn takes from outside: what the sweeps of the two sequence tables and of the held
frames see, what the check of the packet's number sees, the time stamp of a frame or a record, and
the order and the clock readings of a release. -/
structure Turn where
  data : Ambient
  sync : Ambient
  waiting : UInt16 → Nat
  check : Ambient
  now : Nat
  order : List UInt16
  release : UInt16 → Nat

namespace SacnReceiver

/-- The branch of `recv` for a universe discovery packet. -/
def handleDiscovery (cid : Uuid) (pkt : UniverseDiscoveryPacketFramingLayer) (now : Nat) :
    Method SacnReceiver SacnError (Option (List DMXData)) := do
  let r ← Method.get
  Method.set (handleUniverseDiscoveryPacket cid pkt now r).2
  match (handleUniverseDiscoveryPacket cid pkt now r).1 with
  | some name =>
    Method.throwIf (r.announceSourceDiscovery = true) (.sourceDiscovered name)
    return none
  | none => return none

/-- The match of `recv` on the packet. -/
def handlePacket (turn : Turn) (packet : AcnRootLayerProtocol) :
    Method SacnReceiver SacnError (Option (List DMXData)) :=
  match packet.pdu.data with
  | .dataPacket d => handleDataPacket packet.pdu.cid d turn.check turn.now
  | .synchronizationPacket s =>
    handleSyncPacket packet.pdu.cid s turn.check turn.order turn.release
  | .universeDiscoveryPacket u => handleDiscovery packet.pdu.cid u turn.now

/-- One turn of the loop of `recv`, with a datagram. -/
def recvTurn (turn : Turn) (datagram : List UInt8) :
    Method SacnReceiver SacnError (Option (List DMXData)) := do
  let r ← Method.get
  onSequences (SequenceNumbering.checkTimeouts r.announceTimeout turn.data turn.sync)
  Method.modify (checkWaitingDataTimeouts turn.waiting)
  let packet ← Method.lift (recvDatagram datagram)
  handlePacket turn packet

/-- How the turns of a run end, and the receiver after them. -/
def recvTurns (r : SacnReceiver) :
    List (Turn × List UInt8) → List (Outcome SacnError (Option (List DMXData))) × SacnReceiver
  | [] => ([], r)
  | (turn, datagram) :: turns =>
    (((recvTurn turn datagram).run r).1 ::
        (recvTurns ((recvTurn turn datagram).run r).2 turns).1,
      (recvTurns ((recvTurn turn datagram).run r).2 turns).2)

theorem recvTurns_append (r : SacnReceiver) (turns turns' : List (Turn × List UInt8)) :
    recvTurns r (turns ++ turns') =
      ((recvTurns r turns).1 ++ (recvTurns (recvTurns r turns).2 turns').1,
        (recvTurns (recvTurns r turns).2 turns').2) := by
  induction turns generalizing r with
  | nil => rfl
  | cons t turns ih =>
    obtain ⟨turn, datagram⟩ := t
    rw [List.cons_append, recvTurns, ih]
    rfl

/-- The receiver after the checks at the start of a turn. -/
def swept (turn : Turn) (r : SacnReceiver) : SacnReceiver :=
  checkWaitingDataTimeouts turn.waiting
    { r with sequences :=
      { dataSequences := r.sequences.dataSequences.sweep e131NetworkDataLossTimeout turn.data.sweep
        syncSequences :=
          r.sequences.syncSequences.sweep e131NetworkDataLossTimeout turn.sync.sweep } }

/-- A turn of a receiver that does not announce timeouts. -/
theorem recvTurn_run {r : SacnReceiver} (hquiet : r.announceTimeout = false) {turn : Turn}
    {datagram : List UInt8} {packet : AcnRootLayerProtocol}
    (hpacket : recvDatagram datagram = .ok packet) :
    (recvTurn turn datagram).run r = (handlePacket turn packet).run (swept turn r) := by
  unfold recvTurn
  rw [Method.run_bind_of_ok (Method.run_get r), hquiet, hpacket]
  rfl

/-! ## Listening -/

/-- Whatever group is joined, the socket joins it. -/
def JoinsSucceed (r : SacnReceiver) : Prop :=
  ∀ n group, r.receiver.socket.results n group = none

theorem multicastAddr_ok (nr : SacnNetworkReceiver) {uni : UInt16} (h : UniverseInRange uni) :
    ∃ group, nr.multicastAddr uni = .ok group := by
  have hok : isUniverseInRange uni = .ok () := isUniverseInRange_eq_ok.mpr h
  unfold SacnNetworkReceiver.multicastAddr universeToIpv6MulticastAddr universeToIpv4MulticastAddr
  rw [hok]
  split <;> exact ⟨_, rfl⟩

/-- A join or a leave ends as the socket says. -/
theorem groupCall_cases (nr : SacnNetworkReceiver) {uni : UInt16} (h : UniverseInRange uni)
    {x : Method SacnNetworkReceiver SacnError Unit} {msg : SacnNetworkReceiver → String}
    (hx : x = do
      let nr ← Method.get
      let group ← Method.lift (nr.multicastAddr uni)
      SacnNetworkReceiver.onSocket (MulticastSocket.call group (msg nr))) :
    ∃ group, nr.multicastAddr uni = .ok group ∧
      (nr.socket.results nr.socket.calls group = none ∧ x.run nr =
          (.ok (), { nr with socket := { nr.socket with calls := nr.socket.calls + 1 } }) ∨
      ∃ kind msg, nr.socket.results nr.socket.calls group = some kind ∧ x.run nr =
          (.err (.io kind msg),
            { nr with socket := { nr.socket with calls := nr.socket.calls + 1 } })) := by
  obtain ⟨group, hgroup⟩ := multicastAddr_ok nr h
  refine ⟨group, hgroup, ?_⟩
  unfold SacnNetworkReceiver.onSocket at hx
  rw [hx, Method.run_bind_of_ok (Method.run_get nr), hgroup,
    Method.run_bind_of_ok (Method.run_lift (.ok group) nr), Method.run_onField]
  unfold MulticastSocket.call
  rw [Method.run_bind_of_ok (Method.run_get nr.socket),
    Method.run_bind_of_ok (Method.run_set nr.socket _)]
  cases nr.socket.results nr.socket.calls group with
  | none => exact .inl ⟨rfl, rfl⟩
  | some kind => exact .inr ⟨kind, _, rfl, rfl⟩

/-- The receiver with the universe put into its list. -/
def listed (r : SacnReceiver) (i : Nat) (uni : UInt16) : SacnReceiver :=
  { r with universes := vecInsert r.universes i uni }

/-- The receiver after one more call of the socket. -/
def called (r : SacnReceiver) : SacnReceiver :=
  { r with receiver := { r.receiver with
      socket := { r.receiver.socket with calls := r.receiver.socket.calls + 1 } } }

/-- **One turn of the second loop of `listen_universes`**: the universe is in the list already, or is
put there and then joined, if multicast is enabled. -/
theorem listenUniverse_cases (r : SacnReceiver) {uni : UInt16} (h : UniverseInRange uni) :
    ((∃ i, binarySearch r.universes uni = .ok i) ∧ (listenUniverse uni).run r = (.ok (), r)) ∨
    ∃ i, binarySearch r.universes uni = .error i ∧
      (r.receiver.isMulticastEnabled = false ∧
          (listenUniverse uni).run r = (.ok (), r.listed i uni) ∨
        r.receiver.isMulticastEnabled = true ∧
          ∃ group, r.receiver.multicastAddr uni = .ok group ∧
            (r.receiver.socket.results r.receiver.socket.calls group = none ∧
                (listenUniverse uni).run r = (.ok (), (r.listed i uni).called) ∨
              ∃ kind msg, r.receiver.socket.results r.receiver.socket.calls group = some kind ∧
                (listenUniverse uni).run r = (.err (.io kind msg), (r.listed i uni).called))) := by
  unfold listenUniverse
  rw [Method.run_bind_of_ok (Method.run_get r)]
  cases hsearch : binarySearch r.universes uni with
  | ok i => exact .inl ⟨⟨i, rfl⟩, rfl⟩
  | error i =>
    refine .inr ⟨i, rfl, ?_⟩
    simp only
    rw [Method.run_bind_of_ok (Method.run_modify _ r)]
    cases hmulticast : r.receiver.isMulticastEnabled with
    | false => exact .inl ⟨rfl, rfl⟩
    | true =>
      obtain ⟨group, hgroup, hjoin⟩ := groupCall_cases
        (x := SacnNetworkReceiver.listenMulticastUniverse uni) r.receiver h rfl
      refine .inr ⟨rfl, group, hgroup, ?_⟩
      unfold onReceiver
      rw [if_pos rfl, Method.run_onField]
      rcases hjoin with ⟨hjoins, hrun⟩ | ⟨kind, msg, hfails, hrun⟩
      · exact .inl ⟨hjoins, by rw [hrun]; rfl⟩
      · exact .inr ⟨kind, msg, hfails, by rw [hrun]; rfl⟩

/-- **Listening to a universe**, when the join succeeds: only the socket and the list of universes
change. -/
theorem listenUniverse_run {r : SacnReceiver} {uni : UInt16} (h : UniverseInRange uni)
    (hjoins : r.JoinsSucceed) :
    ∃ receiver universes, (listenUniverse uni).run r = (.ok (), { r with receiver, universes }) ∧
      receiver.socket.results = r.receiver.socket.results ∧
      ∀ u, u ∈ universes ↔ u = uni ∨ u ∈ r.universes := by
  rcases listenUniverse_cases r h with ⟨⟨i, hsearch⟩, hrun⟩ |
    ⟨i, -, ⟨-, hrun⟩ | ⟨-, group, -, ⟨-, hrun⟩ | ⟨kind, msg, hfails, -⟩⟩⟩
  · have hmem : uni ∈ r.universes := List.mem_of_getElem? (binarySearch_ok hsearch)
    refine ⟨r.receiver, r.universes, hrun, rfl, fun u => ⟨.inr, ?_⟩⟩
    rintro (rfl | hu)
    · exact hmem
    · exact hu
  · exact ⟨_, _, hrun, rfl, fun u => mem_vecInsert⟩
  · exact ⟨_, _, hrun, rfl, fun u => mem_vecInsert⟩
  · rw [hjoins] at hfails
    exact absurd hfails (by simp)

theorem listenUniverses_run {r : SacnReceiver} {uni : UInt16} (h : UniverseInRange uni)
    (hjoins : r.JoinsSucceed) :
    ∃ receiver universes,
      (listenUniverses [uni]).run r = (.ok (), { r with receiver, universes }) ∧
      receiver.socket.results = r.receiver.socket.results ∧
      ∀ u, u ∈ universes ↔ u = uni ∨ u ∈ r.universes := by
  obtain ⟨receiver, universes, hrun, hresults, hmem⟩ := listenUniverse_run h hjoins
  refine ⟨receiver, universes, ?_, hresults, hmem⟩
  unfold listenUniverses
  rw [Method.run_bind_of_ok ((Method.run_forM_lift_eq_ok (u := ())).mpr
    ⟨fun u hu => isUniverseInRange_eq_ok.mpr (List.mem_singleton.mp hu ▸ h), rfl⟩)]
  exact Method.run_bind_of_ok hrun _

/-! ## A synchronised data packet -/

theorem storeWaitingData_new {r : SacnReceiver} {data : DMXData}
    (h : r.waitingData.get data.uni = none) :
    (storeWaitingData data).run r =
      (.ok (), { r with waitingData := r.waitingData.insert data.uni data }) := by
  rw [storeWaitingData_run, h]

/-- The table of data sequence numbers after a packet that is accepted. -/
def numbered (r : SacnReceiver) (cid : Uuid) (pkt : DataPacketFramingLayer) (amb : Ambient) :
    SeqTable :=
  (r.sequences.dataSequences.sweep e131NetworkDataLossTimeout amb.sweep).record cid pkt.uni
    { sequenceNumber := pkt.sequenceNumber, lastRecv := amb.stamp }

theorem run_checkDataSeqNumber_accepted {r : SacnReceiver} {cid : Uuid}
    {pkt : DataPacketFramingLayer} {amb : Ambient} (hquiet : r.announceTimeout = false)
    (haccept : ∀ s, r.sequences.dataSequences.lookup cid pkt.uni = some s →
      ¬ discards pkt.sequenceNumber s.sequenceNumber)
    (hroom : r.sequences.dataSequences.Room r.sourceLimit cid) :
    (onSequences (SequenceNumbering.checkDataSeqNumber r.sourceLimit cid pkt.sequenceNumber pkt.uni
      r.announceTimeout amb)).run r = (.ok (), { r with
        sequences := { r.sequences with dataSequences := r.numbered cid pkt amb } }) := by
  unfold onSequences SequenceNumbering.checkDataSeqNumber SequenceNumbering.onData
  rw [Method.run_onField, Method.run_onField, hquiet, checkSeqNumber_accepted haccept hroom]
  rfl

/-- **The first packet of a stream, for a sync address**, when no frame of its universe is held: it
is numbered, the address is listened to and the frame is held. -/
theorem acceptDataPacket_first {r : SacnReceiver} {cid : Uuid} {pkt : DataPacketFramingLayer}
    {amb : Ambient} {now : Nat} (hquiet : r.announceTimeout = false) (hjoins : r.JoinsSucceed)
    (haddr : UniverseInRange pkt.synchronizationAddress)
    (hsync : pkt.synchronizationAddress ≠ e131NoSyncAddr)
    (hnew : r.sequences.dataSequences.lookup cid pkt.uni = none)
    (hroom : r.sequences.dataSequences.Room r.sourceLimit cid)
    (hfree : r.waitingData.get pkt.uni = none) :
    ∃ receiver universes,
      (acceptDataPacket cid pkt amb now).run r = (.ok none, { r with
        receiver, universes
        sequences := { r.sequences with dataSequences := r.numbered cid pkt amb }
        waitingData := r.waitingData.insert pkt.uni (dmxData cid pkt now) }) ∧
      receiver.socket.results = r.receiver.socket.results ∧
      ∀ u, u ∈ universes ↔ u = pkt.synchronizationAddress ∨ u ∈ r.universes := by
  have hnumbered := @run_checkDataSeqNumber_accepted r cid pkt amb hquiet
    (fun s hs => absurd (hnew.symm.trans hs) (by simp)) hroom
  obtain ⟨receiver, universes, hlisten, hresults, hmem⟩ := @listenUniverses_run
    { r with sequences := { r.sequences with dataSequences := r.numbered cid pkt amb } } _ haddr
    hjoins
  refine ⟨receiver, universes, ?_, hresults, hmem⟩
  unfold acceptDataPacket
  rw [Method.run_bind_of_ok (Method.run_get r), Method.run_bind_of_ok hnumbered, if_neg hsync,
    Method.run_bind_of_ok hlisten]
  exact Method.run_bind_of_ok (storeWaitingData_new hfree) _

end SacnReceiver

/-! ## Holding the frames of one source -/

/-- The frames are stamped, looked at and released between two readings of the clock. -/
structure Turn.Within (turn : Turn) (start stop : Nat) : Prop where
  now : start ≤ turn.now
  waiting : ∀ u, turn.waiting u ≤ stop
  release : ∀ u, turn.release u ≤ stop

/-- The receiver holds the frames `held`, one for each universe and all for the address `s`, has
numbered no stream of the source but those of their universes, and has room for the source. -/
structure Holding (cid : Uuid) (s : UInt16) (start : Nat) (held : List DMXData)
    (r : SacnReceiver) : Prop where
  quiet : r.announceTimeout = false
  joins : r.JoinsSucceed
  distinct : (held.map DMXData.uni).Nodup
  addressed : ∀ d ∈ held, d.syncUni = s ∧ start ≤ d.recvTimestamp
  frames : ∀ u d, r.waitingData.get u = some d ↔ d ∈ held ∧ d.uni = u
  listens : held ≠ [] → r.isListening s = true
  dataNumbers : ∀ u, u ∉ held.map DMXData.uni → r.sequences.dataSequences.lookup cid u = none
  syncNumbers : ∀ u, r.sequences.syncSequences.lookup cid u = none
  dataRoom : r.sequences.dataSequences.Room r.sourceLimit cid
  syncRoom : r.sequences.syncSequences.Room r.sourceLimit cid

namespace Holding

variable {cid : Uuid} {s : UInt16} {start stop : Nat} {held : List DMXData} {r : SacnReceiver}

/-- The checks at the start of a turn drop none of the frames. -/
theorem swept {turn : Turn} (h : Holding cid s start held r) (hturn : turn.Within start stop)
    (hyoung : stop - start < e131NetworkDataLossTimeout) :
    Holding cid s start held (r.swept turn) where
  quiet := h.quiet
  joins := h.joins
  distinct := h.distinct
  addressed := h.addressed
  frames := by
    intro u d
    refine Iff.trans ?_ (h.frames u d)
    show (r.waitingData.retain _).get u = some d ↔ _
    rw [HashMap.get_retain, Option.filter_eq_some_iff]
    refine and_iff_left_of_imp fun hget => decide_eq_true ?_
    have hstamp := (h.addressed d ((h.frames u d).mp hget).1).2
    have hlook := hturn.waiting u
    unfold elapsed
    omega
  listens := h.listens
  dataNumbers := by
    intro u hu
    show SeqTable.lookup (SeqTable.sweep _ _ _) cid u = none
    rw [SeqTable.lookup_sweep, h.dataNumbers u hu]
    rfl
  syncNumbers := by
    intro u
    show SeqTable.lookup (SeqTable.sweep _ _ _) cid u = none
    rw [SeqTable.lookup_sweep, h.syncNumbers u]
    rfl
  dataRoom := h.dataRoom.sweep _ _
  syncRoom := h.syncRoom.sweep _ _

/-- The frames once one more is stored under its own universe. -/
theorem frames_insert (h : Holding cid s start held r) (d : DMXData)
    (hnew : d.uni ∉ held.map DMXData.uni) (u : UInt16) (e : DMXData) :
    (r.waitingData.insert d.uni d).get u = some e ↔ e ∈ held ++ [d] ∧ e.uni = u := by
  rw [HashMap.get_insert, List.mem_append, List.mem_singleton]
  split
  · rename_i hu
    subst hu
    constructor
    · rintro ⟨⟩
      exact ⟨.inr rfl, rfl⟩
    · rintro ⟨he | rfl, huni⟩
      · exact absurd (huni ▸ List.mem_map_of_mem he) hnew
      · rfl
  · rename_i hu
    rw [h.frames]
    constructor
    · rintro ⟨he, rfl⟩
      exact ⟨.inl he, rfl⟩
    · rintro ⟨he | rfl, huni⟩
      · exact ⟨he, huni⟩
      · exact absurd huni.symm hu

/-- The frame of a data packet of a new universe is held with the others. -/
theorem acceptDataPacket (h : Holding cid s start held r) {pkt : DataPacketFramingLayer}
    (hsync : pkt.synchronizationAddress = s) (hs : UniverseInRange s) (hs0 : s ≠ e131NoSyncAddr)
    (hnew : pkt.uni ∉ held.map DMXData.uni) (amb : Ambient) {now : Nat} (hnow : start ≤ now) :
    ∃ r', (SacnReceiver.acceptDataPacket cid pkt amb now).run r = (.ok none, r') ∧
      Holding cid s start (held ++ [dmxData cid pkt now]) r' ∧
      ∀ u, r.isListening u = true → r'.isListening u = true := by
  subst hsync
  have hfree : r.waitingData.get pkt.uni = none := by
    refine Option.eq_none_iff_forall_ne_some.mpr fun d hget => ?_
    obtain ⟨hd, huni⟩ := (h.frames _ _).mp hget
    exact hnew (huni ▸ List.mem_map_of_mem hd)
  obtain ⟨receiver, universes, hrun, hresults, hmem⟩ := @acceptDataPacket_first r cid pkt amb now
    h.quiet h.joins hs hs0 (h.dataNumbers _ hnew) h.dataRoom hfree
  refine ⟨_, hrun, ?_, fun u hu => ?_⟩
  · refine ⟨h.quiet, fun n group => (congrFun (congrFun hresults n) group).trans (h.joins n group),
      ?_, ?_, h.frames_insert (dmxData cid pkt now) hnew, fun _ => ?_, fun u hu => ?_,
      h.syncNumbers, ?_, h.syncRoom⟩
    · rw [List.map_append]
      refine List.nodup_append.mpr ⟨h.distinct, List.nodup_singleton _, ?_⟩
      rintro a ha b hb rfl
      rw [List.mem_singleton.mp hb] at ha
      exact hnew ha
    · intro d hd
      rcases List.mem_append.mp hd with hd | hd
      · exact h.addressed d hd
      · rw [List.mem_singleton.mp hd]
        exact ⟨rfl, hnow⟩
    · exact List.contains_iff_mem.mpr ((hmem _).mpr (.inl rfl))
    · rw [List.map_append, List.mem_append, not_or] at hu
      show (r.numbered cid pkt amb).lookup cid u = none
      unfold numbered
      rw [SeqTable.lookup_record, if_neg fun hc => hu.2 (List.mem_singleton.mpr hc.2),
        SeqTable.lookup_sweep, h.dataNumbers u hu.1]
      rfl
    · exact (h.dataRoom.sweep _ _).record _ _
  · exact List.contains_iff_mem.mpr ((hmem u).mpr (.inr (List.contains_iff_mem.mp hu)))

/-- **A turn with a data packet of a new universe.** -/
theorem recvTurn_data (h : Holding cid s start held r) {turn : Turn}
    (hturn : turn.Within start stop) (hyoung : stop - start < e131NetworkDataLossTimeout)
    {datagram : List UInt8} {pkt : DataPacketFramingLayer}
    (hpacket : recvDatagram datagram = .ok { pdu := { cid, data := .dataPacket pkt } })
    (hpreview : pkt.previewData = false) (hterminated : pkt.streamTerminated = false)
    (hlisten : r.isListening pkt.uni = true) (hsync : pkt.synchronizationAddress = s)
    (hs : UniverseInRange s) (hs0 : s ≠ e131NoSyncAddr) (hnew : pkt.uni ∉ held.map DMXData.uni) :
    ∃ r', (recvTurn turn datagram).run r = (.ok none, r') ∧
      Holding cid s start (held ++ [dmxData cid pkt turn.now]) r' ∧
      ∀ u, r.isListening u = true → r'.isListening u = true := by
  obtain ⟨r', hrun, hafter, hlistens⟩ := (h.swept hturn hyoung).acceptDataPacket hsync hs hs0 hnew
    turn.check hturn.now
  refine ⟨r', ?_, hafter, hlistens⟩
  rw [recvTurn_run h.quiet hpacket]
  show (handleDataPacket cid pkt turn.check turn.now).run (r.swept turn) = _
  unfold handleDataPacket
  rw [Method.run_bind_of_ok (Method.run_get _), hpreview, hterminated]
  have hlisten' : (r.swept turn).isListening pkt.uni = true := hlisten
  rw [hlisten']
  exact hrun

/-- **The first sync packet of the source** releases all the frames. -/
theorem recvTurn_sync (h : Holding cid s start held r) {turn : Turn}
    (hturn : turn.Within start stop) (hyoung : stop - start < e131NetworkDataLossTimeout)
    {datagram : List UInt8} {pkt : SynchronizationPacketFramingLayer}
    (hpacket : recvDatagram datagram = .ok { pdu := { cid, data := .synchronizationPacket pkt } })
    (hsync : pkt.synchronizationAddress = s) (hheld : held ≠ [])
    (horder : HashMap.IsOrder turn.order (r.swept turn).waitingData) :
    ∃ frames, ((recvTurn turn datagram).run r).1 = .ok (some frames) ∧ frames.Perm held := by
  subst hsync
  have hswept := h.swept hturn hyoung
  have haccept : ((SequenceNumbering.checkSyncSeqNumber (r.swept turn).sourceLimit cid
      pkt.sequenceNumber pkt.synchronizationAddress (r.swept turn).announceTimeout turn.check).run
        (r.swept turn).sequences).1 = .ok () := by
    unfold SequenceNumbering.checkSyncSeqNumber SequenceNumbering.onSync
    rw [Method.run_onField, hswept.quiet, checkSeqNumber_first (hswept.syncNumbers _) hswept.syncRoom]
  have hrun := @handleSyncPacket_run (r.swept turn) cid pkt turn.check turn.order turn.release horder
    (hswept.listens hheld) haccept
  obtain ⟨hnodup, hmem⟩ := @youngFrames_spec (r.swept turn) pkt.synchronizationAddress turn.order
    turn.release (fun u d hd => ((hswept.frames u d).mp hd).2) horder
  generalize (keysOf (r.swept turn) pkt.synchronizationAddress turn.order).filterMap
    (youngFrame (r.swept turn).waitingData turn.release) = frames at hrun hnodup hmem
  have hperm : frames.Perm held := by
    refine (List.perm_ext_iff_of_nodup (.of_map _ hnodup) (.of_map _ h.distinct)).mpr fun d => ?_
    rw [hmem, hswept.frames]
    constructor
    · exact fun hd => hd.1.1
    · intro hd
      obtain ⟨haddr, hstamp⟩ := h.addressed d hd
      have hlook := hturn.release d.uni
      refine ⟨⟨hd, rfl⟩, haddr, ?_⟩
      unfold elapsed
      omega
  refine ⟨frames, ?_, hperm⟩
  have hsome : released frames = some frames := by
    refine if_neg fun hempty => hheld ?_
    rw [List.isEmpty_iff.mp hempty] at hperm
    exact List.nil_perm.mp hperm
  rw [recvTurn_run h.quiet hpacket, ← hsome]
  exact congrArg Prod.fst hrun

/-- **Turns with data packets of new universes**, in whatever order they come. -/
theorem recvTurns_data {turns : List (Turn × List UInt8)} {pkts : List DataPacketFramingLayer}
    (hpackets : List.Forall₂ (fun (t : Turn × List UInt8) pkt =>
      recvDatagram t.2 = .ok { pdu := { cid, data := .dataPacket pkt } }) turns pkts)
    (hturns : ∀ t ∈ turns, t.1.Within start stop)
    (hyoung : stop - start < e131NetworkDataLossTimeout) (hs : UniverseInRange s)
    (hs0 : s ≠ e131NoSyncAddr)
    (hplain : ∀ pkt ∈ pkts, pkt.previewData = false ∧ pkt.streamTerminated = false ∧
      pkt.synchronizationAddress = s) :
    ∀ {held : List DMXData} {r : SacnReceiver}, Holding cid s start held r →
      (∀ pkt ∈ pkts, r.isListening pkt.uni = true) →
      (held.map DMXData.uni ++ pkts.map DataPacketFramingLayer.uni).Nodup →
      ∃ r', recvTurns r turns = (List.replicate turns.length (.ok none), r') ∧
        Holding cid s start
          (held ++ List.zipWith (fun t pkt => dmxData cid pkt (Turn.now (Prod.fst t))) turns pkts) r' := by
  induction hpackets with
  | nil =>
    intro held r h _ _
    exact ⟨r, rfl, by rwa [List.zipWith_nil_left, List.append_nil]⟩
  | @cons t pkt turns pkts hpacket _ ih =>
    intro held r h hlistens hdistinct
    obtain ⟨turn, datagram⟩ := t
    obtain ⟨hpreview, hterminated, hsync⟩ := hplain pkt List.mem_cons_self
    rw [List.map_cons] at hdistinct
    have hnew : pkt.uni ∉ held.map DMXData.uni := fun hmem =>
      (List.nodup_append.mp hdistinct).2.2 _ hmem _ List.mem_cons_self rfl
    obtain ⟨mid, hrun, hmid, hkeeps⟩ := h.recvTurn_data (hturns _ List.mem_cons_self) hyoung hpacket
      hpreview hterminated (hlistens pkt List.mem_cons_self) hsync hs hs0 hnew
    have hrest : ((held ++ [dmxData cid pkt turn.now]).map DMXData.uni ++
        pkts.map DataPacketFramingLayer.uni).Nodup := by
      rw [List.map_append, List.append_assoc]
      exact hdistinct
    obtain ⟨r', hruns, hafter⟩ := ih (fun t ht => hturns t (List.mem_cons_of_mem _ ht))
      (fun p hp => hplain p (List.mem_cons_of_mem _ hp)) hmid
      (fun p hp => hkeeps _ (hlistens p (List.mem_cons_of_mem _ hp))) hrest
    refine ⟨r', ?_, ?_⟩
    · rw [recvTurns, hrun, hruns]
      rfl
    · rw [List.append_assoc] at hafter
      exact hafter

end Holding

end Sacn
