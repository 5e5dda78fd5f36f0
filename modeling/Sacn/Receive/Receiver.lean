import Mathlib.Data.List.Sort
import Sacn.Packet.Multicast
import Sacn.Receive.Dmx
import Sacn.Receive.Sequence
import Sacn.Rust.KeyedVec
import Sacn.Rust.SortedVec

/-!
# The receiver (`receive.rs`)

`SacnReceiver`: the universes it listens to, the data it holds for synchronisation, the sources it
has discovered, and the handlers of the three kinds of packet.

What a handler takes from outside is a parameter: the `Ambient` of a sequence check, the reading of
the clock that becomes a time stamp, the reading at which a held frame or a record is looked at, and
the order in which a map is walked. Whether a multicast join succeeds is decided by the socket. The
model is the Unix build; there, multicast is enabled on every new receiver.

`ReceiverCall` is one call of a method, and `SacnReceiver.Reachable` the states that calls lead to.
-/

namespace Sacn

open Rust Rust.Outcome

/-! ## The network receiver -/

/-- The socket, as far as multicast groups go: what the `n`-th call for a group returns (`none` is
success), and the number of calls so far. -/
structure MulticastSocket where
  results : Nat → SocketAddr → Option IoErrorKind
  calls : Nat

/-- `join_multicast_v4`, `join_multicast_v6`, `leave_multicast_v4` and `leave_multicast_v6`, with
the text that `map_err` puts on an error. -/
def MulticastSocket.call (group : SocketAddr) (msg : String) :
    Method MulticastSocket SacnError Unit := do
  let socket ← Method.get
  Method.set { socket with calls := socket.calls + 1 }
  match socket.results socket.calls group with
  | none => return ()
  | some kind => Method.throw (.io kind msg)

/-- `SacnNetworkReceiver`. -/
structure SacnNetworkReceiver where
  socket : MulticastSocket
  addr : SocketAddr
  isMulticastEnabled : Bool

namespace SacnNetworkReceiver

/-- The multicast group of a universe on this receiver's IP version. -/
def multicastAddr (nr : SacnNetworkReceiver) (uni : UInt16) : Outcome SacnError SocketAddr :=
  if nr.addr.isIpv6 then universeToIpv6MulticastAddr uni else universeToIpv4MulticastAddr uni

/-- A method of the socket. -/
def onSocket {α : Type} (x : Method MulticastSocket SacnError α) :
    Method SacnNetworkReceiver SacnError α :=
  Method.onField socket (fun nr socket => { nr with socket }) x

/-- `listen_multicast_universe`. -/
def listenMulticastUniverse (uni : UInt16) : Method SacnNetworkReceiver SacnError Unit := do
  let nr ← Method.get
  let group ← Method.lift (nr.multicastAddr uni)
  onSocket (MulticastSocket.call group (if nr.addr.isIpv6 then "Failed to join IPv6 multicast"
    else "Failed to join IPv4 multicast"))

/-- `mute_multicast_universe`. -/
def muteMulticastUniverse (uni : UInt16) : Method SacnNetworkReceiver SacnError Unit := do
  let nr ← Method.get
  let group ← Method.lift (nr.multicastAddr uni)
  onSocket (MulticastSocket.call group (if nr.addr.isIpv6 then "Failed to leave IPv6 multicast"
    else "Failed to leave IPv4 multicast"))

end SacnNetworkReceiver

/-! ## Discovered sources -/

/-- `UniversePage`. -/
structure UniversePage where
  page : UInt8
  universes : List UInt16
  deriving DecidableEq, Repr

/-- `DiscoveredSacnSource`. -/
structure DiscoveredSacnSource where
  name : String
  cid : Uuid
  lastUpdated : Nat
  pages : List UniversePage
  lastPage : UInt8
  deriving DecidableEq, Repr

namespace DiscoveredSacnSource

/-- The first line of `has_all_pages`: the pages, sorted by number, equal numbers in the order they
came. -/
def sortPages (src : DiscoveredSacnSource) : DiscoveredSacnSource :=
  { src with pages := src.pages.insertionSort fun a b => a.page ≤ b.page }

/-- The loop of `has_all_pages`. -/
def allPages (src : DiscoveredSacnSource) : Bool :=
  (List.range (src.lastPage.toNat + 1)).all fun i =>
    src.pages[i]?.any fun p => p.page = UInt8.ofNat i

/-- `has_all_pages`: the answer, and the record with its pages sorted. -/
def hasAllPages (src : DiscoveredSacnSource) : Bool × DiscoveredSacnSource :=
  (src.sortPages.allPages, src.sortPages)

/-- `get_all_universes`. -/
def getAllUniverses (src : DiscoveredSacnSource) : List UInt16 :=
  src.pages.flatMap fun p => p.universes

/-- `terminate_universe`. -/
def terminateUniverse (uni : UInt16) (src : DiscoveredSacnSource) : DiscoveredSacnSource :=
  { src with pages := src.pages.map fun p => { p with universes := p.universes.filter (· ≠ uni) } }

end DiscoveredSacnSource

/-- `find_discovered_src`. -/
def findDiscoveredSrc (srcs : List DiscoveredSacnSource) (cid : Uuid) : Option Nat :=
  KeyedVec.position DiscoveredSacnSource.cid srcs cid

/-! ## The receiver -/

/-- `SacnReceiver`. -/
structure SacnReceiver where
  receiver : SacnNetworkReceiver
  waitingData : HashMap UInt16 DMXData
  universes : List UInt16
  discoveredSources : List DiscoveredSacnSource
  mergeFunc : MergeFn
  partiallyDiscoveredSources : List DiscoveredSacnSource
  sourceLimit : Option Nat
  sequences : SequenceNumbering
  processPreviewData : Bool
  announceSourceDiscovery : Bool
  announceStreamTermination : Bool
  announceTimeout : Bool

namespace SacnReceiver

/-! ### Listening -/

/-- A method of the network receiver. -/
def onReceiver {α : Type} (x : Method SacnNetworkReceiver SacnError α) :
    Method SacnReceiver SacnError α :=
  Method.onField receiver (fun r receiver => { r with receiver }) x

/-- A method of the sequence numbering. -/
def onSequences {α : Type} (x : Method SequenceNumbering SacnError α) :
    Method SacnReceiver SacnError α :=
  Method.onField sequences (fun r sequences => { r with sequences }) x

/-- The body of the second loop of `listen_universes`. -/
def listenUniverse (uni : UInt16) : Method SacnReceiver SacnError Unit := do
  let r ← Method.get
  match binarySearch r.universes uni with
  | .ok _ => return ()
  | .error i =>
    Method.modify fun r => { r with universes := vecInsert r.universes i uni }
    if r.receiver.isMulticastEnabled then
      onReceiver (SacnNetworkReceiver.listenMulticastUniverse uni)

/-- `listen_universes`. -/
def listenUniverses (universes : List UInt16) : Method SacnReceiver SacnError Unit := do
  universes.forM fun u => Method.lift (isUniverseInRange u)
  universes.forM listenUniverse

/-- `mute_universe`. -/
def muteUniverse (uni : UInt16) : Method SacnReceiver SacnError Unit := do
  Method.lift (isUniverseInRange uni)
  let r ← Method.get
  match binarySearch r.universes uni with
  | .error _ => Method.throw (.universeNotFound uni)
  | .ok i =>
    Method.modify fun r => { r with universes := r.universes.eraseIdx i }
    onReceiver (SacnNetworkReceiver.muteMulticastUniverse uni)

/-- `is_listening`. -/
def isListening (r : SacnReceiver) (uni : UInt16) : Bool := r.universes.contains uni

/-- The receiver `with_ip` starts from, once the socket is bound. -/
def bound (ip : SocketAddr) (sourceLimit : Option Nat) (socket : MulticastSocket) :
    SacnReceiver :=
  { receiver := { socket, addr := ip, isMulticastEnabled := true }
    waitingData := ∅, universes := [], discoveredSources := [], mergeFunc := defaultMergeFunc
    partiallyDiscoveredSources := [], sourceLimit, sequences := .new
    processPreviewData := false, announceSourceDiscovery := false
    announceStreamTermination := false, announceTimeout := false }

/-- `with_ip`. -/
def withIp (ip : SocketAddr) (sourceLimit : Option Nat) (socket : MulticastSocket) :
    Outcome SacnError SacnReceiver := do
  throwIf (sourceLimit = some 0) .sourceLimitZero
  match (listenUniverses [e131DiscoveryUniverse]).run (bound ip sourceLimit socket) with
  | (.ok _, r) => return r
  | (.err e, _) => .err e
  | (.panic, _) => .panic

theorem withIp_eq_ok {ip : SocketAddr} {sourceLimit : Option Nat} {socket : MulticastSocket}
    {r : SacnReceiver} : withIp ip sourceLimit socket = .ok r ↔ sourceLimit ≠ some 0 ∧
      (listenUniverses [e131DiscoveryUniverse]).run (bound ip sourceLimit socket) = (.ok (), r) := by
  unfold withIp
  simp only [bind_eq_ok, throwIf_eq_ok, exists_const]
  refine and_congr_right fun _ => ?_
  rcases (listenUniverses [e131DiscoveryUniverse]).run (bound ip sourceLimit socket) with
    ⟨_ | _ | _, r'⟩ <;> simp

/-! ### Waiting data -/

/-- `clear_all_waiting_data`. -/
def clearAllWaitingData (r : SacnReceiver) : SacnReceiver := { r with waitingData := ∅ }

/-- `clear_waiting_data`, without its answer (whether a frame was held). -/
def clearWaitingData (uni : UInt16) (r : SacnReceiver) : SacnReceiver :=
  { r with waitingData := r.waitingData.remove uni }

/-- `store_waiting_data`: the held frame is taken out before it is merged. -/
def storeWaitingData (data : DMXData) : Method SacnReceiver SacnError Unit := do
  let r ← Method.get
  match r.waitingData.get data.uni with
  | some existing =>
    Method.modify (clearWaitingData data.uni)
    let merged ← Method.lift (r.mergeFunc existing data)
    Method.modify fun r => { r with waitingData := r.waitingData.insert data.uni merged }
  | none => Method.modify fun r => { r with waitingData := r.waitingData.insert data.uni data }

/-- The second loop of `rtrv_waiting_data`, over the keys found by the first: each frame is taken
out, and kept for the result if it is young enough at its reading of the clock. -/
def takeWaitingData (now : UInt16 → Nat) :
    List UInt16 → List DMXData → Method SacnReceiver SacnError (List DMXData)
  | [], res => return res
  | k :: keys, res => do
    let r ← Method.get
    match r.waitingData.get k with
    | none => Method.panic
    | some data =>
      Method.modify (clearWaitingData k)
      takeWaitingData now keys
        (if elapsed data.recvTimestamp (now k) < e131NetworkDataLossTimeout then res ++ [data]
          else res)

/-- `rtrv_waiting_data`, walking the held frames in `order`. -/
def rtrvWaitingData (syncUni : UInt16) (order : List UInt16) (now : UInt16 → Nat) :
    Method SacnReceiver SacnError (List DMXData) := do
  let r ← Method.get
  takeWaitingData now (order.filter fun u => (r.waitingData.get u).any (·.syncUni = syncUni)) []

/-- `check_waiting_data_timeouts`. -/
def checkWaitingDataTimeouts (now : UInt16 → Nat) (r : SacnReceiver) : SacnReceiver :=
  { r with waitingData := r.waitingData.retain fun u data =>
      elapsed data.recvTimestamp (now u) < e131NetworkDataLossTimeout }

/-! ### Packets -/

/-- `terminate_stream`: an entry or a record that is not there is no error. -/
def terminateStream (srcCid : Uuid) (uni : UInt16) (r : SacnReceiver) : SacnReceiver :=
  let sequences := ((SequenceNumbering.removeSeqNumbers srcCid uni).run r.sequences).2
  match findDiscoveredSrc r.discoveredSources srcCid with
  | some index =>
    { r with
      sequences
      discoveredSources := r.discoveredSources.modify index (.terminateUniverse uni) }
  | none => { r with sequences }

/-- The frame `handle_data_packet` makes of a packet. -/
def dmxData (cid : Uuid) (pkt : DataPacketFramingLayer) (recvTimestamp : Nat) : DMXData :=
  { uni := pkt.uni, values := pkt.data.propertyValues, syncUni := pkt.synchronizationAddress
    priority := pkt.priority, srcCid := some cid, preview := pkt.previewData, recvTimestamp }

/-- `handle_data_packet` from the sequence check on. -/
def acceptDataPacket (cid : Uuid) (pkt : DataPacketFramingLayer) (amb : Ambient)
    (recvTimestamp : Nat) : Method SacnReceiver SacnError (Option (List DMXData)) := do
  let r ← Method.get
  onSequences (SequenceNumbering.checkDataSeqNumber r.sourceLimit cid pkt.sequenceNumber pkt.uni
    r.announceTimeout amb)
  if pkt.synchronizationAddress = e131NoSyncAddr then
    Method.modify (clearWaitingData pkt.uni)
    return some [dmxData cid pkt recvTimestamp]
  else
    listenUniverses [pkt.synchronizationAddress]
    storeWaitingData (dmxData cid pkt recvTimestamp)
    return none

/-- `handle_data_packet`. -/
def handleDataPacket (cid : Uuid) (pkt : DataPacketFramingLayer) (amb : Ambient)
    (recvTimestamp : Nat) : Method SacnReceiver SacnError (Option (List DMXData)) := do
  let r ← Method.get
  if pkt.previewData && !r.processPreviewData then return none
  else if pkt.streamTerminated then
    Method.modify (terminateStream cid pkt.uni)
    Method.throwIf (r.announceStreamTermination = true) (.universeTerminated cid pkt.uni)
    return none
  else if !r.isListening pkt.uni then return none
  else acceptDataPacket cid pkt amb recvTimestamp

/-- `handle_sync_packet`. -/
def handleSyncPacket (cid : Uuid) (pkt : SynchronizationPacketFramingLayer) (amb : Ambient)
    (order : List UInt16) (now : UInt16 → Nat) :
    Method SacnReceiver SacnError (Option (List DMXData)) := do
  let r ← Method.get
  if !r.isListening pkt.synchronizationAddress then return none
  else
    onSequences (SequenceNumbering.checkSyncSeqNumber r.sourceLimit cid pkt.sequenceNumber
      pkt.synchronizationAddress r.announceTimeout amb)
    let res ← rtrvWaitingData pkt.synchronizationAddress order now
    return if res.isEmpty then none else some res

/-- `update_discovered_srcs`. -/
def updateDiscoveredSrcs (src : DiscoveredSacnSource) (r : SacnReceiver) : SacnReceiver :=
  match findDiscoveredSrc r.discoveredSources src.cid with
  | some index =>
    { r with discoveredSources := r.discoveredSources.eraseIdx index ++ [src] }
  | none => { r with discoveredSources := r.discoveredSources ++ [src] }

/-- The branch of `handle_universe_discovery_packet` for a source with a partial record, at
`index`. -/
def continueDiscovery (index : Nat) (src : DiscoveredSacnSource)
    (pkt : UniverseDiscoveryPacketFramingLayer) (now : Nat) (r : SacnReceiver) :
    Option String × SacnReceiver :=
  let uniPage : UniversePage := { page := pkt.data.page, universes := pkt.data.universes }
  let (complete, src) :=
    { src with pages := src.pages ++ [uniPage], lastUpdated := now }.hasAllPages
  if complete then (some pkt.sourceName, updateDiscoveredSrcs src
    { r with partiallyDiscoveredSources := r.partiallyDiscoveredSources.eraseIdx index })
  else (none, { r with partiallyDiscoveredSources := r.partiallyDiscoveredSources.set index src })

/-- The branch for a source without one. -/
def startDiscovery (cid : Uuid) (pkt : UniverseDiscoveryPacketFramingLayer) (now : Nat)
    (r : SacnReceiver) : Option String × SacnReceiver :=
  let uniPage : UniversePage := { page := pkt.data.page, universes := pkt.data.universes }
  let src : DiscoveredSacnSource :=
    { name := pkt.sourceName, cid, lastPage := pkt.data.lastPage, pages := [uniPage]
      lastUpdated := now }
  if pkt.data.page = 0 ∧ pkt.data.page = pkt.data.lastPage then
    (some pkt.sourceName, updateDiscoveredSrcs src r)
  else
    (none, { r with partiallyDiscoveredSources := r.partiallyDiscoveredSources ++ [src] })

/-- `handle_universe_discovery_packet`. -/
def handleUniverseDiscoveryPacket (cid : Uuid) (pkt : UniverseDiscoveryPacketFramingLayer)
    (now : Nat) (r : SacnReceiver) : Option String × SacnReceiver :=
  match findDiscoveredSrc r.partiallyDiscoveredSources cid with
  | some index =>
    match r.partiallyDiscoveredSources[index]? with
    | some src => continueDiscovery index src pkt now r
    | none => (none, r)
  | none => startDiscovery cid pkt now r

/-- `UNIVERSE_DISCOVERY_SOURCE_TIMEOUT`. -/
def universeDiscoverySourceTimeout : Nat := e131NetworkDataLossTimeout

/-- `remove_expired_sources`, looking at each record at the reading `now` gives for it. -/
def removeExpiredSources (now : DiscoveredSacnSource → Nat) (r : SacnReceiver) : SacnReceiver :=
  { r with
    partiallyDiscoveredSources := r.partiallyDiscoveredSources.filter fun src =>
      elapsed src.lastUpdated (now src) < universeDiscoverySourceTimeout
    discoveredSources := r.discoveredSources.filter fun src =>
      elapsed src.lastUpdated (now src) < universeDiscoverySourceTimeout }

/-- `reset_sources`. -/
def resetSources (r : SacnReceiver) : SacnReceiver :=
  { r with
    sequences := (SequenceNumbering.clear.run r.sequences).2
    partiallyDiscoveredSources := []
    discoveredSources := [] }

/-! ### The check of a number -/

theorem run_checkDataSeqNumber {r : SacnReceiver} {sourceLimit : Option Nat} {cid : Uuid}
    {sequenceNumber : UInt8} {uni : UInt16} {announceTimeout : Bool} {amb : Ambient}
    {res : Outcome SacnError Unit} {t : SeqTable}
    (h : (checkSeqNumber sourceLimit cid sequenceNumber uni announceTimeout amb).run
      r.sequences.dataSequences = (res, t)) :
    (onSequences (SequenceNumbering.checkDataSeqNumber sourceLimit cid sequenceNumber uni
      announceTimeout amb)).run r =
        (res, { r with sequences := { r.sequences with dataSequences := t } }) := by
  unfold onSequences SequenceNumbering.checkDataSeqNumber SequenceNumbering.onData
  rw [Method.run_onField, Method.run_onField, h]

theorem run_checkSyncSeqNumber {r : SacnReceiver} {sourceLimit : Option Nat} {cid : Uuid}
    {sequenceNumber : UInt8} {uni : UInt16} {announceTimeout : Bool} {amb : Ambient}
    {res : Outcome SacnError Unit} {t : SeqTable}
    (h : (checkSeqNumber sourceLimit cid sequenceNumber uni announceTimeout amb).run
      r.sequences.syncSequences = (res, t)) :
    (onSequences (SequenceNumbering.checkSyncSeqNumber sourceLimit cid sequenceNumber uni
      announceTimeout amb)).run r =
        (res, { r with sequences := { r.sequences with syncSequences := t } }) := by
  unfold onSequences SequenceNumbering.checkSyncSeqNumber SequenceNumbering.onSync
  rw [Method.run_onField, Method.run_onField, h]

/-! ### What a call leaves alone -/

section Keeps

variable {τ : Type} {f : SacnReceiver → τ}

theorem keeps_onSequences {α : Type} (x : Method SequenceNumbering SacnError α)
    (hsequences : ∀ r sequences, f { r with sequences } = f r) :
    Method.Keeps f (onSequences x) := .onField hsequences

theorem keeps_listenUniverses (universes : List UInt16)
    (hreceiver : ∀ r receiver, f { r with receiver } = f r)
    (huniverses : ∀ r universes, f { r with universes } = f r) :
    Method.Keeps f (listenUniverses universes) := by
  refine .bind (.forM fun u _ => .lift _) fun _ => .forM fun u _ => .bind .get fun r => ?_
  cases binarySearch r.universes u with
  | ok i => exact .pure ()
  | error i =>
    refine .bind (.modify fun r => huniverses r _) fun _ => ?_
    split
    · exact .onField hreceiver
    · exact .pure ()

/-- What `with_ip` makes, but for the socket and the discovery universe. -/
theorem withIp_keeps {ip : SocketAddr} {sourceLimit : Option Nat} {socket : MulticastSocket}
    {r : SacnReceiver} (h : withIp ip sourceLimit socket = .ok r)
    (hreceiver : ∀ r receiver, f { r with receiver } = f r)
    (huniverses : ∀ r universes, f { r with universes } = f r) :
    f r = f (bound ip sourceLimit socket) := by
  have hkeeps := keeps_listenUniverses [e131DiscoveryUniverse] hreceiver huniverses
    (bound ip sourceLimit socket)
  rw [(withIp_eq_ok.mp h).2] at hkeeps
  exact hkeeps

theorem keeps_muteUniverse (uni : UInt16)
    (hreceiver : ∀ r receiver, f { r with receiver } = f r)
    (huniverses : ∀ r universes, f { r with universes } = f r) :
    Method.Keeps f (muteUniverse uni) := by
  refine .bind (.lift _) fun _ => .bind .get fun r => ?_
  cases binarySearch r.universes uni with
  | error i => exact .throw _
  | ok i => exact .bind (.modify fun r => huniverses r _) fun _ => .onField hreceiver

theorem keeps_storeWaitingData (data : DMXData)
    (hwaiting : ∀ r waitingData, f { r with waitingData } = f r) :
    Method.Keeps f (storeWaitingData data) := by
  refine .bind .get fun r => ?_
  cases r.waitingData.get data.uni with
  | none => exact .modify fun r => hwaiting r _
  | some existing =>
    exact .bind (.modify fun r => hwaiting r _) fun _ => .bind (.lift _) fun merged =>
      .modify fun r => hwaiting r _

theorem keeps_takeWaitingData {now : UInt16 → Nat} {keys : List UInt16}
    (hwaiting : ∀ r waitingData, f { r with waitingData } = f r) :
    ∀ {res : List DMXData}, Method.Keeps f (takeWaitingData now keys res) := by
  induction keys with
  | nil => exact .pure _
  | cons k keys ih =>
    refine .bind .get fun r => ?_
    cases r.waitingData.get k with
    | none => exact .panic
    | some data => exact .bind (.modify fun r => hwaiting r _) fun _ => ih

theorem keeps_acceptDataPacket (cid : Uuid) (pkt : DataPacketFramingLayer) (amb : Ambient)
    (recvTimestamp : Nat) (hreceiver : ∀ r receiver, f { r with receiver } = f r)
    (huniverses : ∀ r universes, f { r with universes } = f r)
    (hsequences : ∀ r sequences, f { r with sequences } = f r)
    (hwaiting : ∀ r waitingData, f { r with waitingData } = f r) :
    Method.Keeps f (acceptDataPacket cid pkt amb recvTimestamp) := by
  refine .bind .get fun r => .bind (keeps_onSequences _ hsequences) fun _ => ?_
  split
  · exact .bind (.modify fun r => hwaiting r _) fun _ => .pure _
  · exact .bind (keeps_listenUniverses _ hreceiver huniverses) fun _ =>
      .bind (keeps_storeWaitingData _ hwaiting) fun _ => .pure _

theorem keeps_handleSyncPacket (cid : Uuid) (pkt : SynchronizationPacketFramingLayer)
    (amb : Ambient) (order : List UInt16) (now : UInt16 → Nat)
    (hsequences : ∀ r sequences, f { r with sequences } = f r)
    (hwaiting : ∀ r waitingData, f { r with waitingData } = f r) :
    Method.Keeps f (handleSyncPacket cid pkt amb order now) := by
  refine .bind .get fun r => ?_
  split
  · exact .pure _
  · exact .bind (keeps_onSequences _ hsequences) fun _ =>
      .bind (.bind .get fun r => keeps_takeWaitingData hwaiting) fun _ => .pure _

theorem terminateStream_keeps (hsequences : ∀ r sequences, f { r with sequences } = f r)
    (hdiscovered : ∀ r discoveredSources, f { r with discoveredSources } = f r) (cid : Uuid)
    (uni : UInt16) (r : SacnReceiver) : f (terminateStream cid uni r) = f r := by
  unfold terminateStream
  cases findDiscoveredSrc r.discoveredSources cid with
  | none => exact hsequences r _
  | some index =>
    exact (hdiscovered { r with
      sequences := ((SequenceNumbering.removeSeqNumbers cid uni).run r.sequences).2 } _).trans
        (hsequences r _)

theorem handleUniverseDiscoveryPacket_keeps
    (hdiscovered : ∀ r discoveredSources, f { r with discoveredSources } = f r)
    (hpartially : ∀ r partiallyDiscoveredSources, f { r with partiallyDiscoveredSources } = f r)
    (cid : Uuid) (pkt : UniverseDiscoveryPacketFramingLayer) (now : Nat) (r : SacnReceiver) :
    f (handleUniverseDiscoveryPacket cid pkt now r).2 = f r := by
  have hupdate : ∀ src r, f (updateDiscoveredSrcs src r) = f r := by
    intro src r
    unfold updateDiscoveredSrcs
    split <;> exact hdiscovered r _
  unfold handleUniverseDiscoveryPacket
  split
  · split
    · unfold continueDiscovery
      simp only
      split
      · exact (hupdate _ _).trans (hpartially r _)
      · exact hpartially r _
    · rfl
  · unfold startDiscovery
    simp only
    split
    · exact hupdate _ _
    · exact hpartially r _

end Keeps

section Preserves

variable {P : SacnReceiver → Prop} {cid : Uuid} {pkt : DataPacketFramingLayer} {amb : Ambient}
  {recvTimestamp : Nat}

/-- **The rule for an accepted data packet**: what its steps preserve. -/
theorem preserves_acceptDataPacket
    (hcheck : ∀ sourceLimit announceTimeout, Method.Preserves P (onSequences
      (SequenceNumbering.checkDataSeqNumber sourceLimit cid pkt.sequenceNumber pkt.uni
        announceTimeout amb)))
    (hclear : ∀ r, P r → P (clearWaitingData pkt.uni r))
    (hlisten : Method.Preserves P (listenUniverses [pkt.synchronizationAddress]))
    (hstore : pkt.synchronizationAddress ≠ e131NoSyncAddr →
      Method.Preserves P (storeWaitingData (dmxData cid pkt recvTimestamp))) :
    Method.Preserves P (acceptDataPacket cid pkt amb recvTimestamp) := by
  refine .get_bind fun r hr => ?_
  refine Method.Preserves.bind (hcheck r.sourceLimit r.announceTimeout) (fun _ => ?_) r hr
  split
  · exact .bind (.modify hclear) fun _ => .pure _
  · rename_i hsync
    exact .bind hlisten fun _ => .bind (hstore hsync) fun _ => .pure _

/-- **The rule for a data packet**: it is ignored, or ends a stream, or is accepted. -/
theorem preserves_handleDataPacket
    (hterminate : pkt.streamTerminated = true → ∀ r, P r → P (terminateStream cid pkt.uni r))
    (haccept : Method.Preserves P (acceptDataPacket cid pkt amb recvTimestamp)) :
    Method.Preserves P (handleDataPacket cid pkt amb recvTimestamp) := by
  refine .get_bind fun r hr => ?_
  split
  · exact hr
  · split
    · rename_i hterminated
      exact Method.Preserves.bind (.modify (hterminate hterminated))
        (fun _ => .bind (.throwIf _ _) fun _ => .pure _) r hr
    · split
      · exact hr
      · exact haccept r hr

end Preserves

end SacnReceiver

/-! ## Runs -/

/-- One call of a method of the receiver. The last three change a setting. -/
inductive ReceiverCall where
  | listenUniverses (universes : List UInt16)
  | muteUniverse (uni : UInt16)
  | handleDataPacket (cid : Uuid) (pkt : DataPacketFramingLayer) (amb : Ambient)
      (recvTimestamp : Nat)
  | handleSyncPacket (cid : Uuid) (pkt : SynchronizationPacketFramingLayer) (amb : Ambient)
      (order : List UInt16) (now : UInt16 → Nat)
  | handleUniverseDiscoveryPacket (cid : Uuid) (pkt : UniverseDiscoveryPacketFramingLayer)
      (now : Nat)
  | checkTimeouts (data sync : Ambient)
  | checkWaitingDataTimeouts (now : UInt16 → Nat)
  | clearWaitingData (uni : UInt16)
  | clearAllWaitingData
  | removeExpiredSources (now : DiscoveredSacnSource → Nat)
  | resetSources
  | setMergeFn (merge : MergeFn)
  | setMulticastEnabled (val : Bool)
  | setFlags (processPreviewData announceSourceDiscovery announceStreamTermination
      announceTimeout : Bool)

namespace ReceiverCall

/-- The receiver after the call, however it ends. -/
def next (r : SacnReceiver) : ReceiverCall → SacnReceiver
  | listenUniverses universes => ((SacnReceiver.listenUniverses universes).run r).2
  | muteUniverse uni => ((SacnReceiver.muteUniverse uni).run r).2
  | handleDataPacket cid pkt amb recvTimestamp =>
    ((SacnReceiver.handleDataPacket cid pkt amb recvTimestamp).run r).2
  | handleSyncPacket cid pkt amb order now =>
    ((SacnReceiver.handleSyncPacket cid pkt amb order now).run r).2
  | handleUniverseDiscoveryPacket cid pkt now =>
    (SacnReceiver.handleUniverseDiscoveryPacket cid pkt now r).2
  | checkTimeouts data sync =>
    ((SacnReceiver.onSequences
      (SequenceNumbering.checkTimeouts r.announceTimeout data sync)).run r).2
  | checkWaitingDataTimeouts now => SacnReceiver.checkWaitingDataTimeouts now r
  | clearWaitingData uni => SacnReceiver.clearWaitingData uni r
  | clearAllWaitingData => SacnReceiver.clearAllWaitingData r
  | removeExpiredSources now => SacnReceiver.removeExpiredSources now r
  | resetSources => SacnReceiver.resetSources r
  | setMergeFn merge => { r with mergeFunc := merge }
  | setMulticastEnabled val => { r with receiver := { r.receiver with isMulticastEnabled := val } }
  | setFlags processPreviewData announceSourceDiscovery announceStreamTermination
      announceTimeout =>
    { r with processPreviewData, announceSourceDiscovery, announceStreamTermination
             announceTimeout }

end ReceiverCall

/-- The states a new receiver reaches by calls that `allowed` lets through. -/
inductive SacnReceiver.Reachable (allowed : ReceiverCall → Prop) : SacnReceiver → Prop where
  | new (ip : SocketAddr) (sourceLimit : Option Nat) (socket : MulticastSocket) (r : SacnReceiver)
      (h : SacnReceiver.withIp ip sourceLimit socket = .ok r) : Reachable allowed r
  | step (r : SacnReceiver) (c : ReceiverCall) (h : Reachable allowed r) (hc : allowed c) :
      Reachable allowed (c.next r)

/-- A new receiver whose socket joins every group. -/
def newReceiver : SacnReceiver :=
  ((SacnReceiver.listenUniverses [e131DiscoveryUniverse]).run
    (SacnReceiver.bound { ip := .v4 0 0 0 0, port := acnSdtMulticastPort } none
      { results := fun _ _ => none, calls := 0 })).2

theorem newReceiver_reachable (allowed : ReceiverCall → Prop) : newReceiver.Reachable allowed :=
  .new { ip := .v4 0 0 0 0, port := acnSdtMulticastPort } none
    { results := fun _ _ => none, calls := 0 } _ (SacnReceiver.withIp_eq_ok.mpr ⟨by simp, rfl⟩)

end Sacn
