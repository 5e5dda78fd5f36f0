import Sacn.Packet.Multicast
import Sacn.Packet.Pack
import Sacn.Rust.HashMap
import Sacn.Rust.Method
import Sacn.Rust.SortedVec

/-!
# The sender (`source.rs`)

`SacnSourceInternal`: registering universes, sending data over them, synchronisation packets, stream
termination and universe discovery. A method that fails leaves what it did before it failed.

The socket is part of the state: whether each `send_to` succeeds is decided outside, and what was
sent is kept in order. The methods on `&self` change the sequence tables through a `RefCell` and
are methods of the state like the others.

`send` computes the number of universes it needs as `(data.len() as f64 / 513.0).ceil()`. Below
`2^52` bytes the quotient's rounding cannot cross an integer, so this is the exact ceiling.

* **`sendUniverse_ends`**, `sendSyncPacket_ends`, `sendUniverseDiscoveryDetailed_ends`: a call sends
  its packet and updates the state, or sends nothing and leaves the state as it was.
-/

namespace Sacn

open Rust Rust.Outcome

/-- A UDP socket, as far as `send_to` goes: what each call returns (`none` is success), the number
of calls so far, and the datagrams sent with their destinations. -/
structure Socket where
  results : Nat → Option (IoErrorKind × String)
  calls : Nat
  sent : List (SocketAddr × List UInt8)

/-- The socket after a datagram went out. -/
def Socket.logged (socket : Socket) (dst : SocketAddr) (bytes : List UInt8) : Socket :=
  { socket with calls := socket.calls + 1, sent := socket.sent ++ [(dst, bytes)] }

/-- `Socket::send_to`. -/
def Socket.sendTo (bytes : List UInt8) (dst : SocketAddr) : Method Socket SacnError Unit := do
  let socket ← Method.get
  match socket.results socket.calls with
  | none => Method.set (socket.logged dst bytes)
  | some (kind, msg) =>
    Method.set { socket with calls := socket.calls + 1 }
    Method.throw (.io kind msg)

/-- `E131_TERMINATE_STREAM_PACKET_COUNT`. -/
def e131TerminateStreamPacketCount : Nat := 3

/-- `SacnSourceInternal`. -/
structure SacnSourceInternal where
  socket : Socket
  addr : SocketAddr
  cid : Uuid
  name : String
  previewData : Bool
  dataSequences : HashMap UInt16 UInt8
  syncSequences : HashMap UInt16 UInt8
  universes : List UInt16
  running : Bool

namespace SacnSourceInternal

/-- `with_cid_ip`, once the socket is bound. -/
def withCidIp (name : String) (cid : Uuid) (ip : SocketAddr) (socket : Socket) :
    SacnSourceInternal :=
  { socket, addr := ip, cid, name, previewData := false, dataSequences := ∅, syncSequences := ∅
    universes := [], running := true }

/-! ## The registered universes -/

/-- `register_universe`. -/
def registerUniverse (uni : UInt16) : Method SacnSourceInternal SacnError Unit := do
  Method.lift (isUniverseInRange uni)
  Method.modify fun src =>
    if src.universes.isEmpty then { src with universes := src.universes ++ [uni] }
    else match binarySearch src.universes uni with
      | .error i => { src with universes := vecInsert src.universes i uni }
      | .ok _ => src

/-- `register_universes`. -/
def registerUniverses (universes : List UInt16) : Method SacnSourceInternal SacnError Unit :=
  universes.forM registerUniverse

/-- `deregister_universe`. -/
def deregisterUniverse (uni : UInt16) : Method SacnSourceInternal SacnError Unit := do
  Method.lift (isUniverseInRange uni)
  let src ← Method.get
  match binarySearch src.universes uni with
  | .error _ => Method.throw (.universeNotFound uni)
  | .ok i => Method.modify fun src => { src with universes := src.universes.eraseIdx i }

/-- `universe_allowed`. -/
def universeAllowed (src : SacnSourceInternal) (uni : UInt16) : Outcome SacnError Unit := do
  isUniverseInRange uni
  throwIf (uni ∉ src.universes) (.universeNotRegistered uni)

/-! ## Sending -/

/-- The multicast address of a universe on this source's IP version. -/
def multicastAddr (src : SacnSourceInternal) (uni : UInt16) : Outcome SacnError SocketAddr :=
  if src.addr.isIpv6 then universeToIpv6MulticastAddr uni else universeToIpv4MulticastAddr uni

/-- A method of the socket. -/
def onSocket {α : Type} (x : Method Socket SacnError α) : Method SacnSourceInternal SacnError α :=
  Method.onField socket (fun src socket => { src with socket }) x

/-- `send_to(..).map_err(..)`: an error keeps its kind and gets this text. -/
def sendToOr (msg : String) (bytes : List UInt8) (dst : SocketAddr) :
    Method SacnSourceInternal SacnError Unit :=
  onSocket (Method.mapErr (fun
    | .io kind _ => .io kind msg
    | e => e) (Socket.sendTo bytes dst))

/-- The sequence number after `sequence`. -/
def nextSequence (sequence : UInt8) : UInt8 := if sequence = 255 then 0 else sequence + 1

/-- The sequence number of the next data packet on a universe. -/
def dataSequence (src : SacnSourceInternal) (uni : UInt16) : UInt8 :=
  (src.dataSequences.get uni).getD startingSequenceNumber

/-- The sequence number of the next synchronisation packet on an address. -/
def syncSequence (src : SacnSourceInternal) (uni : UInt16) : UInt8 :=
  (src.syncSequences.get uni).getD startingSequenceNumber

/-- The packet `send_universe` builds. -/
def dataPacket (src : SacnSourceInternal) (uni : UInt16) (data : List UInt8) (priority : UInt8)
    (syncAddress : UInt16) : AcnRootLayerProtocol :=
  { pdu := { cid := src.cid
             data := .dataPacket
               { sourceName := src.name, priority, synchronizationAddress := syncAddress
                 sequenceNumber := src.dataSequence uni, previewData := src.previewData
                 streamTerminated := false, forceSynchronization := false, uni
                 data := { propertyValues := data } } } }

/-- `send_universe`. -/
def sendUniverse (uni : UInt16) (data : List UInt8) (priority : UInt8)
    (dstIp : Option SocketAddr) (syncAddress : UInt16) :
    Method SacnSourceInternal SacnError Unit := do
  Method.throwIf (priority > e131MaxPriority) (.invalidPriority priority)
  Method.throwIf (data.length > universeChannelCapacity) (.exceedUniverseCapacity data.length)
  let src ← Method.get
  let sequence := src.dataSequence uni
  let packet := src.dataPacket uni data priority syncAddress
  match dstIp with
  | some dst =>
    let bytes ← Method.lift packet.packAlloc.unwrap
    sendToOr "Failed to send data unicast on socket" bytes dst
  | none =>
    let dst ← Method.lift (src.multicastAddr uni)
    let bytes ← Method.lift packet.packAlloc.unwrap
    sendToOr "Failed to send data multicast on socket" bytes dst
  Method.modify fun src =>
    { src with dataSequences := src.dataSequences.insert uni (nextSequence sequence) }

/-- The part of `data` the `i`-th universe carries: `&data[start_index..end_index]`. -/
def chunk (data : List UInt8) (i : Nat) : Outcome SacnError (List UInt8) :=
  slice data (i * universeChannelCapacity) (min ((i + 1) * universeChannelCapacity) data.length)

/-- `required_universes` of `send`. -/
def requiredUniverses (data : List UInt8) : Nat :=
  (data.length + (universeChannelCapacity - 1)) / universeChannelCapacity

/-- `send`. -/
def send (universes : List UInt16) (data : List UInt8) (priority : Option UInt8)
    (dstIp : Option SocketAddr) (synchronisationAddr : Option UInt16) :
    Method SacnSourceInternal SacnError Unit := do
  let src ← Method.get
  Method.throwIf (src.running = false) (.senderAlreadyTerminated "Attempted to send")
  Method.throwIf (data.isEmpty = true) .dataArrayEmpty
  universes.forM fun u => Method.lift (src.universeAllowed u)
  synchronisationAddr.forM fun s =>
    Method.lift ((src.universeAllowed s).mapErr fun _ => .illegalSyncUniverse s)
  Method.throwIf (universes.length < requiredUniverses data) .universeListEmpty
  (universes.zipIdx.take (requiredUniverses data)).forM fun (uni, i) => do
    let values ← Method.lift (chunk data i)
    sendUniverse uni values (priority.getD e131DefaultPriority) dstIp
      (synchronisationAddr.getD noSyncUniverse)

/-- The packet `send_sync_packet` builds. -/
def syncPacket (src : SacnSourceInternal) (uni : UInt16) : AcnRootLayerProtocol :=
  { pdu := { cid := src.cid
             data := .synchronizationPacket
               { sequenceNumber := src.syncSequence uni, synchronizationAddress := uni } } }

/-- `send_sync_packet`. -/
def sendSyncPacket (uni : UInt16) (dstIp : Option SocketAddr) :
    Method SacnSourceInternal SacnError Unit := do
  let src ← Method.get
  Method.lift (src.universeAllowed uni)
  let ip ← Method.lift (dstIp.elim (src.multicastAddr uni) .ok)
  let sequence := src.syncSequence uni
  let bytes ← Method.lift (src.syncPacket uni).packAlloc
  sendToOr "Failed to send sync packet on socket" bytes ip
  Method.modify fun src =>
    { src with syncSequences := src.syncSequences.insert uni (nextSequence sequence) }

/-! ## Termination -/

/-- The packet `send_terminate_stream_pkt` builds. -/
def terminatePacket (src : SacnSourceInternal) (uni : UInt16) (startCode : UInt8) :
    AcnRootLayerProtocol :=
  { pdu := { cid := src.cid
             data := .dataPacket
               { sourceName := src.name, priority := 100, synchronizationAddress := 0
                 sequenceNumber := src.dataSequence uni, previewData := src.previewData
                 streamTerminated := true, forceSynchronization := false, uni
                 data := { propertyValues := [startCode] } } } }

/-- `send_terminate_stream_pkt`: the sequence number is taken out of the table before the packet is
sent, and its successor put back once it was. -/
def sendTerminateStreamPkt (uni : UInt16) (dstIp : Option SocketAddr) (startCode : UInt8) :
    Method SacnSourceInternal SacnError Unit := do
  let src ← Method.get
  Method.lift (src.universeAllowed uni)
  let ip ← Method.lift (dstIp.elim (src.multicastAddr uni) .ok)
  let sequence := src.dataSequence uni
  Method.modify fun src => { src with dataSequences := src.dataSequences.remove uni }
  let bytes ← Method.lift (src.terminatePacket uni startCode).packAlloc.unwrap
  onSocket (Socket.sendTo bytes ip)
  Method.modify fun src =>
    { src with dataSequences := src.dataSequences.insert uni (nextSequence sequence) }

/-- `terminate_stream`. -/
def terminateStream (uni : UInt16) (startCode : UInt8) :
    Method SacnSourceInternal SacnError Unit := do
  (List.range e131TerminateStreamPacketCount).forM fun _ =>
    sendTerminateStreamPkt uni none startCode
  deregisterUniverse uni

/-- `terminate`. -/
def terminate (startCode : UInt8) : Method SacnSourceInternal SacnError Unit := do
  Method.modify fun src => { src with running := false }
  let src ← Method.get
  src.universes.forM fun u => terminateStream u startCode

/-! ## Universe discovery -/

/-- The packet `send_universe_discovery_detailed` builds. -/
def discoveryPacket (src : SacnSourceInternal) (page lastPage : UInt8) (universes : List UInt16) :
    AcnRootLayerProtocol :=
  { pdu := { cid := src.cid
             data := .universeDiscoveryPacket
               { sourceName := src.name, data := { page, lastPage, universes } } } }

/-- `send_universe_discovery_detailed`. -/
def sendUniverseDiscoveryDetailed (page lastPage : UInt8) (universes : List UInt16) :
    Method SacnSourceInternal SacnError Unit := do
  let src ← Method.get
  let ip ← Method.lift (src.multicastAddr e131DiscoveryUniverse)
  let bytes ← Method.lift (src.discoveryPacket page lastPage universes).packAlloc
  onSocket (Socket.sendTo bytes ip)

/-- `pages_req`, with its cast to `u8`. -/
def pagesReq (src : SacnSourceInternal) : UInt8 :=
  UInt8.ofNat (src.universes.length / discoveryUniPerPage + 1)

/-- `&self.universes[start_index..end_index]` of page `p`. -/
def pageUniverses (src : SacnSourceInternal) (p : Nat) : Outcome SacnError (List UInt16) :=
  slice src.universes (p * discoveryUniPerPage)
    (min ((p + 1) * discoveryUniPerPage) src.universes.length)

/-- `send_universe_discovery`. -/
def sendUniverseDiscovery : Method SacnSourceInternal SacnError Unit := do
  let src ← Method.get
  (List.range src.pagesReq.toNat).forM fun p => do
    let universes ← Method.lift (src.pageUniverses p)
    sendUniverseDiscoveryDetailed (UInt8.ofNat p) (src.pagesReq - 1) universes

/-! ## Settings -/

/-- `set_name`. -/
def setName (name : String) : Method SacnSourceInternal SacnError Unit := do
  Method.throwIf ((strBytes name).length > e131SourceNameFieldLength)
    (.malformedSourceName "Source name provided is longer than maximum allowed")
  Method.modify fun src => { src with name }

/-- `set_preview_mode`. -/
def setPreviewMode (previewMode : Bool) : Method SacnSourceInternal SacnError Unit :=
  Method.modify fun src => { src with previewData := previewMode }

/-! ## How a send ends -/

/-- How a call that sends the packet `p` ends: it checked what it checks, the packed bytes went out,
and `next` was applied to the state, or it failed, and only the socket knows that it was called. -/
inductive SendEnds (src : SacnSourceInternal) (p : AcnRootLayerProtocol) (checked : Prop)
    (next : SacnSourceInternal → SacnSourceInternal) :
    Outcome SacnError Unit × SacnSourceInternal → Prop where
  | sent (dst : SocketAddr) (bytes : List UInt8) (hpack : p.packAlloc = .ok bytes)
      (hchecked : checked) :
      SendEnds src p checked next
        (.ok (), next { src with socket := src.socket.logged dst bytes })
  | failed (outcome : Outcome SacnError Unit) (calls : Nat) (h : outcome ≠ .ok ()) :
      SendEnds src p checked next (outcome, { src with socket := { src.socket with calls } })

section SendEnds

variable {src : SacnSourceInternal} {p : AcnRootLayerProtocol} {checked : Prop}
  {next : SacnSourceInternal → SacnSourceInternal}

theorem SendEnds.lift_bind {α : Type} {x : Outcome SacnError α}
    {k : α → Method SacnSourceInternal SacnError Unit}
    (h : ∀ a, x = .ok a → SendEnds src p checked next ((k a).run src)) :
    SendEnds src p checked next ((Method.lift x >>= k).run src) := by
  cases x with
  | ok a => exact h a rfl
  | err e => exact .failed (.err e) src.socket.calls (by simp)
  | panic => exact .failed .panic src.socket.calls (by simp)

theorem SendEnds.throwIf_bind {c : Prop} [Decidable c] {e : SacnError}
    {k : Unit → Method SacnSourceInternal SacnError Unit}
    (h : ¬ c → SendEnds src p checked next ((k ()).run src)) :
    SendEnds src p checked next ((Method.throwIf c e >>= k).run src) := by
  by_cases hc : c
  · rw [Method.run_bind_of_err (Method.run_throwIf_pos hc e src)]
    exact .failed (.err e) src.socket.calls (by simp)
  · rw [Method.run_bind_of_ok (Method.run_throwIf_neg hc e src)]
    exact h hc

theorem Socket.sendTo_cases (bytes : List UInt8) (dst : SocketAddr) (socket : Socket) :
    (Socket.sendTo bytes dst).run socket = (.ok (), socket.logged dst bytes) ∨
      ∃ kind msg, (Socket.sendTo bytes dst).run socket =
        (.err (.io kind msg), { socket with calls := socket.calls + 1 }) := by
  unfold Socket.sendTo
  rw [Method.run_bind_of_ok (Method.run_get socket)]
  split
  · exact .inl rfl
  · exact .inr ⟨_, _, rfl⟩

theorem sendTo_ends {bytes : List UInt8} {dst : SocketAddr} (hpack : p.packAlloc = .ok bytes)
    (hchecked : checked) :
    SendEnds src p checked id ((onSocket (Socket.sendTo bytes dst)).run src) := by
  unfold onSocket
  rw [Method.run_onField]
  rcases Socket.sendTo_cases bytes dst src.socket with h | ⟨kind, msg, h⟩
  · rw [h]
    exact .sent dst bytes hpack hchecked
  · rw [h]
    exact .failed _ _ (by simp)

theorem sendToOr_ends {msg : String} {bytes : List UInt8} {dst : SocketAddr}
    (hpack : p.packAlloc = .ok bytes) (hchecked : checked) :
    SendEnds src p checked next
      ((do sendToOr msg bytes dst; Method.modify next).run src) := by
  unfold sendToOr onSocket
  rw [Method.run_bind, Method.run_onField, Method.run_mapErr]
  rcases Socket.sendTo_cases bytes dst src.socket with h | ⟨kind, msg', h⟩
  · rw [h]
    exact .sent dst bytes hpack hchecked
  · rw [h]
    exact .failed _ _ (by simp)

/-- A successful call: what it checked, and the datagram it sent. -/
theorem SendEnds.of_ok {src' : SacnSourceInternal}
    (h : SendEnds src p checked next (.ok (), src')) :
    checked ∧ ∃ dst bytes, p.packAlloc = .ok bytes ∧
      src' = next { src with socket := src.socket.logged dst bytes } := by
  generalize hr : (Outcome.ok (), src') = r at h
  cases h with
  | sent dst bytes hpack hchecked => exact ⟨hchecked, dst, bytes, hpack, (Prod.mk.inj hr).2⟩
  | failed outcome calls hne => exact absurd (Prod.mk.inj hr).1.symm hne

/-- What neither the socket nor `next` touches is left alone, however the call ends. -/
theorem SendEnds.keeps {τ : Type} {f : SacnSourceInternal → τ}
    {r : Outcome SacnError Unit × SacnSourceInternal} (h : SendEnds src p checked next r)
    (hsocket : ∀ s socket, f { s with socket } = f s) (hnext : ∀ s, f (next s) = f s) :
    f r.2 = f src := by
  cases h with
  | sent dst bytes _ _ => exact (hnext _).trans (hsocket src _)
  | failed _ calls _ => exact hsocket src _

end SendEnds

/-- **`send_universe`** sends its packet and moves the universe's sequence number on, or sends
nothing and moves nothing. -/
theorem sendUniverse_ends (src : SacnSourceInternal) (uni : UInt16) (data : List UInt8)
    (priority : UInt8) (dstIp : Option SocketAddr) (syncAddress : UInt16) :
    SendEnds src (src.dataPacket uni data priority syncAddress)
      (priority ≤ e131MaxPriority ∧ data.length ≤ universeChannelCapacity)
      (fun s => { s with
        dataSequences := s.dataSequences.insert uni (nextSequence (src.dataSequence uni)) })
      ((sendUniverse uni data priority dstIp syncAddress).run src) := by
  unfold sendUniverse
  refine .throwIf_bind fun hpriority => .throwIf_bind fun hlength => ?_
  rw [Method.run_bind_of_ok (Method.run_get src)]
  have hchecked := And.intro (UInt8.not_lt.mp hpriority) (Nat.not_lt.mp hlength)
  cases dstIp with
  | some dst => exact .lift_bind fun bytes hpack => sendToOr_ends (unwrap_eq_ok.mp hpack) hchecked
  | none =>
    refine .lift_bind fun dst _ => .lift_bind fun bytes hpack => ?_
    exact sendToOr_ends (unwrap_eq_ok.mp hpack) hchecked

/-- **`send_sync_packet`** likewise. -/
theorem sendSyncPacket_ends (src : SacnSourceInternal) (uni : UInt16)
    (dstIp : Option SocketAddr) :
    SendEnds src (src.syncPacket uni) (src.universeAllowed uni = .ok ())
      (fun s => { s with
        syncSequences := s.syncSequences.insert uni (nextSequence (src.syncSequence uni)) })
      ((sendSyncPacket uni dstIp).run src) := by
  unfold sendSyncPacket
  rw [Method.run_bind_of_ok (Method.run_get src)]
  refine .lift_bind fun _ hallowed => .lift_bind fun dst _ => .lift_bind fun bytes hpack => ?_
  exact sendToOr_ends hpack hallowed

/-- **`send_universe_discovery_detailed`** sends its page or nothing. -/
theorem sendUniverseDiscoveryDetailed_ends (src : SacnSourceInternal) (page lastPage : UInt8)
    (universes : List UInt16) :
    SendEnds src (src.discoveryPacket page lastPage universes) True id
      ((sendUniverseDiscoveryDetailed page lastPage universes).run src) := by
  unfold sendUniverseDiscoveryDetailed
  rw [Method.run_bind_of_ok (Method.run_get src)]
  exact .lift_bind fun dst _ => .lift_bind fun bytes hpack => sendTo_ends hpack trivial

theorem nextSequence_eq (sequence : UInt8) : nextSequence sequence = sequence + 1 := by
  unfold nextSequence
  split
  · rename_i h
    rw [h]
    rfl
  · rfl

end SacnSourceInternal

/-- A source on an IPv4 socket that never fails. -/
def sampleSource : SacnSourceInternal :=
  .withCidIp "Stage" (.repeated 1) { ip := .v4 192 168 0 1, port := 5568 }
    { results := fun _ => none, calls := 0, sent := [] }

end Sacn
