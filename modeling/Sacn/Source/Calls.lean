import Sacn.Rust.Run
import Sacn.Source.Emission

/-!
# The calls that send (`source.rs`)

`send`, `send_sync_packet` and `terminate_stream` as a user of a source calls them, the packets each
of them builds, and how one termination packet ends; and the runs of a source.

A call may build several packets on one universe (`terminate_stream` always does, `send` when a
universe is listed twice), so the packets are those of the source with its number moved on by what
the call has sent there before (`advanced`).

* **`sendTerminateStreamPkt_ends`**: the ends of `send_terminate_stream_pkt`, which takes the
  sequence number out of its table before it sends.
* **`SendCall.emits`**: what a successful call puts on the wire.
-/

namespace Sacn

open Rust Rust.Outcome SacnSourceInternal

/-- `SacnSource::with_cid_ip`, once the socket is bound. -/
def SacnSource.withCidIp (name : String) (cid : Uuid) (ip : SocketAddr) (socket : Socket) :
    Outcome SacnError SacnSourceInternal := do
  throwIf ((strBytes name).length > e131SourceNameFieldLength)
    (.malformedSourceName "Source name provided is longer than maximum allowed")
  return SacnSourceInternal.withCidIp name cid ip socket

namespace SacnSourceInternal

/-! ## A source that has sent -/

/-- The source with its sequence number on a universe moved on by `n`. -/
def advanced (src : SacnSourceInternal) (uni : UInt16) (n : Nat) : SacnSourceInternal :=
  { src with
    dataSequences := src.dataSequences.insert uni (src.dataSequence uni + UInt8.ofNat n) }

/-- `s` is the source after it has sent on the universes of `sent`, as far as its packets show. -/
structure After (src : SacnSourceInternal) (sent : List UInt16) (s : SacnSourceInternal) :
    Prop where
  cid : s.cid = src.cid
  name : s.name = src.name
  preview : s.previewData = src.previewData
  numbers : ∀ uni, s.dataSequence uni = src.dataSequence uni + UInt8.ofNat (sent.count uni)

theorem dataSequence_advanced (src : SacnSourceInternal) (uni : UInt16) (n : Nat) :
    (src.advanced uni n).dataSequence uni = src.dataSequence uni + UInt8.ofNat n := by
  unfold advanced dataSequence
  rw [HashMap.get_insert_self]
  rfl

theorem After.refl (src : SacnSourceInternal) : After src [] src := by
  refine ⟨rfl, rfl, rfl, fun uni => ?_⟩
  rw [List.count_nil]
  exact (UInt8.add_zero _).symm

theorem After.dataPacket {src s : SacnSourceInternal} {sent : List UInt16} (h : After src sent s)
    (uni : UInt16) (values : List UInt8) (priority : UInt8) (syncAddress : UInt16) :
    s.dataPacket uni values priority syncAddress =
      (src.advanced uni (sent.count uni)).dataPacket uni values priority syncAddress := by
  unfold SacnSourceInternal.dataPacket
  rw [h.cid, h.name, h.preview, h.numbers, dataSequence_advanced]
  rfl

theorem After.terminatePacket {src s : SacnSourceInternal} {sent : List UInt16}
    (h : After src sent s) (uni : UInt16) (startCode : UInt8) :
    s.terminatePacket uni startCode =
      (src.advanced uni (sent.count uni)).terminatePacket uni startCode := by
  unfold SacnSourceInternal.terminatePacket
  rw [h.cid, h.name, h.preview, h.numbers, dataSequence_advanced]
  rfl

/-- One more packet sent. -/
theorem After.next {src s s' : SacnSourceInternal} {sent : List UInt16} {uni : UInt16}
    (h : After src sent s) (hcid : s'.cid = s.cid) (hname : s'.name = s.name)
    (hpreview : s'.previewData = s.previewData)
    (hnumbers : ∀ u, s'.dataSequence u =
      if u = uni then nextSequence (s.dataSequence uni) else s.dataSequence u) :
    After src (sent ++ [uni]) s' := by
  refine ⟨hcid.trans h.cid, hname.trans h.name, hpreview.trans h.preview, fun u => ?_⟩
  rw [hnumbers, List.count_append, List.count_singleton]
  by_cases hu : u = uni
  · rw [if_pos hu, hu, beq_self_eq_true, if_pos rfl, nextSequence_eq, h.numbers, UInt8.add_assoc,
      UInt8.ofNat_add]
    rfl
  · rw [if_neg hu, if_neg (by simpa using Ne.symm hu), Nat.add_zero, h.numbers]

/-- One more data packet sent. -/
theorem After.dataSent {src s : SacnSourceInternal} {sent : List UInt16} (h : After src sent s)
    (socket : Socket) (uni : UInt16) :
    After src (sent ++ [uni]) { s with
      socket, dataSequences := s.dataSequences.insert uni (nextSequence (s.dataSequence uni)) } := by
  refine h.next rfl rfl rfl fun u => ?_
  unfold dataSequence
  rw [HashMap.get_insert]
  by_cases hu : u = uni
  · rw [if_pos hu, if_pos hu]
    rfl
  · rw [if_neg hu, if_neg hu]

/-- One more termination packet sent: its number is taken out of the table and put back. -/
theorem After.terminationSent {src s : SacnSourceInternal} {sent : List UInt16}
    (h : After src sent s) (socket : Socket) (uni : UInt16) :
    After src (sent ++ [uni]) { s with
      socket
      dataSequences := (s.dataSequences.remove uni).insert uni
        (nextSequence (s.dataSequence uni)) } := by
  refine h.next rfl rfl rfl fun u => ?_
  unfold dataSequence
  rw [HashMap.get_insert, HashMap.get_remove]
  by_cases hu : u = uni
  · rw [if_pos hu, if_pos hu]
    rfl
  · rw [if_neg hu, if_neg hu, if_neg hu]

/-! ## One termination packet -/

/-- How `send_terminate_stream_pkt` ends: the packet went out and the number was moved on; the call
was refused before it took the number; or it took the number and then failed, so that the number is
gone. -/
inductive TerminateEnds (src : SacnSourceInternal) (uni : UInt16) (p : AcnRootLayerProtocol) :
    Outcome SacnError Unit × SacnSourceInternal → Prop where
  | sent (dst : SocketAddr) (bytes : List UInt8) (hallowed : src.universeAllowed uni = .ok ())
      (hsocket : src.socket.results src.socket.calls = none) (hpack : p.packAlloc = .ok bytes) :
      TerminateEnds src uni p (.ok (), { src with
        socket := src.socket.logged dst bytes
        dataSequences :=
          (src.dataSequences.remove uni).insert uni (nextSequence (src.dataSequence uni)) })
  | refused (outcome : Outcome SacnError Unit) (h : outcome ≠ .ok ()) :
      TerminateEnds src uni p (outcome, src)
  | failed (kind : IoErrorKind) (msg : String) (hallowed : src.universeAllowed uni = .ok ())
      (hsocket : src.socket.results src.socket.calls = some (kind, msg)) :
      TerminateEnds src uni p (.err (.io kind msg), { src with
        socket := { src.socket with calls := src.socket.calls + 1 }
        dataSequences := src.dataSequences.remove uni })
  | unpacked (hpack : ∀ bytes, p.packAlloc ≠ .ok bytes) :
      TerminateEnds src uni p
        (.panic, { src with dataSequences := src.dataSequences.remove uni })

/-- **`send_terminate_stream_pkt`**. -/
theorem sendTerminateStreamPkt_ends (src : SacnSourceInternal) (uni : UInt16)
    (dstIp : Option SocketAddr) (startCode : UInt8) :
    TerminateEnds src uni (src.terminatePacket uni startCode)
      ((sendTerminateStreamPkt uni dstIp startCode).run src) := by
  unfold sendTerminateStreamPkt
  rw [Method.run_bind_of_ok (Method.run_get src), Method.run_bind, Method.run_lift]
  cases hallowed : src.universeAllowed uni with
  | err e => exact .refused _ (by simp)
  | panic => exact .refused _ (by simp)
  | ok _ =>
    simp only [Method.run_bind, Method.run_lift]
    cases dstIp.elim (src.multicastAddr uni) Outcome.ok with
    | err e => exact .refused _ (by simp)
    | panic => exact .refused _ (by simp)
    | ok dst =>
      -- from here the number is out of the table
      simp only [Method.run_modify]
      cases hpack : (src.terminatePacket uni startCode).packAlloc with
      | err e => exact .unpacked fun bytes h => by rw [hpack] at h; cases h
      | panic => exact .unpacked fun bytes h => by rw [hpack] at h; cases h
      | ok bytes =>
        unfold onSocket Socket.sendTo
        simp only [Outcome.unwrap, Method.run_onField, Method.run_bind, Method.run_get]
        cases hsocket : src.socket.results src.socket.calls with
        | none => exact .sent dst bytes hallowed hsocket hpack
        | some failure => exact .failed failure.1 failure.2 hallowed hsocket

/-- A termination packet that went out. -/
theorem TerminateEnds.of_ok {src src' : SacnSourceInternal} {uni : UInt16}
    {p : AcnRootLayerProtocol} (h : TerminateEnds src uni p (.ok (), src')) :
    src.universeAllowed uni = .ok () ∧ ∃ dst bytes, p.packAlloc = .ok bytes ∧
      src' = { src with
        socket := src.socket.logged dst bytes
        dataSequences :=
          (src.dataSequences.remove uni).insert uni (nextSequence (src.dataSequence uni)) } := by
  generalize hr : (Outcome.ok (), src') = r at h
  cases h with
  | sent dst bytes hallowed _ hpack =>
    exact ⟨hallowed, dst, bytes, hpack, (Prod.mk.inj hr).2⟩
  | refused outcome hne => exact absurd (Prod.mk.inj hr).1.symm hne
  | failed _ _ _ _ => exact absurd (Prod.mk.inj hr).1 (by simp)
  | unpacked _ => exact absurd (Prod.mk.inj hr).1 (by simp)

/-! ## What a successful call sends -/

/-- The packets `send` builds. -/
def sentPackets (src : SacnSourceInternal) (universes : List UInt16) (data : List UInt8)
    (priority : UInt8) (syncAddress : UInt16) : List AcnRootLayerProtocol :=
  (universes.zipIdx.take (requiredUniverses data)).map fun (uni, i) =>
    (src.advanced uni ((universes.take i).count uni)).dataPacket uni (dataPart data i) priority
      syncAddress

/-- The packets `terminate_stream` builds. -/
def terminatePackets (src : SacnSourceInternal) (uni : UInt16) (startCode : UInt8) :
    List AcnRootLayerProtocol :=
  (List.range e131TerminateStreamPacketCount).map fun i =>
    (src.advanced uni i).terminatePacket uni startCode

/-- Before a step of the loop of `send`: it has sent on the first `k` universes. -/
def SentFirst (src : SacnSourceInternal) (universes : List UInt16) (data : List UInt8)
    (rest : List (UInt16 × Nat)) (s : SacnSourceInternal) : Prop :=
  ∃ k, rest = (universes.zipIdx.take (requiredUniverses data)).drop k ∧
    After src (universes.take k) s

theorem SentFirst.split {src s : SacnSourceInternal} {universes : List UInt16} {data : List UInt8}
    {uni : UInt16} {i : Nat} {rest : List (UInt16 × Nat)}
    (h : SentFirst src universes data ((uni, i) :: rest) s) :
    rest = (universes.zipIdx.take (requiredUniverses data)).drop (i + 1) ∧
      universes.take (i + 1) = universes.take i ++ [uni] ∧ After src (universes.take i) s := by
  obtain ⟨k, hrest, hafter⟩ := h
  have hk : k < (universes.zipIdx.take (requiredUniverses data)).length := by
    by_contra hk
    rw [List.drop_eq_nil_of_le (Nat.not_lt.mp hk)] at hrest
    exact absurd hrest (List.cons_ne_nil _ _)
  rw [List.drop_eq_getElem_cons hk, List.getElem_take, List.getElem_zipIdx] at hrest
  obtain ⟨hpart, hrest⟩ := List.cons.inj hrest
  obtain ⟨huni, hi⟩ := Prod.mk.inj hpart
  rw [Nat.zero_add] at hi
  subst hi
  rw [List.length_take, List.length_zipIdx] at hk
  refine ⟨hrest, ?_, hafter⟩
  rw [List.take_succ_eq_append_getElem (hk.trans_le (Nat.min_le_right _ _)), ← huni]

/-- A part that is sent, with the packet of the universe's number so far. -/
theorem sendPart_sends {src s s' : SacnSourceInternal} {universes : List UInt16}
    {data : List UInt8} {priority : UInt8} {dstIp : Option SocketAddr} {syncAddress : UInt16}
    {part : UInt16 × Nat} {rest : List (UInt16 × Nat)}
    (hs : SentFirst src universes data (part :: rest) s)
    (h : (sendPart data priority dstIp syncAddress part).run s = (.ok (), s')) :
    Emits s s' [(src.advanced part.1 ((universes.take part.2).count part.1)).dataPacket part.1
        (dataPart data part.2) priority syncAddress] ∧
      SentFirst src universes data rest s' := by
  obtain ⟨uni, i⟩ := part
  obtain ⟨hrest, htake, hafter⟩ := hs.split
  obtain ⟨-, hemits, socket, rfl⟩ := sendPart_ok h
  rw [hafter.dataPacket] at hemits
  refine ⟨hemits, i + 1, hrest, ?_⟩
  rw [htake]
  exact hafter.dataSent socket uni

/-- **A successful `send`**, on any list of universes. -/
theorem send_sends {src src' : SacnSourceInternal} {universes : List UInt16} {data : List UInt8}
    {priority : Option UInt8} {dstIp : Option SocketAddr} {sync : Option UInt16}
    (h : (send universes data priority dstIp sync).run src = (.ok (), src')) :
    priority.getD e131DefaultPriority ≤ e131MaxPriority ∧
      Emits src src' (src.sentPackets universes data (priority.getD e131DefaultPriority)
        (sync.getD noSyncUniverse)) := by
  have hstart : SentFirst src universes data
      (universes.zipIdx.take (requiredUniverses data)) src := ⟨0, rfl, .refl src⟩
  obtain ⟨hpriority, hemits, -⟩ := send_loop (P := SentFirst src universes data)
    (fun _ _ _ _ hs hpart => sendPart_sends hs hpart) hstart h
  exact ⟨hpriority, hemits⟩

/-- Before a step of the loop of `terminate_stream`: it has sent `k` packets. -/
def TerminatedTimes (src : SacnSourceInternal) (uni : UInt16) (rest : List Nat)
    (s : SacnSourceInternal) : Prop :=
  ∃ k, rest = (List.range e131TerminateStreamPacketCount).drop k ∧
    After src (List.replicate k uni) s

/-- A termination packet, with the universe's number so far. -/
theorem sendTerminateStreamPkt_sends {src s s' : SacnSourceInternal} {uni : UInt16}
    {startCode : UInt8} {i : Nat} {rest : List Nat} (hs : TerminatedTimes src uni (i :: rest) s)
    (h : (sendTerminateStreamPkt uni none startCode).run s = (.ok (), s')) :
    Emits s s' [(src.advanced uni i).terminatePacket uni startCode] ∧
      TerminatedTimes src uni rest s' := by
  obtain ⟨k, hrest, hafter⟩ := hs
  have hk : k < (List.range e131TerminateStreamPacketCount).length := by
    by_contra hk
    rw [List.drop_eq_nil_of_le (Nat.not_lt.mp hk)] at hrest
    exact absurd hrest (List.cons_ne_nil _ _)
  rw [List.drop_eq_getElem_cons hk, List.getElem_range] at hrest
  obtain ⟨rfl, hrest⟩ := List.cons.inj hrest
  have hends := sendTerminateStreamPkt_ends s uni none startCode
  rw [h] at hends
  obtain ⟨-, dst, bytes, hpack, rfl⟩ := hends.of_ok
  refine ⟨⟨[(dst, bytes)], rfl, .cons ?_ .nil⟩, i + 1, hrest, ?_⟩
  · rw [hafter.terminatePacket, List.count_replicate_self] at hpack
    exact hpack
  · rw [List.replicate_succ']
    exact hafter.terminationSent _ uni

/-- **A successful `terminate_stream`** sends three packets with consecutive numbers. -/
theorem terminateStream_sends {src src' : SacnSourceInternal} {uni : UInt16} {startCode : UInt8}
    (h : (terminateStream uni startCode).run src = (.ok (), src')) :
    src.universeAllowed uni = .ok () ∧ Emits src src' (src.terminatePackets uni startCode) := by
  obtain ⟨_, mid, hloop, hderegister⟩ := Method.run_bind_eq_ok.mp h
  have hsocket : src'.socket = mid.socket := by
    have hkeeps : Method.Keeps socket (deregisterUniverse uni) :=
      keeps_deregisterUniverse fun _ _ => rfl
    have hmid := hkeeps mid
    rw [hderegister] at hmid
    exact hmid
  have hstart : TerminatedTimes src uni (List.range e131TerminateStreamPacketCount) src :=
    ⟨0, rfl, .refl src⟩
  obtain ⟨hemits, -⟩ := emits_forM (P := TerminatedTimes src uni)
    (fun _ _ _ _ hs hpkt => sendTerminateStreamPkt_sends hs hpkt) hstart hloop
  obtain ⟨_, first, hfirst, -⟩ := Method.run_bind_eq_ok.mp hloop
  have hends := sendTerminateStreamPkt_ends src uni none startCode
  rw [hfirst] at hends
  obtain ⟨datagrams, hsent, hpacks⟩ := hemits
  exact ⟨hends.of_ok.1, datagrams, by rw [hsocket, hsent], hpacks⟩

end SacnSourceInternal

/-! ## The calls of a user -/

/-- A call that sends data or synchronisation packets. -/
inductive SendCall where
  | send (universes : List UInt16) (data : List UInt8) (priority : Option UInt8)
      (dstIp : Option SocketAddr) (synchronisationAddr : Option UInt16)
  | sendSyncPacket (uni : UInt16) (dstIp : Option SocketAddr)
  | terminateStream (uni : UInt16) (startCode : UInt8)

namespace SendCall

/-- The method that is called. -/
def method : SendCall → Method SacnSourceInternal SacnError Unit
  | send universes data priority dstIp synchronisationAddr =>
    SacnSourceInternal.send universes data priority dstIp synchronisationAddr
  | sendSyncPacket uni dstIp => SacnSourceInternal.sendSyncPacket uni dstIp
  | terminateStream uni startCode => SacnSourceInternal.terminateStream uni startCode

/-- The packets the call builds, if it succeeds. -/
def packets (src : SacnSourceInternal) : SendCall → List AcnRootLayerProtocol
  | send universes data priority _ synchronisationAddr =>
    src.sentPackets universes data (priority.getD e131DefaultPriority)
      (synchronisationAddr.getD noSyncUniverse)
  | sendSyncPacket uni _ => [src.syncPacket uni]
  | terminateStream uni startCode => src.terminatePackets uni startCode

/-- **A successful call** puts the packets it builds on the wire, in order, and nothing else. -/
theorem emits {src src' : SacnSourceInternal} {c : SendCall}
    (h : c.method.run src = (.ok (), src')) : Emits src src' (c.packets src) := by
  cases c with
  | send universes data priority dstIp sync => exact (send_sends h).2
  | sendSyncPacket uni dstIp => exact sendSyncPacket_emits h
  | terminateStream uni startCode => exact (terminateStream_sends h).2

end SendCall

/-- A call on a source by its user, or a discovery round of its update thread. -/
inductive UserCall where
  | sends (c : SendCall)
  | registerUniverse (uni : UInt16)
  | registerUniverses (universes : List UInt16)
  | setName (name : String)
  | setCid (cid : Uuid)
  | setPreviewMode (previewMode : Bool)
  | sendUniverseDiscovery

/-- The method that is called. -/
def UserCall.method : UserCall → Method SacnSourceInternal SacnError Unit
  | sends c => c.method
  | registerUniverse uni => SacnSourceInternal.registerUniverse uni
  | registerUniverses universes => SacnSourceInternal.registerUniverses universes
  | setName name => SacnSourceInternal.setName name
  | setCid cid => Method.modify fun src => { src with cid }
  | setPreviewMode previewMode => SacnSourceInternal.setPreviewMode previewMode
  | sendUniverseDiscovery => SacnSourceInternal.sendUniverseDiscovery

/-- A source as its constructor leaves it, on a socket that has not been used. -/
def SacnSource.Created (src : SacnSourceInternal) : Prop :=
  ∃ name cid ip results,
    SacnSource.withCidIp name cid ip { results, calls := 0, sent := [] } = .ok src

/-- The runs of a source: any calls on it that `allowed` lets through, whatever its socket returns
and however each call ends. -/
abbrev SourceRun (allowed : SacnSourceInternal → UserCall → Prop) :
    List (UserCall × Outcome SacnError Unit) → SacnSourceInternal → Prop :=
  Run (fun src c => c.method.run src) SacnSource.Created allowed

/-- The name of a new source fits its field. -/
theorem SacnSource.Created.name_le {src : SacnSourceInternal} (h : SacnSource.Created src) :
    (strBytes src.name).length ≤ 64 := by
  obtain ⟨name, cid, ip, results, h⟩ := h
  obtain ⟨_, hname, hsrc⟩ := bind_eq_ok.mp h
  rw [← ok.inj hsrc]
  exact Nat.not_lt.mp (throwIf_eq_ok.mp hname)

theorem UserCall.reachable {src : SacnSourceInternal} (h : src.Reachable) (c : UserCall) :
    (c.method.run src).2.Reachable := by
  cases c with
  | sends c =>
    cases c with
    | send universes data priority dstIp sync => exact .send src universes data priority dstIp sync h
    | sendSyncPacket uni dstIp => exact .call src (.sendSyncPacket uni dstIp) h
    | terminateStream uni startCode => exact .call src (.terminateStream uni startCode) h
  | registerUniverse uni => exact .call src (.registerUniverse uni) h
  | registerUniverses universes => exact .registerUniverses src universes h
  | setName name => exact .call src (.setName name) h
  | setCid cid => exact .setCid src cid h
  | setPreviewMode previewMode => exact .call src (.setPreviewMode previewMode) h
  | sendUniverseDiscovery => exact .call src .sendUniverseDiscovery h

/-- Every state of a run of a source is one that its methods reach. -/
theorem SourceRun.reachable {allowed : SacnSourceInternal → UserCall → Prop}
    {log : List (UserCall × Outcome SacnError Unit)} {src : SacnSourceInternal}
    (h : SourceRun allowed log src) : src.Reachable := by
  refine Run.reaches h (fun src hs => ?_) fun src c _ hs => c.reachable hs
  obtain ⟨name, cid, ip, results, hs⟩ := hs
  obtain ⟨_, -, hs⟩ := bind_eq_ok.mp hs
  rw [← ok.inj hs]
  exact .new name cid ip _

end Sacn
