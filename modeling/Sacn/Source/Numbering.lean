import Sacn.Source.Internal

/-!
# The sender's sequence numbers (`source.rs`)

A call on a source, whatever its socket returns, and the packet that a successful `send_universe` or
`send_sync_packet` sends. The packets of a stream are numbered consecutively modulo 256 from the
number the source held for it, whatever else was sent, failed or was changed in between.

* `sentBy`: the packets of a run.
* `SourceCall.sends_datagram`: a packet that is sent is handed to the socket.
* **`SourceCall.step`**: one call sends the stream's next packet and moves its number on, or does
  neither.
-/

namespace Sacn

open Rust Rust.Outcome SacnSourceInternal

/-- A call on a source. -/
inductive SourceCall where
  | registerUniverse (uni : UInt16)
  | deregisterUniverse (uni : UInt16)
  | sendUniverse (uni : UInt16) (data : List UInt8) (priority : UInt8)
      (dstIp : Option SocketAddr) (syncAddress : UInt16)
  | sendSyncPacket (uni : UInt16) (dstIp : Option SocketAddr)
  | terminateStream (uni : UInt16) (startCode : UInt8)
  | sendUniverseDiscovery
  | setName (name : String)
  | setPreviewMode (previewMode : Bool)

namespace SourceCall

/-- The method that is called. -/
def method : SourceCall → Method SacnSourceInternal SacnError Unit
  | registerUniverse uni => SacnSourceInternal.registerUniverse uni
  | deregisterUniverse uni => SacnSourceInternal.deregisterUniverse uni
  | sendUniverse uni data priority dstIp syncAddress =>
    SacnSourceInternal.sendUniverse uni data priority dstIp syncAddress
  | sendSyncPacket uni dstIp => SacnSourceInternal.sendSyncPacket uni dstIp
  | terminateStream uni startCode => SacnSourceInternal.terminateStream uni startCode
  | sendUniverseDiscovery => SacnSourceInternal.sendUniverseDiscovery
  | setName name => SacnSourceInternal.setName name
  | setPreviewMode previewMode => SacnSourceInternal.setPreviewMode previewMode

/-- The packet `send_universe` and `send_sync_packet` build. -/
def packet (src : SacnSourceInternal) : SourceCall → Option AcnRootLayerProtocol
  | sendUniverse uni data priority _ syncAddress =>
    some (src.dataPacket uni data priority syncAddress)
  | sendSyncPacket uni _ => some (src.syncPacket uni)
  | _ => none

/-- The packet a call of `send_universe` or `send_sync_packet` sends, if it succeeds. -/
def sends (src : SacnSourceInternal) (c : SourceCall) : Option AcnRootLayerProtocol :=
  if (c.method.run src).1 = .ok () then c.packet src else none

/-- The call terminates the stream. -/
def Terminates (k : Stream) : SourceCall → Prop
  | terminateStream uni _ => k.kind = .data ∧ uni = k.uni
  | _ => False

end SourceCall

/-- The packets sent by the successful calls of `send_universe` and `send_sync_packet` of a run. -/
def sentBy : SacnSourceInternal → List SourceCall → List AcnRootLayerProtocol
  | _, [] => []
  | src, c :: calls => (c.sends src).toList ++ sentBy (c.method.run src).2 calls

/-- The number of the stream's next packet. -/
def SacnSourceInternal.next (k : Stream) (src : SacnSourceInternal) : UInt8 :=
  match k.kind with
  | .data => src.dataSequence k.uni
  | .sync => src.syncSequence k.uni

/-- What a call of `send_universe` or `send_sync_packet` sends is on the wire, packed. -/
theorem SourceCall.sends_datagram {src : SacnSourceInternal} {c : SourceCall}
    {p : AcnRootLayerProtocol} (h : c.sends src = some p) :
    ∃ dst bytes, p.packAlloc = .ok bytes ∧
      (c.method.run src).2.socket.sent = src.socket.sent ++ [(dst, bytes)] := by
  unfold sends at h
  split at h
  · have hrun : c.method.run src = (.ok (), (c.method.run src).2) := Prod.ext ‹_› rfl
    cases c with
    | sendUniverse uni data priority dstIp syncAddress =>
      have hends := sendUniverse_ends src uni data priority dstIp syncAddress
      obtain ⟨-, dst, bytes, hpack, hnext⟩ := SendEnds.of_ok (hrun ▸ hends)
      rw [← Option.some.inj h, hnext]
      exact ⟨dst, bytes, hpack, rfl⟩
    | sendSyncPacket uni dstIp =>
      have hends := sendSyncPacket_ends src uni dstIp
      obtain ⟨-, dst, bytes, hpack, hnext⟩ := SendEnds.of_ok (hrun ▸ hends)
      rw [← Option.some.inj h, hnext]
      exact ⟨dst, bytes, hpack, rfl⟩
    | _ => exact absurd h (by simp [packet])
  · exact absurd h (by simp)

/-! ## Calls that leave the stream's number alone -/

section Keeps

variable {τ : Type} {f : SacnSourceInternal → τ}

theorem keeps_onSocket {α : Type} {x : Method Socket SacnError α}
    (hsocket : ∀ s socket, f { s with socket } = f s) : Method.Keeps f (onSocket x) :=
  .onField hsocket

theorem keeps_registerUniverse {uni : UInt16}
    (huniverses : ∀ s universes, f { s with universes } = f s) :
    Method.Keeps f (registerUniverse uni) := by
  refine .bind (.lift _) fun _ => .modify fun s => ?_
  split
  · exact huniverses s _
  · split
    · exact huniverses s _
    · rfl

theorem keeps_deregisterUniverse {uni : UInt16}
    (huniverses : ∀ s universes, f { s with universes } = f s) :
    Method.Keeps f (deregisterUniverse uni) := by
  refine .bind (.lift _) fun _ => .bind .get fun src => ?_
  cases binarySearch src.universes uni with
  | error i => exact .throw _
  | ok i => exact .modify fun s => huniverses s _

theorem keeps_sendUniverseDiscovery (hsocket : ∀ s socket, f { s with socket } = f s) :
    Method.Keeps f sendUniverseDiscovery := by
  refine .bind .get fun src => .forM fun p _ => .bind (.lift _) fun universes => ?_
  exact .bind .get fun src => .bind (.lift _) fun _ => .bind (.lift _) fun _ =>
    keeps_onSocket hsocket

theorem keeps_sendTerminateStreamPkt {uni : UInt16} {dstIp : Option SocketAddr} {startCode : UInt8}
    (hsocket : ∀ s socket, f { s with socket } = f s)
    (hremove : ∀ s, f { s with dataSequences := s.dataSequences.remove uni } = f s)
    (hinsert : ∀ s n, f { s with dataSequences := s.dataSequences.insert uni n } = f s) :
    Method.Keeps f (sendTerminateStreamPkt uni dstIp startCode) :=
  .bind .get fun _ => .bind (.lift _) fun _ => .bind (.lift _) fun _ =>
    .bind (.modify hremove) fun _ => .bind (.lift _) fun _ =>
    .bind (keeps_onSocket hsocket) fun _ => .modify fun s => hinsert s _

theorem keeps_terminateStream {uni : UInt16} {startCode : UInt8}
    (hsocket : ∀ s socket, f { s with socket } = f s)
    (huniverses : ∀ s universes, f { s with universes } = f s)
    (hremove : ∀ s, f { s with dataSequences := s.dataSequences.remove uni } = f s)
    (hinsert : ∀ s n, f { s with dataSequences := s.dataSequences.insert uni n } = f s) :
    Method.Keeps f (terminateStream uni startCode) :=
  .bind (.forM fun _ _ => keeps_sendTerminateStreamPkt hsocket hremove hinsert)
    fun _ => keeps_deregisterUniverse huniverses

end Keeps

/-- What a call must leave alone on a stream it does not number. -/
def SacnSourceInternal.numbering (k : Stream) (src : SacnSourceInternal) : Uuid × UInt8 :=
  (src.cid, src.next k)

theorem SacnSourceInternal.next_insert (k : Stream) (src : SacnSourceInternal) (uni : UInt16)
    (n : UInt8) :
    next k { src with dataSequences := src.dataSequences.insert uni n } =
        (if k.kind = .data ∧ k.uni = uni then n else next k src) ∧
      next k { src with syncSequences := src.syncSequences.insert uni n } =
        if k.kind = .sync ∧ k.uni = uni then n else next k src := by
  unfold next dataSequence syncSequence
  cases k.kind with
  | data =>
    simp only [HashMap.get_insert, true_and, reduceCtorEq, false_and, if_false, and_true]
    split <;> rfl
  | sync =>
    simp only [HashMap.get_insert, true_and, reduceCtorEq, false_and, if_false]
    split <;> rfl

/-- How a call moves a stream's number: it sends the stream's next packet and moves the number on,
or it sends no packet of the stream and leaves the number. -/
def SourceCall.Moves (k : Stream) (src : SacnSourceInternal) (c : SourceCall) : Prop :=
  (∃ p, c.sends src = some p ∧ p.numbered = some (k, src.next k) ∧
      (c.method.run src).2.numbering k = (src.cid, src.next k + 1)) ∨
    (∀ p, c.sends src = some p → p.isOn k = false) ∧
      (c.method.run src).2.numbering k = src.numbering k

/-- A call that sends a packet moves the number of the packet's stream and of no other. -/
theorem SourceCall.moves_of_ends {k : Stream} {src : SacnSourceInternal} {c : SourceCall}
    {p : AcnRootLayerProtocol} {checked : Prop}
    {next : SacnSourceInternal → SacnSourceInternal} {on : Stream}
    (hends : SendEnds src p checked next (c.method.run src)) (hp : c.packet src = some p)
    (hon : p.numbered = some (on, src.next on))
    (hnext : ∀ s, (next s).numbering k =
      (s.cid, if k = on then src.next k + 1 else s.next k)) : c.Moves k src := by
  unfold Moves sends
  rcases hr : c.method.run src with ⟨outcome, src'⟩
  rw [hr] at hends
  cases hends with
  | sent dst bytes _ _ =>
    rw [if_pos rfl, hp, hnext]
    by_cases hk : k = on
    · subst hk
      exact .inl ⟨p, rfl, hon, by rw [if_pos rfl]⟩
    · refine .inr ⟨?_, by rw [if_neg hk]; rfl⟩
      rintro q ⟨⟩
      unfold AcnRootLayerProtocol.isOn
      rw [hon, Option.any_some, decide_eq_false (Ne.symm hk)]
  | failed _ calls hne =>
    rw [if_neg hne]
    exact .inr ⟨by simp, rfl⟩

/-- A call that builds no packet and leaves the numbering alone. -/
theorem SourceCall.moves_of_keeps {k : Stream} {src : SacnSourceInternal} {c : SourceCall}
    (hp : c.packet src = none) (hkeeps : Method.Keeps (numbering k) c.method) : c.Moves k src := by
  refine .inr ⟨?_, hkeeps src⟩
  unfold sends
  rw [hp]
  simp

/-- **One call**, that does not terminate the stream. -/
theorem SourceCall.step {k : Stream} {src : SacnSourceInternal} {c : SourceCall}
    (hcid : k.cid = src.cid) (hterm : ¬ c.Terminates k) : c.Moves k src := by
  have hsocket : ∀ s socket, numbering k { s with socket } = numbering k s := fun _ _ => rfl
  have huniverses : ∀ s universes, numbering k { s with universes } = numbering k s :=
    fun _ _ => rfl
  -- the number is moved on under the stream's own key
  have hmoved : ∀ {kind uni} {number old : UInt8}, number = src.next ⟨kind, src.cid, uni⟩ →
      (if k.kind = kind ∧ k.uni = uni then number + 1 else old) =
        if k = ⟨kind, src.cid, uni⟩ then src.next k + 1 else old := by
    rintro kind uni number old rfl
    obtain ⟨kind', cid', uni'⟩ := k
    obtain rfl : cid' = src.cid := hcid
    simp only [Stream.mk.injEq, true_and]
    split
    · rename_i hk
      rw [hk.1, hk.2]
    · rfl
  cases c with
  | registerUniverse uni => exact moves_of_keeps rfl (keeps_registerUniverse huniverses)
  | deregisterUniverse uni => exact moves_of_keeps rfl (keeps_deregisterUniverse huniverses)
  | sendUniverse uni data priority dstIp syncAddress =>
    have hon : (src.dataPacket uni data priority syncAddress).numbered =
        some (⟨.data, src.cid, uni⟩, src.next ⟨.data, src.cid, uni⟩) := rfl
    refine moves_of_ends (sendUniverse_ends src uni data priority dstIp syncAddress) rfl hon
      fun s => ?_
    unfold numbering
    rw [(next_insert k s uni _).1, nextSequence_eq]
    exact congrArg (Prod.mk s.cid) (hmoved rfl)
  | sendSyncPacket uni dstIp =>
    have hon : (src.syncPacket uni).numbered =
        some (⟨.sync, src.cid, uni⟩, src.next ⟨.sync, src.cid, uni⟩) := rfl
    refine moves_of_ends (sendSyncPacket_ends src uni dstIp) rfl hon fun s => ?_
    unfold numbering
    rw [(next_insert k s uni _).2, nextSequence_eq]
    exact congrArg (Prod.mk s.cid) (hmoved rfl)
  | terminateStream uni startCode =>
    have hother : ¬ (k.kind = .data ∧ k.uni = uni) := fun h => hterm ⟨h.1, h.2.symm⟩
    refine moves_of_keeps rfl (keeps_terminateStream hsocket huniverses (fun s => ?_) fun s n => ?_)
    · unfold numbering next dataSequence
      cases hk : k.kind with
      | data =>
        simp only [HashMap.get_remove, if_neg fun h => hother ⟨hk, h⟩]
      | sync => rfl
    · unfold numbering
      rw [(next_insert k s uni n).1, if_neg hother]
  | sendUniverseDiscovery => exact moves_of_keeps rfl (keeps_sendUniverseDiscovery hsocket)
  | setName name =>
    exact moves_of_keeps rfl (.bind (.throwIf _ _) fun _ => .modify fun s => rfl)
  | setPreviewMode previewMode => exact moves_of_keeps rfl (.modify fun s => rfl)

end Sacn
