import Sacn.Packet.Number
import Sacn.Source.Calls

/-!
# The numbers a source hands to its socket (`source.rs`)

The numbers of a stream are read from the datagrams that its source handed to the socket, at their
places in the datagram.

* `numbersOn`: the numbers of the packets of a kind that were sent on a universe.
* `SacnSourceInternal.HasSent`: what a source has sent on a stream since an earlier state.
* `SourceCall.hasSent_step`: one call, which hands the packet that `SourceCall.sends` names to the
  socket and no other packet of the stream.
* **`numbers_after`**: a run that does not terminate the stream hands packets with consecutive
  numbers to the socket, one for each of its successful calls on the stream.
-/

namespace Sacn

open Rust Rust.Outcome SacnSourceInternal

/-! ## Reading the numbers -/

/-- The sequence numbers of the packets of a kind that were sent on a universe, in order. -/
def numbersOn (kind : PacketKind) (uni : UInt16) (sent : List (SocketAddr × List UInt8)) :
    List UInt8 :=
  sent.filterMap fun datagram => (wireNumber datagram.2).bind fun (k, u, n) =>
    if k = kind ∧ u = uni then some n else none

/-- The number of a packet, if it is of the kind and on the universe. -/
def AcnRootLayerProtocol.numberOn (kind : PacketKind) (uni : UInt16) (p : AcnRootLayerProtocol) :
    Option UInt8 :=
  p.numbered.bind fun (k, n) => if k.kind = kind ∧ k.uni = uni then some n else none

theorem numbersOn_snoc {p : AcnRootLayerProtocol} {bytes : List UInt8}
    (h : p.packAlloc = .ok bytes) (kind : PacketKind) (uni : UInt16)
    (sent : List (SocketAddr × List UInt8)) (dst : SocketAddr) :
    numbersOn kind uni (sent ++ [(dst, bytes)]) =
      numbersOn kind uni sent ++ (p.numberOn kind uni).toList := by
  unfold numbersOn AcnRootLayerProtocol.numberOn
  rw [List.filterMap_append, List.filterMap_cons, AcnRootLayerProtocol.wireNumber_packAlloc h]
  cases p.numbered with
  | none => rfl
  | some e =>
    obtain ⟨k, n⟩ := e
    by_cases hk : k.kind = kind ∧ k.uni = uni
    · simp [hk]
    · simp [hk]

/-- Of a source's own packets it is the number of those on the stream. -/
theorem AcnRootLayerProtocol.numberOn_eq {p : AcnRootLayerProtocol} {k : Stream}
    (hcid : p.pdu.cid = k.cid) :
    p.numberOn k.kind k.uni = if p.isOn k then p.numbered.map Prod.snd else none := by
  have hon : ∀ on n, p.numbered = some (on, n) → on.cid = p.pdu.cid := by
    intro on n hn
    unfold numbered at hn
    split at hn
    · exact congrArg (fun e => e.1.cid) (Option.some.inj hn.symm)
    · exact congrArg (fun e => e.1.cid) (Option.some.inj hn.symm)
    · exact absurd hn (by simp)
  unfold numberOn isOn
  cases hn : p.numbered with
  | none => rfl
  | some e =>
    obtain ⟨on, n⟩ := e
    have hsame : on = k ↔ on.kind = k.kind ∧ on.uni = k.uni := by
      obtain ⟨kind, cid, uni⟩ := k
      obtain ⟨kind', cid', uni'⟩ := on
      obtain rfl : cid' = cid := (hon _ _ hn).trans hcid
      simp
    simp [hsame]

/-! ## What a call hands to the socket -/

/-- Since the socket had been handed `sent`, it was handed these numbers of the stream. -/
def SacnSourceInternal.HasSent (sent : List (SocketAddr × List UInt8)) (k : Stream)
    (numbers : List UInt8) (src : SacnSourceInternal) : Prop :=
  ∃ datagrams, src.socket.sent = sent ++ datagrams ∧ numbersOn k.kind k.uni datagrams = numbers

section HasSent

variable {sent : List (SocketAddr × List UInt8)} {k : Stream} {numbers : List UInt8}

theorem SacnSourceInternal.HasSent.snoc {src src' : SacnSourceInternal} {p : AcnRootLayerProtocol}
    {dst : SocketAddr} {bytes : List UInt8} (h : src.HasSent sent k numbers)
    (hpack : p.packAlloc = .ok bytes)
    (hsent : src'.socket.sent = src.socket.sent ++ [(dst, bytes)]) :
    src'.HasSent sent k (numbers ++ (p.numberOn k.kind k.uni).toList) := by
  obtain ⟨datagrams, hdatagrams, hnumbers⟩ := h
  refine ⟨datagrams ++ [(dst, bytes)], ?_, ?_⟩
  · rw [hsent, hdatagrams, List.append_assoc]
  · rw [numbersOn_snoc hpack, hnumbers]

/-- A packet of another stream, or without a number. -/
theorem SacnSourceInternal.HasSent.other {src src' : SacnSourceInternal}
    {p : AcnRootLayerProtocol} {dst : SocketAddr} {bytes : List UInt8}
    (h : src.HasSent sent k numbers) (hpack : p.packAlloc = .ok bytes)
    (hsent : src'.socket.sent = src.socket.sent ++ [(dst, bytes)])
    (hother : p.numberOn k.kind k.uni = none) : src'.HasSent sent k numbers := by
  have hsnoc := h.snoc hpack hsent
  rw [hother, Option.toList_none, List.append_nil] at hsnoc
  exact hsnoc

/-- A method that leaves the socket alone. -/
theorem hasSent_of_keeps {x : Method SacnSourceInternal SacnError Unit}
    (h : Method.Keeps socket x) : Method.Preserves (HasSent sent k numbers) x := by
  rintro src ⟨datagrams, hdatagrams, hnumbers⟩
  exact ⟨datagrams, (congrArg Socket.sent (h src)).trans hdatagrams, hnumbers⟩

theorem hasSent_sendUniverseDiscovery :
    Method.Preserves (HasSent sent k numbers) sendUniverseDiscovery := by
  refine .get_bind fun src h => ?_
  refine Method.Preserves.forM (fun p _ => .bind (.lift _) fun universes s hs => ?_) src h
  have hends := sendUniverseDiscoveryDetailed_ends s (UInt8.ofNat p) (src.pagesReq - 1) universes
  generalize (sendUniverseDiscoveryDetailed (UInt8.ofNat p) (src.pagesReq - 1) universes).run s = r
    at hends
  cases hends with
  | sent dst bytes hpack _ => exact hs.other hpack rfl rfl
  | failed outcome calls _ => exact hs

/-- The termination of another universe. -/
theorem hasSent_terminateStream {uni : UInt16} {startCode : UInt8}
    (hother : ¬ (k.kind = .data ∧ uni = k.uni)) :
    Method.Preserves (HasSent sent k numbers) (terminateStream uni startCode) := by
  refine .bind (.forM fun _ _ s hs => ?_) fun _ =>
    hasSent_of_keeps (keeps_deregisterUniverse fun _ _ => rfl)
  have hends := sendTerminateStreamPkt_ends s uni none startCode
  generalize (sendTerminateStreamPkt uni none startCode).run s = r at hends
  cases hends with
  | sent dst bytes _ _ hpack =>
    refine hs.other hpack rfl (if_neg ?_)
    rintro ⟨hkind, huni⟩
    exact hother ⟨hkind.symm, huni⟩
  | refused outcome _ => exact hs
  | failed kind msg _ _ => exact hs
  | unpacked _ => exact hs

/-- What a call sends is the source's own. -/
theorem SourceCall.sends_cid {src : SacnSourceInternal} {c : SourceCall} {p : AcnRootLayerProtocol}
    (h : c.sends src = some p) : p.pdu.cid = src.cid := by
  unfold sends at h
  split at h
  · cases c with
    | sendUniverse => rw [← Option.some.inj h]; rfl
    | sendSyncPacket => rw [← Option.some.inj h]; rfl
    | _ => exact absurd h (by simp [packet])
  · exact absurd h (by simp)

/-- A call that sends no data or synchronisation packet, and does not terminate the stream. -/
theorem SourceCall.hasSent_of_none {src : SacnSourceInternal} {c : SourceCall}
    (hterm : ¬ c.Terminates k) (hnone : c.sends src = none) (h : src.HasSent sent k numbers) :
    (c.method.run src).2.HasSent sent k numbers := by
  -- a call that builds a packet and does not send it has failed
  have hfailed : ∀ {p checked next} {r : Outcome SacnError Unit × SacnSourceInternal},
      SendEnds src p checked next r → r.1 ≠ .ok () → r.2.HasSent sent k numbers := by
    intro p checked next r hends hne
    cases hends with
    | sent => exact absurd rfl hne
    | failed => exact h
  have hne : ∀ {p}, c.packet src = some p → (c.method.run src).1 ≠ .ok () := by
    intro p hp hok
    unfold sends at hnone
    rw [if_pos hok, hp] at hnone
    exact absurd hnone (by simp)
  cases c with
  | registerUniverse uni =>
    exact hasSent_of_keeps (keeps_registerUniverse fun _ _ => rfl) src h
  | deregisterUniverse uni =>
    exact hasSent_of_keeps (keeps_deregisterUniverse fun _ _ => rfl) src h
  | sendUniverse uni data priority dstIp syncAddress =>
    exact hfailed (sendUniverse_ends src uni data priority dstIp syncAddress) (hne rfl)
  | sendSyncPacket uni dstIp => exact hfailed (sendSyncPacket_ends src uni dstIp) (hne rfl)
  | terminateStream uni startCode => exact hasSent_terminateStream hterm src h
  | sendUniverseDiscovery => exact hasSent_sendUniverseDiscovery src h
  | setName name =>
    have hkeeps : Method.Keeps socket (SacnSourceInternal.setName name) :=
      .bind (.throwIf _ _) fun _ => .modify fun _ => rfl
    exact hasSent_of_keeps hkeeps src h
  | setPreviewMode previewMode => exact hasSent_of_keeps (.modify fun _ => rfl) src h

/-- **One call**, that does not terminate the stream: it hands the stream's next number to the
socket and moves the number on, or does neither. -/
theorem SourceCall.hasSent_step {src : SacnSourceInternal} {c : SourceCall}
    (hcid : k.cid = src.cid) (hterm : ¬ c.Terminates k) (h : src.HasSent sent k numbers) :
    (((c.sends src).toList.filter (·.isOn k)).length = 1 ∧
        (c.method.run src).2.HasSent sent k (numbers ++ [src.next k]) ∧
        (c.method.run src).2.numbering k = (src.cid, src.next k + 1)) ∨
      (c.sends src).toList.filter (·.isOn k) = [] ∧
        (c.method.run src).2.HasSent sent k numbers ∧
        (c.method.run src).2.numbering k = src.numbering k := by
  rcases SourceCall.step hcid hterm with ⟨p, hsends, hp, hnext⟩ | ⟨hsends, hnext⟩
  · obtain ⟨dst, bytes, hpack, hsent⟩ := sends_datagram hsends
    have hon : p.isOn k = true := by
      unfold AcnRootLayerProtocol.isOn
      rw [hp]
      exact decide_eq_true rfl
    have hnumber : p.numberOn k.kind k.uni = some (src.next k) := by
      unfold AcnRootLayerProtocol.numberOn
      rw [hp]
      exact if_pos ⟨rfl, rfl⟩
    have hsnoc := h.snoc hpack hsent
    rw [hnumber] at hsnoc
    exact .inl ⟨by simp [hsends, hon], hsnoc, hnext⟩
  · refine .inr ⟨by simpa using hsends, ?_, hnext⟩
    cases hs : c.sends src with
    | none => exact SourceCall.hasSent_of_none hterm hs h
    | some p =>
      obtain ⟨dst, bytes, hpack, hsent⟩ := sends_datagram hs
      refine h.other hpack hsent ?_
      rw [AcnRootLayerProtocol.numberOn_eq ((sends_cid hs).trans hcid.symm), hsends p hs]
      rfl

end HasSent

/-! ## Runs -/

/-- The source after a run. -/
def SacnSourceInternal.after (src : SacnSourceInternal) (calls : List SourceCall) :
    SacnSourceInternal := calls.foldl (fun s c => (c.method.run s).2) src

/-- The numbers of `count` packets, from this one on. -/
def numbersFrom (number : UInt8) (count : Nat) : List UInt8 :=
  (List.range count).map fun i => number + UInt8.ofNat i

theorem numbersFrom_succ (number : UInt8) (count : Nat) :
    numbersFrom number (count + 1) = number :: numbersFrom (number + 1) count := by
  unfold numbersFrom
  rw [List.range_succ_eq_map, List.map_cons, List.map_map]
  refine congrArg₂ List.cons (UInt8.add_zero number) (List.map_congr_left fun i _ => ?_)
  show number + UInt8.ofNat (i + 1) = number + 1 + UInt8.ofNat i
  rw [UInt8.add_assoc, UInt8.add_comm 1, UInt8.ofNat_add]
  rfl

/-- **The sender numbers a stream consecutively**, modulo 256: a run that does not terminate the
stream hands to the socket, for each of its successful calls on the stream, a packet with the next
number. -/
theorem numbers_after {sent : List (SocketAddr × List UInt8)} {k : Stream} {calls : List SourceCall}
    (hterm : ∀ c ∈ calls, ¬ c.Terminates k) :
    ∀ {src : SacnSourceInternal} {numbers : List UInt8}, k.cid = src.cid →
      src.HasSent sent k numbers →
      (src.after calls).HasSent sent k
        (numbers ++ numbersFrom (src.next k) ((sentBy src calls).filter (·.isOn k)).length) := by
  induction calls with
  | nil =>
    intro src numbers _ h
    exact (List.append_nil numbers).symm ▸ h
  | cons c calls ih =>
    intro src numbers hcid h
    have ih := @ih (fun d hd => hterm d (List.mem_cons_of_mem c hd)) (c.method.run src).2
    show ((c.method.run src).2.after calls).HasSent sent k _
    unfold sentBy
    rw [List.filter_append, List.length_append]
    rcases SourceCall.hasSent_step hcid (hterm c List.mem_cons_self) h with
      ⟨hone, hsent, hnext⟩ | ⟨hnone, hsent, hnext⟩
    · obtain ⟨hcid', hnumber⟩ := Prod.mk.inj hnext
      have hrest := ih (hcid.trans hcid'.symm) hsent
      rw [hnumber, List.append_assoc, List.singleton_append, ← numbersFrom_succ] at hrest
      rw [hone, Nat.add_comm]
      exact hrest
    · obtain ⟨hcid', hnumber⟩ := Prod.mk.inj hnext
      have hrest := ih (hcid.trans hcid'.symm) hsent
      rw [hnumber] at hrest
      rw [hnone, List.length_nil, Nat.zero_add]
      exact hrest

end Sacn
