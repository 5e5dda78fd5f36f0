import Sacn.Receive.Network
import Sacn.Source.Emission

/-!
# Datagrams between the two sides

What a source puts on the wire for a packet of the decoder's domain is what a receiver reads off it.

* `Emits.encoded`: the bytes on the wire.
* **`Emits.delivered`**: each datagram a source sends fits a receive buffer and is received as the
  packet the source packed.
-/

namespace Sacn

open Rust

/-- The datagram is the packed packet, fits a receive buffer and brings the packet to a receiver. -/
structure Carries (p : AcnRootLayerProtocol) (datagram : List UInt8) : Prop where
  packs : p.packAlloc = .ok datagram
  fits : datagram.length ≤ rcvBufDefaultSize
  parses : AcnRootLayerProtocol.parse datagram = .ok p
  receives : recvDatagram datagram = .ok p

theorem carries_encode {p : AcnRootLayerProtocol} (h : p.InDomain) : Carries p p.encode := by
  obtain ⟨hfits, hreceives⟩ := recvDatagram_encode h
  have hparses := AcnRootLayerProtocol.parse_encode h []
  rw [List.append_nil] at hparses
  exact ⟨AcnRootLayerProtocol.packAlloc_eq h, hfits, hparses, hreceives⟩

/-- The bytes a source sends are the encoded packets. -/
theorem Emits.encoded {src src' : SacnSourceInternal} {packets : List AcnRootLayerProtocol}
    (h : Emits src src' packets) (hpackable : ∀ p ∈ packets, p.pdu.data.Packable) :
    ∃ datagrams, src'.socket.sent = src.socket.sent ++ datagrams ∧
      datagrams.map Prod.snd = packets.map AcnRootLayerProtocol.encode := by
  obtain ⟨datagrams, hsent, hpacked⟩ := h
  refine ⟨datagrams, hsent, ?_⟩
  clear hsent
  induction hpacked with
  | nil => rfl
  | @cons p d packets datagrams hpack _ ih =>
    have hencode : d.2 = p.encode := Outcome.ok.inj (hpack.symm.trans
      (AcnRootLayerProtocol.packAlloc_ok (hpackable p List.mem_cons_self)))
    rw [List.map_cons, List.map_cons, hencode, ih fun p hp => hpackable p (List.mem_cons_of_mem _ hp)]

/-- **What a source sends arrives as it was packed.** -/
theorem Emits.delivered {src src' : SacnSourceInternal} {packets : List AcnRootLayerProtocol}
    (h : Emits src src' packets) (hdomain : ∀ p ∈ packets, p.InDomain) :
    ∃ datagrams, src'.socket.sent = src.socket.sent ++ datagrams ∧
      List.Forall₂ (fun p d => Carries p d.2) packets datagrams := by
  obtain ⟨datagrams, hsent, hencoded⟩ := h.encoded fun p hp => (hdomain p hp).packable
  refine ⟨datagrams, hsent, List.forall₂_map_right_iff.mp ?_⟩
  rw [hencoded]
  exact List.forall₂_map_right_iff.mpr
    (List.forall₂_same.mpr fun p hp => carries_encode (hdomain p hp))

end Sacn
