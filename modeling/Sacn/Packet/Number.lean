import Sacn.Packet.RoundTrip

/-!
# The sequence number of a datagram (`packet.rs`)

A data packet has its sequence number at byte 111 and its universe at byte 113, a synchronisation
packet its number at byte 44 and its synchronisation address at byte 45. The encoder writes them
there behind whatever name the packet has: one that does not fit its field is written over.

* `wireNumber`: the number of a packed packet, read at its place in the datagram.
* `DataPacketFramingLayer.numbers_pack`, `SynchronizationPacketFramingLayer.numbers_pack`,
  `UniverseDiscoveryPacketFramingLayer.vector_pack`: the places, in each framing layer.
* **`AcnRootLayerProtocol.wireNumber_packAlloc`**: what is read from a packed packet.
-/

namespace Sacn

open Rust Rust.Outcome

/-- The kind, universe and sequence number of a numbered packet, read from its datagram. -/
def wireNumber (datagram : List UInt8) : Option (PacketKind × UInt16 × UInt8) :=
  if datagram.extract 18 22 = [0, 0, 0, 4] then
    some (.data, u16At datagram 113, byteAt datagram 111)
  else if datagram.extract 40 44 = [0, 0, 0, 1] then
    some (.sync, u16At datagram 45, byteAt datagram 44)
  else none

/-! ## The framing layers -/

/-- A method that checks the length of its buffer first, and succeeds, has the room. -/
theorem le_of_guarded {β : Type} {len room : Nat} {e : SacnError}
    {rest : Unit → Outcome SacnError β} {b : β}
    (h : (throwIf (room < len) e >>= rest) = .ok b) : len ≤ room := by
  obtain ⟨_, hguard, -⟩ := bind_eq_ok.mp h
  exact Nat.not_lt.mp (throwIf_eq_ok.mp hguard)

/-- The name field of a framing layer, after a name of any length was copied to its place. -/
theorem copied_name {head name buf named : List UInt8} (hhead : head.length = 6)
    (hbuf : 70 ≤ buf.length)
    (h : (modify (head ++ List.replicate 64 0 ++ buf.drop 70) 6 (6 + name.length)
      (copyFromSlice name) : Outcome SacnError _) = .ok named) :
    named.length = buf.length ∧ named.take 6 = head := by
  obtain ⟨hfits, rfl⟩ := modify_copy_eq_ok h
  have hlen : (head ++ List.replicate 64 0 ++ buf.drop 70).length = buf.length := by
    simp only [List.length_append, hhead, List.length_replicate, List.length_drop]
    omega
  have htake : (head ++ List.replicate 64 (0 : UInt8) ++ buf.drop 70).take 6 = head := by
    rw [List.append_assoc, ← hhead, List.take_left]
  rw [htake]
  constructor
  · simp only [List.length_append, List.length_drop] at hlen hfits ⊢
    omega
  · rw [List.append_assoc, ← hhead, List.take_left]

theorem DataPacketFramingLayer.numbers_pack {d : DataPacketFramingLayer} {buf bytes : List UInt8}
    (h : d.pack buf = .ok bytes) :
    u16At bytes 75 = d.uni ∧ byteAt bytes 73 = d.sequenceNumber := by
  have hl : d.len = 77 + d.data.len := rfl
  have hlen : d.len ≤ buf.length := le_of_guarded h
  rw [pack_named hlen] at h
  obtain ⟨named, hname, h⟩ := bind_eq_ok.mp h
  obtain ⟨hlength, -⟩ := copied_name (by simp [head]) (by omega) hname
  have hfirst : (named.take 70).length = 70 := by
    rw [List.length_take]
    omega
  rw [← List.take_append_drop 70 named, packFields_eq hfirst (by omega)] at h
  obtain ⟨data, -, h⟩ := bind_eq_ok.mp h
  rw [← ok.inj h]
  unfold fields
  constructor
  · simp (disch := simp [hfirst]) only [u16At_append_left, u16At_append_right, u16At_field]
  · simp (disch := simp [hfirst]) only [byteAt_append_left, byteAt_append_right, byteAt_field]

theorem SynchronizationPacketFramingLayer.numbers_pack {d : SynchronizationPacketFramingLayer}
    {buf bytes : List UInt8} (h : d.pack buf = .ok bytes) :
    bytes.extract 2 6 = [0, 0, 0, 1] ∧ u16At bytes 7 = d.synchronizationAddress ∧
      byteAt bytes 6 = d.sequenceNumber := by
  have hlen : d.len ≤ buf.length := le_of_guarded h
  rw [pack_eq hlen] at h
  rw [← ok.inj h]
  unfold encode
  refine ⟨?_, ?_, ?_⟩
  · simp (disch := simp) only [extract_append_left, extract_append_right, extract_field]
    decide
  · simp (disch := simp) only [u16At_append_left, u16At_append_right, u16At_field]
  · simp (disch := simp) only [byteAt_append_left, byteAt_append_right, byteAt_field]

theorem UniverseDiscoveryPacketFramingLayer.vector_pack {d : UniverseDiscoveryPacketFramingLayer}
    {buf bytes : List UInt8} (h : d.pack buf = .ok bytes) : bytes.extract 2 6 = [0, 0, 0, 2] := by
  have hl : d.len = 74 + d.data.len := rfl
  have hlen : d.len ≤ buf.length := le_of_guarded h
  rw [pack_named hlen] at h
  obtain ⟨named, hname, h⟩ := bind_eq_ok.mp h
  have hhead : d.head.length = 6 := by simp [head]
  obtain ⟨hlength, hkept⟩ := copied_name hhead (by omega) hname
  have hfirst : (named.take 70).length = 70 := by
    rw [List.length_take]
    omega
  have hsplit : named.take 70 = d.head ++ (named.drop 6).take 64 := by
    rw [← hkept]
    exact List.take_add (i := 6) (j := 64)
  rw [← List.take_append_drop 70 named, packFields_eq hfirst (by omega)] at h
  obtain ⟨data, -, h⟩ := bind_eq_ok.mp h
  rw [← ok.inj h, hsplit, List.append_assoc, List.append_assoc, extract_append_left hhead.ge]
  unfold head
  simp (disch := simp) only [extract_append_right, extract_field]
  decide

/-! ## The whole packet -/

/-- A packed packet: its 38-byte preamble and root header, and what its framing layer was packed
to. -/
theorem AcnRootLayerProtocol.packAlloc_split {p : AcnRootLayerProtocol} {bytes : List UInt8}
    (h : p.packAlloc = .ok bytes) :
    ∃ header buf framing : List UInt8, p.pdu.data.pack buf = .ok framing ∧
      bytes = header ++ framing ∧ header.length = 38 ∧
      header.extract 18 22 = beBytes 4 p.pdu.data.rootVector.toNat := by
  have hid : e131AcnPacketIdentifier.length = 12 := rfl
  have hcid := p.pdu.cid.length_eq
  have hl := p.len_eq
  have hlength : (List.replicate p.len (0 : UInt8)).length = p.len := List.length_replicate
  replace h : p.pack (List.replicate p.len 0) = .ok bytes := h
  rw [pack_pdu hlength.ge] at h
  obtain ⟨root, hroot, h⟩ := bind_eq_ok.mp h
  rw [E131RootLayer.pack_data (by rw [List.length_drop]; omega)] at hroot
  obtain ⟨framing, hframing, hroot⟩ := bind_eq_ok.mp hroot
  refine ⟨preamble ++ p.pdu.head, _, framing, hframing, ?_, ?_, ?_⟩
  · rw [← ok.inj h, ← ok.inj hroot, List.append_assoc]
  · simp [preamble, E131RootLayer.head, hid, hcid]
  · unfold preamble E131RootLayer.head
    simp (disch := simp [hid, hcid]) only [extract_append_left, extract_append_right,
      extract_field]

/-- **The number of a packed packet** is found at its place. -/
theorem AcnRootLayerProtocol.wireNumber_packAlloc {p : AcnRootLayerProtocol} {bytes : List UInt8}
    (h : p.packAlloc = .ok bytes) :
    wireNumber bytes = p.numbered.map fun (k, n) => (k.kind, k.uni, n) := by
  obtain ⟨header, buf, framing, hpack, rfl, hlen, hvector⟩ := packAlloc_split h
  have hroot : (header ++ framing).extract 18 22 = beBytes 4 p.pdu.data.rootVector.toNat := by
    rw [extract_append_left (by omega), hvector]
  have hbyte : ∀ i, byteAt (header ++ framing) (38 + i) = byteAt framing i := fun i => by
    rw [byteAt_append_right (by omega), hlen, Nat.add_sub_cancel_left]
  have hword : ∀ i, u16At (header ++ framing) (38 + i) = u16At framing i := fun i => by
    rw [u16At_append_right (by omega), hlen, Nat.add_sub_cancel_left]
  have hframing : (header ++ framing).extract 40 44 = framing.extract 2 6 := by
    rw [extract_append_right (by omega), hlen]
  unfold wireNumber AcnRootLayerProtocol.numbered
  rw [hroot, hframing, hword 75, hword 7, hbyte 73, hbyte 6]
  cases hdata : p.pdu.data with
  | dataPacket d =>
    rw [hdata] at hpack
    obtain ⟨huni, hnumber⟩ := DataPacketFramingLayer.numbers_pack hpack
    have hvector : beBytes 4 (E131RootLayerData.dataPacket d).rootVector.toNat = [0, 0, 0, 4] :=
      (by decide : beBytes 4 (4 : UInt32).toNat = [0, 0, 0, 4])
    rw [if_pos hvector, huni, hnumber]
    rfl
  | synchronizationPacket d =>
    rw [hdata] at hpack
    obtain ⟨hvector, huni, hnumber⟩ := SynchronizationPacketFramingLayer.numbers_pack hpack
    have hextended : beBytes 4 (E131RootLayerData.synchronizationPacket d).rootVector.toNat ≠
        [0, 0, 0, 4] := (by decide : beBytes 4 (8 : UInt32).toNat ≠ [0, 0, 0, 4])
    rw [if_neg hextended, if_pos hvector, huni, hnumber]
    rfl
  | universeDiscoveryPacket d =>
    rw [hdata] at hpack
    have hvector : framing.extract 2 6 ≠ [0, 0, 0, 1] := by
      rw [UniverseDiscoveryPacketFramingLayer.vector_pack hpack]
      decide
    have hextended : beBytes 4 (E131RootLayerData.universeDiscoveryPacket d).rootVector.toNat ≠
        [0, 0, 0, 4] := (by decide : beBytes 4 (8 : UInt32).toNat ≠ [0, 0, 0, 4])
    rw [if_neg hextended, if_neg hvector]
    rfl

end Sacn
