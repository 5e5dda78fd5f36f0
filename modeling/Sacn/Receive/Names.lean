import Sacn.Packet.Ignored
import Sacn.Packet.Reencode
import Sacn.Receive.Network

/-!
# Discovery pages under any name

A source's name may fill its 64-byte field and may hold zero bytes; a receiver reads the field up to
its first zero byte, as UTF-8, and refuses a packet it finds no name in. So the name field alone
decides whether a discovery page is read, and nothing but the name is lost.

* `padded_discoveryPacketOf`: where the name is in the receiver's buffer.
* **`recvDatagram_named`**: a page with a readable name field is received under the name read.
* **`recvDatagram_unnamed`**: a page with any other name field is refused.
-/

namespace Sacn

open Rust Rust.Outcome

/-- The discovery packet of the source with this framing layer. -/
def discoveryPacketOf (cid : Uuid) (pkt : UniverseDiscoveryPacketFramingLayer) :
    AcnRootLayerProtocol :=
  { pdu := { cid, data := .universeDiscoveryPacket pkt } }

/-- The page under another name. -/
def UniverseDiscoveryPacketFramingLayer.renamed (pkt : UniverseDiscoveryPacketFramingLayer)
    (name : String) : UniverseDiscoveryPacketFramingLayer := { pkt with sourceName := name }

/-! ## The receiver's buffer -/

section Buffer

variable (cid : Uuid) (pkt : UniverseDiscoveryPacketFramingLayer)

/-- What stands before the name in the packed packet. -/
def beforeName : List UInt8 :=
  AcnRootLayerProtocol.preamble ++ (discoveryPacketOf cid pkt).pdu.head ++ pkt.head

/-- What stands behind the name in the receiver's buffer. -/
def behindName : List UInt8 :=
  List.replicate 4 0 ++ pkt.data.encode ++
    List.replicate (rcvBufDefaultSize - (108 + (4 + pkt.data.encode.length))) 0

theorem length_beforeName : (beforeName cid pkt).length = 44 := by
  have hid : e131AcnPacketIdentifier.length = 12 := rfl
  have hcid := cid.length_eq
  simp [beforeName, AcnRootLayerProtocol.preamble, E131RootLayer.head,
    UniverseDiscoveryPacketFramingLayer.head, discoveryPacketOf, hid, hcid]

theorem encode_discoveryPacketOf : (discoveryPacketOf cid pkt).encode =
    beforeName cid pkt ++ (nameField pkt.sourceName ++
      (List.replicate 4 0 ++ pkt.data.encode)) := by
  simp only [beforeName, discoveryPacketOf, AcnRootLayerProtocol.encode, E131RootLayer.encode,
    E131RootLayerData.encode, UniverseDiscoveryPacketFramingLayer.encode,
    AcnRootLayerProtocol.preamble, E131RootLayer.head, UniverseDiscoveryPacketFramingLayer.head,
    List.append_assoc]

theorem length_encode_discovery (hfits : (strBytes pkt.sourceName).length ≤ 64) :
    (discoveryPacketOf cid pkt).encode.length = 108 + (4 + pkt.data.encode.length) := by
  rw [encode_discoveryPacketOf, List.length_append, length_beforeName, List.length_append,
    length_nameField hfits, List.length_append, List.length_replicate]
  omega

theorem padded_discoveryPacketOf (hfits : (strBytes pkt.sourceName).length ≤ 64) :
    padded (discoveryPacketOf cid pkt).encode =
      beforeName cid pkt ++ (nameField pkt.sourceName ++ behindName pkt) := by
  unfold padded
  rw [length_encode_discovery cid pkt hfits, encode_discoveryPacketOf]
  simp only [behindName, List.append_assoc]

/-- Renaming a page changes the buffer in the name field only. -/
theorem byteAt_renamed (hfits : (strBytes pkt.sourceName).length ≤ 64) {name : String}
    (hname : (strBytes name).length ≤ 64) {i : Nat} (hi : i < 44 ∨ 108 ≤ i) :
    byteAt (padded (discoveryPacketOf cid (pkt.renamed name)).encode) i =
      byteAt (padded (discoveryPacketOf cid pkt).encode) i := by
  have hbefore := length_beforeName cid pkt
  have hfield := length_nameField hfits
  have hfield' := length_nameField hname
  rw [padded_discoveryPacketOf cid pkt hfits, padded_discoveryPacketOf cid (pkt.renamed name) hname]
  show byteAt (beforeName cid pkt ++ (nameField name ++ behindName pkt)) i = _
  rcases hi with hi | hi
  · rw [byteAt_append_left (by omega), byteAt_append_left (by omega)]
  · rw [byteAt_append_right (by omega), byteAt_append_right (by omega),
      byteAt_append_right (by omega), byteAt_append_right (by omega), hfield, hfield']

/-- The name field in the buffer. -/
theorem byteAt_name (hfits : (strBytes pkt.sourceName).length ≤ 64) {k : Nat} (hk : k < 64) :
    byteAt (padded (discoveryPacketOf cid pkt).encode) (44 + k) =
      byteAt (nameField pkt.sourceName) k := by
  have hbefore := length_beforeName cid pkt
  have hfield := length_nameField hfits
  rw [padded_discoveryPacketOf cid pkt hfits, byteAt_append_right (by omega), hbefore,
    Nat.add_sub_cancel_left, byteAt_append_left (by omega)]

theorem extract_name (length : Nat) (hfits : (strBytes pkt.sourceName).length ≤ 64)
    (hlong : 92 ≤ length) :
    (framing (padded (discoveryPacketOf cid pkt).encode) length).extract 6 70 =
      nameField pkt.sourceName := by
  have hbefore := length_beforeName cid pkt
  have hfield := length_nameField hfits
  unfold framing
  rw [extract_extract (by omega), extract_drop, padded_discoveryPacketOf cid pkt hfits,
    extract_append_right (by omega), hbefore, extract_append_left (by omega),
    extract_field rfl (by omega)]

end Buffer

/-! ## A name that can be read -/

/-- Two fields that hold a name agree up to its zero byte. -/
theorem NameField.byteAt_eq {field field' : List UInt8} {name : String} {k : Nat}
    (h : NameField field name) (h' : NameField field' name) (hk : k ≤ (strBytes name).length) :
    byteAt field k = byteAt field' k := by
  obtain ⟨rest, rfl, -⟩ := h
  obtain ⟨rest', rfl, -⟩ := h'
  rcases Nat.lt_or_eq_of_le hk with hlt | rfl
  · rw [byteAt_append_left hlt, byteAt_append_left hlt]
  · rw [byteAt_append_right le_rfl, byteAt_append_right le_rfl, Nat.sub_self]
    rfl

section Read

variable {cid : Uuid} {pkt : UniverseDiscoveryPacketFramingLayer} {name : String}

/-- The page under the name read is a page of the parser's domain. -/
theorem renamed_inDomain (h : (pkt.renamed "").InDomain)
    (hfits : (strBytes pkt.sourceName).length ≤ 64)
    (hname : NameField (nameField pkt.sourceName) name) : (pkt.renamed name).InDomain :=
  ⟨hname.inDomain (length_nameField hfits).le, h.page_le, h.universes_le, h.ascending⟩

/-- **A page with a readable name field** is received under the name read. -/
theorem recvDatagram_named (h : (pkt.renamed "").InDomain)
    (hfits : (strBytes pkt.sourceName).length ≤ 64)
    (hname : NameField (nameField pkt.sourceName) name) :
    recvDatagram (discoveryPacketOf cid pkt).encode =
      .ok (discoveryPacketOf cid (pkt.renamed name)) := by
  have hdomain : (discoveryPacketOf cid (pkt.renamed name)).InDomain :=
    renamed_inDomain h hfits hname
  have hlt := hname.length_lt
  rw [length_nameField hfits] at hlt
  obtain ⟨hfit, hreceived⟩ := recvDatagram_encode hdomain
  have hwire := (recvDatagram_eq_ok hfit).mp hreceived
  have hlength : (discoveryPacketOf cid (pkt.renamed name)).encode.length =
      (discoveryPacketOf cid pkt).encode.length :=
    (length_encode_discovery cid (pkt.renamed name) hlt.le).trans
      (length_encode_discovery cid pkt hfits).symm
  have hpadded : (padded (discoveryPacketOf cid (pkt.renamed name)).encode).length =
      (padded (discoveryPacketOf cid pkt).encode).length := by
    unfold padded
    rw [List.length_append, List.length_append, hlength]
  refine (recvDatagram_eq_ok (hlength ▸ hfit)).mpr (hwire.ignores ⟨?_, fun i hne => ?_⟩)
  · have hpresent := hwire.present
    obtain ⟨length, hroot⟩ := hwire.pdu
    have hin := hroot.fits
    rw [List.length_drop] at hin
    rw [hroot.pduLength]
    omega
  · have hrange : 44 ≤ i ∧ i < 108 := by
      by_contra hout
      exact hne (byteAt_renamed cid pkt hfits hlt.le (by omega)).symm
    have hfield : NameField (nameField (pkt.renamed name).sourceName) name :=
      (renamed_inDomain h hfits hname).name.nameField
    have hzero : byteAt (padded (discoveryPacketOf cid (pkt.renamed name)).encode)
        (44 + (strBytes name).length) = 0 := by
      obtain ⟨rest, hsplit, -⟩ := hfield
      rw [byteAt_name cid (pkt.renamed name) hlt.le hlt, hsplit, byteAt_append_right le_rfl,
        Nat.sub_self]
      rfl
    refine .discoveryName (j := 44 + (strBytes name).length) ⟨by omega, ?_⟩ hrange.2 hzero
    by_contra hle
    have hsame := hname.byteAt_eq hfield (k := i - 44) (by omega)
    rw [← byteAt_name cid pkt hfits (by omega),
      ← byteAt_name cid (pkt.renamed name) hlt.le (by omega), Nat.add_sub_cancel' hrange.1] at hsame
    exact hne hsame

/-- Every packet but a synchronisation packet has a name. -/
theorem E131RootLayerData.Wire.named {data : E131RootLayerData} {buf : List UInt8}
    (h : data.Wire buf) : (∃ d, data = .synchronizationPacket d) ∨
      70 ≤ buf.length ∧ ∃ name, NameField (buf.extract 6 70) name := by
  cases data with
  | dataPacket d =>
    obtain ⟨l, hat⟩ := h
    exact .inr ⟨by have := hat.long; have := hat.fits; omega, _, hat.name⟩
  | synchronizationPacket d => exact .inl ⟨d, rfl⟩
  | universeDiscoveryPacket d =>
    obtain ⟨l, hat⟩ := h
    exact .inr ⟨by have := hat.long; have := hat.fits; omega, _, hat.name⟩

/-- The framing layer of a page is too long for a synchronisation packet. -/
theorem pduLengthAt_discovery (h : (pkt.renamed "").InDomain)
    (hfits : (strBytes pkt.sourceName).length ≤ 64) :
    82 ≤ pduLengthAt (padded (discoveryPacketOf cid pkt).encode) 38 := by
  have hempty : (discoveryPacketOf cid (pkt.renamed "")).InDomain := h
  obtain ⟨hfit, hreceived⟩ := recvDatagram_encode hempty
  obtain ⟨length, hroot⟩ := ((recvDatagram_eq_ok hfit).mp hreceived).pdu
  obtain ⟨l, hat⟩ := hroot.data
  have hlength := (hat.pduLengths (length_extract_of_le hroot.fits)).1
  have hlong := hat.long
  have hsame : SameIn (padded (discoveryPacketOf cid pkt).encode)
      (padded (discoveryPacketOf cid (pkt.renamed "")).encode) 0 44 := fun k _ hk =>
    byteAt_renamed cid pkt hfits (Nat.zero_le _) (.inl hk)
  have hbuffer : ∀ d : List UInt8, 44 ≤ d.length → 44 ≤ (padded d).length := fun d hd => by
    unfold padded
    rw [List.length_append]
    omega
  have hword : u16At (padded (discoveryPacketOf cid (pkt.renamed "")).encode) 38 =
      u16At (padded (discoveryPacketOf cid pkt).encode) 38 := by
    refine hsame.u16At (by omega) (by omega) (hbuffer _ ?_) (hbuffer _ ?_)
    · rw [length_encode_discovery cid pkt hfits]
      omega
    · rw [length_encode_discovery cid (pkt.renamed "") (Nat.zero_le _)]
      omega
  unfold pduLengthAt at hlength ⊢
  rw [← hword, hlength]
  exact hlong

/-- **A page with any other name field** is refused. -/
theorem recvDatagram_unnamed (h : (pkt.renamed "").InDomain)
    (hfits : (strBytes pkt.sourceName).length ≤ 64)
    (hnone : ∀ name, ¬ NameField (nameField pkt.sourceName) name) (p : AcnRootLayerProtocol) :
    recvDatagram (discoveryPacketOf cid pkt).encode ≠ .ok p := by
  intro hreceived
  have hempty : (discoveryPacketOf cid (pkt.renamed "")).InDomain := h
  have hlength : (discoveryPacketOf cid (pkt.renamed "")).encode.length =
      (discoveryPacketOf cid pkt).encode.length :=
    (length_encode_discovery cid (pkt.renamed "") (Nat.zero_le _)).trans
      (length_encode_discovery cid pkt hfits).symm
  have hfit := hlength ▸ (recvDatagram_encode hempty).1
  obtain ⟨length, hroot⟩ := ((recvDatagram_eq_ok hfit).mp hreceived).pdu
  have hframing : (framing (padded (discoveryPacketOf cid pkt).encode) length).length =
      length - 22 := length_extract_of_le hroot.fits
  rcases E131RootLayerData.Wire.named hroot.data with ⟨d, hsync⟩ | ⟨hlong, name, hname⟩
  · have hwire : d.Wire (framing (padded (discoveryPacketOf cid pkt).encode) length) := by
      have hdata := hroot.data
      rwa [hsync] at hdata
    have hshort := hwire.pduLength hframing
    have hlong : 82 ≤ pduLengthAt (padded (discoveryPacketOf cid pkt).encode) 38 :=
      pduLengthAt_discovery h hfits
    omega
  · have hlong : 70 ≤ (framing (padded (discoveryPacketOf cid pkt).encode) length).length := hlong
    refine hnone name ?_
    rw [← extract_name cid pkt length hfits (by omega)]
    exact hname

end Read

end Sacn
