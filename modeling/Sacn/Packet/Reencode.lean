import Sacn.Packet.RoundTrip

/-!
# What was parsed can be packed again

The wire image of a packet bounds every field the encoder bounds, and is at least as long as the
packet's encoding. What a buffer may carry besides (slack behind an inner PDU, the odd byte of a
universe list, reserved bytes, bytes behind the name) is dropped, so packing what was parsed is a
normal form of the buffer.

* `E131RootLayerData.Wire.inDomain`, `E131RootLayerData.Wire.len_le`: by kind of packet.
* **`AcnRootLayerProtocol.parse_reencode`**: a parsed packet is in the decoder's domain, and its
  packed bytes are no longer than the buffer and parse to it.
-/

namespace Sacn

open Rust Rust.Outcome

/-! ## The bounds -/

/-- A name read from its field fits it with its zero byte. -/
theorem NameField.inDomain {field : List UInt8} {name : String} (h : NameField field name)
    (hlength : field.length ≤ 64) : NameInDomain name := by
  have hlt := h.length_lt
  obtain ⟨_, -, hz⟩ := h
  exact ⟨by omega, hz⟩

theorem length_nameSlice (buf : List UInt8) : (buf.extract 6 70).length ≤ 64 := by
  rw [List.extract_eq_take_drop, List.length_take]
  exact Nat.min_le_left _ _

theorem DataPacketFramingLayer.WireAt.inDomain {d : DataPacketFramingLayer} {buf : List UInt8}
    {length : Nat} (h : d.WireAt buf length) : d.InDomain :=
  ⟨h.name.inDomain (length_nameSlice buf), h.priority_le, h.syncAddr_le, h.uni_range,
    h.data.capacity⟩

theorem UniverseDiscoveryPacketUniverseDiscoveryLayer.Wire.len_eq
    {d : UniverseDiscoveryPacketUniverseDiscoveryLayer} {buf : List UInt8} (h : d.Wire buf) :
    d.universes.length = (buf.length - 8) / 2 := by
  rw [h.universes, length_wordsAt]

theorem UniverseDiscoveryPacketFramingLayer.WireAt.inDomain
    {d : UniverseDiscoveryPacketFramingLayer} {buf : List UInt8} {length : Nat}
    (h : d.WireAt buf length) : d.InDomain := by
  have hcount := h.data.len_eq
  have hshort := h.data.short
  exact ⟨h.name.inDomain (length_nameSlice buf), h.data.page_le, by omega, h.data.ascending⟩

theorem E131RootLayerData.Wire.inDomain {data : E131RootLayerData} {buf : List UInt8}
    (h : data.Wire buf) : data.InDomain := by
  cases data with
  | dataPacket d =>
    obtain ⟨_, hat⟩ := h
    exact hat.inDomain
  | synchronizationPacket d => exact ⟨SynchronizationPacketFramingLayer.Wire.syncAddr_range h⟩
  | universeDiscoveryPacket d =>
    obtain ⟨_, hat⟩ := h
    exact hat.inDomain

/-! ## The length -/

theorem DataPacketFramingLayer.WireAt.len_le {d : DataPacketFramingLayer} {buf : List UInt8}
    {length : Nat} (h : d.WireAt buf length) : d.len ≤ buf.length := by
  have hfits := h.fits
  have hlong := h.long
  have hdata : 10 + d.data.propertyValues.length ≤ (buf.extract 77 length).length := h.data.fits
  rw [length_extract_of_le hfits] at hdata
  show 77 + (10 + d.data.propertyValues.length) ≤ buf.length
  omega

theorem UniverseDiscoveryPacketFramingLayer.WireAt.len_le {d : UniverseDiscoveryPacketFramingLayer}
    {buf : List UInt8} {length : Nat} (h : d.WireAt buf length) : d.len ≤ buf.length := by
  have hfits := h.fits
  have hlong := h.long
  have hcount := h.data.len_eq
  rw [length_extract_of_le hfits] at hcount
  show 74 + (8 + d.data.universes.length * 2) ≤ buf.length
  omega

/-- A wire image is at least as long as the packet's encoding. -/
theorem E131RootLayerData.Wire.len_le {data : E131RootLayerData} {buf : List UInt8}
    (h : data.Wire buf) : data.len ≤ buf.length := by
  cases data with
  | dataPacket d =>
    obtain ⟨_, hat⟩ := h
    exact hat.len_le
  | synchronizationPacket d => exact SynchronizationPacketFramingLayer.Wire.fits h
  | universeDiscoveryPacket d =>
    obtain ⟨_, hat⟩ := h
    exact hat.len_le

/-! ## The whole packet -/

theorem AcnRootLayerProtocol.Wire.inDomain {p : AcnRootLayerProtocol} {buf : List UInt8}
    (h : p.Wire buf) : p.InDomain := by
  obtain ⟨_, hroot⟩ := h.pdu
  exact hroot.data.inDomain

theorem AcnRootLayerProtocol.Wire.len_le {p : AcnRootLayerProtocol} {buf : List UInt8}
    (h : p.Wire buf) : p.len ≤ buf.length := by
  obtain ⟨length, hroot⟩ := h.pdu
  have hpresent := h.present
  have hfits := hroot.fits
  have hlong := hroot.long
  have hdata := hroot.data.len_le
  rw [length_extract_of_le hfits] at hdata
  rw [List.length_drop] at hfits
  show 16 + (22 + p.pdu.data.len) ≤ buf.length
  omega

/-- **Whatever is parsed is legal and can be packed again**: the packet meets the bounds on its
fields, and `pack_alloc` gives bytes, no more than were parsed, that parse to it. -/
theorem AcnRootLayerProtocol.parse_reencode {buf : List UInt8} {p : AcnRootLayerProtocol}
    (h : AcnRootLayerProtocol.parse buf = .ok p) :
    p.InDomain ∧ ∃ out, p.packAlloc = .ok out ∧ out.length ≤ buf.length ∧
      AcnRootLayerProtocol.parse out = .ok p := by
  have hwire := AcnRootLayerProtocol.parse_eq_ok.mp h
  have hdomain := hwire.inDomain
  refine ⟨hdomain, p.encode, AcnRootLayerProtocol.packAlloc_eq hdomain, ?_, ?_⟩
  · rw [AcnRootLayerProtocol.length_encode hdomain]
    exact hwire.len_le
  · rw [← List.append_nil p.encode]
    exact AcnRootLayerProtocol.parse_encode hdomain []

/-- A synchronisation packet with junk in its reserved bytes, and slack behind both PDUs. -/
def looseSync : List UInt8 :=
  [0, 16, 0, 0] ++ e131AcnPacketIdentifier ++ ([0x70, 35, 0, 0, 0, 8] ++ List.replicate 16 7) ++
    [0x70, 11, 0, 0, 0, 1, 9, 0, 7, 5, 6] ++ [1, 2, 3, 4]

/-- The packet it carries. -/
def looseSyncPacket : AcnRootLayerProtocol :=
  { pdu := { cid := .repeated 7
             data := .synchronizationPacket { sequenceNumber := 9, synchronizationAddress := 7 } } }

theorem looseSync_reencode :
    looseSyncPacket.InDomain ∧ ∃ out, looseSyncPacket.packAlloc = .ok out ∧
      out.length ≤ looseSync.length ∧ AcnRootLayerProtocol.parse out = .ok looseSyncPacket :=
  @AcnRootLayerProtocol.parse_reencode looseSync _ (by decide +kernel)

end Sacn
