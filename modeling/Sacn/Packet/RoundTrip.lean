import Sacn.Packet.Encode
import Sacn.Packet.Wire

/-!
# Packing and parsing round trip

`InDomain` lists the field bounds a packet must meet to be parsed. The bytes `encode` writes for
such a packet are its wire image, with any bytes behind them, so the parser, which accepts exactly
the wire images, returns the packet.

* `PduHeader.encode`: the header the encoder writes.
* `DataPacketDmpLayer.wire_encode`, `DataPacketFramingLayer.wire_encode`,
  `SynchronizationPacketFramingLayer.wire_encode`,
  `UniverseDiscoveryPacketUniverseDiscoveryLayer.wire_encode`,
  `UniverseDiscoveryPacketFramingLayer.wire_encode`, `E131RootLayer.wire_encode`: one layer each.
* **`AcnRootLayerProtocol.parse_encode`**: the packed bytes, with any bytes behind them, parse back.
* **`AcnRootLayerProtocol.parse_pack`**: so does the output of `pack`, `pack_alloc` and `pack_vec`.
-/

namespace Sacn

open Rust Rust.Outcome

/-! ## Headers -/

theorem flagsAndLength_toNat {len : Nat} (h : len < 4096) :
    (flagsAndLength len).toNat = 28672 + len := by
  have hflags : (UInt16.ofNat (beNat [e131PduFlags, 0x0])).toNat = 2 ^ 12 * 7 := by decide
  have hlen : (UInt16.ofNat len &&& 0x0fff).toNat = len := by
    rw [UInt16.toNat_and, UInt16.toNat_ofNat']
    have := Nat.and_two_pow_sub_one_eq_mod (len % 2 ^ 16) 12
    calc len % 2 ^ 16 &&& 4095 = len % 2 ^ 16 % 2 ^ 12 := this
      _ = len := by omega
  unfold flagsAndLength
  rw [UInt16.toNat_or, hflags, hlen, ← Nat.two_pow_add_eq_or_of_lt (by omega)]

theorem PduHeader.encode {len n : Nat} {vb rest : List UInt8} {vector : UInt32} (hlen : len < 4096)
    (hn : vb.length = n) (hv : (UInt64.ofNat (beNat vb)).toUInt32 = vector) :
    PduHeader (beBytes 2 (flagsAndLength len).toNat ++ (vb ++ rest)) n len vector := by
  have hfl := flagsAndLength_toNat hlen
  refine ⟨by simp; omega, ?_, ?_, ?_⟩
  · have hk : len / 256 < 16 := by omega
    have hbyte : byteAt (beBytes 2 (flagsAndLength len).toNat ++ (vb ++ rest)) 0 =
        UInt8.ofNat (112 + len / 256) := by
      rw [byteAt_append_left (by simp), hfl]
      show UInt8.ofNat ((28672 + len) / 256) = _
      congr 1
      omega
    have hall : ∀ k < 16, UInt8.ofNat (112 + k) &&& 0xf0 = 0x70 := by decide
    rw [hbyte]
    exact hall _ hk
  · rw [u16At_beBytes]
    have hand : (flagsAndLength len &&& 0x0fff).toNat = (flagsAndLength len).toNat % 2 ^ 12 := by
      rw [UInt16.toNat_and]
      exact Nat.and_two_pow_sub_one_eq_mod _ 12
    rw [hand, hfl]
    omega
  · rw [extract_append_right (by simp), length_beBytes, Nat.sub_self, Nat.add_sub_cancel_left,
      extract_append_left (by omega), ← hn, extract_zero_length, hv]

theorem vector_beBytes (v : UInt32) : (UInt64.ofNat (beNat (beBytes 4 v.toNat))).toUInt32 = v := by
  have hlt : v.toNat < 256 ^ 4 := v.toNat_lt
  rw [beNat_beBytes, Nat.mod_eq_of_lt hlt, ← UInt32.toNat_inj, UInt64.toNat_toUInt32,
    UInt64.toNat_ofNat']
  omega

/-! ## Fields

A field of an encoding is found by peeling the fields behind it (`_append_left`) and in front of it
(`_append_right`); these lemmas read the field that is left. -/

theorem byteAt_field {b : UInt8} {i : Nat} (h : i = 0) : byteAt [b] i = b := by
  rw [h]
  rfl

theorem u16At_field {n : UInt16} {i : Nat} (h : i = 0) : u16At (beBytes 2 n.toNat) i = n := by
  rw [h]
  simpa using u16At_beBytes n []

theorem extract_field {w : List UInt8} {i j : Nat} (hi : i = 0) (hj : j = w.length) :
    w.extract i j = w := by
  rw [hi, hj, extract_zero_length]

/-! ## The DMP layer -/

theorem DataPacketDmpLayer.length_encode (d : DataPacketDmpLayer) :
    d.encode.length = d.len := by
  simp only [DataPacketDmpLayer.encode, DataPacketDmpLayer.len, List.length_append,
    length_beBytes, List.length_replicate, List.length_singleton, e131PduLengthFlagsLength]

theorem DataPacketDmpLayer.wire_encode {d : DataPacketDmpLayer}
    (hv : d.propertyValues.length ≤ 513) : d.Wire d.encode := by
  have hl : d.len = 10 + d.propertyValues.length := rfl
  have hlen := d.length_encode
  refine ⟨?_, by omega, ?_, ?_, ?_, ?_, hv, ?_⟩
  · rw [← hl]
    unfold DataPacketDmpLayer.encode
    simp only [List.append_assoc]
    exact @PduHeader.encode _ 1 [2] _ 2 (by omega) rfl rfl
  · unfold DataPacketDmpLayer.encode
    simp (disch := simp) only [byteAt_append_left, byteAt_append_right, byteAt_field]
  · unfold DataPacketDmpLayer.encode
    simp (disch := simp) only [u16At_append_left, u16At_append_right]
    simp
    rfl
  · unfold DataPacketDmpLayer.encode
    simp (disch := simp) only [u16At_append_left, u16At_append_right, u16At_field]
  · unfold DataPacketDmpLayer.encode
    simp (disch := simp) only [u16At_append_left, u16At_append_right, u16At_field]
    exact UInt16.toNat_ofNat_of_lt (lt_of_le_of_lt hv (by decide))
  · unfold DataPacketDmpLayer.encode
    simp (disch := simp) only [extract_append_right, extract_field]

/-! ## The framing layers -/

/-- A name the name field can hold with its zero byte. -/
structure NameInDomain (name : String) : Prop where
  fits : (strBytes name).length ≤ 63
  no_zero : 0 ∉ strBytes name

theorem NameInDomain.nameField {name : String} (h : NameInDomain name) :
    NameField (nameField name) name := by
  have hfits := h.fits
  obtain ⟨k, hk⟩ : ∃ k, 64 - (strBytes name).length = k + 1 :=
    ⟨63 - (strBytes name).length, by omega⟩
  refine ⟨List.replicate k 0, ?_, h.no_zero⟩
  rw [Sacn.nameField, hk]
  rfl

/-- The bounds on a data packet. -/
structure DataPacketFramingLayer.InDomain (d : DataPacketFramingLayer) : Prop where
  name : NameInDomain d.sourceName
  priority_le : d.priority ≤ 200
  syncAddr_le : d.synchronizationAddress ≤ 63999
  uni_range : 1 ≤ d.uni ∧ d.uni ≤ 63999
  values_le : d.data.propertyValues.length ≤ 513

theorem DataPacketFramingLayer.length_encode {d : DataPacketFramingLayer}
    (hn : (strBytes d.sourceName).length ≤ 64) : d.encode.length = d.len := by
  simp only [DataPacketFramingLayer.encode, DataPacketFramingLayer.len, List.length_append,
    length_beBytes, List.length_singleton, length_nameField hn,
    DataPacketDmpLayer.length_encode, e131PduLengthFlagsLength, e131FramingLayerVectorLength,
    e131SourceNameFieldLength, e131UniverseFieldLength]

theorem DataPacketFramingLayer.options_flags (d : DataPacketFramingLayer) :
    d.previewData = (d.options &&& 0x80 != 0) ∧ d.streamTerminated = (d.options &&& 0x40 != 0) ∧
      d.forceSynchronization = (d.options &&& 0x20 != 0) := by
  unfold DataPacketFramingLayer.options
  cases d.previewData <;> cases d.streamTerminated <;> cases d.forceSynchronization <;> decide

theorem DataPacketFramingLayer.wire_encode {d : DataPacketFramingLayer} (h : d.InDomain) :
    d.Wire d.encode := by
  have hfits := h.name.fits
  have hv := h.values_le
  have hl : d.len = 77 + d.data.len := rfl
  have hld : d.data.len = 10 + d.data.propertyValues.length := rfl
  have hlen : d.encode.length = d.len := length_encode (by omega)
  have hname : (nameField d.sourceName).length = 64 := length_nameField (by omega)
  have hopt : byteAt d.encode 74 = d.options := by
    unfold DataPacketFramingLayer.encode
    simp (disch := simp [hname]) only [byteAt_append_left, byteAt_append_right, byteAt_field]
  obtain ⟨hprev, hterm, hforce⟩ := d.options_flags
  refine ⟨d.len, ?_, by omega, by omega, ?_, ?_, h.priority_le, ?_, h.syncAddr_le, ?_, ?_, ?_, ?_,
    ?_, h.uni_range, ?_⟩
  · unfold DataPacketFramingLayer.encode
    simp only [List.append_assoc]
    exact PduHeader.encode (by omega) (by simp) (vector_beBytes 2)
  · have hfield : d.encode.extract 6 70 = nameField d.sourceName := by
      unfold DataPacketFramingLayer.encode
      simp (disch := simp [hname]) only [extract_append_left, extract_append_right, extract_field]
    rw [hfield]
    exact h.name.nameField
  · unfold DataPacketFramingLayer.encode
    simp (disch := simp [hname]) only [byteAt_append_left, byteAt_append_right, byteAt_field]
  · unfold DataPacketFramingLayer.encode
    simp (disch := simp [hname]) only [u16At_append_left, u16At_append_right, u16At_field]
  · unfold DataPacketFramingLayer.encode
    simp (disch := simp [hname]) only [byteAt_append_left, byteAt_append_right, byteAt_field]
  · rw [hopt, ← hprev]
  · rw [hopt, ← hterm]
  · rw [hopt, ← hforce]
  · unfold DataPacketFramingLayer.encode
    simp (disch := simp [hname]) only [u16At_append_left, u16At_append_right, u16At_field]
  · have hfield : d.encode.extract 77 d.len = d.data.encode := by
      unfold DataPacketFramingLayer.encode
      simp (disch := simp [hname]) only [extract_append_right]
      exact extract_field (by simp [hname]) (by simp [hname, hl, d.data.length_encode])
    rw [hfield]
    exact DataPacketDmpLayer.wire_encode hv

/-- The bounds on a synchronisation packet. -/
structure SynchronizationPacketFramingLayer.InDomain (d : SynchronizationPacketFramingLayer) :
    Prop where
  syncAddr_range : 1 ≤ d.synchronizationAddress ∧ d.synchronizationAddress ≤ 63999

theorem SynchronizationPacketFramingLayer.length_encode (d : SynchronizationPacketFramingLayer) :
    d.encode.length = d.len := by
  simp [SynchronizationPacketFramingLayer.encode, SynchronizationPacketFramingLayer.len]

theorem SynchronizationPacketFramingLayer.wire_encode {d : SynchronizationPacketFramingLayer}
    (h : d.InDomain) : d.Wire d.encode := by
  have hl : d.len = 11 := rfl
  have hlen := d.length_encode
  refine ⟨?_, by omega, ?_, ?_, h.syncAddr_range⟩
  · unfold SynchronizationPacketFramingLayer.encode
    simp only [List.append_assoc]
    exact PduHeader.encode (by omega) (by simp) (vector_beBytes 1)
  · unfold SynchronizationPacketFramingLayer.encode
    simp (disch := simp) only [byteAt_append_left, byteAt_append_right, byteAt_field]
  · unfold SynchronizationPacketFramingLayer.encode
    simp (disch := simp) only [u16At_append_left, u16At_append_right, u16At_field]

/-! ## The universe discovery layers -/

/-- The words of a packed universe list are the list. -/
theorem wordsAt_flatMap (us : List UInt16) :
    wordsAt (us.flatMap fun u => beBytes 2 u.toNat) 0 us.length = us := by
  induction us with
  | nil => rfl
  | cons u us ih =>
    rw [List.flatMap_cons, List.length_cons, wordsAt_cons, u16At_beBytes,
      wordsAt_append_right (by simp), length_beBytes, ih]

/-- The bounds on a universe discovery packet. -/
structure UniverseDiscoveryPacketFramingLayer.InDomain (d : UniverseDiscoveryPacketFramingLayer) :
    Prop where
  name : NameInDomain d.sourceName
  page_le : d.data.page ≤ d.data.lastPage
  universes_le : d.data.universes.length ≤ 512
  ascending : d.data.universes.Pairwise (· < ·)

theorem UniverseDiscoveryPacketUniverseDiscoveryLayer.length_encode
    (d : UniverseDiscoveryPacketUniverseDiscoveryLayer) : d.encode.length = d.len := by
  simp [UniverseDiscoveryPacketUniverseDiscoveryLayer.encode,
    UniverseDiscoveryPacketUniverseDiscoveryLayer.len]
  omega

theorem UniverseDiscoveryPacketUniverseDiscoveryLayer.wire_encode
    {d : UniverseDiscoveryPacketUniverseDiscoveryLayer} (hpage : d.page ≤ d.lastPage)
    (hu : d.universes.length ≤ 512) (hs : d.universes.Pairwise (· < ·)) : d.Wire d.encode := by
  have hl : d.len = 8 + d.universes.length * 2 := rfl
  have hlen := d.length_encode
  refine ⟨?_, by omega, by omega, ?_, ?_, hpage, ?_, hs⟩
  · rw [hlen]
    unfold UniverseDiscoveryPacketUniverseDiscoveryLayer.encode
    simp only [List.append_assoc]
    exact PduHeader.encode (by omega) (by simp) (vector_beBytes 1)
  · unfold UniverseDiscoveryPacketUniverseDiscoveryLayer.encode
    simp (disch := simp) only [byteAt_append_left, byteAt_append_right, byteAt_field]
  · unfold UniverseDiscoveryPacketUniverseDiscoveryLayer.encode
    simp (disch := simp) only [byteAt_append_left, byteAt_append_right, byteAt_field]
  · have hcount : (d.encode.length - 8) / 2 = d.universes.length := by omega
    have hdrop : d.encode.drop 8 = d.universes.flatMap fun u => beBytes 2 u.toNat := by
      unfold UniverseDiscoveryPacketUniverseDiscoveryLayer.encode
      exact List.drop_left' (by simp)
    rw [hcount, hdrop, wordsAt_flatMap]

theorem UniverseDiscoveryPacketFramingLayer.length_encode {d : UniverseDiscoveryPacketFramingLayer}
    (hn : (strBytes d.sourceName).length ≤ 64) : d.encode.length = d.len := by
  simp [UniverseDiscoveryPacketFramingLayer.encode, UniverseDiscoveryPacketFramingLayer.len,
    length_nameField hn, d.data.length_encode]
  omega

theorem UniverseDiscoveryPacketFramingLayer.wire_encode {d : UniverseDiscoveryPacketFramingLayer}
    (h : d.InDomain) : d.Wire d.encode := by
  have hfits := h.name.fits
  have hu := h.universes_le
  have hl : d.len = 74 + d.data.len := rfl
  have hld : d.data.len = 8 + d.data.universes.length * 2 := rfl
  have hlen : d.encode.length = d.len := length_encode (by omega)
  have hname : (nameField d.sourceName).length = 64 := length_nameField (by omega)
  refine ⟨d.len, ?_, by omega, by omega, ?_, ?_⟩
  · unfold UniverseDiscoveryPacketFramingLayer.encode
    simp only [List.append_assoc]
    exact PduHeader.encode (by omega) (by simp) (vector_beBytes 2)
  · have hfield : d.encode.extract 6 70 = nameField d.sourceName := by
      unfold UniverseDiscoveryPacketFramingLayer.encode
      simp (disch := simp [hname]) only [extract_append_left, extract_append_right, extract_field]
    rw [hfield]
    exact h.name.nameField
  · have hfield : d.encode.extract 74 d.len = d.data.encode := by
      unfold UniverseDiscoveryPacketFramingLayer.encode
      simp (disch := simp [hname]) only [extract_append_right]
      exact extract_field (by simp [hname]) (by simp [hname, hl, d.data.length_encode])
    rw [hfield]
    exact UniverseDiscoveryPacketUniverseDiscoveryLayer.wire_encode h.page_le hu h.ascending

/-! ## The root layer and the whole packet -/

/-- The bounds on each kind of packet. -/
def E131RootLayerData.InDomain : E131RootLayerData → Prop
  | dataPacket d => d.InDomain
  | synchronizationPacket d => d.InDomain
  | universeDiscoveryPacket d => d.InDomain

/-- The decoder's domain: the bounds on a packet of any kind. -/
def AcnRootLayerProtocol.InDomain (p : AcnRootLayerProtocol) : Prop := p.pdu.data.InDomain

theorem E131RootLayerData.InDomain.packable {data : E131RootLayerData} (h : data.InDomain) :
    data.Packable := by
  cases data with
  | dataPacket d =>
    have hfits := DataPacketFramingLayer.InDomain.name h |>.fits
    exact ⟨by omega, DataPacketFramingLayer.InDomain.values_le h⟩
  | synchronizationPacket d => trivial
  | universeDiscoveryPacket d =>
    have hd : d.InDomain := h
    have hfits := hd.name.fits
    exact ⟨by omega, hd.universes_le, hd.ascending⟩

theorem E131RootLayerData.length_encode {data : E131RootLayerData} (h : data.InDomain) :
    data.encode.length = data.len := by
  cases data with
  | dataPacket d => exact d.length_encode h.packable.1
  | synchronizationPacket d => exact d.length_encode
  | universeDiscoveryPacket d => exact d.length_encode h.packable.1

theorem E131RootLayerData.len_le {data : E131RootLayerData} (h : data.InDomain) :
    data.len ≤ 1106 := by
  cases data with
  | dataPacket d =>
    have hv : d.data.propertyValues.length ≤ 513 := h.packable.2
    show 77 + (10 + d.data.propertyValues.length) ≤ 1106
    omega
  | synchronizationPacket d => exact (by decide : 11 ≤ 1106)
  | universeDiscoveryPacket d =>
    have hu : d.data.universes.length ≤ 512 := h.packable.2.1
    show 74 + (8 + d.data.universes.length * 2) ≤ 1106
    omega

theorem E131RootLayerData.wire_encode {data : E131RootLayerData} (h : data.InDomain) :
    data.Wire data.encode := by
  cases data with
  | dataPacket d => exact DataPacketFramingLayer.wire_encode h
  | synchronizationPacket d => exact SynchronizationPacketFramingLayer.wire_encode h
  | universeDiscoveryPacket d => exact UniverseDiscoveryPacketFramingLayer.wire_encode h

theorem E131RootLayer.length_encode {r : E131RootLayer} (h : r.data.InDomain) :
    r.encode.length = r.len := by
  simp [E131RootLayer.encode, E131RootLayer.len, r.cid.length_eq,
    E131RootLayerData.length_encode h]
  omega

theorem E131RootLayer.wire_encode {r : E131RootLayer} (h : r.data.InDomain) (rest : List UInt8) :
    r.Wire (r.encode ++ rest) := by
  have hl : r.len = 22 + r.data.len := rfl
  have hle := E131RootLayerData.len_le h
  have hlen := E131RootLayer.length_encode h
  have hcid := r.cid.length_eq
  refine ⟨r.len, ?_, by rw [List.length_append]; omega, by omega, ?_, ?_⟩
  · unfold E131RootLayer.encode
    simp only [List.append_assoc]
    exact PduHeader.encode (by omega) (by simp) (vector_beBytes _)
  · rw [extract_append_left (by omega)]
    unfold E131RootLayer.encode
    simp (disch := simp [hcid]) only [extract_append_left, extract_append_right, extract_field]
  · have hfield : (r.encode ++ rest).extract 22 r.len = r.data.encode := by
      rw [extract_append_left (by omega)]
      unfold E131RootLayer.encode
      simp (disch := simp [hcid]) only [extract_append_right]
      exact extract_field (by simp [hcid])
        (by simp [hcid, hl, E131RootLayerData.length_encode h])
    rw [hfield]
    exact E131RootLayerData.wire_encode h

theorem AcnRootLayerProtocol.length_encode {p : AcnRootLayerProtocol} (h : p.InDomain) :
    p.encode.length = p.len := by
  simp [AcnRootLayerProtocol.encode, AcnRootLayerProtocol.len, E131RootLayer.length_encode h]
  omega

/-- The packed bytes carry the packet, with any bytes behind them. -/
theorem AcnRootLayerProtocol.wire_encode {p : AcnRootLayerProtocol} (h : p.InDomain)
    (rest : List UInt8) : p.Wire (p.encode ++ rest) := by
  have hid : e131AcnPacketIdentifier.length = 12 := rfl
  have hlen := AcnRootLayerProtocol.length_encode h
  have hl : p.len = 16 + p.pdu.len := by
    unfold AcnRootLayerProtocol.len
    omega
  have hdrop : (p.encode ++ rest).drop 16 = p.pdu.encode ++ rest := by
    unfold AcnRootLayerProtocol.encode
    rw [List.append_assoc]
    exact List.drop_left' (by simp [hid])
  refine ⟨by rw [List.length_append]; omega, ?_, ?_, ?_, ?_⟩
  · rw [u16At_append_left (by omega)]
    unfold AcnRootLayerProtocol.encode
    simp (disch := simp [hid]) only [u16At_append_left, u16At_field]
  · rw [u16At_append_left (by omega)]
    unfold AcnRootLayerProtocol.encode
    simp (disch := simp [hid]) only [u16At_append_left, u16At_append_right]
    simp
    rfl
  · rw [extract_append_left (by omega)]
    unfold AcnRootLayerProtocol.encode
    simp (disch := simp [hid]) only [extract_append_left, extract_append_right, extract_field]
  · rw [hdrop]
    exact E131RootLayer.wire_encode h rest

/-- **The packed bytes parse back**, with any bytes behind them. -/
theorem AcnRootLayerProtocol.parse_encode {p : AcnRootLayerProtocol} (h : p.InDomain)
    (rest : List UInt8) : AcnRootLayerProtocol.parse (p.encode ++ rest) = .ok p :=
  AcnRootLayerProtocol.parse_eq_ok.mpr (AcnRootLayerProtocol.wire_encode h rest)

/-- What `pack_alloc` returns for a packet of the decoder's domain. -/
theorem AcnRootLayerProtocol.packAlloc_eq {p : AcnRootLayerProtocol} (h : p.InDomain) :
    p.packAlloc = .ok p.encode := AcnRootLayerProtocol.packAlloc_ok h.packable

/-- **Packing and parsing round trip.** A packet of the decoder's domain packs into every buffer
long enough, whatever its contents, and the whole buffer parses back to the packet; so do the
outputs of `pack_alloc` and `pack_vec`. -/
theorem AcnRootLayerProtocol.parse_pack {p : AcnRootLayerProtocol} (h : p.InDomain) :
    (∀ buf : List UInt8, p.len ≤ buf.length →
      ∃ out, p.pack buf = .ok out ∧ out.length = buf.length ∧
        AcnRootLayerProtocol.parse out = .ok p) ∧
    (∃ out, p.packAlloc = .ok out ∧ AcnRootLayerProtocol.parse out = .ok p) ∧
    ∀ buf : List UInt8,
      ∃ out, p.packVec buf = .ok out ∧ AcnRootLayerProtocol.parse out = .ok p := by
  have hpack : ∀ buf : List UInt8, p.len ≤ buf.length →
      ∃ out, p.pack buf = .ok out ∧ out.length = buf.length ∧
        AcnRootLayerProtocol.parse out = .ok p := by
    intro buf hlen
    refine ⟨_, AcnRootLayerProtocol.pack_eq h.packable hlen, ?_,
      AcnRootLayerProtocol.parse_encode h _⟩
    rw [List.length_append, List.length_drop, AcnRootLayerProtocol.length_encode h]
    omega
  have hvec : ∀ buf : List UInt8,
      ∃ out, p.packVec buf = .ok out ∧ AcnRootLayerProtocol.parse out = .ok p := by
    intro buf
    obtain ⟨out, hp, -, hparse⟩ := hpack (List.replicate p.len 0) (by simp)
    exact ⟨out, hp, hparse⟩
  exact ⟨hpack, hvec [], hvec⟩

/-- A discovery packet with a name and a universe list. -/
def samplePacket : AcnRootLayerProtocol :=
  { pdu := { cid := .repeated 7
             data := .universeDiscoveryPacket
               { sourceName := "Stage"
                 data := { page := 0, lastPage := 1, universes := [1, 300, 63999] } } } }

theorem samplePacket_parse_pack :
    ∃ out, samplePacket.packAlloc = .ok out ∧ AcnRootLayerProtocol.parse out = .ok samplePacket :=
  (AcnRootLayerProtocol.parse_pack (p := samplePacket)
    ⟨⟨by decide, by decide⟩, by decide, by decide, by decide⟩).2.1

end Sacn
