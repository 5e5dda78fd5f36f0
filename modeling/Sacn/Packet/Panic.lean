import Sacn.Packet.Wire

/-!
# When parsing panics

Each layer checks its PDU length against the bytes it was given, from above only. A length below
the layer's own fixed header passes that check, and the code then slices from the header's end to
that length, or indexes past the bytes its outer layer cut for it. `CutShort` says, on the bytes
alone, when this happens: the layer's header is admitted, every field that is still wholly present
is legal (an illegal one returns its error first), and the PDU ends inside its fixed part.

* `DataPacketDmpLayer.parse_eq_panic`, `DataPacketFramingLayer.parse_eq_panic`,
  `E131RootLayer.parse_eq_panic`: which buffers each layer panics on.
* `E131RootLayer.parseExtended_ne_panic`: the synchronisation and discovery layers never panic.
* **`AcnRootLayerProtocol.parse_ne_panic_iff`**: `parse` returns on a buffer iff no admitted PDU of
  it is cut short.
* `AcnRootLayerProtocol.parse_shortRoot_panics`: a packet off the network that panics.
-/

namespace Sacn

open Rust Rust.Outcome

/-- `pdu_info` itself returns on every buffer. -/
theorem pduInfo_ne_panic {buf : List UInt8} {n : Nat} (h1 : 1 ≤ n) (h8 : n ≤ 8) :
    pduInfo buf n ≠ .panic := by
  intro h
  unfold pduInfo at h
  simp only [bind_eq_panic, throwIf_eq_panic, throwIf_eq_ok, exists_const, index_eq_panic,
    sliceFrom_eq_panic, sliceFrom_eq_ok, pure_eq, reduceCtorEq, and_false, or_false,
    false_or] at h
  simp only [e131PduLengthFlagsLength, readU16In_eq_panic, not_lt] at h
  obtain ⟨hp, h⟩ := h
  rcases h with h | ⟨_, -, -, h | ⟨_, -, h | ⟨_, ⟨-, rfl⟩, h⟩⟩⟩
  · omega
  · omega
  · omega
  · rw [readUint_drop h1 h8 hp] at h
    exact absurd h (by simp)

/-- A name field of at least one byte is scanned without a panic. -/
theorem parseSourceNameStr_ne_panic {buf : List UInt8} (h : 0 < buf.length) :
    parseSourceNameStr buf ≠ .panic := by
  intro hp
  have hle : sourceNameLength buf ≤ buf.length := List.findIdx_le_length
  have hslice : (slice buf 0 (sourceNameLength buf) : Outcome SacnError _) =
      .ok (buf.extract 0 (sourceNameLength buf)) := slice_ok (Nat.zero_le _) hle
  unfold parseSourceNameStr at hp
  simp only [hslice] at hp
  split at hp
  · simp only [bind_eq_panic, throwIf_eq_panic, throwIf_eq_ok, index_eq_panic, exists_const,
      ok_bind, false_or] at hp
    rcases hp with hp | ⟨_, -, -, hp⟩
    · omega
    · split at hp <;> cases hp
  · simp only [ok_bind] at hp
    split at hp <;> cases hp

/-! ## The synchronisation and discovery layers -/

theorem SynchronizationPacketFramingLayer.parse_ne_panic {buf : List UInt8} :
    SynchronizationPacketFramingLayer.parse buf ≠ .panic := by
  intro h
  unfold SynchronizationPacketFramingLayer.parse at h
  simp only [bind_eq_panic, throwIf_eq_panic, throwIf_eq_ok, exists_const, PduInfo.exists,
    e131FramingLayerVectorLength, pduInfo_eq_ok (n := 4) (by omega) (by omega), index_eq_panic,
    index_eq_ok_iff, pure_eq, reduceCtorEq, and_false, or_false, false_or] at h
  simp only [e131SyncFramingLayerSeqNumFieldIndex, e131SyncFramingLayerSyncAddressFieldIndex,
    e131SyncFramingLayerReserveFieldIndex, e131UniverseSyncPacketFramingLayerLength,
    e131PduLengthFlagsLength, e131FramingLayerVectorLength, readU16In_eq_panic, Nat.reduceAdd,
    ne_eq, Decidable.not_not, not_lt] at h
  rcases h with h | ⟨length, vector, -, hfits, -, rfl, h⟩
  · exact pduInfo_ne_panic (by omega) (by omega) h
  -- eleven bytes are there, and the fields end at the ninth
  · rcases h with h | ⟨_, -, h⟩ <;> omega

theorem parseUniverseWords_ne_panic {buf : List UInt8} : ∀ {n i : Nat} {last : Int},
    i + 2 * n ≤ buf.length → parseUniverseWords buf i last n ≠ .panic
  | 0, i, last, _ => by simp [parseUniverseWords]
  | n + 1, i, last, hlen => by
    intro h
    rw [parseUniverseWords] at h
    simp only [e131UniverseFieldLength] at h
    rw [readU16In_ok rfl (by omega), ok_bind] at h
    split at h
    · simp only [bind_eq_panic, pure_eq, reduceCtorEq, and_false, exists_false, or_false] at h
      exact parseUniverseWords_ne_panic (by omega) h
    · exact absurd h (by simp)

theorem parseUniverseList_ne_panic {buf : List UInt8} {n : Nat} :
    parseUniverseList buf n ≠ .panic := by
  intro h
  unfold parseUniverseList at h
  simp only [bind_eq_panic, throwIf_eq_panic, throwIf_eq_ok, exists_const, false_or] at h
  simp only [e131UniverseFieldLength, not_lt] at h
  obtain ⟨hlen, h⟩ := h
  exact parseUniverseWords_ne_panic (by omega) h

theorem UniverseDiscoveryPacketUniverseDiscoveryLayer.parse_ne_panic {buf : List UInt8} :
    UniverseDiscoveryPacketUniverseDiscoveryLayer.parse buf ≠ .panic := by
  intro h
  unfold UniverseDiscoveryPacketUniverseDiscoveryLayer.parse at h
  simp only [bind_eq_panic, throwIf_eq_panic, throwIf_eq_ok, exists_const, PduInfo.exists,
    pduInfo_eq_ok (n := 4) (by omega) (by omega), index_eq_panic, index_eq_ok_iff,
    sliceFrom_eq_panic, pure_eq, reduceCtorEq, and_false, or_false, false_or] at h
  simp only [e131DiscoveryLayerUniverseListFieldIndex, e131DiscoveryLayerLastPageFieldIndex,
    e131DiscoveryLayerPageFieldIndex, e131DiscoveryLayerVectorFieldIndex,
    e131UniverseDiscoveryLayerMinLength, e131UniverseDiscoveryLayerMaxLength,
    e131PduLengthFlagsLength, Nat.reduceAdd, ne_eq, Decidable.not_not] at h
  rcases h with h | ⟨length, vector, -, rfl, -, ⟨hlong, -⟩, h⟩
  · exact pduInfo_ne_panic (by omega) (by omega) h
  · rcases h with h | ⟨_, -, h | ⟨_, -, -, h | ⟨_, -, h⟩⟩⟩
    · omega
    · omega
    · omega
    · exact parseUniverseList_ne_panic h

theorem UniverseDiscoveryPacketFramingLayer.parse_ne_panic {buf : List UInt8} :
    UniverseDiscoveryPacketFramingLayer.parse buf ≠ .panic := by
  intro h
  unfold UniverseDiscoveryPacketFramingLayer.parse at h
  simp only [bind_eq_panic, throwIf_eq_panic, throwIf_eq_ok, exists_const, PduInfo.exists,
    e131FramingLayerVectorLength, pduInfo_eq_ok (n := 4) (by omega) (by omega), slice_eq_panic,
    slice_eq_ok, pure_eq, reduceCtorEq, and_false, exists_false, or_false, false_or] at h
  simp only [e131DiscoveryFramingLayerDataIndex, e131DiscoveryFramingLayerReserveFieldIndex,
    e131DiscoveryFramingLayerSourceNameFieldIndex, e131SourceNameFieldLength,
    e131UniverseDiscoveryFramingLayerMinLength, e131PduLengthFlagsLength,
    e131FramingLayerVectorLength, Nat.reduceAdd, ne_eq, Decidable.not_not, not_lt] at h
  rcases h with h | ⟨length, vector, -, hfits, -, hlong, h⟩
  · exact pduInfo_ne_panic (by omega) (by omega) h
  rcases h with (h | ⟨_, ⟨-, rfl⟩, h⟩) | ⟨_, -, h | ⟨_, -, h⟩⟩
  · omega
  · refine parseSourceNameStr_ne_panic ?_ h
    rw [length_extract_of_le (by omega)]
    omega
  · omega
  · exact UniverseDiscoveryPacketUniverseDiscoveryLayer.parse_ne_panic h

/-- **The extended arm returns on every buffer.** -/
theorem E131RootLayer.parseExtended_ne_panic {buf : List UInt8} :
    E131RootLayer.parseExtended buf ≠ .panic := by
  intro h
  unfold E131RootLayer.parseExtended at h
  simp only [bind_eq_panic, throwIf_eq_panic, throwIf_eq_ok, exists_const, PduInfo.exists,
    e131FramingLayerVectorLength, pduInfo_eq_ok (n := 4) (by omega) (by omega), false_or] at h
  rcases h with h | ⟨length, vector, -, -, h⟩
  · exact pduInfo_ne_panic (by omega) (by omega) h
  split at h
  · simp only [bind_eq_panic, pure_eq, reduceCtorEq, and_false, exists_false, or_false] at h
    exact SynchronizationPacketFramingLayer.parse_ne_panic h
  split at h
  · simp only [bind_eq_panic, pure_eq, reduceCtorEq, and_false, exists_false, or_false] at h
    exact UniverseDiscoveryPacketFramingLayer.parse_ne_panic h
  · exact absurd h (by simp)

/-! ## The data packet's layers -/

/-- The DMP layer in `buf` is admitted, and `buf` ends inside its 10-byte header. -/
structure DataPacketDmpLayer.CutShort (buf : List UInt8) : Prop where
  header : ∃ length ≤ buf.length, PduHeader buf 1 length 2
  short : buf.length < 10
  addressData : 4 ≤ buf.length → byteAt buf 3 = 0xa1
  firstProperty : 6 ≤ buf.length → u16At buf 4 = 0
  increment : 8 ≤ buf.length → u16At buf 6 = 1

theorem DataPacketDmpLayer.parse_eq_panic {buf : List UInt8} :
    DataPacketDmpLayer.parse buf = .panic ↔ DataPacketDmpLayer.CutShort buf := by
  unfold DataPacketDmpLayer.parse
  simp only [bind_eq_panic, throwIf_eq_ok, throwIf_eq_panic, exists_const, PduInfo.exists,
    pduInfo_ne_panic (n := 1) le_rfl (by omega), pduInfo_eq_ok (n := 1) le_rfl (by omega),
    index_eq_panic, index_eq_ok_iff, slice_eq_panic, pure_eq, reduceCtorEq, and_false,
    false_or, or_false]
  simp only [addressDataFieldIndex, firstPriorityFieldIndex, addressIncrementFieldIndex,
    propertyValueCountFieldIndex, propertyValuesFieldIndex, vectorFieldIndex,
    e131PduLengthFlagsLength, e131DmpLayerAddressDataField,
    e131DataPacketDmpLayerFirstPropertyField, e131DataPacketDmpLayerAddressIncrement,
    readU16In_eq_ok, readU16In_eq_panic, Nat.reduceAdd, ne_eq, Decidable.not_not, not_lt,
    and_assoc, exists_and_left, exists_eq_left']
  constructor
  · rintro ⟨length, vector, hh, hfits, rfl, h⟩
    have hheader : ∃ length ≤ buf.length, PduHeader buf 1 length 2 := ⟨length, hfits, hh⟩
    rcases h with h | ⟨-, ha, h | ⟨-, hf, h | ⟨-, hi, h | ⟨h10, hc, -, h⟩⟩⟩⟩
    · exact ⟨hheader, by omega, by omega, by omega, by omega⟩
    · exact ⟨hheader, by omega, fun _ => ha, by omega, by omega⟩
    · exact ⟨hheader, by omega, fun _ => ha, fun _ => hf, by omega⟩
    · exact ⟨hheader, h, fun _ => ha, fun _ => hf, fun _ => hi⟩
    -- past the header the count fixes the length
    · exact absurd ⟨by omega, hfits⟩ h
  · intro h
    obtain ⟨length, hfits, hh⟩ := h.header
    have hshort := h.short
    refine ⟨length, _, hh, hfits, rfl, ?_⟩
    by_cases h4 : buf.length < 4
    · exact .inl (by omega)
    refine .inr ⟨by omega, h.addressData (by omega), ?_⟩
    by_cases h6 : buf.length < 6
    · exact .inl h6
    refine .inr ⟨by omega, h.firstProperty (by omega), ?_⟩
    by_cases h8 : buf.length < 8
    · exact .inl h8
    exact .inr ⟨by omega, h.increment (by omega), .inl hshort⟩

/-- The framing layer of a data packet in `buf` is admitted, its fields are legal as far as they
are present, and its PDU ends inside the 77-byte header or its DMP layer is cut short. -/
structure DataPacketFramingLayer.CutShortAt (buf : List UInt8) (length : Nat) : Prop where
  header : PduHeader buf 4 length 2
  fits : length ≤ buf.length
  name : 70 ≤ buf.length → ∃ name, NameField (buf.extract 6 70) name
  priority : 71 ≤ buf.length → byteAt buf 70 ≤ 200
  syncAddr : 73 ≤ buf.length → u16At buf 71 ≤ 63999
  uni : 77 ≤ buf.length → 1 ≤ u16At buf 75 ∧ u16At buf 75 ≤ 63999
  short : length < 77 ∨ DataPacketDmpLayer.CutShort (buf.extract 77 length)

def DataPacketFramingLayer.CutShort (buf : List UInt8) : Prop :=
  ∃ length, DataPacketFramingLayer.CutShortAt buf length

theorem DataPacketFramingLayer.parse_eq_panic {buf : List UInt8} :
    DataPacketFramingLayer.parse buf = .panic ↔ DataPacketFramingLayer.CutShort buf := by
  unfold DataPacketFramingLayer.parse
  simp only [bind_eq_panic, throwIf_eq_ok, throwIf_eq_panic, exists_const, PduInfo.exists,
    e131FramingLayerVectorLength, pduInfo_ne_panic (n := 4) (by omega) (by omega),
    pduInfo_eq_ok (n := 4) (by omega) (by omega), index_eq_panic, index_eq_ok_iff, bind_eq_ok,
    slice_eq_panic, slice_eq_ok, pure_eq, reduceCtorEq, and_false, exists_false, false_or,
    or_false, parseSourceNameStr_eq_ok, DataPacketDmpLayer.parse_eq_panic]
  simp only [dataIndex, universeIndex, optionsFieldIndex, seqNumIndex, syncAddrIndex,
    priorityIndex, sourceNameIndex, e131SourceNameFieldLength, e131UniverseFieldLength,
    e131PduLengthFlagsLength, e131FramingLayerVectorLength, readU16In_eq_ok, readU16In_eq_panic,
    Nat.reduceAdd, ne_eq, Decidable.not_not, Nat.not_lt, and_assoc, exists_and_left,
    exists_eq_left', gt_iff_lt, UInt8.not_lt, UInt16.not_lt, e131MaxPriority,
    e131MaxMulticastUniverse]
  constructor
  · rintro ⟨length, vector, hh, hfits, rfl, h⟩
    refine ⟨length, ?_⟩
    rcases h with (h | ⟨-, h70, h⟩) | ⟨-, h70, name, hname, h⟩
    · exact ⟨hh, hfits, by omega, by omega, by omega, by omega, .inl (by omega)⟩
    · refine absurd h (parseSourceNameStr_ne_panic ?_)
      rw [length_extract_of_le h70]
      omega
    rcases h with h | ⟨-, hp, h⟩
    · exact ⟨hh, hfits, fun _ => ⟨name, hname⟩, by omega, by omega, by omega, .inl (by omega)⟩
    rcases h with h | ⟨-, hs, h⟩
    · exact ⟨hh, hfits, fun _ => ⟨name, hname⟩, fun _ => hp, by omega, by omega,
        .inl (by omega)⟩
    have hcut : ∀ huni, (length < 77 ∨ DataPacketDmpLayer.CutShort (buf.extract 77 length)) →
        DataPacketFramingLayer.CutShortAt buf length := fun huni =>
      .mk hh hfits (fun _ => ⟨name, hname⟩) (fun _ => hp) (fun _ => hs) huni
    rcases h with h | ⟨-, h | ⟨-, h | ⟨-, hu1, hu2, h⟩⟩⟩
    · exact hcut (by omega) (.inl (by omega))
    · exact hcut (by omega) (.inl (by omega))
    · exact hcut (by omega) (.inl (by omega))
    refine hcut (fun _ => ⟨hu1, hu2⟩) ?_
    rcases h with h | ⟨-, -, h⟩
    · exact .inl (by omega)
    · exact .inr h
  · rintro ⟨length, h⟩
    have hfits := h.fits
    refine ⟨length, _, h.header, hfits, rfl, ?_⟩
    by_cases h70 : buf.length < 70
    · exact .inl (.inl (by omega))
    obtain ⟨name, hname⟩ := h.name (by omega)
    refine .inr ⟨by omega, by omega, name, hname, ?_⟩
    by_cases h71 : buf.length < 71
    · exact .inl (by omega)
    refine .inr ⟨by omega, h.priority (by omega), ?_⟩
    by_cases h73 : buf.length < 73
    · exact .inl h73
    refine .inr ⟨by omega, h.syncAddr (by omega), ?_⟩
    by_cases h77 : buf.length < 77
    · omega
    obtain ⟨hu1, hu2⟩ := h.uni (by omega)
    refine .inr ⟨by omega, .inr ⟨by omega, .inr ⟨by omega, hu1, hu2, ?_⟩⟩⟩
    rcases h.short with hs | hd
    · exact .inl (by omega)
    by_cases hl : length < 77
    · exact .inl (by omega)
    · exact .inr ⟨by omega, hfits, hd⟩

/-! ## The root layer and the whole packet -/

/-- The root layer in `buf` is admitted, and its PDU ends inside the 22-byte header or its data
packet is cut short. -/
structure E131RootLayer.CutShortAt (buf : List UInt8) (length : Nat) (vector : UInt32) : Prop where
  header : PduHeader buf 4 length vector
  fits : length ≤ buf.length
  vector_eq : vector = 4 ∨ vector = 8
  short : length < 22 ∨ vector = 4 ∧ DataPacketFramingLayer.CutShort (buf.extract 22 length)

def E131RootLayer.CutShort (buf : List UInt8) : Prop :=
  ∃ length vector, E131RootLayer.CutShortAt buf length vector

theorem E131RootLayer.parseData_eq_panic {buf : List UInt8} {vector : UInt32} :
    E131RootLayer.parseData vector buf = .panic ↔
      vector = 4 ∧ DataPacketFramingLayer.CutShort buf := by
  unfold E131RootLayer.parseData
  by_cases h4 : vector = vectorRootE131Data
  · subst h4
    simp only [if_pos, bind_eq_panic, DataPacketFramingLayer.parse_eq_panic, pure_eq,
      reduceCtorEq, and_false, exists_false, or_false]
    exact ⟨fun h => ⟨rfl, h⟩, fun h => h.2⟩
  · have hno : ¬ (vector = 4 ∧ DataPacketFramingLayer.CutShort buf) := fun h => h4 h.1
    rw [if_neg h4]
    refine iff_of_false ?_ hno
    split
    · exact parseExtended_ne_panic
    · simp

theorem E131RootLayer.parse_eq_panic {buf : List UInt8} :
    E131RootLayer.parse buf = .panic ↔ E131RootLayer.CutShort buf := by
  unfold E131RootLayer.parse
  simp only [bind_eq_panic, throwIf_eq_ok, throwIf_eq_panic, exists_const, PduInfo.exists,
    e131RootLayerVectorLength, pduInfo_ne_panic (n := 4) (by omega) (by omega),
    pduInfo_eq_ok (n := 4) (by omega) (by omega), bind_eq_ok, slice_eq_panic, slice_eq_ok, pure_eq,
    reduceCtorEq, and_false, exists_false, false_or, or_false, Uuid.fromSlice_eq_ok,
    parseData_eq_panic]
  simp only [e131CidEndIndex, e131CidFieldLength, e131PduLengthFlagsLength,
    e131RootLayerVectorLength, Nat.reduceAdd, vectorRootE131Data, vectorRootE131Extended, not_lt,
    and_assoc, exists_and_left, exists_eq_left']
  constructor
  · rintro ⟨length, vector, hh, hfits, hv, h⟩
    have hvec : vector = 4 ∨ vector = 8 := by
      by_cases h4 : vector = 4
      · exact .inl h4
      · exact .inr (not_not.mp fun h8 => hv ⟨h4, h8⟩)
    refine ⟨length, vector, hh, hfits, hvec, ?_⟩
    rcases h with (h | ⟨-, -, h⟩) | ⟨-, -, cid, -, h | ⟨-, -, rfl, h⟩⟩
    · exact .inl (by omega)
    · exact absurd h (by unfold Uuid.fromSlice; split <;> simp)
    · exact .inl (by omega)
    · exact .inr ⟨rfl, h⟩
  · rintro ⟨length, vector, h⟩
    have hfits := h.fits
    have hvec : ¬ (vector ≠ 4 ∧ vector ≠ 8) := fun hv => h.vector_eq.elim hv.1 hv.2
    refine ⟨length, vector, h.header, hfits, hvec, ?_⟩
    by_cases h22 : buf.length < 22
    · exact .inl (.inl (by omega))
    have hcid : (buf.extract 6 22).length = 16 := length_extract_of_le (by omega)
    refine .inr ⟨by omega, by omega, ⟨buf.extract 6 22, hcid⟩, rfl, ?_⟩
    by_cases hl : length < 22
    · exact .inl (by omega)
    · obtain ⟨h4, hc⟩ := h.short.resolve_left hl
      exact .inr ⟨by omega, hfits, h4, hc⟩

/-- `buf` carries the preamble, and its root PDU is cut short. -/
structure AcnRootLayerProtocol.CutShort (buf : List UInt8) : Prop where
  present : 16 ≤ buf.length
  preamble : u16At buf 0 = 16
  postamble : u16At buf 2 = 0
  identifier : buf.extract 4 16 = e131AcnPacketIdentifier
  pdu : E131RootLayer.CutShort (buf.drop 16)

theorem AcnRootLayerProtocol.parse_eq_panic {buf : List UInt8} :
    AcnRootLayerProtocol.parse buf = .panic ↔ AcnRootLayerProtocol.CutShort buf := by
  have h16 : e131PreambleSize.toNat = 16 := rfl
  unfold AcnRootLayerProtocol.parse
  simp only [bind_eq_panic, throwIf_eq_ok, throwIf_eq_panic, exists_const, readU16In_eq_ok,
    readU16In_eq_panic, slice_eq_ok, slice_eq_panic, sliceFrom_eq_ok, sliceFrom_eq_panic,
    E131RootLayer.parse_eq_panic, pure_eq, reduceCtorEq, and_false, exists_false, false_or,
    or_false, h16, ne_eq, Decidable.not_not, not_lt, and_assoc, exists_and_left,
    exists_eq_left']
  simp only [e131PreambleSize, e131PostambleSize]
  constructor
  · rintro ⟨hp, h | ⟨-, hpre, h | ⟨-, hpost, h | ⟨-, -, hid, h | ⟨-, h⟩⟩⟩⟩⟩
    · omega
    · omega
    · omega
    · omega
    · exact ⟨hp, hpre, hpost, hid, h⟩
  · intro h
    have hp := h.present
    exact ⟨hp, .inr ⟨by omega, h.preamble, .inr ⟨by omega, h.postamble, .inr ⟨by omega, hp,
      h.identifier, .inr ⟨hp, h.pdu⟩⟩⟩⟩⟩

/-- **`parse` returns on exactly the buffers without a PDU cut short.** -/
theorem AcnRootLayerProtocol.parse_ne_panic_iff (buf : List UInt8) :
    AcnRootLayerProtocol.parse buf ≠ .panic ↔ ¬ AcnRootLayerProtocol.CutShort buf :=
  not_congr AcnRootLayerProtocol.parse_eq_panic

/-- A datagram of 22 bytes whose root PDU has the length field 0, in the receive buffer. -/
def shortRoot : List UInt8 :=
  [0, 16, 0, 0] ++ e131AcnPacketIdentifier ++ ([0x70, 0, 0, 0, 0, 4] ++ List.replicate 1122 0)

theorem AcnRootLayerProtocol.parse_shortRoot_panics :
    ¬ ∀ buf : List UInt8, buf.length = 1144 → AcnRootLayerProtocol.parse buf ≠ .panic := by
  intro h
  have hlen : shortRoot.length = 1144 := by
    simp only [shortRoot, List.length_append, List.length_replicate]
    rfl
  have hheader : PduHeader (shortRoot.drop 16) 4 0 4 :=
    ⟨by rw [List.length_drop, hlen]; omega, by decide, by decide, by decide⟩
  refine h shortRoot hlen (AcnRootLayerProtocol.parse_eq_panic.mpr ?_)
  exact ⟨by omega, by decide, by decide, by decide, 0, 4, hheader, Nat.zero_le _, .inl rfl,
    .inl (by omega)⟩

end Sacn
