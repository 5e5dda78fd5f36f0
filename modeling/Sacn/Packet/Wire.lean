import Sacn.Packet.Parse

/-!
# The wire format, and what the parser accepts

`p.Wire buf` says that `buf` carries the packet `p`: one field of `buf` after the other, at its
offset, with the bounds the protocol puts on it. It is a statement about bytes, layer by layer, and
does not mention the parser. Each `Pdu::parse` accepts exactly its layer's format:

* `parseSourceNameStr_eq_ok`: a name field is the name, a zero byte and anything.
* `DataPacketDmpLayer.parse_eq_ok`, `DataPacketFramingLayer.parse_eq_ok`,
  `SynchronizationPacketFramingLayer.parse_eq_ok`,
  `UniverseDiscoveryPacketUniverseDiscoveryLayer.parse_eq_ok`,
  `UniverseDiscoveryPacketFramingLayer.parse_eq_ok`, `E131RootLayer.parse_eq_ok`.
* **`AcnRootLayerProtocol.parse_eq_ok`**: `parse(buf)` is `Ok(p)` iff `buf` carries `p`.
-/

namespace Sacn

open Rust Rust.Outcome

/-! ## The PDU header -/

/-- `buf` starts with a PDU header: the flags, this length, and this vector in `n` bytes. -/
structure PduHeader (buf : List UInt8) (n length : Nat) (vector : UInt32) : Prop where
  present : 2 + n ≤ buf.length
  flags : byteAt buf 0 &&& 0xf0 = 0x70
  length_eq : (u16At buf 0 &&& 0x0fff).toNat = length
  vector_eq : (UInt64.ofNat (beNat (buf.extract 2 (2 + n)))).toUInt32 = vector

theorem readUint_drop {buf : List UInt8} {n : Nat} (h1 : 1 ≤ n) (h8 : n ≤ 8)
    (hlen : 2 + n ≤ buf.length) :
    (readUint (buf.drop 2) n : Outcome SacnError _) =
      .ok (UInt64.ofNat (beNat (buf.extract 2 (2 + n)))) := by
  have hs : buf.extract 2 (2 + n) = (buf.drop 2).take n := by
    simp [List.extract_eq_take_drop]
  unfold readUint
  rw [if_pos (by rw [List.length_drop]; omega), hs]

theorem PduInfo.exists {p : PduInfo → Prop} : (∃ info, p info) ↔ ∃ l v, p ⟨l, v⟩ :=
  ⟨fun ⟨⟨l, v⟩, h⟩ => ⟨l, v, h⟩, fun ⟨l, v, h⟩ => ⟨⟨l, v⟩, h⟩⟩

/-- **`pdu_info` reads the header.** -/
theorem pduInfo_eq_ok {buf : List UInt8} {n : Nat} (h1 : 1 ≤ n) (h8 : n ≤ 8) {info : PduInfo} :
    pduInfo buf n = .ok info ↔ PduHeader buf n info.length info.vector := by
  unfold pduInfo
  simp only [bind_eq_ok, throwIf_eq_ok, exists_const, index_eq_ok_iff, sliceFrom_eq_ok, pure_eq,
    ok.injEq]
  simp only [e131PduLengthFlagsLength, e131PduFlags, ne_eq, Decidable.not_not, not_lt]
  constructor
  · rintro ⟨hp, b0, ⟨-, hb0⟩, hf, len, hlen, vf, ⟨-, rfl⟩, v, hv, rfl⟩
    rw [readUint_drop h1 h8 hp] at hv
    refine ⟨hp, by rw [hb0]; exact hf, by rw [((readU16In_eq_ok rfl).mp hlen).2], ?_⟩
    rw [Outcome.ok.inj hv]
  · intro h
    have hp := h.present
    refine ⟨hp, byteAt buf 0, ⟨by omega, rfl⟩, h.flags, u16At buf 0,
      readU16In_ok rfl (by omega), buf.drop 2, ⟨by omega, rfl⟩, _, readUint_drop h1 h8 hp, ?_⟩
    rw [h.length_eq, h.vector_eq]

/-! ## Source names -/

/-- A name field: the name's bytes, none of them zero, a zero byte, and anything. -/
def NameField (field : List UInt8) (name : String) : Prop :=
  ∃ rest, field = strBytes name ++ 0 :: rest ∧ 0 ∉ strBytes name

theorem sourceNameLength_append {pre rest : List UInt8} (h : 0 ∉ pre) :
    sourceNameLength (pre ++ 0 :: rest) = pre.length := by
  unfold sourceNameLength
  induction pre with
  | nil => rfl
  | cons b pre ih =>
    rw [List.mem_cons, not_or] at h
    have hb : (b == 0) = false := by simpa using Ne.symm h.1
    rw [List.cons_append, List.findIdx_cons, hb, ih h.2]
    simp

/-- A field with a zero byte splits at the first one. -/
theorem split_at_zero {buf : List UInt8} (h : sourceNameLength buf < buf.length) :
    ∃ rest, buf = buf.take (sourceNameLength buf) ++ 0 :: rest ∧
      0 ∉ buf.take (sourceNameLength buf) := by
  have hz : buf[sourceNameLength buf] = 0 :=
    eq_of_beq (@List.findIdx_getElem _ (· == (0 : UInt8)) buf h)
  refine ⟨buf.drop (sourceNameLength buf + 1), ?_, ?_⟩
  · rw [← hz, List.getElem_cons_drop, List.take_append_drop]
  · intro hm
    obtain ⟨i, hi, he⟩ := List.mem_iff_getElem.mp hm
    rw [List.getElem_take] at he
    rw [List.length_take] at hi
    have hlt : i < buf.findIdx (· == 0) := by
      unfold sourceNameLength at hi
      omega
    have := List.not_of_lt_findIdx hlt
    simp [he] at this

/-- The last byte of a field without a zero byte is not zero. -/
theorem last_ne_zero {buf : List UInt8} (h : sourceNameLength buf = buf.length)
    (hpos : 0 < buf.length) : byteAt buf (buf.length - 1) ≠ 0 := by
  intro h0
  have hlt : buf.length - 1 < buf.length := by omega
  have hmem : (0 : UInt8) ∈ buf := by
    rw [← h0, byteAt]
    simp only [List.getD_eq_getElem?_getD, List.getElem?_eq_getElem hlt, Option.getD_some]
    exact List.getElem_mem hlt
  have : buf.findIdx (· == 0) < buf.length := List.findIdx_lt_length_of_exists ⟨0, hmem, by simp⟩
  unfold sourceNameLength at h
  omega

/-- **`parse_source_name_str` accepts exactly the terminated names.** -/
theorem parseSourceNameStr_eq_ok {buf : List UInt8} {name : String} :
    parseSourceNameStr buf = .ok name ↔ NameField buf name := by
  unfold parseSourceNameStr
  constructor
  · intro h
    have hle : sourceNameLength buf ≤ buf.length := List.findIdx_le_length
    by_cases hl : sourceNameLength buf = buf.length
    · simp only [if_pos hl, bind_eq_ok, throwIf_eq_ok, exists_const, index_eq_ok_iff] at h
      obtain ⟨last, ⟨hlt, hlast⟩, h0, -⟩ := h
      rw [← hlast] at h0
      exact absurd h0 (fun hc => hc (last_ne_zero hl (by omega)))
    · simp only [if_neg hl, bind_eq_ok, slice_eq_ok] at h
      obtain ⟨s, ⟨-, rfl⟩, hs⟩ := h
      have hl' : sourceNameLength buf < buf.length := by omega
      obtain ⟨rest, hsplit, hz⟩ := split_at_zero hl'
      have htake : buf.extract 0 (sourceNameLength buf) = buf.take (sourceNameLength buf) := by
        simp [List.extract_eq_take_drop]
      rw [htake] at hs
      cases hu : fromUtf8 (buf.take (sourceNameLength buf)) with
      | none => rw [hu] at hs; exact absurd hs (by simp)
      | some s =>
        rw [hu] at hs
        obtain rfl := Outcome.ok.inj hs
        rw [← fromUtf8_eq_some.mp hu] at hsplit hz
        exact ⟨rest, hsplit, hz⟩
  · rintro ⟨rest, rfl, hz⟩
    have hl : sourceNameLength (strBytes name ++ 0 :: rest) = (strBytes name).length :=
      sourceNameLength_append hz
    have hne : ¬ (strBytes name).length = (strBytes name ++ 0 :: rest).length := by simp
    have hext : (strBytes name ++ 0 :: rest).extract 0 (strBytes name).length = strBytes name := by
      rw [extract_append_left le_rfl, extract_zero_length]
    simp only [hl, if_neg hne, bind_eq_ok, slice_eq_ok]
    refine ⟨_, ⟨⟨Nat.zero_le _, by simp⟩, hext⟩, ?_⟩
    rw [fromUtf8_strBytes]
    rfl

/-- A name fills its field, zero byte included. -/
theorem NameField.length_lt {field : List UInt8} {name : String} (h : NameField field name) :
    (strBytes name).length < field.length := by
  obtain ⟨rest, rfl, -⟩ := h
  simp

/-! ## The DMP layer -/

/-- `buf` carries the DMP layer `d`. -/
structure DataPacketDmpLayer.Wire (d : DataPacketDmpLayer) (buf : List UInt8) : Prop where
  header : PduHeader buf 1 (10 + d.propertyValues.length) 2
  fits : 10 + d.propertyValues.length ≤ buf.length
  addressData : byteAt buf 3 = 0xa1
  firstProperty : u16At buf 4 = 0
  increment : u16At buf 6 = 1
  count : (u16At buf 8).toNat = d.propertyValues.length
  capacity : d.propertyValues.length ≤ 513
  values : buf.extract 10 (10 + d.propertyValues.length) = d.propertyValues

/-- **The DMP layer's parser accepts exactly its format.** -/
theorem DataPacketDmpLayer.parse_eq_ok {buf : List UInt8} {d : DataPacketDmpLayer} :
    DataPacketDmpLayer.parse buf = .ok d ↔ d.Wire buf := by
  unfold DataPacketDmpLayer.parse
  simp only [bind_eq_ok, throwIf_eq_ok, exists_const, PduInfo.exists,
    pduInfo_eq_ok (n := 1) le_rfl (by omega),
    index_eq_ok_iff, slice_eq_ok, pure_eq, ok.injEq]
  simp only [addressDataFieldIndex, firstPriorityFieldIndex, addressIncrementFieldIndex,
    propertyValueCountFieldIndex, propertyValuesFieldIndex, vectorFieldIndex,
    e131PduLengthFlagsLength, readU16In_eq_ok, Nat.reduceAdd, ne_eq, Decidable.not_not, not_lt]
  constructor
  · rintro ⟨length, vector, hh, hfits, hv, _, ⟨-, rfl⟩, ha, _, ⟨-, rfl⟩, hf, _, ⟨-, rfl⟩, hi, count,
      ⟨-, hc⟩, hlen, hcap, _, ⟨-, rfl⟩, rfl⟩
    have hvals : (buf.extract 10 length).length = length - 10 :=
      length_extract_of_le hfits
    have hl : 10 + (buf.extract 10 length).length = length := by omega
    rw [hv] at hh
    refine ⟨?_, ?_, ha, hf, hi, ?_, ?_, ?_⟩ <;> simp only [hl]
    · exact hh
    · exact hfits
    · rw [hc]
      omega
    · have hcap' : length - 10 ≤ 513 := hcap
      omega
  · intro h
    have hfits := h.fits
    have hcap := h.capacity
    refine ⟨_, _, h.header, h.fits, rfl, _, ⟨by omega, rfl⟩, h.addressData, _,
      ⟨by omega, rfl⟩, h.firstProperty, _, ⟨by omega, rfl⟩, h.increment, _, ⟨by omega, rfl⟩,
      ?_, ?_, _, ⟨⟨by omega, h.fits⟩, rfl⟩, ?_⟩
    · rw [h.count]
      omega
    · have : universeChannelCapacity = 513 := rfl
      omega
    · rw [h.values]

/-! ## The data packet framing layer -/

/-- `buf` carries the framing layer `d` of a data packet in a PDU of `length` bytes. -/
structure DataPacketFramingLayer.WireAt (d : DataPacketFramingLayer) (buf : List UInt8)
    (length : Nat) : Prop where
  header : PduHeader buf 4 length 2
  fits : length ≤ buf.length
  long : 77 ≤ length
  name : NameField (buf.extract 6 70) d.sourceName
  priority : byteAt buf 70 = d.priority
  priority_le : d.priority ≤ 200
  syncAddr : u16At buf 71 = d.synchronizationAddress
  syncAddr_le : d.synchronizationAddress ≤ 63999
  seqNum : byteAt buf 73 = d.sequenceNumber
  preview : d.previewData = (byteAt buf 74 &&& 0x80 != 0)
  terminated : d.streamTerminated = (byteAt buf 74 &&& 0x40 != 0)
  force : d.forceSynchronization = (byteAt buf 74 &&& 0x20 != 0)
  uni : u16At buf 75 = d.uni
  uni_range : 1 ≤ d.uni ∧ d.uni ≤ 63999
  data : d.data.Wire (buf.extract 77 length)

/-- `buf` carries the framing layer `d` of a data packet. -/
def DataPacketFramingLayer.Wire (d : DataPacketFramingLayer) (buf : List UInt8) : Prop :=
  ∃ length, d.WireAt buf length

/-- **The data framing layer's parser accepts exactly its format.** -/
theorem DataPacketFramingLayer.parse_eq_ok {buf : List UInt8} {d : DataPacketFramingLayer} :
    DataPacketFramingLayer.parse buf = .ok d ↔ d.Wire buf := by
  unfold DataPacketFramingLayer.parse
  simp only [bind_eq_ok, throwIf_eq_ok, exists_const, PduInfo.exists, e131FramingLayerVectorLength,
    pduInfo_eq_ok (n := 4) (by omega) (by omega), index_eq_ok_iff, slice_eq_ok, pure_eq,
    ok.injEq, parseSourceNameStr_eq_ok, DataPacketDmpLayer.parse_eq_ok]
  simp only [dataIndex, universeIndex, optionsFieldIndex, seqNumIndex, syncAddrIndex,
    priorityIndex, sourceNameIndex, e131SourceNameFieldLength, e131UniverseFieldLength,
    e131PduLengthFlagsLength, e131FramingLayerVectorLength, readU16In_eq_ok, Nat.reduceAdd,
    ne_eq, Decidable.not_not, Nat.not_lt, gt_iff_lt, UInt8.not_lt, UInt16.not_lt,
    e131MaxPriority, e131MaxMulticastUniverse]
  constructor
  · rintro ⟨length, vector, hh, hfits, rfl, name, ⟨_, ⟨-, rfl⟩, hname⟩, prio, ⟨-, hp⟩, hple,
      sync, ⟨-, hs⟩, hsle, seq, ⟨-, hq⟩, opt, ⟨-, rfl⟩, uni, ⟨-, hu⟩, hur, data,
      ⟨_, ⟨hlong, rfl⟩, hd⟩, rfl⟩
    exact ⟨length, hh, hfits, hlong.1, hname, hp, hple, hs, hsle, hq, rfl, rfl, rfl, hu, hur, hd⟩
  · rintro ⟨length, h⟩
    have hfits := h.fits
    have hlong := h.long
    refine ⟨length, 2, h.header, hfits, rfl, d.sourceName,
      ⟨_, ⟨⟨by omega, by omega⟩, rfl⟩, h.name⟩, d.priority, ⟨by omega, h.priority⟩,
      h.priority_le, d.synchronizationAddress, ⟨by omega, h.syncAddr⟩, h.syncAddr_le,
      d.sequenceNumber, ⟨by omega, h.seqNum⟩, _, ⟨by omega, rfl⟩, d.uni, ⟨by omega, h.uni⟩,
      h.uni_range, d.data, ⟨_, ⟨⟨hlong, hfits⟩, rfl⟩, h.data⟩, ?_⟩
    rw [e131PreviewDataOptionBitMask, ← h.preview, e131StreamTerminationOptionBitMask,
      ← h.terminated, e131ForceSynchronisationOptionBitMask, ← h.force]

/-! ## The synchronisation packet framing layer -/

/-- `buf` carries the synchronisation packet `d`. -/
structure SynchronizationPacketFramingLayer.Wire (d : SynchronizationPacketFramingLayer)
    (buf : List UInt8) : Prop where
  header : PduHeader buf 4 11 1
  fits : 11 ≤ buf.length
  seqNum : byteAt buf 6 = d.sequenceNumber
  syncAddr : u16At buf 7 = d.synchronizationAddress
  syncAddr_range : 1 ≤ d.synchronizationAddress ∧ d.synchronizationAddress ≤ 63999

/-- **The synchronisation layer's parser accepts exactly its format.** -/
theorem SynchronizationPacketFramingLayer.parse_eq_ok {buf : List UInt8}
    {d : SynchronizationPacketFramingLayer} :
    SynchronizationPacketFramingLayer.parse buf = .ok d ↔ d.Wire buf := by
  unfold SynchronizationPacketFramingLayer.parse
  simp only [bind_eq_ok, throwIf_eq_ok, exists_const, PduInfo.exists, e131FramingLayerVectorLength,
    pduInfo_eq_ok (n := 4) (by omega) (by omega), index_eq_ok_iff, pure_eq, ok.injEq]
  simp only [e131SyncFramingLayerSeqNumFieldIndex, e131SyncFramingLayerSyncAddressFieldIndex,
    e131SyncFramingLayerReserveFieldIndex, e131UniverseSyncPacketFramingLayerLength,
    e131PduLengthFlagsLength, e131FramingLayerVectorLength, readU16In_eq_ok, Nat.reduceAdd,
    ne_eq, Decidable.not_not, not_lt]
  constructor
  · rintro ⟨length, vector, hh, hfits, rfl, rfl, seq, ⟨-, hq⟩, sync, ⟨-, hs⟩, hr, rfl⟩
    exact ⟨hh, hfits, hq, hs, hr⟩
  · intro h
    have hfits := h.fits
    exact ⟨11, 1, h.header, hfits, rfl, rfl, d.sequenceNumber, ⟨by omega, h.seqNum⟩,
      d.synchronizationAddress, ⟨by omega, h.syncAddr⟩, h.syncAddr_range, rfl⟩

/-! ## The universe discovery layers -/

/-- A word at a time: the scan accepts the words of `buf` iff they ascend strictly from `last`. -/
theorem parseUniverseWords_eq_ok {buf : List UInt8} : ∀ {n i : Nat} {last : Int}
    {us : List UInt16}, i + 2 * n ≤ buf.length →
      (parseUniverseWords buf i last n = .ok us ↔
        us = wordsAt buf i n ∧ us.Pairwise (· < ·) ∧ ∀ u ∈ us, last < u.toNat)
  | 0, i, last, us, _ => by
    simp only [parseUniverseWords, ok.injEq, wordsAt, List.range_zero, List.map_nil]
    constructor
    · rintro rfl
      simp
    · rintro ⟨rfl, -⟩
      rfl
  | n + 1, i, last, us, hlen => by
    rw [parseUniverseWords, wordsAt_cons]
    simp only [e131UniverseFieldLength]
    rw [readU16In_ok rfl (by omega), ok_bind]
    split
    · rename_i hlast
      simp only [bind_eq_ok, pure_eq, ok.injEq]
      constructor
      · rintro ⟨vs, hvs, rfl⟩
        obtain ⟨rfl, hp, hall⟩ := (parseUniverseWords_eq_ok (by omega)).mp hvs
        refine ⟨rfl, List.pairwise_cons.mpr ⟨fun u hu => ?_, hp⟩, fun u hu => ?_⟩
        · rw [UInt16.lt_iff_toNat_lt]
          exact_mod_cast hall u hu
        · rcases List.mem_cons.mp hu with rfl | hu
          · exact hlast
          · exact lt_trans hlast (hall u hu)
      · rintro ⟨rfl, hp, -⟩
        obtain ⟨hlt, hp⟩ := List.pairwise_cons.mp hp
        refine ⟨_, (parseUniverseWords_eq_ok (by omega)).mpr ⟨rfl, hp, fun u hu => ?_⟩, rfl⟩
        have := UInt16.lt_iff_toNat_lt.mp (hlt u hu)
        exact_mod_cast this
    · rename_i hlast
      constructor
      · intro h
        exact absurd h (by simp)
      · rintro ⟨rfl, -, hall⟩
        exact absurd (hall _ List.mem_cons_self) hlast

/-- **`parse_universe_list` accepts exactly the ascending lists.** -/
theorem parseUniverseList_eq_ok {buf : List UInt8} {n : Nat} {us : List UInt16} :
    parseUniverseList buf n = .ok us ↔
      2 * n ≤ buf.length ∧ us = wordsAt buf 0 n ∧ us.Pairwise (· < ·) := by
  unfold parseUniverseList
  simp only [bind_eq_ok, throwIf_eq_ok, exists_const]
  simp only [e131UniverseFieldLength, not_lt]
  constructor
  · rintro ⟨hlen, h⟩
    obtain ⟨hw, hp, -⟩ := (parseUniverseWords_eq_ok (by omega)).mp h
    exact ⟨by omega, hw, hp⟩
  · rintro ⟨hlen, hw, hp⟩
    refine ⟨by omega, (parseUniverseWords_eq_ok (by omega)).mpr ⟨hw, hp, fun u _ => ?_⟩⟩
    omega

/-- `buf` carries the universe discovery layer `d`. -/
structure UniverseDiscoveryPacketUniverseDiscoveryLayer.Wire
    (d : UniverseDiscoveryPacketUniverseDiscoveryLayer) (buf : List UInt8) : Prop where
  header : PduHeader buf 4 buf.length 1
  long : 8 ≤ buf.length
  short : buf.length ≤ 1032
  page : byteAt buf 6 = d.page
  lastPage : byteAt buf 7 = d.lastPage
  page_le : d.page ≤ d.lastPage
  universes : d.universes = wordsAt (buf.drop 8) 0 ((buf.length - 8) / 2)
  ascending : d.universes.Pairwise (· < ·)

/-- **The universe discovery layer's parser accepts exactly its format.** -/
theorem UniverseDiscoveryPacketUniverseDiscoveryLayer.parse_eq_ok {buf : List UInt8}
    {d : UniverseDiscoveryPacketUniverseDiscoveryLayer} :
    UniverseDiscoveryPacketUniverseDiscoveryLayer.parse buf = .ok d ↔ d.Wire buf := by
  unfold UniverseDiscoveryPacketUniverseDiscoveryLayer.parse
  simp only [bind_eq_ok, throwIf_eq_ok, exists_const, PduInfo.exists,
    pduInfo_eq_ok (n := 4) (by omega) (by omega), index_eq_ok_iff, sliceFrom_eq_ok, pure_eq,
    ok.injEq, parseUniverseList_eq_ok]
  simp only [e131DiscoveryLayerUniverseListFieldIndex, e131DiscoveryLayerLastPageFieldIndex,
    e131DiscoveryLayerPageFieldIndex, e131DiscoveryLayerVectorFieldIndex,
    e131UniverseDiscoveryLayerMinLength, e131UniverseDiscoveryLayerMaxLength,
    e131UniverseFieldLength, e131PduLengthFlagsLength, Nat.reduceAdd, ne_eq, Decidable.not_not,
    gt_iff_lt, UInt8.not_lt]
  constructor
  · rintro ⟨length, vector, hh, rfl, rfl, hr, page, ⟨-, hp⟩, last, ⟨-, hl⟩, hple, _,
      ⟨-, rfl⟩, us, ⟨-, hus, hasc⟩, rfl⟩
    exact ⟨hh, hr.1, hr.2, hp, hl, hple, hus, hasc⟩
  · intro h
    have hlong := h.long
    refine ⟨buf.length, 1, h.header, rfl, rfl, ⟨hlong, h.short⟩, d.page,
      ⟨?_, h.page⟩, d.lastPage, ⟨?_, h.lastPage⟩, h.page_le, _, ⟨hlong, rfl⟩, d.universes,
      ⟨?_, h.universes, h.ascending⟩, rfl⟩
    · omega
    · omega
    · rw [List.length_drop]
      omega

/-- `buf` carries the framing layer `d` of a universe discovery packet in a PDU of `length`
bytes. -/
structure UniverseDiscoveryPacketFramingLayer.WireAt (d : UniverseDiscoveryPacketFramingLayer)
    (buf : List UInt8) (length : Nat) : Prop where
  header : PduHeader buf 4 length 2
  fits : length ≤ buf.length
  long : 82 ≤ length
  name : NameField (buf.extract 6 70) d.sourceName
  data : d.data.Wire (buf.extract 74 length)

/-- `buf` carries the framing layer `d` of a universe discovery packet. -/
def UniverseDiscoveryPacketFramingLayer.Wire (d : UniverseDiscoveryPacketFramingLayer)
    (buf : List UInt8) : Prop :=
  ∃ length, d.WireAt buf length

/-- **The discovery framing layer's parser accepts exactly its format.** -/
theorem UniverseDiscoveryPacketFramingLayer.parse_eq_ok {buf : List UInt8}
    {d : UniverseDiscoveryPacketFramingLayer} :
    UniverseDiscoveryPacketFramingLayer.parse buf = .ok d ↔ d.Wire buf := by
  unfold UniverseDiscoveryPacketFramingLayer.parse
  simp only [bind_eq_ok, throwIf_eq_ok, exists_const, PduInfo.exists, e131FramingLayerVectorLength,
    pduInfo_eq_ok (n := 4) (by omega) (by omega), slice_eq_ok, pure_eq, ok.injEq,
    parseSourceNameStr_eq_ok, UniverseDiscoveryPacketUniverseDiscoveryLayer.parse_eq_ok]
  simp only [e131DiscoveryFramingLayerDataIndex, e131DiscoveryFramingLayerReserveFieldIndex,
    e131DiscoveryFramingLayerSourceNameFieldIndex, e131SourceNameFieldLength,
    e131UniverseDiscoveryFramingLayerMinLength, e131PduLengthFlagsLength,
    e131FramingLayerVectorLength, Nat.reduceAdd, ne_eq, Decidable.not_not, not_lt]
  constructor
  · rintro ⟨length, vector, hh, hfits, rfl, hlong, name, ⟨_, ⟨-, rfl⟩, hname⟩, data,
      ⟨_, ⟨-, rfl⟩, hd⟩, rfl⟩
    exact ⟨length, hh, hfits, hlong, hname, hd⟩
  · rintro ⟨length, h⟩
    have hfits := h.fits
    have hlong := h.long
    refine ⟨length, 2, h.header, hfits, rfl, hlong, d.sourceName,
      ⟨_, ⟨⟨?_, ?_⟩, rfl⟩, h.name⟩, d.data, ⟨_, ⟨⟨?_, hfits⟩, rfl⟩, h.data⟩, rfl⟩ <;> omega

/-! ## The root layer -/

/-- `buf` carries the framing layer of each kind of packet. -/
def E131RootLayerData.Wire : E131RootLayerData → List UInt8 → Prop
  | .dataPacket d, buf => d.Wire buf
  | .synchronizationPacket d, buf => d.Wire buf
  | .universeDiscoveryPacket d, buf => d.Wire buf

/-- `buf` carries the root layer `r` in a PDU of `length` bytes. -/
structure E131RootLayer.WireAt (r : E131RootLayer) (buf : List UInt8) (length : Nat) : Prop where
  header : PduHeader buf 4 length r.data.rootVector
  fits : length ≤ buf.length
  long : 22 ≤ length
  cid : buf.extract 6 22 = r.cid.bytes
  data : r.data.Wire (buf.extract 22 length)

/-- `buf` carries the root layer `r`. -/
def E131RootLayer.Wire (r : E131RootLayer) (buf : List UInt8) : Prop :=
  ∃ length, r.WireAt buf length

/-- **The extended arm accepts the synchronisation and the discovery format.** -/
theorem E131RootLayer.parseExtended_eq_ok {buf : List UInt8} {data : E131RootLayerData} :
    E131RootLayer.parseExtended buf = .ok data ↔ data.rootVector = 8 ∧ data.Wire buf := by
  unfold E131RootLayer.parseExtended
  simp only [bind_eq_ok, throwIf_eq_ok, exists_const, PduInfo.exists, e131FramingLayerVectorLength,
    pduInfo_eq_ok (n := 4) (by omega) (by omega), not_lt]
  constructor
  · rintro ⟨length, vector, -, -, h⟩
    split at h
    · simp only [bind_eq_ok, pure_eq, ok.injEq,
        SynchronizationPacketFramingLayer.parse_eq_ok] at h
      obtain ⟨d, hd, rfl⟩ := h
      exact ⟨rfl, hd⟩
    split at h
    · simp only [bind_eq_ok, pure_eq, ok.injEq,
        UniverseDiscoveryPacketFramingLayer.parse_eq_ok] at h
      obtain ⟨d, hd, rfl⟩ := h
      exact ⟨rfl, hd⟩
    · exact absurd h (by simp)
  · rintro ⟨hv, hw⟩
    cases data with
    | dataPacket d => exact absurd hv (by simp [E131RootLayerData.rootVector])
    | synchronizationPacket d =>
      refine ⟨11, 1, hw.header, hw.fits, ?_⟩
      rw [if_pos (by rfl), SynchronizationPacketFramingLayer.parse_eq_ok.mpr hw]
      rfl
    | universeDiscoveryPacket d =>
      obtain ⟨length, h⟩ := hw
      refine ⟨length, 2, h.header, h.fits, ?_⟩
      rw [if_neg (by decide), if_pos (by rfl),
        UniverseDiscoveryPacketFramingLayer.parse_eq_ok.mpr ⟨length, h⟩]
      rfl

theorem E131RootLayer.parseData_eq_ok {buf : List UInt8} {vector : UInt32}
    {data : E131RootLayerData} :
    E131RootLayer.parseData vector buf = .ok data ↔ data.rootVector = vector ∧ data.Wire buf := by
  unfold E131RootLayer.parseData
  by_cases h4 : vector = vectorRootE131Data
  · subst h4
    simp only [if_pos, bind_eq_ok, DataPacketFramingLayer.parse_eq_ok, pure_eq, ok.injEq]
    constructor
    · rintro ⟨d, hd, rfl⟩
      exact ⟨rfl, hd⟩
    · rintro ⟨hv, hw⟩
      cases data with
      | dataPacket d => exact ⟨d, hw, rfl⟩
      | synchronizationPacket d => exact absurd hv (by simp [E131RootLayerData.rootVector])
      | universeDiscoveryPacket d => exact absurd hv (by simp [E131RootLayerData.rootVector])
  · rw [if_neg h4]
    by_cases h8 : vector = vectorRootE131Extended
    · rw [if_pos h8, h8]
      exact parseExtended_eq_ok
    · rw [if_neg h8]
      constructor
      · intro h
        exact absurd h (by simp)
      · rintro ⟨hv, -⟩
        cases data with
        | dataPacket d => exact absurd hv.symm h4
        | synchronizationPacket d => exact absurd hv.symm h8
        | universeDiscoveryPacket d => exact absurd hv.symm h8

theorem Uuid.fromSlice_eq_ok {bytes : List UInt8} {cid : Uuid} :
    Uuid.fromSlice bytes = .ok cid ↔ bytes = cid.bytes := by
  unfold Uuid.fromSlice
  split
  · constructor
    · intro h
      rw [← Outcome.ok.inj h]
    · rintro rfl
      rfl
  · rename_i hlen
    constructor
    · intro h
      exact absurd h (by simp)
    · rintro rfl
      exact absurd cid.length_eq hlen

/-- **The root layer's parser accepts exactly its format.** -/
theorem E131RootLayer.parse_eq_ok {buf : List UInt8} {r : E131RootLayer} :
    E131RootLayer.parse buf = .ok r ↔ r.Wire buf := by
  unfold E131RootLayer.parse
  simp only [bind_eq_ok, throwIf_eq_ok, exists_const, PduInfo.exists, e131RootLayerVectorLength,
    pduInfo_eq_ok (n := 4) (by omega) (by omega), slice_eq_ok, pure_eq, ok.injEq,
    Uuid.fromSlice_eq_ok, parseData_eq_ok]
  simp only [e131CidEndIndex, e131CidFieldLength, e131PduLengthFlagsLength,
    e131RootLayerVectorLength, Nat.reduceAdd, vectorRootE131Data, vectorRootE131Extended, not_lt]
  constructor
  · rintro ⟨length, vector, hh, hfits, -, cid, ⟨_, ⟨-, rfl⟩, hcid⟩, data,
      ⟨_, ⟨hlong, rfl⟩, rfl, hd⟩, rfl⟩
    exact ⟨length, hh, hfits, hlong.1, hcid, hd⟩
  · rintro ⟨length, h⟩
    have hfits := h.fits
    have hlong := h.long
    refine ⟨length, r.data.rootVector, h.header, hfits, ?_, r.cid, ⟨_, ⟨⟨?_, ?_⟩, rfl⟩, h.cid⟩,
      r.data, ⟨_, ⟨⟨hlong, hfits⟩, rfl⟩, rfl, h.data⟩, rfl⟩
    · cases r.data <;> simp [E131RootLayerData.rootVector]
    · omega
    · omega

/-! ## The whole packet -/

/-- `buf` carries the packet `p`: the preamble, then the root PDU. What follows the root PDU is not
part of the packet. -/
structure AcnRootLayerProtocol.Wire (p : AcnRootLayerProtocol) (buf : List UInt8) : Prop where
  present : 16 ≤ buf.length
  preamble : u16At buf 0 = 16
  postamble : u16At buf 2 = 0
  identifier : buf.extract 4 16 = e131AcnPacketIdentifier
  pdu : p.pdu.Wire (buf.drop 16)

/-- **`parse(buf)` is `Ok(p)` iff `buf` carries `p`.** -/
theorem AcnRootLayerProtocol.parse_eq_ok {buf : List UInt8} {p : AcnRootLayerProtocol} :
    AcnRootLayerProtocol.parse buf = .ok p ↔ p.Wire buf := by
  have h16 : e131PreambleSize.toNat = 16 := rfl
  unfold AcnRootLayerProtocol.parse
  simp only [bind_eq_ok, throwIf_eq_ok, exists_const, readU16In_eq_ok, slice_eq_ok,
    sliceFrom_eq_ok, E131RootLayer.parse_eq_ok, pure_eq, ok.injEq, h16, ne_eq, Decidable.not_not,
    not_lt]
  simp only [e131PreambleSize, e131PostambleSize]
  constructor
  · rintro ⟨hp, _, ⟨-, rfl⟩, hpre, _, ⟨-, rfl⟩, hpost, _, ⟨-, rfl⟩, hid, pdu,
      ⟨_, ⟨-, rfl⟩, hpdu⟩, rfl⟩
    exact ⟨hp, hpre, hpost, hid, hpdu⟩
  · intro h
    have hp := h.present
    exact ⟨hp, _, ⟨by omega, rfl⟩, h.preamble, _, ⟨by omega, rfl⟩, h.postamble, _,
      ⟨⟨by omega, hp⟩, rfl⟩, h.identifier, p.pdu, ⟨_, ⟨hp, rfl⟩, h.pdu⟩, rfl⟩

end Sacn
