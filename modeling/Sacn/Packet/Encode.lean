import Sacn.Packet.Pack

/-!
# The packed bytes, in closed form

`encode` lists the bytes of each layer, and `pack_eq` says that packing writes exactly these to the
front of the buffer and leaves what follows them alone, whatever the buffer held before:

* `DataPacketDmpLayer.pack_eq`, `DataPacketFramingLayer.pack_eq`,
  `SynchronizationPacketFramingLayer.pack_eq`,
  `UniverseDiscoveryPacketUniverseDiscoveryLayer.pack_eq`,
  `UniverseDiscoveryPacketFramingLayer.pack_eq`, `E131RootLayer.pack_eq`.
* **`AcnRootLayerProtocol.pack_eq`**: `pack(buf)` is `encode` and the rest of `buf`.

`Packable` collects what the encoder asks for: a name that fits its field, at most 513 property
values, at most 512 universes, in ascending order.
-/

namespace Sacn

open Rust Rust.Outcome

theorem zeros_ok {n : Nat} {buf : List UInt8} (h : buf.length = n) :
    zeros n buf = .ok (List.replicate n 0) := by
  unfold zeros
  rw [h, Nat.min_self, List.drop_eq_nil_of_le (by omega), List.append_nil]

/-! ## The DMP layer -/

/-- The bytes of the DMP layer. -/
def DataPacketDmpLayer.encode (d : DataPacketDmpLayer) : List UInt8 :=
  beBytes 2 (flagsAndLength d.len).toNat ++ [2] ++ [0xa1] ++ List.replicate 2 0 ++
    beBytes 2 (1 : UInt16).toNat ++ beBytes 2 (UInt16.ofNat d.propertyValues.length).toNat ++
    d.propertyValues

theorem DataPacketDmpLayer.pack_eq {d : DataPacketDmpLayer} {buf : List UInt8}
    (hv : d.propertyValues.length ≤ 513) (hlen : d.len ≤ buf.length) :
    d.pack buf = .ok (d.encode ++ buf.drop d.len) := by
  have hl : d.len = 10 + d.propertyValues.length := rfl
  unfold DataPacketDmpLayer.pack
  rw [throwIf_neg (by simpa using hv), ok_bind, throwIf_neg (by omega), ok_bind]
  simp only [vectorFieldIndex, addressDataFieldIndex, firstPriorityFieldIndex,
    addressIncrementFieldIndex, propertyValueCountFieldIndex, propertyValuesFieldIndex,
    e131PduLengthFlagsLength, Nat.reduceAdd]
  rw [modify_zero (by omega) fun s => writeU16_ok, ok_bind,
    setIndex_drop (by simp) (by omega), ok_bind, setIndex_drop (by simp) (by omega), ok_bind,
    modify_drop (by simp) (by omega) (by omega) fun s => zeros_ok, ok_bind,
    modify_drop (by simp) (by omega) (by omega) fun s => writeU16_ok, ok_bind,
    modify_drop (by simp) (by omega) (by omega) fun s => writeU16_ok, ok_bind,
    modify_drop (by simp) (by omega) (by omega) fun s hs => copyFromSlice_ok (by omega)]
  rw [hl]
  rfl

/-! ## The framing layers -/

/-- The 64-byte name field: the name and zeros. -/
def nameField (name : String) : List UInt8 :=
  strBytes name ++ List.replicate (64 - (strBytes name).length) 0

theorem length_nameField {name : String} (h : (strBytes name).length ≤ 64) :
    (nameField name).length = 64 := by
  simp only [nameField, List.length_append, List.length_replicate]
  omega

/-- Zeroing the name field and copying the name over it. -/
theorem modify_name {w r : List UInt8} {name : String} {a n : Nat} (hw : w.length = a)
    (hn : (strBytes name).length = n) (h : n ≤ 64) :
    (modify (w ++ List.replicate 64 0 ++ r) a (a + n) (copyFromSlice (strBytes name)) :
      Outcome SacnError _) = .ok (w ++ nameField name ++ r) := by
  have hlen : ((List.replicate 64 (0 : UInt8)).take n).length = (strBytes name).length := by
    rw [List.length_take, List.length_replicate]
    omega
  rw [modify_within hw (by simpa using h) (copyFromSlice_ok hlen), List.drop_replicate, ← hn]
  rfl

/-- The options byte of a data packet. -/
def DataPacketFramingLayer.options (d : DataPacketFramingLayer) : UInt8 :=
  (if d.previewData then 0x80 else 0) ||| (if d.streamTerminated then 0x40 else 0) |||
    (if d.forceSynchronization then 0x20 else 0)

/-- The bytes of a data packet's framing layer. -/
def DataPacketFramingLayer.encode (d : DataPacketFramingLayer) : List UInt8 :=
  beBytes 2 (flagsAndLength d.len).toNat ++ beBytes 4 (2 : UInt32).toNat ++
    nameField d.sourceName ++ [d.priority] ++ beBytes 2 d.synchronizationAddress.toNat ++
    [d.sequenceNumber] ++ [d.options] ++ beBytes 2 d.uni.toNat ++ d.data.encode

theorem orAssign_last {w r : List UInt8} {x mask : UInt8} {i : Nat} (hw : w.length = i) :
    orAssign (w ++ [x] ++ r) i mask = .ok (w ++ [x ||| mask] ++ r) := by
  unfold orAssign
  rw [index_last hw, ok_bind, setIndex_last hw]

/-- The writes of the options byte, one flag after the other. -/
theorem packOptions {d : DataPacketFramingLayer} {w r : List UInt8} {i : Nat}
    {k : List UInt8 → Outcome SacnError (List UInt8)} (hw : w.length = i) :
    (do let buf ← if d.previewData then setIndex (w ++ [0] ++ r) i 0x80 else pure (w ++ [0] ++ r)
        let buf ← if d.streamTerminated then orAssign buf i 0x40 else pure buf
        let buf ← if d.forceSynchronization then orAssign buf i 0x20 else pure buf
        k buf) = k (w ++ [d.options] ++ r) := by
  unfold DataPacketFramingLayer.options
  rw [setIndex_last hw]
  cases d.previewData <;> cases d.streamTerminated <;> cases d.forceSynchronization <;>
    simp only [Bool.false_eq_true, if_true, if_false, pure_eq, ok_bind, orAssign_last hw] <;> rfl

/-- The flags, length and vector of a data packet's framing layer. -/
def DataPacketFramingLayer.head (d : DataPacketFramingLayer) : List UInt8 :=
  beBytes 2 (flagsAndLength d.len).toNat ++ beBytes 4 (2 : UInt32).toNat

/-- The fields of a data packet's framing layer between the name and the DMP layer. -/
def DataPacketFramingLayer.fields (d : DataPacketFramingLayer) : List UInt8 :=
  [d.priority] ++ beBytes 2 d.synchronizationAddress.toNat ++ [d.sequenceNumber] ++ [d.options] ++
    beBytes 2 d.uni.toNat

/-- `DataPacketFramingLayer::pack` after the name. -/
def DataPacketFramingLayer.packFields (d : DataPacketFramingLayer) (buf : List UInt8) :
    Outcome SacnError (List UInt8) := do
  let buf ← setIndex buf 70 d.priority
  let buf ← modify buf 71 73 (writeU16 d.synchronizationAddress)
  let buf ← setIndex buf 73 d.sequenceNumber
  let buf ← setIndex buf 74 0
  let buf ← if d.previewData then setIndex buf 74 0x80 else pure buf
  let buf ← if d.streamTerminated then orAssign buf 74 0x40 else pure buf
  let buf ← if d.forceSynchronization then orAssign buf 74 0x20 else pure buf
  let buf ← modify buf 75 77 (writeU16 d.uni)
  modifyFrom buf 77 d.data.pack

/-- What is left to do once the name field is zeroed. -/
theorem DataPacketFramingLayer.pack_named {d : DataPacketFramingLayer} {buf : List UInt8}
    (hlen : d.len ≤ buf.length) :
    d.pack buf = (modify (d.head ++ List.replicate 64 0 ++ buf.drop 70) 6
      (6 + (strBytes d.sourceName).length) (copyFromSlice (strBytes d.sourceName)) >>=
        d.packFields) := by
  have hl : d.len = 77 + d.data.len := rfl
  unfold DataPacketFramingLayer.pack
  rw [throwIf_neg (by omega), ok_bind]
  simp only [sourceNameIndex, priorityIndex, e131SourceNameFieldLength, e131PduLengthFlagsLength,
    e131FramingLayerVectorLength, vectorE131DataPacket, Nat.reduceAdd]
  rw [modify_zero (by omega) fun s => writeU16_ok, ok_bind,
    modify_drop (by simp) (by omega) (by omega) fun s => writeU32_ok, ok_bind,
    modify_drop (by simp) (by omega) (by omega) fun s => zeros_ok, ok_bind]
  rfl

/-- The writes after the name. -/
theorem DataPacketFramingLayer.packFields_eq {d : DataPacketFramingLayer} {w buf : List UInt8}
    (hw : w.length = 70) (hbuf : 77 ≤ buf.length) :
    d.packFields (w ++ buf.drop 70) =
      (do return w ++ d.fields ++ (← d.data.pack (buf.drop 77))) := by
  unfold DataPacketFramingLayer.packFields DataPacketFramingLayer.fields
  rw [setIndex_drop hw (by omega), ok_bind,
    modify_drop (by simp [hw]) (by omega) (by omega) fun s => writeU16_ok, ok_bind,
    setIndex_drop (by simp [hw]) (by omega), ok_bind,
    setIndex_drop (by simp [hw]) (by omega), ok_bind, packOptions (by simp [hw]),
    modify_drop (by simp [hw]) (by omega) (by omega) fun s => writeU16_ok, ok_bind,
    modifyFrom_append (by simp [hw]) hbuf]
  simp only [List.append_assoc]

theorem DataPacketFramingLayer.pack_eq {d : DataPacketFramingLayer} {buf : List UInt8}
    (hn : (strBytes d.sourceName).length ≤ 64) (hv : d.data.propertyValues.length ≤ 513)
    (hlen : d.len ≤ buf.length) : d.pack buf = .ok (d.encode ++ buf.drop d.len) := by
  have hl : d.len = 77 + d.data.len := rfl
  have hhead : d.head.length = 6 := by simp [DataPacketFramingLayer.head]
  have hdata : d.data.pack (buf.drop 77) = .ok (d.data.encode ++ (buf.drop 77).drop d.data.len) :=
    DataPacketDmpLayer.pack_eq hv (by rw [List.length_drop]; omega)
  rw [pack_named hlen, modify_name hhead rfl hn, ok_bind,
    packFields_eq (by rw [List.length_append, hhead, length_nameField hn]) (by omega), hdata,
    ok_bind, List.drop_drop, ← hl]
  unfold DataPacketFramingLayer.encode DataPacketFramingLayer.head DataPacketFramingLayer.fields
  simp only [pure_eq, List.append_assoc]

/-- The bytes of a synchronisation packet's framing layer. -/
def SynchronizationPacketFramingLayer.encode (d : SynchronizationPacketFramingLayer) :
    List UInt8 :=
  beBytes 2 (flagsAndLength d.len).toNat ++ beBytes 4 (1 : UInt32).toNat ++ [d.sequenceNumber] ++
    beBytes 2 d.synchronizationAddress.toNat ++ List.replicate 2 0

theorem SynchronizationPacketFramingLayer.pack_eq {d : SynchronizationPacketFramingLayer}
    {buf : List UInt8} (hlen : d.len ≤ buf.length) :
    d.pack buf = .ok (d.encode ++ buf.drop d.len) := by
  have hl : d.len = 11 := rfl
  unfold SynchronizationPacketFramingLayer.pack
  rw [throwIf_neg (by omega), ok_bind]
  simp only [e131SyncFramingLayerSeqNumFieldIndex, e131SyncFramingLayerSyncAddressFieldIndex,
    e131SyncFramingLayerReserveFieldIndex, e131SyncFramingLayerEndIndex, e131PduLengthFlagsLength,
    e131FramingLayerVectorLength, vectorE131ExtendedSynchronization, Nat.reduceAdd]
  rw [modify_zero (by omega) fun s => writeU16_ok, ok_bind,
    modify_drop (by simp) (by omega) (by omega) fun s => writeU32_ok, ok_bind,
    setIndex_drop (by simp) (by omega), ok_bind,
    modify_drop (by simp) (by omega) (by omega) fun s => writeU16_ok, ok_bind,
    modify_drop (by simp) (by omega) (by omega) fun s => zeros_ok]
  rfl

/-! ## The universe discovery layers -/

theorem checkUniverses_eq_ok {us : List UInt16} :
    checkUniverses us = .ok () ↔ us.Pairwise (· < ·) := by
  rw [← List.isChain_iff_pairwise]
  induction us with
  | nil => simp [checkUniverses]
  | cons u us ih =>
    cases us with
    | nil => simp [checkUniverses]
    | cons v us =>
      simp only [checkUniverses, bind_eq_ok, throwIf_eq_ok, exists_const, ih,
        List.isChain_cons_cons, UInt16.not_le]
      constructor
      · rintro ⟨-, hlt, h⟩
        exact ⟨hlt, h⟩
      · rintro ⟨hlt, h⟩
        refine ⟨?_, hlt, h⟩
        rintro rfl
        exact absurd hlt (UInt16.lt_irrefl _)

/-- The bytes of the universe discovery layer. -/
def UniverseDiscoveryPacketUniverseDiscoveryLayer.encode
    (d : UniverseDiscoveryPacketUniverseDiscoveryLayer) : List UInt8 :=
  beBytes 2 (flagsAndLength d.len).toNat ++ beBytes 4 (1 : UInt32).toNat ++ [d.page] ++
    [d.lastPage] ++ d.universes.flatMap fun u => beBytes 2 u.toNat

theorem UniverseDiscoveryPacketUniverseDiscoveryLayer.pack_eq
    {d : UniverseDiscoveryPacketUniverseDiscoveryLayer} {buf : List UInt8}
    (hu : d.universes.length ≤ 512) (hs : d.universes.Pairwise (· < ·))
    (hlen : d.len ≤ buf.length) : d.pack buf = .ok (d.encode ++ buf.drop d.len) := by
  have hl : d.len = 8 + d.universes.length * 2 := rfl
  unfold UniverseDiscoveryPacketUniverseDiscoveryLayer.pack
  rw [throwIf_neg (by simpa using hu), ok_bind, throwIf_neg (by omega), ok_bind,
    checkUniverses_eq_ok.mpr hs]
  simp only [e131DiscoveryLayerUniverseListFieldIndex, e131DiscoveryLayerLastPageFieldIndex,
    e131DiscoveryLayerPageFieldIndex, e131DiscoveryLayerVectorFieldIndex, e131UniverseFieldLength,
    vectorUniverseDiscoveryUniverseList, e131PduLengthFlagsLength, Nat.reduceAdd]
  rw [modify_zero (by omega) fun s => writeU16_ok, ok_bind,
    modify_drop (by simp) (by omega) (by omega) fun s => writeU32_ok, ok_bind,
    setIndex_drop (by simp) (by omega), ok_bind, setIndex_drop (by simp) (by omega), ok_bind,
    ok_bind, modify_drop (by simp) (by omega) (by omega) fun s hs => writeU16Into_ok (by omega)]
  rw [hl]
  rfl

/-- The bytes of a discovery packet's framing layer. -/
def UniverseDiscoveryPacketFramingLayer.encode (d : UniverseDiscoveryPacketFramingLayer) :
    List UInt8 :=
  beBytes 2 (flagsAndLength d.len).toNat ++ beBytes 4 (2 : UInt32).toNat ++
    nameField d.sourceName ++ List.replicate 4 0 ++ d.data.encode

/-- The flags, length and vector of a discovery packet's framing layer. -/
def UniverseDiscoveryPacketFramingLayer.head (d : UniverseDiscoveryPacketFramingLayer) :
    List UInt8 :=
  beBytes 2 (flagsAndLength d.len).toNat ++ beBytes 4 (2 : UInt32).toNat

/-- `UniverseDiscoveryPacketFramingLayer::pack` after the name. -/
def UniverseDiscoveryPacketFramingLayer.packFields (d : UniverseDiscoveryPacketFramingLayer)
    (buf : List UInt8) : Outcome SacnError (List UInt8) := do
  let buf ← modify buf 70 74 (zeros 4)
  modifyFrom buf 74 d.data.pack

/-- What is left to do once the name field is zeroed. -/
theorem UniverseDiscoveryPacketFramingLayer.pack_named {d : UniverseDiscoveryPacketFramingLayer}
    {buf : List UInt8} (hlen : d.len ≤ buf.length) :
    d.pack buf = (modify (d.head ++ List.replicate 64 0 ++ buf.drop 70) 6
      (6 + (strBytes d.sourceName).length) (copyFromSlice (strBytes d.sourceName)) >>=
        d.packFields) := by
  have hl : d.len = 74 + d.data.len := rfl
  unfold UniverseDiscoveryPacketFramingLayer.pack
  rw [throwIf_neg (by omega), ok_bind]
  simp only [e131DiscoveryFramingLayerReserveFieldIndex,
    e131DiscoveryFramingLayerSourceNameFieldIndex, e131SourceNameFieldLength,
    e131PduLengthFlagsLength, e131FramingLayerVectorLength, vectorE131ExtendedDiscovery,
    Nat.reduceAdd]
  rw [modify_zero (by omega) fun s => writeU16_ok, ok_bind,
    modify_drop (by simp) (by omega) (by omega) fun s => writeU32_ok, ok_bind,
    modify_drop (by simp) (by omega) (by omega) fun s => zeros_ok, ok_bind]
  rfl

/-- The writes after the name. -/
theorem UniverseDiscoveryPacketFramingLayer.packFields_eq
    {d : UniverseDiscoveryPacketFramingLayer} {w buf : List UInt8} (hw : w.length = 70)
    (hbuf : 74 ≤ buf.length) :
    d.packFields (w ++ buf.drop 70) =
      (do return w ++ List.replicate 4 0 ++ (← d.data.pack (buf.drop 74))) := by
  unfold UniverseDiscoveryPacketFramingLayer.packFields
  rw [modify_drop hw (by omega) hbuf fun s => zeros_ok, ok_bind,
    modifyFrom_append (by simp [hw]) hbuf]

theorem UniverseDiscoveryPacketFramingLayer.pack_eq {d : UniverseDiscoveryPacketFramingLayer}
    {buf : List UInt8} (hn : (strBytes d.sourceName).length ≤ 64)
    (hu : d.data.universes.length ≤ 512) (hs : d.data.universes.Pairwise (· < ·))
    (hlen : d.len ≤ buf.length) : d.pack buf = .ok (d.encode ++ buf.drop d.len) := by
  have hl : d.len = 74 + d.data.len := rfl
  have hhead : d.head.length = 6 := by simp [UniverseDiscoveryPacketFramingLayer.head]
  have hdata : d.data.pack (buf.drop 74) = .ok (d.data.encode ++ (buf.drop 74).drop d.data.len) :=
    UniverseDiscoveryPacketUniverseDiscoveryLayer.pack_eq hu hs (by rw [List.length_drop]; omega)
  rw [pack_named hlen, modify_name hhead rfl hn, ok_bind,
    packFields_eq (by rw [List.length_append, hhead, length_nameField hn]) (by omega), hdata,
    ok_bind, List.drop_drop, ← hl]
  unfold UniverseDiscoveryPacketFramingLayer.encode UniverseDiscoveryPacketFramingLayer.head
  simp only [pure_eq, List.append_assoc]

/-! ## The root layer and the whole packet -/

/-- What the encoder asks of each kind of packet. -/
def E131RootLayerData.Packable : E131RootLayerData → Prop
  | dataPacket d => (strBytes d.sourceName).length ≤ 64 ∧ d.data.propertyValues.length ≤ 513
  | synchronizationPacket _ => True
  | universeDiscoveryPacket d => (strBytes d.sourceName).length ≤ 64 ∧
      d.data.universes.length ≤ 512 ∧ d.data.universes.Pairwise (· < ·)

/-- The bytes of each kind of framing layer. -/
def E131RootLayerData.encode : E131RootLayerData → List UInt8
  | dataPacket d => d.encode
  | synchronizationPacket d => d.encode
  | universeDiscoveryPacket d => d.encode

theorem E131RootLayerData.pack_eq {data : E131RootLayerData} {buf : List UInt8}
    (h : data.Packable) (hlen : data.len ≤ buf.length) :
    data.pack buf = .ok (data.encode ++ buf.drop data.len) := by
  cases data with
  | dataPacket d => exact d.pack_eq h.1 h.2 hlen
  | synchronizationPacket d => exact d.pack_eq hlen
  | universeDiscoveryPacket d => exact d.pack_eq h.1 h.2.1 h.2.2 hlen

/-- The bytes of the root layer. -/
def E131RootLayer.encode (r : E131RootLayer) : List UInt8 :=
  beBytes 2 (flagsAndLength r.len).toNat ++ beBytes 4 r.data.rootVector.toNat ++ r.cid.bytes ++
    r.data.encode

/-- The bytes of the root layer before its data. -/
def E131RootLayer.head (r : E131RootLayer) : List UInt8 :=
  beBytes 2 (flagsAndLength r.len).toNat ++ beBytes 4 r.data.rootVector.toNat ++ r.cid.bytes

theorem E131RootLayer.pack_data {r : E131RootLayer} {buf : List UInt8}
    (hlen : r.len ≤ buf.length) :
    r.pack buf = (do return r.head ++ (← r.data.pack (buf.drop 22))) := by
  have hl : r.len = 22 + r.data.len := rfl
  have hcid := r.cid.length_eq
  unfold E131RootLayer.pack
  rw [throwIf_neg (by omega), ok_bind]
  simp only [e131CidEndIndex, e131CidFieldLength, e131PduLengthFlagsLength,
    e131RootLayerVectorLength, Nat.reduceAdd]
  rw [modify_zero (by omega) fun s => writeU16_ok, ok_bind,
    modify_drop (by simp) (by omega) (by omega) fun s => writeU32_ok, ok_bind,
    modify_drop (by simp) (by omega) (by omega) fun s hs => copyFromSlice_ok (by omega), ok_bind,
    modifyFrom_append (by simp [hcid]) (by omega)]
  rfl

theorem E131RootLayer.pack_eq {r : E131RootLayer} {buf : List UInt8} (h : r.data.Packable)
    (hlen : r.len ≤ buf.length) : r.pack buf = .ok (r.encode ++ buf.drop r.len) := by
  have hl : r.len = 22 + r.data.len := rfl
  have hdata : r.data.pack (buf.drop 22) = .ok (r.data.encode ++ (buf.drop 22).drop r.data.len) :=
    E131RootLayerData.pack_eq h (by rw [List.length_drop]; omega)
  rw [pack_data hlen, hdata, ok_bind, List.drop_drop, ← hl, ← List.append_assoc]
  rfl

/-- The bytes of a packet. -/
def AcnRootLayerProtocol.encode (p : AcnRootLayerProtocol) : List UInt8 :=
  beBytes 2 (0x0010 : UInt16).toNat ++ List.replicate 2 0 ++ e131AcnPacketIdentifier ++
    p.pdu.encode

/-- The preamble. -/
def AcnRootLayerProtocol.preamble : List UInt8 :=
  beBytes 2 (0x0010 : UInt16).toNat ++ List.replicate 2 0 ++ e131AcnPacketIdentifier

theorem AcnRootLayerProtocol.len_eq (p : AcnRootLayerProtocol) : p.len = 16 + p.pdu.len := by
  have hid : e131AcnPacketIdentifier.length = 12 := rfl
  unfold AcnRootLayerProtocol.len
  omega

theorem AcnRootLayerProtocol.pack_pdu {p : AcnRootLayerProtocol} {buf : List UInt8}
    (hlen : p.len ≤ buf.length) :
    p.pack buf = (do return preamble ++ (← p.pdu.pack (buf.drop 16))) := by
  have hid : e131AcnPacketIdentifier.length = 12 := rfl
  have hl := p.len_eq
  unfold AcnRootLayerProtocol.pack
  rw [throwIf_neg (by omega), ok_bind, modify_zero (by omega) fun s => writeU16_ok, ok_bind,
    modify_drop (by simp) (by omega) (by omega) fun s => zeros_ok, ok_bind,
    modify_drop (by simp) (by omega) (by omega) fun s hs => copyFromSlice_ok (by omega), ok_bind,
    modifyFrom_append (by simp [hid]) (by omega)]
  rfl

/-- **Packing writes the packet's bytes to the front of the buffer**, and nothing else. -/
theorem AcnRootLayerProtocol.pack_eq {p : AcnRootLayerProtocol} {buf : List UInt8}
    (h : p.pdu.data.Packable) (hlen : p.len ≤ buf.length) :
    p.pack buf = .ok (p.encode ++ buf.drop p.len) := by
  have hl := p.len_eq
  have hdata : p.pdu.pack (buf.drop 16) = .ok (p.pdu.encode ++ (buf.drop 16).drop p.pdu.len) :=
    E131RootLayer.pack_eq h (by rw [List.length_drop]; omega)
  rw [pack_pdu hlen, hdata, ok_bind, List.drop_drop, ← hl, ← List.append_assoc]
  rfl

/-- What `pack_alloc` returns for a packet the encoder accepts. -/
theorem AcnRootLayerProtocol.packAlloc_ok {p : AcnRootLayerProtocol}
    (h : p.pdu.data.Packable) : p.packAlloc = .ok p.encode := by
  have hlength : (List.replicate p.len (0 : UInt8)).length = p.len := List.length_replicate
  refine (AcnRootLayerProtocol.pack_eq h hlength.ge).trans ?_
  rw [List.drop_of_length_le hlength.le, List.append_nil]

end Sacn
