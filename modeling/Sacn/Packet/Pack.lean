import Sacn.Packet.Layout
import Sacn.Rust.Endian
import Sacn.Rust.Str

/-!
# Packing (`packet.rs`)

`Pdu::pack` and `Pdu::len` of the five layers, and `pack`, `pack_alloc` and `pack_vec` of
`AcnRootLayerProtocol`. A function that writes into `&mut [u8]` takes the old contents and returns
the new ones. Every write goes through a checked slice or index of the buffer, so the model writes
what the code writes where it writes it, panics included; `encode` in `Encode.lean` is the closed
form.
-/

namespace Sacn

open Rust Rust.Outcome

/-- `zeros`: zeroes the first `n` bytes, or all of them. -/
def zeros (n : Nat) (buf : List UInt8) : Outcome SacnError (List UInt8) :=
  .ok (List.replicate (min n buf.length) 0 ++ buf.drop n)

/-- `buf[i] |= mask`. -/
def orAssign (buf : List UInt8) (i : Nat) (mask : UInt8) : Outcome SacnError (List UInt8) := do
  let b ← index buf i
  setIndex buf i (b ||| mask)

/-- `flags_and_length`: `read_u16(&[E131_PDU_FLAGS, 0x0]) | (len as u16) & 0x0fff`. -/
def flagsAndLength (len : Nat) : UInt16 :=
  UInt16.ofNat (beNat [e131PduFlags, 0x0]) ||| (UInt16.ofNat len &&& 0x0fff)

namespace DataPacketDmpLayer

/-- `DataPacketDmpLayer::len`. -/
def len (d : DataPacketDmpLayer) : Nat :=
  e131PduLengthFlagsLength + 1 + 1 + 2 + 2 + 2 + d.propertyValues.length

/-- `DataPacketDmpLayer::pack`. -/
def pack (d : DataPacketDmpLayer) (buf : List UInt8) : Outcome SacnError (List UInt8) := do
  throwIf (d.propertyValues.length > universeChannelCapacity)
    (.sacnParsePackError (.packInvalidData "only 512 DMX values allowed"))
  throwIf (buf.length < d.len) (.sacnParsePackError
    (.packBufferInsufficient "DataPacketDmpLayer pack buffer length insufficient"))
  let buf ← modify buf 0 e131PduLengthFlagsLength (writeU16 (flagsAndLength d.len))
  let buf ← setIndex buf vectorFieldIndex vectorDmpSetProperty
  let buf ← setIndex buf addressDataFieldIndex e131DmpLayerAddressDataField
  let buf ← modify buf firstPriorityFieldIndex addressIncrementFieldIndex (zeros 2)
  let buf ← modify buf addressIncrementFieldIndex propertyValueCountFieldIndex
    (writeU16 e131DataPacketDmpLayerAddressIncrement)
  let buf ← modify buf propertyValueCountFieldIndex propertyValuesFieldIndex
    (writeU16 (UInt16.ofNat d.propertyValues.length))
  modify buf propertyValuesFieldIndex (propertyValuesFieldIndex + d.propertyValues.length)
    (copyFromSlice d.propertyValues)

end DataPacketDmpLayer

namespace DataPacketFramingLayer

/-- `DataPacketFramingLayer::len`. -/
def len (d : DataPacketFramingLayer) : Nat :=
  e131PduLengthFlagsLength + e131FramingLayerVectorLength + e131SourceNameFieldLength + 1 + 2 + 1 +
    1 + e131UniverseFieldLength + d.data.len

/-- `DataPacketFramingLayer::pack`. -/
def pack (d : DataPacketFramingLayer) (buf : List UInt8) : Outcome SacnError (List UInt8) := do
  throwIf (buf.length < d.len) (.sacnParsePackError (.packBufferInsufficient ""))
  let buf ← modify buf 0 e131PduLengthFlagsLength (writeU16 (flagsAndLength d.len))
  let buf ← modify buf e131PduLengthFlagsLength sourceNameIndex (writeU32 vectorE131DataPacket)
  let buf ← modify buf sourceNameIndex priorityIndex (zeros e131SourceNameFieldLength)
  let buf ← modify buf sourceNameIndex (sourceNameIndex + (strBytes d.sourceName).length)
    (copyFromSlice (strBytes d.sourceName))
  let buf ← setIndex buf priorityIndex d.priority
  let buf ← modify buf syncAddrIndex seqNumIndex (writeU16 d.synchronizationAddress)
  let buf ← setIndex buf seqNumIndex d.sequenceNumber
  let buf ← setIndex buf optionsFieldIndex 0
  let buf ← if d.previewData then
    setIndex buf optionsFieldIndex e131PreviewDataOptionBitMask else pure buf
  let buf ← if d.streamTerminated then
    orAssign buf optionsFieldIndex e131StreamTerminationOptionBitMask else pure buf
  let buf ← if d.forceSynchronization then
    orAssign buf optionsFieldIndex e131ForceSynchronisationOptionBitMask else pure buf
  let buf ← modify buf universeIndex dataIndex (writeU16 d.uni)
  modifyFrom buf dataIndex d.data.pack

end DataPacketFramingLayer

namespace SynchronizationPacketFramingLayer

/-- `SynchronizationPacketFramingLayer::len`. -/
def len (_ : SynchronizationPacketFramingLayer) : Nat :=
  e131PduLengthFlagsLength + e131FramingLayerVectorLength + 1 + 2 + 2

/-- `SynchronizationPacketFramingLayer::pack`. -/
def pack (d : SynchronizationPacketFramingLayer) (buf : List UInt8) :
    Outcome SacnError (List UInt8) := do
  throwIf (buf.length < d.len) (.sacnParsePackError (.packBufferInsufficient
    "SynchronizationPacketFramingLayer pack buffer length insufficient"))
  let buf ← modify buf 0 e131PduLengthFlagsLength (writeU16 (flagsAndLength d.len))
  let buf ← modify buf e131PduLengthFlagsLength e131SyncFramingLayerSeqNumFieldIndex
    (writeU32 vectorE131ExtendedSynchronization)
  let buf ← setIndex buf e131SyncFramingLayerSeqNumFieldIndex d.sequenceNumber
  let buf ← modify buf e131SyncFramingLayerSyncAddressFieldIndex
    e131SyncFramingLayerReserveFieldIndex (writeU16 d.synchronizationAddress)
  modify buf e131SyncFramingLayerReserveFieldIndex e131SyncFramingLayerEndIndex (zeros 2)

end SynchronizationPacketFramingLayer

/-- The check loop of `UniverseDiscoveryPacketUniverseDiscoveryLayer::pack` over neighbours. -/
def checkUniverses : List UInt16 → Outcome SacnError Unit
  | u :: v :: us => do
    throwIf (v = u) (.sacnParsePackError (.packInvalidData "Universes are not unique"))
    throwIf (v ≤ u) (.sacnParsePackError (.packInvalidData "Universes are not sorted"))
    checkUniverses (v :: us)
  | _ => .ok ()

namespace UniverseDiscoveryPacketUniverseDiscoveryLayer

/-- `UniverseDiscoveryPacketUniverseDiscoveryLayer::len`. -/
def len (d : UniverseDiscoveryPacketUniverseDiscoveryLayer) : Nat :=
  e131PduLengthFlagsLength + 4 + 1 + 1 + d.universes.length * e131UniverseFieldLength

/-- `UniverseDiscoveryPacketUniverseDiscoveryLayer::pack`. -/
def pack (d : UniverseDiscoveryPacketUniverseDiscoveryLayer) (buf : List UInt8) :
    Outcome SacnError (List UInt8) := do
  throwIf (d.universes.length > discoveryUniPerPage) (.sacnParsePackError
    (.packInvalidData s!"Maximum {discoveryUniPerPage} universes allowed per discovery page"))
  throwIf (buf.length < d.len) (.sacnParsePackError (.packBufferInsufficient
    "UniverseDiscoveryPacketUniverseDiscoveryLayer pack buffer insufficient"))
  let buf ← modify buf 0 e131DiscoveryLayerVectorFieldIndex (writeU16 (flagsAndLength d.len))
  let buf ← modify buf e131DiscoveryLayerVectorFieldIndex e131DiscoveryLayerPageFieldIndex
    (writeU32 vectorUniverseDiscoveryUniverseList)
  let buf ← setIndex buf e131DiscoveryLayerPageFieldIndex d.page
  let buf ← setIndex buf e131DiscoveryLayerLastPageFieldIndex d.lastPage
  checkUniverses d.universes
  modify buf e131DiscoveryLayerUniverseListFieldIndex
    (e131DiscoveryLayerUniverseListFieldIndex + d.universes.length * e131UniverseFieldLength)
    (writeU16Into d.universes)

end UniverseDiscoveryPacketUniverseDiscoveryLayer

namespace UniverseDiscoveryPacketFramingLayer

/-- `UniverseDiscoveryPacketFramingLayer::len`. -/
def len (d : UniverseDiscoveryPacketFramingLayer) : Nat :=
  e131PduLengthFlagsLength + e131FramingLayerVectorLength + e131SourceNameFieldLength + 4 +
    d.data.len

/-- `UniverseDiscoveryPacketFramingLayer::pack`. -/
def pack (d : UniverseDiscoveryPacketFramingLayer) (buf : List UInt8) :
    Outcome SacnError (List UInt8) := do
  throwIf (buf.length < d.len) (.sacnParsePackError (.packBufferInsufficient
    "UniverseDiscoveryPacketFramingLayer pack buffer length insufficient"))
  let buf ← modify buf 0 e131PduLengthFlagsLength (writeU16 (flagsAndLength d.len))
  let buf ← modify buf e131PduLengthFlagsLength e131DiscoveryFramingLayerSourceNameFieldIndex
    (writeU32 vectorE131ExtendedDiscovery)
  let buf ← modify buf e131DiscoveryFramingLayerSourceNameFieldIndex
    e131DiscoveryFramingLayerReserveFieldIndex (zeros e131SourceNameFieldLength)
  let buf ← modify buf e131DiscoveryFramingLayerSourceNameFieldIndex
    (e131DiscoveryFramingLayerSourceNameFieldIndex + (strBytes d.sourceName).length)
    (copyFromSlice (strBytes d.sourceName))
  let buf ← modify buf e131DiscoveryFramingLayerReserveFieldIndex
    e131DiscoveryFramingLayerDataIndex (zeros 4)
  modifyFrom buf e131DiscoveryFramingLayerDataIndex d.data.pack

end UniverseDiscoveryPacketFramingLayer

namespace E131RootLayerData

/-- The arms of `E131RootLayer::len`. -/
def len : E131RootLayerData → Nat
  | dataPacket d => d.len
  | synchronizationPacket d => d.len
  | universeDiscoveryPacket d => d.len

/-- The arms of `E131RootLayer::pack`. -/
def pack : E131RootLayerData → List UInt8 → Outcome SacnError (List UInt8)
  | dataPacket d => d.pack
  | synchronizationPacket d => d.pack
  | universeDiscoveryPacket d => d.pack

end E131RootLayerData

namespace E131RootLayer

/-- `E131RootLayer::len`. -/
def len (r : E131RootLayer) : Nat :=
  e131PduLengthFlagsLength + e131RootLayerVectorLength + e131CidFieldLength + r.data.len

/-- `E131RootLayer::pack`. -/
def pack (r : E131RootLayer) (buf : List UInt8) : Outcome SacnError (List UInt8) := do
  throwIf (buf.length < r.len) (.sacnParsePackError (.packBufferInsufficient ""))
  let buf ← modify buf 0 e131PduLengthFlagsLength (writeU16 (flagsAndLength r.len))
  let buf ← modify buf e131PduLengthFlagsLength
    (e131PduLengthFlagsLength + e131RootLayerVectorLength) (writeU32 r.data.rootVector)
  let buf ← modify buf (e131PduLengthFlagsLength + e131RootLayerVectorLength) e131CidEndIndex
    (copyFromSlice r.cid.bytes)
  modifyFrom buf e131CidEndIndex r.data.pack

end E131RootLayer

namespace AcnRootLayerProtocol

/-- `AcnRootLayerProtocol::len`. -/
def len (p : AcnRootLayerProtocol) : Nat :=
  2 + 2 + e131AcnPacketIdentifier.length + p.pdu.len

/-- `AcnRootLayerProtocol::pack`. -/
def pack (p : AcnRootLayerProtocol) (buf : List UInt8) : Outcome SacnError (List UInt8) := do
  throwIf (buf.length < p.len)
    (.sacnParsePackError (.parseInvalidData "Invalid ACN packet identifier"))
  let buf ← modify buf 0 2 (writeU16 0x0010)
  let buf ← modify buf 2 4 (zeros 2)
  let buf ← modify buf 4 16 (copyFromSlice e131AcnPacketIdentifier)
  modifyFrom buf 16 p.pdu.pack

/-- `AcnRootLayerProtocol::pack_vec`: the vector is cleared and refilled with zeros first. -/
def packVec (p : AcnRootLayerProtocol) (_buf : List UInt8) : Outcome SacnError (List UInt8) :=
  p.pack (List.replicate p.len 0)

/-- `AcnRootLayerProtocol::pack_alloc`. -/
def packAlloc (p : AcnRootLayerProtocol) : Outcome SacnError (List UInt8) := p.packVec []

end AcnRootLayerProtocol

end Sacn
