import Sacn.Packet.Layout
import Sacn.Rust.Endian
import Sacn.Rust.Str

/-!
# Parsing (`packet.rs`)

`AcnRootLayerProtocol::parse` and the `Pdu::parse` of the five layers under it. Each layer gets the
slice its outer layer cut for it. A slice or an index out of range is a panic of the model, as it
is of the code.
-/

namespace Sacn

open Rust Rust.Outcome

/-- `Err(SacnError::SacnParsePackError(e))`. -/
abbrev parseErr (e : ParsePacketError) : SacnError := .sacnParsePackError e

/-- `PduInfo`. -/
structure PduInfo where
  length : Nat
  vector : UInt32
  deriving DecidableEq, Repr

/-- `pdu_info`: flags in the top 4 bits, a 12-bit length, then the vector. -/
def pduInfo (buf : List UInt8) (vectorLength : Nat) : Outcome SacnError PduInfo := do
  throwIf (buf.length < e131PduLengthFlagsLength + vectorLength)
    (parseErr (.parseInsufficientData
      "Insufficient data when parsing pdu_info, no flags or length field"))
  let b0 ← index buf 0
  let flags := b0 &&& 0xf0
  throwIf (flags ≠ e131PduFlags) (parseErr (.parsePduInvalidFlags flags))
  let lengthField ← readU16In buf 0 e131PduLengthFlagsLength
  let length := (lengthField &&& 0x0fff).toNat
  let vectorField ← sliceFrom buf e131PduLengthFlagsLength
  let vector ← readUint vectorField vectorLength
  return { length, vector := vector.toUInt32 }

/-- The scan of `parse_source_name_str`: the index of the first zero byte, or the length. -/
def sourceNameLength (buf : List UInt8) : Nat := buf.findIdx (· == 0)

/-- `parse_source_name_str`. -/
def parseSourceNameStr (buf : List UInt8) : Outcome SacnError String := do
  let sourceNameLength := sourceNameLength buf
  if sourceNameLength = buf.length then
    let last ← index buf (buf.length - 1)
    throwIf (last ≠ 0) (parseErr .sourceNameNotNullTerminated)
  let name ← slice buf 0 sourceNameLength
  match fromUtf8 name with
  | some s => return s
  | none => .err .str

/-- `Uuid::from_slice`. -/
def Uuid.fromSlice (bytes : List UInt8) : Outcome SacnError Uuid :=
  if h : bytes.length = 16 then .ok ⟨bytes, h⟩ else .err .uuid

namespace DataPacketDmpLayer

/-- `DataPacketDmpLayer::parse`. -/
def parse (buf : List UInt8) : Outcome SacnError DataPacketDmpLayer := do
  let { length, vector } ← pduInfo buf 1
  throwIf (buf.length < length) (parseErr (.parseInsufficientData
    "Buffer contains insufficient data based on data packet dmp layer pdu length field"))
  throwIf (vector ≠ vectorDmpSetProperty.toUInt32) (parseErr (.pduInvalidVector vector))
  let addressData ← index buf addressDataFieldIndex
  throwIf (addressData ≠ e131DmpLayerAddressDataField)
    (parseErr (.parseInvalidData "invalid Address and Data Type"))
  let firstProperty ← readU16In buf firstPriorityFieldIndex addressIncrementFieldIndex
  throwIf (firstProperty ≠ e131DataPacketDmpLayerFirstPropertyField)
    (parseErr (.parseInvalidData "invalid First Property Address"))
  let increment ← readU16In buf addressIncrementFieldIndex propertyValueCountFieldIndex
  throwIf (increment ≠ e131DataPacketDmpLayerAddressIncrement)
    (parseErr (.parseInvalidData "invalid Address Increment"))
  let propertyValueCount ←
    readU16In buf propertyValueCountFieldIndex propertyValuesFieldIndex
  throwIf (propertyValueCount.toNat + propertyValuesFieldIndex ≠ length)
    (parseErr (.parseInsufficientData
      s!"Invalid data packet dmp layer property value count, pdu length indicates {length} property values, property value count field indicates {propertyValueCount} property values"))
  let propertyValuesLength := length - propertyValuesFieldIndex
  throwIf (propertyValuesLength > universeChannelCapacity)
    (parseErr (.parseInvalidData "only 512 DMX slots allowed"))
  let propertyValues ← slice buf propertyValuesFieldIndex length
  return { propertyValues }

end DataPacketDmpLayer

namespace DataPacketFramingLayer

/-- `DataPacketFramingLayer::parse`. -/
def parse (buf : List UInt8) : Outcome SacnError DataPacketFramingLayer := do
  let { length, vector } ← pduInfo buf e131FramingLayerVectorLength
  throwIf (buf.length < length) (parseErr (.parseInsufficientData
    "Buffer contains insufficient data based on data packet framing layer pdu length field"))
  throwIf (vector ≠ vectorE131DataPacket) (parseErr (.pduInvalidVector vector))
  let sourceName ← slice buf sourceNameIndex priorityIndex >>= parseSourceNameStr
  let priority ← index buf priorityIndex
  throwIf (priority > e131MaxPriority) (parseErr (.parseInvalidPriority priority))
  let synchronizationAddress ← readU16In buf syncAddrIndex seqNumIndex
  throwIf (synchronizationAddress > e131MaxMulticastUniverse)
    (parseErr (.parseInvalidSyncAddr synchronizationAddress))
  let sequenceNumber ← index buf seqNumIndex
  let options ← index buf optionsFieldIndex
  let previewData := options &&& e131PreviewDataOptionBitMask != 0
  let streamTerminated := options &&& e131StreamTerminationOptionBitMask != 0
  let forceSynchronization := options &&& e131ForceSynchronisationOptionBitMask != 0
  let uni ← readU16In buf universeIndex dataIndex
  throwIf (¬ (e131MinMulticastUniverse ≤ uni ∧ uni ≤ e131MaxMulticastUniverse))
    (parseErr (.parseInvalidUniverse uni))
  let data ← slice buf dataIndex length >>= DataPacketDmpLayer.parse
  return { sourceName, priority, synchronizationAddress, sequenceNumber, previewData,
           streamTerminated, forceSynchronization, uni, data }

end DataPacketFramingLayer

namespace SynchronizationPacketFramingLayer

/-- `SynchronizationPacketFramingLayer::parse`. The two reserved bytes are not read. -/
def parse (buf : List UInt8) : Outcome SacnError SynchronizationPacketFramingLayer := do
  let { length, vector } ← pduInfo buf e131FramingLayerVectorLength
  throwIf (buf.length < length) (parseErr (.parseInsufficientData
    "Buffer contains insufficient data based on synchronisation packet framing layer pdu length field"))
  throwIf (vector ≠ vectorE131ExtendedSynchronization) (parseErr (.pduInvalidVector vector))
  throwIf (length ≠ e131UniverseSyncPacketFramingLayerLength)
    (parseErr (.pduInvalidLength length))
  let sequenceNumber ← index buf e131SyncFramingLayerSeqNumFieldIndex
  let synchronizationAddress ←
    readU16In buf e131SyncFramingLayerSyncAddressFieldIndex e131SyncFramingLayerReserveFieldIndex
  throwIf (¬ (e131MinMulticastUniverse ≤ synchronizationAddress ∧
      synchronizationAddress ≤ e131MaxMulticastUniverse))
    (parseErr (.parseInvalidSyncAddr synchronizationAddress))
  return { sequenceNumber, synchronizationAddress }

end SynchronizationPacketFramingLayer

/-- The loop of `parse_universe_list` at byte `i` with `n` words to go; `last` is the universe read
before, `-1` before the first. -/
def parseUniverseWords (buf : List UInt8) : Nat → Int → Nat → Outcome SacnError (List UInt16)
  | _, _, 0 => .ok []
  | i, last, n + 1 => do
    let u ← readU16In buf i (i + e131UniverseFieldLength)
    if last < u.toNat then
      let us ← parseUniverseWords buf (i + e131UniverseFieldLength) u.toNat n
      return u :: us
    else
      .err (parseErr (.parseInvalidUniverseOrder
        s!"Universe {u} is out of order, discovery packet universe list must be in accending order!"))

/-- `parse_universe_list`. -/
def parseUniverseList (buf : List UInt8) (length : Nat) : Outcome SacnError (List UInt16) := do
  throwIf (buf.length < length * e131UniverseFieldLength)
    (parseErr (.parseInsufficientData
      s!"The given buffer of length {buf.length} bytes cannot be parsed into the given number of universes {length}"))
  parseUniverseWords buf 0 (-1) length

namespace UniverseDiscoveryPacketUniverseDiscoveryLayer

/-- `UniverseDiscoveryPacketUniverseDiscoveryLayer::parse`. -/
def parse (buf : List UInt8) :
    Outcome SacnError UniverseDiscoveryPacketUniverseDiscoveryLayer := do
  let { length, vector } ← pduInfo buf 4
  throwIf (buf.length ≠ length) (parseErr (.parseInsufficientData
    s!"Buffer contains incorrect amount of data ({buf.length} bytes) based on universe discovery packet universe discovery layer pdu length field ({length} bytes)"))
  throwIf (vector ≠ vectorUniverseDiscoveryUniverseList) (parseErr (.pduInvalidVector vector))
  throwIf (¬ (e131UniverseDiscoveryLayerMinLength ≤ length ∧
      length ≤ e131UniverseDiscoveryLayerMaxLength))
    (parseErr (.pduInvalidLength length))
  let page ← index buf e131DiscoveryLayerPageFieldIndex
  let lastPage ← index buf e131DiscoveryLayerLastPageFieldIndex
  throwIf (page > lastPage)
    (parseErr (.parseInvalidPage "Page value higher than last_page"))
  let universesLength :=
    (length - e131DiscoveryLayerUniverseListFieldIndex) / e131UniverseFieldLength
  let list ← sliceFrom buf e131DiscoveryLayerUniverseListFieldIndex
  let universes ← parseUniverseList list universesLength
  return { page, lastPage, universes }

end UniverseDiscoveryPacketUniverseDiscoveryLayer

namespace UniverseDiscoveryPacketFramingLayer

/-- `UniverseDiscoveryPacketFramingLayer::parse`. The four reserved bytes are not read. -/
def parse (buf : List UInt8) : Outcome SacnError UniverseDiscoveryPacketFramingLayer := do
  let { length, vector } ← pduInfo buf e131FramingLayerVectorLength
  throwIf (buf.length < length) (parseErr (.parseInsufficientData
    "Buffer contains insufficient data based on universe discovery packet framing layer pdu length field"))
  throwIf (vector ≠ vectorE131ExtendedDiscovery) (parseErr (.pduInvalidVector vector))
  throwIf (length < e131UniverseDiscoveryFramingLayerMinLength)
    (parseErr (.pduInvalidLength length))
  let sourceName ←
    slice buf e131DiscoveryFramingLayerSourceNameFieldIndex
      e131DiscoveryFramingLayerReserveFieldIndex >>= parseSourceNameStr
  let data ← slice buf e131DiscoveryFramingLayerDataIndex length >>=
    UniverseDiscoveryPacketUniverseDiscoveryLayer.parse
  return { sourceName, data }

end UniverseDiscoveryPacketFramingLayer

namespace E131RootLayer

/-- The `VECTOR_ROOT_E131_EXTENDED` arm of `E131RootLayer::parse`. -/
def parseExtended (dataBuf : List UInt8) : Outcome SacnError E131RootLayerData := do
  let { length, vector } ← pduInfo dataBuf e131FramingLayerVectorLength
  throwIf (dataBuf.length < length) (parseErr (.parseInsufficientData
    "Buffer contains insufficient data based on E131 framing layer pdu length field"))
  if vector = vectorE131ExtendedSynchronization then
    let data ← SynchronizationPacketFramingLayer.parse dataBuf
    return .synchronizationPacket data
  else if vector = vectorE131ExtendedDiscovery then
    let data ← UniverseDiscoveryPacketFramingLayer.parse dataBuf
    return .universeDiscoveryPacket data
  else .err (parseErr (.pduInvalidVector vector))

/-- The data of `E131RootLayer::parse`: `match vector`. -/
def parseData (vector : UInt32) (dataBuf : List UInt8) : Outcome SacnError E131RootLayerData :=
  if vector = vectorRootE131Data then do
    let data ← DataPacketFramingLayer.parse dataBuf
    return .dataPacket data
  else if vector = vectorRootE131Extended then parseExtended dataBuf
  else .err (parseErr (.pduInvalidVector vector))

/-- `E131RootLayer::parse`. -/
def parse (buf : List UInt8) : Outcome SacnError E131RootLayer := do
  let { length, vector } ← pduInfo buf e131RootLayerVectorLength
  throwIf (buf.length < length) (parseErr (.parseInsufficientData
    "Buffer contains insufficient data based on ACN root layer pdu length field"))
  throwIf (vector ≠ vectorRootE131Data ∧ vector ≠ vectorRootE131Extended)
    (parseErr (.pduInvalidVector vector))
  let cid ← slice buf (e131PduLengthFlagsLength + e131RootLayerVectorLength) e131CidEndIndex
    >>= Uuid.fromSlice
  let data ← slice buf e131CidEndIndex length >>= parseData vector
  return { cid, data }

end E131RootLayer

namespace AcnRootLayerProtocol

/-- `AcnRootLayerProtocol::parse`. -/
def parse (buf : List UInt8) : Outcome SacnError AcnRootLayerProtocol := do
  throwIf (buf.length < e131PreambleSize.toNat)
    (parseErr (.parseInsufficientData "Insufficient data for ACN root layer preamble"))
  let preamble ← readU16In buf 0 2
  throwIf (preamble ≠ e131PreambleSize) (parseErr (.parseInvalidData "invalid Preamble Size"))
  let postamble ← readU16In buf 2 4
  throwIf (postamble ≠ e131PostambleSize)
    (parseErr (.parseInvalidData "invalid Post-amble Size"))
  let identifier ← slice buf 4 e131PreambleSize.toNat
  throwIf (identifier ≠ e131AcnPacketIdentifier)
    (parseErr (.parseInvalidData "invalid ACN packet identifier"))
  let pdu ← sliceFrom buf e131PreambleSize.toNat >>= E131RootLayer.parse
  return { pdu }

end AcnRootLayerProtocol

end Sacn
