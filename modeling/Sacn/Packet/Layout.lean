import Sacn.Error

/-!
# Packets and their field layout (`packet.rs`)

The protocol constants of `packet.rs` that the modelled functions read, the field offsets computed
from them, and the packet types of the three kinds of sACN packet: data, synchronisation and
universe discovery.

A `Cow<str>` is a `String`, which like a Rust `str` is valid UTF-8 by construction; a `Cow<[u8]>`
or `Cow<[u16]>` is a list. The `usize` constants are natural numbers. A Lean keyword forces one
renaming: the field `universe` is `uni` here.
-/

namespace Sacn

/-! ## Protocol constants -/

/-- `DISCOVERY_UNI_PER_PAGE`. -/
@[simp] def discoveryUniPerPage : Nat := 512

/-- `E131_DISCOVERY_UNIVERSE`. -/
@[simp] def e131DiscoveryUniverse : UInt16 := 64214

/-- `E131_DEFAULT_PRIORITY`. -/
@[simp] def e131DefaultPriority : UInt8 := 100

/-- `E131_MAX_PRIORITY`. -/
@[simp] def e131MaxPriority : UInt8 := 200

/-- `E131_MAX_MULTICAST_UNIVERSE`. -/
@[simp] def e131MaxMulticastUniverse : UInt16 := 63999

/-- `E131_MIN_MULTICAST_UNIVERSE`. -/
@[simp] def e131MinMulticastUniverse : UInt16 := 1

/-- `E131_NO_SYNC_ADDR`. -/
@[simp] def e131NoSyncAddr : UInt16 := 0

/-- `NO_SYNC_UNIVERSE`. -/
@[simp] def noSyncUniverse : UInt16 := 0

/-- `UNIVERSE_CHANNEL_CAPACITY`: a start code and 512 slots. -/
@[simp] def universeChannelCapacity : Nat := 513

/-- `STARTING_SEQUENCE_NUMBER`. -/
@[simp] def startingSequenceNumber : UInt8 := 0

/-- `E131_SEQ_DIFF_DISCARD_LOWER_BOUND`, exclusive. -/
@[simp] def e131SeqDiffDiscardLowerBound : Int := -20

/-- `E131_SEQ_DIFF_DISCARD_UPPER_BOUND`, inclusive. -/
@[simp] def e131SeqDiffDiscardUpperBound : Int := 0

/-- `E131_PREVIEW_DATA_OPTION_BIT_MASK`. -/
@[simp] def e131PreviewDataOptionBitMask : UInt8 := 0x80

/-- `E131_STREAM_TERMINATION_OPTION_BIT_MASK`. -/
@[simp] def e131StreamTerminationOptionBitMask : UInt8 := 0x40

/-- `E131_FORCE_SYNCHRONISATION_OPTION_BIT_MASK`. -/
@[simp] def e131ForceSynchronisationOptionBitMask : UInt8 := 0x20

/-- `E131_UNIVERSE_DISCOVERY_LAYER_MIN_LENGTH`. -/
@[simp] def e131UniverseDiscoveryLayerMinLength : Nat := 8

/-- `E131_UNIVERSE_DISCOVERY_LAYER_MAX_LENGTH`. -/
@[simp] def e131UniverseDiscoveryLayerMaxLength : Nat := 1032

/-- `E131_UNIVERSE_SYNC_PACKET_FRAMING_LAYER_LENGTH`. -/
@[simp] def e131UniverseSyncPacketFramingLayerLength : Nat := 11

/-- `E131_UNIVERSE_DISCOVERY_FRAMING_LAYER_MIN_LENGTH`. -/
@[simp] def e131UniverseDiscoveryFramingLayerMinLength : Nat := 82

/-- `E131_PDU_FLAGS`. -/
@[simp] def e131PduFlags : UInt8 := 0x70

/-- `E131_DMP_LAYER_ADDRESS_DATA_FIELD`. -/
@[simp] def e131DmpLayerAddressDataField : UInt8 := 0xa1

/-- `E131_DATA_PACKET_DMP_LAYER_FIRST_PROPERTY_FIELD`. -/
@[simp] def e131DataPacketDmpLayerFirstPropertyField : UInt16 := 0x0000

/-- `E131_DATA_PACKET_DMP_LAYER_ADDRESS_INCREMENT`. -/
@[simp] def e131DataPacketDmpLayerAddressIncrement : UInt16 := 0x0001

/-- `E131_PREAMBLE_SIZE`; `as usize` where it is an offset. -/
@[simp] def e131PreambleSize : UInt16 := 0x0010

/-- `E131_POSTAMBLE_SIZE`. -/
@[simp] def e131PostambleSize : UInt16 := 0x0

/-- `E131_ACN_PACKET_IDENTIFIER`, the bytes of `b"ASC-E1.17\x00\x00\x00"`. -/
def e131AcnPacketIdentifier : List UInt8 :=
  [0x41, 0x53, 0x43, 0x2d, 0x45, 0x31, 0x2e, 0x31, 0x37, 0x00, 0x00, 0x00]

/-- `VECTOR_ROOT_E131_DATA`. -/
@[simp] def vectorRootE131Data : UInt32 := 0x00000004

/-- `VECTOR_ROOT_E131_EXTENDED`. -/
@[simp] def vectorRootE131Extended : UInt32 := 0x00000008

/-- `VECTOR_E131_EXTENDED_SYNCHRONIZATION`. -/
@[simp] def vectorE131ExtendedSynchronization : UInt32 := 0x00000001

/-- `VECTOR_E131_EXTENDED_DISCOVERY`. -/
@[simp] def vectorE131ExtendedDiscovery : UInt32 := 0x00000002

/-- `VECTOR_E131_DATA_PACKET`. -/
@[simp] def vectorE131DataPacket : UInt32 := 0x00000002

/-- `VECTOR_DMP_SET_PROPERTY`. -/
@[simp] def vectorDmpSetProperty : UInt8 := 0x02

/-- `VECTOR_UNIVERSE_DISCOVERY_UNIVERSE_LIST`. -/
@[simp] def vectorUniverseDiscoveryUniverseList : UInt32 := 0x00000001

/-! ## Field lengths and offsets -/

/-- `E131_PDU_LENGTH_FLAGS_LENGTH`. -/
@[simp] def e131PduLengthFlagsLength : Nat := 2

/-- `E131_ROOT_LAYER_VECTOR_LENGTH`. -/
@[simp] def e131RootLayerVectorLength : Nat := 4

/-- `E131_FRAMING_LAYER_VECTOR_LENGTH`. -/
@[simp] def e131FramingLayerVectorLength : Nat := 4

/-- `E131_CID_FIELD_LENGTH`. -/
@[simp] def e131CidFieldLength : Nat := 16

/-- `E131_CID_END_INDEX`. -/
@[simp] def e131CidEndIndex : Nat :=
  e131PduLengthFlagsLength + e131RootLayerVectorLength + e131CidFieldLength

/-- `E131_SOURCE_NAME_FIELD_LENGTH`. -/
@[simp] def e131SourceNameFieldLength : Nat := 64

/-- `E131_UNIVERSE_FIELD_LENGTH`. -/
@[simp] def e131UniverseFieldLength : Nat := 2

/-- `SOURCE_NAME_INDEX` of the data packet framing layer. -/
@[simp] def sourceNameIndex : Nat := e131PduLengthFlagsLength + e131FramingLayerVectorLength

/-- `PRIORITY_INDEX`. -/
@[simp] def priorityIndex : Nat := sourceNameIndex + e131SourceNameFieldLength

/-- `SYNC_ADDR_INDEX`. -/
@[simp] def syncAddrIndex : Nat := priorityIndex + 1

/-- `SEQ_NUM_INDEX`. -/
@[simp] def seqNumIndex : Nat := syncAddrIndex + 2

/-- `OPTIONS_FIELD_INDEX`. -/
@[simp] def optionsFieldIndex : Nat := seqNumIndex + 1

/-- `UNIVERSE_INDEX`. -/
@[simp] def universeIndex : Nat := optionsFieldIndex + 1

/-- `DATA_INDEX`. -/
@[simp] def dataIndex : Nat := universeIndex + e131UniverseFieldLength

/-- `VECTOR_FIELD_INDEX` of the DMP layer. -/
@[simp] def vectorFieldIndex : Nat := e131PduLengthFlagsLength

/-- `ADDRESS_DATA_FIELD_INDEX`. -/
@[simp] def addressDataFieldIndex : Nat := vectorFieldIndex + 1

/-- `FIRST_PRIORITY_FIELD_INDEX`. -/
@[simp] def firstPriorityFieldIndex : Nat := addressDataFieldIndex + 1

/-- `ADDRESS_INCREMENT_FIELD_INDEX`. -/
@[simp] def addressIncrementFieldIndex : Nat := firstPriorityFieldIndex + 2

/-- `PROPERTY_VALUE_COUNT_FIELD_INDEX`. -/
@[simp] def propertyValueCountFieldIndex : Nat := addressIncrementFieldIndex + 2

/-- `PROPERTY_VALUES_FIELD_INDEX`. -/
@[simp] def propertyValuesFieldIndex : Nat := propertyValueCountFieldIndex + 2

/-- `E131_SYNC_FRAMING_LAYER_SEQ_NUM_FIELD_INDEX`. -/
@[simp] def e131SyncFramingLayerSeqNumFieldIndex : Nat :=
  e131PduLengthFlagsLength + e131FramingLayerVectorLength

/-- `E131_SYNC_FRAMING_LAYER_SYNC_ADDRESS_FIELD_INDEX`. -/
@[simp] def e131SyncFramingLayerSyncAddressFieldIndex : Nat :=
  e131SyncFramingLayerSeqNumFieldIndex + 1

/-- `E131_SYNC_FRAMING_LAYER_RESERVE_FIELD_INDEX`. -/
@[simp] def e131SyncFramingLayerReserveFieldIndex : Nat :=
  e131SyncFramingLayerSyncAddressFieldIndex + 2

/-- `E131_SYNC_FRAMING_LAYER_END_INDEX`. -/
@[simp] def e131SyncFramingLayerEndIndex : Nat := e131SyncFramingLayerReserveFieldIndex + 2

/-- `E131_DISCOVERY_FRAMING_LAYER_SOURCE_NAME_FIELD_INDEX`. -/
@[simp] def e131DiscoveryFramingLayerSourceNameFieldIndex : Nat :=
  e131PduLengthFlagsLength + e131FramingLayerVectorLength

/-- `E131_DISCOVERY_FRAMING_LAYER_RESERVE_FIELD_INDEX`. -/
@[simp] def e131DiscoveryFramingLayerReserveFieldIndex : Nat :=
  e131DiscoveryFramingLayerSourceNameFieldIndex + e131SourceNameFieldLength

/-- `E131_DISCOVERY_FRAMING_LAYER_DATA_INDEX`. -/
@[simp] def e131DiscoveryFramingLayerDataIndex : Nat :=
  e131DiscoveryFramingLayerReserveFieldIndex + 4

/-- `E131_DISCOVERY_LAYER_VECTOR_FIELD_INDEX`. -/
@[simp] def e131DiscoveryLayerVectorFieldIndex : Nat := e131PduLengthFlagsLength

/-- `E131_DISCOVERY_LAYER_PAGE_FIELD_INDEX`. -/
@[simp] def e131DiscoveryLayerPageFieldIndex : Nat := e131DiscoveryLayerVectorFieldIndex + 4

/-- `E131_DISCOVERY_LAYER_LAST_PAGE_FIELD_INDEX`. -/
@[simp] def e131DiscoveryLayerLastPageFieldIndex : Nat := e131DiscoveryLayerPageFieldIndex + 1

/-- `E131_DISCOVERY_LAYER_UNIVERSE_LIST_FIELD_INDEX`. -/
@[simp] def e131DiscoveryLayerUniverseListFieldIndex : Nat :=
  e131DiscoveryLayerLastPageFieldIndex + 1

/-! ## Packets -/

/-- `DataPacketDmpLayer`. -/
structure DataPacketDmpLayer where
  propertyValues : List UInt8
  deriving DecidableEq, Repr

/-- `DataPacketFramingLayer`. -/
structure DataPacketFramingLayer where
  sourceName : String
  priority : UInt8
  synchronizationAddress : UInt16
  sequenceNumber : UInt8
  previewData : Bool
  streamTerminated : Bool
  forceSynchronization : Bool
  uni : UInt16
  data : DataPacketDmpLayer
  deriving DecidableEq, Repr

/-- `SynchronizationPacketFramingLayer`. -/
structure SynchronizationPacketFramingLayer where
  sequenceNumber : UInt8
  synchronizationAddress : UInt16
  deriving DecidableEq, Repr

/-- `UniverseDiscoveryPacketUniverseDiscoveryLayer`. -/
structure UniverseDiscoveryPacketUniverseDiscoveryLayer where
  page : UInt8
  lastPage : UInt8
  universes : List UInt16
  deriving DecidableEq, Repr

/-- `UniverseDiscoveryPacketFramingLayer`. -/
structure UniverseDiscoveryPacketFramingLayer where
  sourceName : String
  data : UniverseDiscoveryPacketUniverseDiscoveryLayer
  deriving DecidableEq, Repr

/-- `E131RootLayerData`. -/
inductive E131RootLayerData where
  | dataPacket (data : DataPacketFramingLayer)
  | synchronizationPacket (data : SynchronizationPacketFramingLayer)
  | universeDiscoveryPacket (data : UniverseDiscoveryPacketFramingLayer)
  deriving DecidableEq, Repr

/-- The root layer's vector for each kind of packet. -/
def E131RootLayerData.rootVector : E131RootLayerData → UInt32
  | dataPacket _ => vectorRootE131Data
  | synchronizationPacket _ => vectorRootE131Extended
  | universeDiscoveryPacket _ => vectorRootE131Extended

/-- `E131RootLayer`. -/
structure E131RootLayer where
  cid : Uuid
  data : E131RootLayerData
  deriving DecidableEq, Repr

/-- `AcnRootLayerProtocol`. -/
structure AcnRootLayerProtocol where
  pdu : E131RootLayer
  deriving DecidableEq, Repr

/-! ## Streams -/

/-- The packet types that are numbered. -/
inductive PacketKind where
  | data
  | sync
  deriving DecidableEq, Repr

/-- A numbered stream: a packet type, a source and a universe. -/
structure Stream where
  kind : PacketKind
  cid : Uuid
  uni : UInt16
  deriving DecidableEq

/-- The stream a packet is numbered in, and its number. -/
def AcnRootLayerProtocol.numbered (p : AcnRootLayerProtocol) : Option (Stream × UInt8) :=
  match p.pdu.data with
  | .dataPacket d => some ({ kind := .data, cid := p.pdu.cid, uni := d.uni }, d.sequenceNumber)
  | .synchronizationPacket d =>
    some ({ kind := .sync, cid := p.pdu.cid, uni := d.synchronizationAddress }, d.sequenceNumber)
  | .universeDiscoveryPacket _ => none

/-- The packet is numbered in the stream. -/
def AcnRootLayerProtocol.isOn (p : AcnRootLayerProtocol) (k : Stream) : Bool :=
  p.numbered.any (·.1 = k)

end Sacn
