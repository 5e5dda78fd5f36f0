/-!
# The error types (`error.rs`, `sacn_parse_pack_error.rs`)

`ParsePacketError` and `SacnError`, with the payloads the code gives them. The variants that only
socket set-up code returns (`IpVersionError`, `UnsupportedIpVersion`, `OsOperationUnsupported`,
`SourceCorrupt`) have no place here. `Str` and `Uuid` wrap errors of other crates whose payload
nothing in the crate reads.
-/

namespace Sacn

/-- `sacn_parse_pack_error::ParsePacketError`. -/
inductive ParsePacketError where
  | parseInvalidData (msg : String)
  | parseInvalidPriority (priority : UInt8)
  | parseInvalidPage (msg : String)
  | parseInvalidSyncAddr (addr : UInt16)
  | parseInvalidUniverse (uni : UInt16)
  | parseInvalidUniverseOrder (msg : String)
  | packInvalidData (msg : String)
  | packBufferInsufficient (msg : String)
  | parseInsufficientData (msg : String)
  | parsePduInvalidFlags (flags : UInt8)
  | pduInvalidLength (len : Nat)
  | pduInvalidVector (vec : UInt32)
  | sourceNameNotNullTerminated
  deriving DecidableEq, Repr

/-- `uuid::Uuid`: 16 bytes. -/
structure Uuid where
  bytes : List UInt8
  length_eq : bytes.length = 16
  deriving DecidableEq, Repr

/-- The identifier of sixteen equal bytes. -/
def Uuid.repeated (b : UInt8) : Uuid := ⟨List.replicate 16 b, List.length_replicate⟩

/-- `std::io::ErrorKind`, as far as the crate tells kinds apart. -/
inductive IoErrorKind where
  | wouldBlock
  | timedOut
  | other
  deriving DecidableEq, Repr

/-- `error::errors::SacnError`. -/
inductive SacnError where
  | io (kind : IoErrorKind) (msg : String)
  | str
  | uuid
  | tooManyBytesRead (read bufLen : Nat)
  | sacnParsePackError (e : ParsePacketError)
  | malformedSourceName (msg : String)
  | invalidPriority (priority : UInt8)
  | sourcesExceededError (sources : Nat)
  | sourceDiscovered (name : String)
  | exceedUniverseCapacity (len : Nat)
  | illegalUniverse (uni : UInt16)
  | illegalSyncUniverse (uni : UInt16)
  | universeNotRegistered (uni : UInt16)
  | senderAlreadyTerminated (msg : String)
  | dmxMergeError
  | outOfSequence (received last : UInt8) (diff : Int)
  | universeTerminated (cid : Uuid) (uni : UInt16)
  | universeTimeout (cid : Uuid) (uni : UInt16)
  | universeNotFound (uni : UInt16)
  | sourceNotFound (cid : Uuid)
  | dataArrayEmpty
  | universeListEmpty
  | sourceLimitZero
  | noDataUniversesRegistered
  deriving DecidableEq, Repr

end Sacn
