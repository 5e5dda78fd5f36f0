import Sacn.Receive.Network

/-!
# The errors of a datagram (`packet.rs`, `receive.rs`)

Parsing a datagram reports what is wrong with it, and nothing else: none of its errors is an error
of the socket, which the receive loop would take for an idle read.

* `AcnRootLayerProtocol.raises_parse`, **`recvDatagram_raises`**: the errors of the layers, put
  together as the layers are.
-/

namespace Sacn

open Rust Rust.Outcome

/-- An error about the bytes of a packet. -/
inductive SacnError.OfPacket : SacnError → Prop where
  | malformed (e : ParsePacketError) : OfPacket (.sacnParsePackError e)
  | name : OfPacket .str
  | cid : OfPacket .uuid
  | long (read bufLen : Nat) : OfPacket (.tooManyBytesRead read bufLen)

/-! ## Reading bytes -/

section Reads

variable {ε α : Type} {P : ε → Prop}

theorem raises_slice (buf : List α) (a b : Nat) : Raises P (slice buf a b : Outcome ε _) := by
  unfold slice
  split
  · exact .ok _
  · exact .panic

theorem raises_sliceFrom (buf : List α) (a : Nat) :
    Raises P (sliceFrom buf a : Outcome ε _) := by
  unfold sliceFrom
  split
  · exact .ok _
  · exact .panic

theorem raises_index (buf : List α) (i : Nat) : Raises P (index buf i : Outcome ε _) := by
  unfold index
  cases buf[i]? with
  | some x => exact .ok x
  | none => exact .panic

theorem raises_readU16In (buf : List UInt8) (i j : Nat) :
    Raises P (readU16In buf i j : Outcome ε _) := by
  refine .bind (raises_slice buf i j) fun word => ?_
  unfold readU16
  split
  · exact .ok _
  · exact .panic

theorem raises_readUint (buf : List UInt8) (n : Nat) :
    Raises P (readUint buf n : Outcome ε _) := by
  unfold readUint
  split
  · exact .ok _
  · exact .panic

end Reads

/-! ## The layers -/

theorem raises_pduInfo (buf : List UInt8) (n : Nat) : Raises SacnError.OfPacket (pduInfo buf n) :=
  .bind (.throwIf (.malformed _)) fun _ => .bind (raises_index _ _) fun _ =>
    .bind (.throwIf (.malformed _)) fun _ => .bind (raises_readU16In _ _ _) fun _ =>
      .bind (raises_sliceFrom _ _) fun _ => .bind (raises_readUint _ _) fun _ => .ok _

theorem raises_parseSourceNameStr (buf : List UInt8) :
    Raises SacnError.OfPacket (parseSourceNameStr buf) := by
  unfold parseSourceNameStr
  simp only
  -- the scan reaches the end of the field, or finds a zero
  split
  · refine .bind (raises_index _ _) fun _ => .bind (.throwIf (.malformed _)) fun _ =>
      .bind (raises_slice _ _ _) fun name => ?_
    cases fromUtf8 name with
    | some s => exact .ok s
    | none => exact .err .name
  · refine .bind (raises_slice _ _ _) fun name => ?_
    cases fromUtf8 name with
    | some s => exact .ok s
    | none => exact .err .name

theorem DataPacketDmpLayer.raises_parse (buf : List UInt8) :
    Raises SacnError.OfPacket (DataPacketDmpLayer.parse buf) :=
  .bind (raises_pduInfo _ _) fun _ => .bind (.throwIf (.malformed _)) fun _ =>
    .bind (.throwIf (.malformed _)) fun _ => .bind (raises_index _ _) fun _ =>
      .bind (.throwIf (.malformed _)) fun _ => .bind (raises_readU16In _ _ _) fun _ =>
        .bind (.throwIf (.malformed _)) fun _ => .bind (raises_readU16In _ _ _) fun _ =>
          .bind (.throwIf (.malformed _)) fun _ => .bind (raises_readU16In _ _ _) fun _ =>
            .bind (.throwIf (.malformed _)) fun _ => .bind (.throwIf (.malformed _)) fun _ =>
              .bind (raises_slice _ _ _) fun _ => .ok _

theorem DataPacketFramingLayer.raises_parse (buf : List UInt8) :
    Raises SacnError.OfPacket (DataPacketFramingLayer.parse buf) :=
  .bind (raises_pduInfo _ _) fun _ => .bind (.throwIf (.malformed _)) fun _ =>
    .bind (.throwIf (.malformed _)) fun _ =>
      .bind (.bind (raises_slice _ _ _) raises_parseSourceNameStr) fun _ =>
        .bind (raises_index _ _) fun _ => .bind (.throwIf (.malformed _)) fun _ =>
          .bind (raises_readU16In _ _ _) fun _ => .bind (.throwIf (.malformed _)) fun _ =>
            .bind (raises_index _ _) fun _ => .bind (raises_index _ _) fun _ =>
              .bind (raises_readU16In _ _ _) fun _ => .bind (.throwIf (.malformed _)) fun _ =>
                .bind (.bind (raises_slice _ _ _) DataPacketDmpLayer.raises_parse) fun _ => .ok _

theorem SynchronizationPacketFramingLayer.raises_parse (buf : List UInt8) :
    Raises SacnError.OfPacket (SynchronizationPacketFramingLayer.parse buf) :=
  .bind (raises_pduInfo _ _) fun _ => .bind (.throwIf (.malformed _)) fun _ =>
    .bind (.throwIf (.malformed _)) fun _ => .bind (.throwIf (.malformed _)) fun _ =>
      .bind (raises_index _ _) fun _ => .bind (raises_readU16In _ _ _) fun _ =>
        .bind (.throwIf (.malformed _)) fun _ => .ok _

theorem raises_parseUniverseWords (buf : List UInt8) (n : Nat) : ∀ (i : Nat) (last : Int),
    Raises SacnError.OfPacket (parseUniverseWords buf i last n) := by
  induction n with
  | zero => exact fun _ _ => .ok _
  | succ n ih =>
    intro i last
    refine .bind (raises_readU16In _ _ _) fun u => ?_
    split
    · exact .bind (ih _ _) fun _ => .ok _
    · exact .err (.malformed _)

theorem UniverseDiscoveryPacketUniverseDiscoveryLayer.raises_parse (buf : List UInt8) :
    Raises SacnError.OfPacket (UniverseDiscoveryPacketUniverseDiscoveryLayer.parse buf) :=
  .bind (raises_pduInfo _ _) fun _ => .bind (.throwIf (.malformed _)) fun _ =>
    .bind (.throwIf (.malformed _)) fun _ => .bind (.throwIf (.malformed _)) fun _ =>
      .bind (raises_index _ _) fun _ => .bind (raises_index _ _) fun _ =>
        .bind (.throwIf (.malformed _)) fun _ => .bind (raises_sliceFrom _ _) fun list =>
          .bind (.bind (.throwIf (.malformed _)) fun _ =>
            raises_parseUniverseWords list _ _ _) fun _ => .ok _

theorem UniverseDiscoveryPacketFramingLayer.raises_parse (buf : List UInt8) :
    Raises SacnError.OfPacket (UniverseDiscoveryPacketFramingLayer.parse buf) :=
  .bind (raises_pduInfo _ _) fun _ => .bind (.throwIf (.malformed _)) fun _ =>
    .bind (.throwIf (.malformed _)) fun _ => .bind (.throwIf (.malformed _)) fun _ =>
      .bind (.bind (raises_slice _ _ _) raises_parseSourceNameStr) fun _ =>
        .bind (.bind (raises_slice _ _ _)
          UniverseDiscoveryPacketUniverseDiscoveryLayer.raises_parse) fun _ => .ok _

theorem E131RootLayer.raises_parseExtended (buf : List UInt8) :
    Raises SacnError.OfPacket (E131RootLayer.parseExtended buf) := by
  refine .bind (raises_pduInfo _ _) fun info => .bind (.throwIf (.malformed _)) fun _ => ?_
  split
  · exact .bind (SynchronizationPacketFramingLayer.raises_parse _) fun _ => .ok _
  · split
    · exact .bind (UniverseDiscoveryPacketFramingLayer.raises_parse _) fun _ => .ok _
    · exact .err (.malformed _)

theorem E131RootLayer.raises_parseData (vector : UInt32) (buf : List UInt8) :
    Raises SacnError.OfPacket (E131RootLayer.parseData vector buf) := by
  unfold E131RootLayer.parseData
  split
  · exact .bind (DataPacketFramingLayer.raises_parse _) fun _ => .ok _
  · split
    · exact E131RootLayer.raises_parseExtended _
    · exact .err (.malformed _)

theorem raises_fromSlice (bytes : List UInt8) :
    Raises SacnError.OfPacket (Uuid.fromSlice bytes) := by
  unfold Uuid.fromSlice
  split
  · exact .ok _
  · exact .err .cid

theorem E131RootLayer.raises_parse (buf : List UInt8) :
    Raises SacnError.OfPacket (E131RootLayer.parse buf) :=
  .bind (raises_pduInfo _ _) fun info => .bind (.throwIf (.malformed _)) fun _ =>
    .bind (.throwIf (.malformed _)) fun _ =>
      .bind (.bind (raises_slice _ _ _) raises_fromSlice) fun _ =>
        .bind (.bind (raises_slice _ _ _) (E131RootLayer.raises_parseData info.vector)) fun _ =>
          .ok _

/-- **The parser's errors** are about the bytes. -/
theorem AcnRootLayerProtocol.raises_parse (buf : List UInt8) :
    Raises SacnError.OfPacket (AcnRootLayerProtocol.parse buf) :=
  .bind (.throwIf (.malformed _)) fun _ => .bind (raises_readU16In _ _ _) fun _ =>
    .bind (.throwIf (.malformed _)) fun _ => .bind (raises_readU16In _ _ _) fun _ =>
      .bind (.throwIf (.malformed _)) fun _ => .bind (raises_slice _ _ _) fun _ =>
        .bind (.throwIf (.malformed _)) fun _ =>
          .bind (.bind (raises_sliceFrom _ _) E131RootLayer.raises_parse) fun _ => .ok _

/-- **The errors of a datagram** are about its bytes. -/
theorem recvDatagram_raises (datagram : List UInt8) :
    Raises SacnError.OfPacket (recvDatagram datagram) :=
  .bind (.throwIf (.long _ _)) fun _ => AcnRootLayerProtocol.raises_parse _

end Sacn
