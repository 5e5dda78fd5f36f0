import Sacn.Packet.Reencode

/-!
# Taking a datagram off the socket (`receive.rs`)

`SacnReceiver::recv` zeroes a buffer of `RCV_BUF_DEFAULT_SIZE` bytes, and
`SacnNetworkReceiver::recv` lets the socket read a datagram into it and parses the buffer. The
number of bytes read is checked against the buffer's size and not used again, so the parser also
sees the zeros behind the datagram. The socket is assumed to copy the datagram to the front of the
buffer and to return its length.

* `recvDatagram_eq_ok`: what `recv` accepts, in terms of the wire format.
* **`recvDatagram_agrees_iff`**: `recv` only accepts what parsing the datagram itself accepts iff
  the datagram is not completed with zeros.
* `cutDatagram_completed`: a datagram cut inside its property values is completed with zeros.
-/

namespace Sacn

open Rust Rust.Outcome

/-- `RCV_BUF_DEFAULT_SIZE`. -/
def rcvBufDefaultSize : Nat := 1144

/-- `Read::read` of a datagram: the number of bytes read, and the buffer. -/
def socketRead (datagram buf : List UInt8) : Nat × List UInt8 :=
  (min datagram.length buf.length, datagram.take buf.length ++ buf.drop datagram.length)

/-- `SacnNetworkReceiver::recv`, when the socket has a datagram. -/
def SacnNetworkReceiver.recv (datagram buf : List UInt8) :
    Outcome SacnError AcnRootLayerProtocol := do
  let (n, buf) := socketRead datagram buf
  throwIf (n > rcvBufDefaultSize) (.tooManyBytesRead n buf.length)
  AcnRootLayerProtocol.parse buf

/-- The receive step of `SacnReceiver::recv`: the buffer is zeroed first. -/
def recvDatagram (datagram : List UInt8) : Outcome SacnError AcnRootLayerProtocol :=
  SacnNetworkReceiver.recv datagram (List.replicate rcvBufDefaultSize 0)

/-- What the parser gets to see of a datagram. -/
def padded (datagram : List UInt8) : List UInt8 :=
  datagram ++ List.replicate (rcvBufDefaultSize - datagram.length) 0

theorem recvDatagram_eq {d : List UInt8} (h : d.length ≤ rcvBufDefaultSize) :
    recvDatagram d = AcnRootLayerProtocol.parse (padded d) := by
  have htake : d.take (List.replicate rcvBufDefaultSize (0 : UInt8)).length = d :=
    List.take_of_length_le (by simpa using h)
  unfold recvDatagram SacnNetworkReceiver.recv socketRead
  simp only [List.length_replicate]
  rw [throwIf_neg (by omega), ok_bind, List.drop_replicate, padded]
  rw [List.length_replicate] at htake
  rw [htake]

theorem recvDatagram_eq_ok {d : List UInt8} {p : AcnRootLayerProtocol}
    (h : d.length ≤ rcvBufDefaultSize) : recvDatagram d = .ok p ↔ p.Wire (padded d) := by
  rw [recvDatagram_eq h, AcnRootLayerProtocol.parse_eq_ok]

/-- What a datagram is parsed to is in the parser's domain. -/
theorem recvDatagram_inDomain {d : List UInt8} {p : AcnRootLayerProtocol}
    (h : recvDatagram d = .ok p) : p.InDomain := by
  obtain ⟨_, -, hparse⟩ := bind_eq_ok.mp h
  exact (AcnRootLayerProtocol.parse_eq_ok.mp hparse).inDomain

/-- Every packet of the decoder's domain fits a receive buffer, and is received as it was sent. -/
theorem recvDatagram_encode {p : AcnRootLayerProtocol} (h : p.InDomain) :
    p.encode.length ≤ rcvBufDefaultSize ∧ recvDatagram p.encode = .ok p := by
  have hle := E131RootLayerData.len_le h
  have hlength : p.encode.length = 38 + p.pdu.data.len :=
    (AcnRootLayerProtocol.length_encode h).trans (by
      show 16 + (22 + p.pdu.data.len) = 38 + p.pdu.data.len
      omega)
  have hfits : p.encode.length ≤ rcvBufDefaultSize := by
    rw [hlength]
    show 38 + p.pdu.data.len ≤ 1144
    omega
  refine ⟨hfits, ?_⟩
  rw [recvDatagram_eq hfits]
  exact AcnRootLayerProtocol.parse_encode h _

/-- The length the root PDU of a packet declares. -/
def rootLength (buf : List UInt8) : Nat := (u16At (buf.drop 16) 0 &&& 0x0fff).toNat

/-- A PDU header does not depend on what follows its PDU. -/
theorem PduHeader.of_append {d r : List UInt8} {n length : Nat} {vector : UInt32}
    (h : PduHeader (d ++ r) n length vector) (hn : 2 + n ≤ d.length) :
    PduHeader d n length vector := by
  have hflags := h.flags
  have hlen := h.length_eq
  have hvec := h.vector_eq
  rw [byteAt_append_left (by omega)] at hflags
  rw [u16At_append_left (by omega)] at hlen
  rw [extract_append_left hn] at hvec
  exact ⟨hn, hflags, hlen, hvec⟩

theorem AcnRootLayerProtocol.Wire.of_append {p : AcnRootLayerProtocol} {d r : List UInt8}
    (h : p.Wire (d ++ r)) (hd : 16 ≤ d.length) (hroot : 16 + rootLength (d ++ r) ≤ d.length) :
    p.Wire d := by
  obtain ⟨length, hw⟩ := h.pdu
  have hpre := h.preamble
  have hpost := h.postamble
  have hid := h.identifier
  have hdrop : (d ++ r).drop 16 = d.drop 16 ++ r := List.drop_append_of_le_length hd
  have hlength : rootLength (d ++ r) = length := hw.header.length_eq
  have hlong := hw.long
  have hlen : (d.drop 16).length = d.length - 16 := List.length_drop
  have hcid := hw.cid
  have hdata := hw.data
  have hheader := hw.header
  rw [u16At_append_left (by omega)] at hpre hpost
  rw [extract_append_left (by omega)] at hid
  rw [hdrop, extract_append_left (by omega)] at hcid hdata
  rw [hdrop] at hheader
  exact ⟨hd, hpre, hpost, hid, length, hheader.of_append (by omega), by omega, hlong, hcid, hdata⟩

/-- The datagram ends before its root PDU does, and with zeros for the missing bytes it is the
wire image of a packet. -/
def CompletedWithZeros (d : List UInt8) : Prop :=
  d.length < 16 + rootLength (padded d) ∧ ∃ p : AcnRootLayerProtocol, p.Wire (padded d)

/-- **`recv` accepts only what parsing the datagram accepts iff the datagram is not completed with
zeros.** -/
theorem recvDatagram_agrees_iff {d : List UInt8} (h : d.length ≤ rcvBufDefaultSize) :
    (∀ p, recvDatagram d = .ok p → AcnRootLayerProtocol.parse d = .ok p) ↔
      ¬ CompletedWithZeros d := by
  simp only [recvDatagram_eq_ok h, AcnRootLayerProtocol.parse_eq_ok]
  constructor
  · rintro hagree ⟨hcut, p, hp⟩
    have hd := hagree p hp
    obtain ⟨length, hw⟩ := hd.pdu
    have hlen : (d.drop 16).length = d.length - 16 := List.length_drop
    have hpresent := hd.present
    have hfits := hw.fits
    have hlong := hw.long
    have hroot : rootLength (padded d) = length := by
      rw [← hw.header.length_eq, rootLength, padded, List.drop_append_of_le_length hpresent,
        u16At_append_left (by omega)]
    omega
  · intro hnot p hp
    by_cases hcut : d.length < 16 + rootLength (padded d)
    · exact absurd ⟨hcut, p, hp⟩ hnot
    · exact hp.of_append (by omega) (not_lt.mp hcut)

/-- A data packet whose last two slots are dark. -/
def cutPacket : AcnRootLayerProtocol :=
  { pdu := { cid := .repeated 7
             data := .dataPacket
               { sourceName := "Stage", priority := 100, synchronizationAddress := 0,
                 sequenceNumber := 3, previewData := false, streamTerminated := false,
                 forceSynchronization := false, uni := 1,
                 data := { propertyValues := [0, 200, 0, 0] } } } }

theorem cutPacket_agrees_iff :
    (∀ p, recvDatagram cutPacket.encode = .ok p →
      AcnRootLayerProtocol.parse cutPacket.encode = .ok p) ↔ ¬ CompletedWithZeros cutPacket.encode :=
  recvDatagram_agrees_iff (by decide +kernel)

/-- The same bytes without the last two, as a packet with two lit slots leaves them when it is cut
there. -/
def cutDatagram : List UInt8 := cutPacket.encode.take 127

theorem cutDatagram_completed :
    ¬ ∀ d : List UInt8, d.length ≤ rcvBufDefaultSize →
      ∀ p, recvDatagram d = .ok p → AcnRootLayerProtocol.parse d = .ok p := by
  intro hagree
  have hlen : cutDatagram.length = 127 := by decide +kernel
  have hle : cutDatagram.length ≤ rcvBufDefaultSize := by
    rw [hlen]
    decide
  have hencode : cutDatagram ++ List.replicate 2 0 = cutPacket.encode := by decide
  have hpadded : padded cutDatagram = cutPacket.encode ++ List.replicate 1015 0 := by
    rw [padded, hlen, ← hencode, List.append_assoc, List.replicate_append_replicate]
    rfl
  have hdomain : cutPacket.InDomain :=
    ⟨⟨by decide, by decide⟩, by decide, by decide, by decide, by decide⟩
  have hrecv : recvDatagram cutDatagram = .ok cutPacket := by
    rw [recvDatagram_eq_ok hle, hpadded]
    exact AcnRootLayerProtocol.wire_encode hdomain _
  obtain ⟨length, hw⟩ := (AcnRootLayerProtocol.parse_eq_ok.mp (hagree _ hle _ hrecv)).pdu
  -- the root PDU declares 113 bytes, and 111 are there
  have hroot : length = 113 := by
    rw [← hw.header.length_eq]
    decide
  have hfits := hw.fits
  rw [List.length_drop] at hfits
  omega

end Sacn
