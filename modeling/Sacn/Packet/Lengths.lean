import Sacn.Packet.Ignored
import Sacn.Packet.Reencode

/-!
# Wrong lengths (`packet.rs`)

Most layers only ask that their length is not larger than what is left. In the packed bytes of a
packet there is no slack between the PDUs, so a length that is too small leaves too little for the
layer inside.

* `Nested`: how the lengths a parsed buffer declares fit into each other.
* `AcnRootLayerProtocol.Wire.exact`: in a buffer no longer than the packet's encoding, they fit
  without slack.
* **`wrong_length_noticed`**: the packed bytes with one length or the value count changed do not
  parse.
-/

namespace Sacn

open Rust Rust.Outcome

/-! ## Overwriting a field -/

/-- `b` with the 16-bit field at `i` overwritten. -/
def withU16 (b : List UInt8) (i : Nat) (v : UInt16) : List UInt8 :=
  b.take i ++ beBytes 2 v.toNat ++ b.drop (i + 2)

/-- `b` with the 12-bit length of the PDU at `i` overwritten. -/
def withLength (b : List UInt8) (i v : Nat) : List UInt8 := withU16 b i (flagsAndLength v)

section Overwrite

variable {b : List UInt8} {i : Nat} {v : UInt16}

theorem length_withU16 (h : i + 2 ≤ b.length) : (withU16 b i v).length = b.length := by
  unfold withU16
  simp only [List.length_append, List.length_take, length_beBytes, List.length_drop]
  omega

theorem u16At_withU16 (h : i + 2 ≤ b.length) : u16At (withU16 b i v) i = v := by
  have htake : (b.take i).length = i := by
    rw [List.length_take]
    omega
  unfold withU16
  rw [u16At_append_left (by simp [htake]), u16At_append_right htake.le, htake, Nat.sub_self]
  exact u16At_field rfl

/-- The other fields are what they were. -/
theorem extract_withU16 {s e : Nat} (h : i + 2 ≤ b.length) (hse : e ≤ i ∨ i + 2 ≤ s ∧ s ≤ e) :
    (withU16 b i v).extract s e = b.extract s e := by
  have htake : (b.take i).length = i := by
    rw [List.length_take]
    omega
  unfold withU16
  rcases hse with he | ⟨hs, he⟩
  · have hb : b.extract s e = (b.take i).extract s e := by
      rw [← extract_append_left (w := b.take i) (r := b.drop i) (by omega), List.take_append_drop]
    rw [List.append_assoc, extract_append_left (by omega), hb]
  · have hlen : (b.take i ++ beBytes 2 v.toNat).length = i + 2 := by
      rw [List.length_append, htake, length_beBytes]
    rw [extract_append_right (by omega), hlen, extract_drop, Nat.add_sub_cancel' hs,
      Nat.add_sub_cancel' (hs.trans he)]

theorem u16At_withU16_other {j : Nat} (h : i + 2 ≤ b.length) (hj : j + 2 ≤ i ∨ i + 2 ≤ j) :
    u16At (withU16 b i v) j = u16At b j := by
  unfold u16At
  rw [extract_withU16 h (hj.imp id fun hj => ⟨hj, Nat.le_add_right j 2⟩)]

theorem pduLengthAt_withLength {n : Nat} (h : i + 2 ≤ b.length) (hn : n < 4096) :
    pduLengthAt (withLength b i n) i = n := by
  have hand : (flagsAndLength n &&& 0x0fff).toNat = (flagsAndLength n).toNat % 2 ^ 12 := by
    rw [UInt16.toNat_and]
    exact Nat.and_two_pow_sub_one_eq_mod _ 12
  unfold pduLengthAt withLength
  rw [u16At_withU16 h, hand, flagsAndLength_toNat hn]
  omega

theorem pduLengthAt_withU16 {j : Nat} (h : i + 2 ≤ b.length) (hj : j + 2 ≤ i ∨ i + 2 ≤ j) :
    pduLengthAt (withU16 b i v) j = pduLengthAt b j := by
  unfold pduLengthAt
  rw [u16At_withU16_other h hj]

end Overwrite

/-! ## How lengths fit -/

/-- The 32-bit vector at `i`. -/
def vectorAt (b : List UInt8) (i : Nat) : UInt32 :=
  (UInt64.ofNat (beNat (b.extract i (i + 4)))).toUInt32

/-- The vectors of a packet of this kind, and how the lengths in its framing layer fit. -/
def E131RootLayerData.Nested (b : List UInt8) : E131RootLayerData → Prop
  | dataPacket _ => vectorAt b 18 = 4 ∧ 77 + pduLengthAt b 115 ≤ pduLengthAt b 38 ∧
      pduLengthAt b 115 = 10 + (u16At b 123).toNat
  | synchronizationPacket _ => vectorAt b 18 = 8 ∧ vectorAt b 40 = 1 ∧ pduLengthAt b 38 = 11
  | universeDiscoveryPacket _ => vectorAt b 18 = 8 ∧ vectorAt b 40 = 2 ∧
      82 ≤ pduLengthAt b 38 ∧ pduLengthAt b 38 = 74 + pduLengthAt b 112

/-- How the lengths that a parsed buffer declares fit into each other. -/
structure Nested (data : E131RootLayerData) (b : List UInt8) : Prop where
  root : 16 + pduLengthAt b 16 ≤ b.length
  framing : 22 + pduLengthAt b 38 ≤ pduLengthAt b 16
  data : data.Nested b

section Nested

variable {b : List UInt8} {length : Nat}

theorem PduHeader.vectorAt_framing {l : Nat} {vector : UInt32} (hlong : 28 ≤ length)
    (h : PduHeader (framing b length) 4 l vector) : vectorAt b 40 = vector := by
  have hvector := h.vector_eq
  rw [framing, extract_extract (by omega), extract_drop] at hvector
  exact hvector

theorem E131RootLayerData.Wire.nested {data : E131RootLayerData}
    (h : data.Wire (framing b length)) (hb : (framing b length).length = length - 22)
    (hroot : vectorAt b 18 = data.rootVector) :
    pduLengthAt b 38 ≤ length - 22 ∧ data.Nested b := by
  cases data with
  | dataPacket d =>
    obtain ⟨l, hat⟩ := h
    have hfits := hat.fits
    obtain ⟨hframing, hdata, hdmp⟩ := hat.pduLengths hb
    have hcount := hat.data.count
    rw [u16At_extract (by omega), framing, u16At_extract (by omega), u16At_drop] at hcount
    exact ⟨by omega, hroot, by omega, hdata.trans (congrArg (10 + ·) hcount.symm)⟩
  | synchronizationPacket d =>
    have hfits := SynchronizationPacketFramingLayer.Wire.fits h
    have hframing := SynchronizationPacketFramingLayer.Wire.pduLength h hb
    have hheader := SynchronizationPacketFramingLayer.Wire.header h
    exact ⟨by omega, hroot, hheader.vectorAt_framing (by omega), hframing⟩
  | universeDiscoveryPacket d =>
    obtain ⟨l, hat⟩ := h
    have hfits := hat.fits
    have hlong := hat.long
    obtain ⟨hframing, hdata⟩ := hat.pduLengths hb
    exact ⟨by omega, hroot, hat.header.vectorAt_framing (by omega), by omega, by omega⟩

/-- **The lengths of a parsed buffer are nested.** -/
theorem AcnRootLayerProtocol.Wire.nested {p : AcnRootLayerProtocol} (h : p.Wire b) :
    Nested p.pdu.data b := by
  obtain ⟨length, hroot⟩ := h.pdu
  have hfits := hroot.fits
  have hlong := hroot.long
  have hlength := hroot.pduLength
  have hvector : vectorAt b 18 = p.pdu.data.rootVector := by
    have hv := hroot.header.vector_eq
    rw [extract_drop] at hv
    exact hv
  obtain ⟨hframing, hdata⟩ :=
    E131RootLayerData.Wire.nested hroot.data (length_extract_of_le hfits) hvector
  rw [List.length_drop] at hfits
  exact ⟨by omega, by omega, hdata⟩

/-- The DMP layer ends where its framing layer does. -/
def E131RootLayerData.Tight (b : List UInt8) : E131RootLayerData → Prop
  | dataPacket _ => pduLengthAt b 38 = 77 + pduLengthAt b 115
  | _ => True

theorem E131RootLayerData.Wire.tight {data : E131RootLayerData} (h : data.Wire (framing b length))
    (hb : (framing b length).length = length - 22) (hlen : length = 22 + data.len) :
    pduLengthAt b 38 = data.len ∧ data.Tight b := by
  cases data with
  | dataPacket d =>
    obtain ⟨l, hat⟩ := h
    have hfits := hat.fits
    have hl : (dataPacket d).len = 77 + (10 + d.data.propertyValues.length) := rfl
    obtain ⟨hframing, hdata, hdmp⟩ := hat.pduLengths hb
    have htight : pduLengthAt b 38 = 77 + pduLengthAt b 115 := by omega
    exact ⟨by omega, htight⟩
  | synchronizationPacket d =>
    exact ⟨SynchronizationPacketFramingLayer.Wire.pduLength h hb, trivial⟩
  | universeDiscoveryPacket d =>
    obtain ⟨l, hat⟩ := h
    have hfits := hat.fits
    have hlong := hat.long
    have hl : (universeDiscoveryPacket d).len = 74 + (8 + d.data.universes.length * 2) := rfl
    have hcount := hat.data.len_eq
    rw [length_extract_of_le hfits] at hcount
    obtain ⟨hframing, -⟩ := hat.pduLengths hb
    exact ⟨by omega, trivial⟩

/-- Lengths that fit without slack. -/
structure Exact (data : E131RootLayerData) (b : List UInt8) : Prop where
  root : b.length = 16 + pduLengthAt b 16
  framing : pduLengthAt b 16 = 22 + pduLengthAt b 38
  tight : data.Tight b
  nested : data.Nested b

/-- **A buffer no longer than the packet's encoding has no slack.** -/
theorem AcnRootLayerProtocol.Wire.exact {p : AcnRootLayerProtocol} (h : p.Wire b)
    (hlen : b.length = p.len) : Exact p.pdu.data b := by
  have hnested := h.nested.data
  have hpresent := h.present
  obtain ⟨length, hroot⟩ := h.pdu
  have hfits := hroot.fits
  have hlong := hroot.long
  have hlength := hroot.pduLength
  have hl : p.len = 16 + (22 + p.pdu.data.len) := rfl
  have hb : (framing b length).length = length - 22 := length_extract_of_le hfits
  have hle : p.pdu.data.len ≤ (framing b length).length := hroot.data.len_le
  rw [List.length_drop] at hfits
  obtain ⟨hframing, htight⟩ := E131RootLayerData.Wire.tight hroot.data hb (by omega)
  exact ⟨by omega, by omega, htight, hnested⟩

end Nested

/-! ## One wrong length -/

/-- The positions of the 12-bit lengths of a packet: the root layer, the framing layer, and the DMP
or the discovery layer. -/
def E131RootLayerData.lengthFields : E131RootLayerData → List Nat
  | dataPacket _ => [16, 38, 115]
  | synchronizationPacket _ => [16, 38]
  | universeDiscoveryPacket _ => [16, 38, 112]

/-- The position of the property value count. -/
def E131RootLayerData.countFields : E131RootLayerData → List Nat
  | dataPacket _ => [123]
  | _ => []

/-- The kind of a packet is told by its vectors. -/
theorem Nested.transfer {b b' : List UInt8} {data data' : E131RootLayerData} (h : Nested data b)
    (h' : Nested data' b') (hroot : vectorAt b' 18 = vectorAt b 18)
    (hframing : vectorAt b' 40 = vectorAt b 40) : Nested data b' := by
  refine ⟨h'.root, h'.framing, ?_⟩
  have hkind := h.data
  have hkind' := h'.data
  unfold E131RootLayerData.Nested at hkind hkind' ⊢
  rw [hroot, hframing] at hkind' ⊢
  cases data with
  | dataPacket d =>
    cases data' with
    | dataPacket d' => exact hkind'
    | _ => exact absurd (hkind.1.symm.trans hkind'.1) (by decide)
  | synchronizationPacket d =>
    cases data' with
    | dataPacket d' => exact absurd (hkind.1.symm.trans hkind'.1) (by decide)
    | synchronizationPacket d' => exact hkind'
    | universeDiscoveryPacket d' => exact absurd (hkind.2.1.symm.trans hkind'.2.1) (by decide)
  | universeDiscoveryPacket d =>
    cases data' with
    | dataPacket d' => exact absurd (hkind.1.symm.trans hkind'.1) (by decide)
    | synchronizationPacket d' => exact absurd (hkind.2.1.symm.trans hkind'.2.1) (by decide)
    | universeDiscoveryPacket d' => exact hkind'

section Noticed

variable {b : List UInt8} {data : E131RootLayerData} {i : Nat}

/-- Every length field is inside the buffer, and is not one of the vectors. -/
theorem Exact.field (h : Exact data b) (hi : i ∈ data.lengthFields ∨ i ∈ data.countFields) :
    i + 2 ≤ b.length ∧ (i + 2 ≤ 18 ∨ 22 ≤ i) ∧ (i + 2 ≤ 40 ∨ 44 ≤ i) := by
  obtain ⟨hroot, hframing, htight, hnested⟩ := h
  cases data with
  | dataPacket d =>
    obtain ⟨-, hdmp, hcount⟩ := hnested
    simp only [E131RootLayerData.lengthFields, E131RootLayerData.countFields, List.mem_cons,
      List.not_mem_nil, or_false] at hi
    omega
  | synchronizationPacket d =>
    obtain ⟨-, -, hlength⟩ := hnested
    simp only [E131RootLayerData.lengthFields, E131RootLayerData.countFields, List.mem_cons,
      List.not_mem_nil, or_false] at hi
    omega
  | universeDiscoveryPacket d =>
    obtain ⟨-, -, hlong, hlength⟩ := hnested
    simp only [E131RootLayerData.lengthFields, E131RootLayerData.countFields, List.mem_cons,
      List.not_mem_nil, or_false] at hi
    omega

/-- With one length changed, the lengths do not fit any more. -/
theorem Exact.length_noticed {n : Nat} (h : Exact data b) (hi : i ∈ data.lengthFields)
    (hn : n < 4096) (hne : n ≠ pduLengthAt b i) : ¬ Nested data (withLength b i n) := by
  have hfield := (h.field (.inl hi)).1
  obtain ⟨hroot, hframing, htight, hnested⟩ := h
  rintro ⟨hroot', hframing', hnested'⟩
  have hself := pduLengthAt_withLength hfield hn
  have hother : ∀ j, j + 2 ≤ i ∨ i + 2 ≤ j →
      pduLengthAt (withLength b i n) j = pduLengthAt b j := fun j hj => pduLengthAt_withU16 hfield hj
  have hlength : (withLength b i n).length = b.length := length_withU16 hfield
  cases data with
  | dataPacket d =>
    obtain ⟨-, hdmp, hcount⟩ := hnested
    obtain ⟨-, hdmp', hcount'⟩ := hnested'
    have htight : pduLengthAt b 38 = 77 + pduLengthAt b 115 := htight
    simp only [E131RootLayerData.lengthFields, List.mem_cons, List.not_mem_nil, or_false] at hi
    have hsame : u16At (withLength b i n) 123 = u16At b 123 :=
      u16At_withU16_other hfield (by omega)
    rw [hsame] at hcount'
    rcases hi with rfl | rfl | rfl
    · have h38 := hother 38 (by omega)
      have h115 := hother 115 (by omega)
      omega
    · have h16 := hother 16 (by omega)
      have h115 := hother 115 (by omega)
      omega
    · omega
  | synchronizationPacket d =>
    obtain ⟨-, -, hsync⟩ := hnested
    obtain ⟨-, -, hsync'⟩ := hnested'
    simp only [E131RootLayerData.lengthFields, List.mem_cons, List.not_mem_nil, or_false] at hi
    rcases hi with rfl | rfl
    · have h38 := hother 38 (by omega)
      omega
    · omega
  | universeDiscoveryPacket d =>
    obtain ⟨-, -, hlong, hlist⟩ := hnested
    obtain ⟨-, -, hlong', hlist'⟩ := hnested'
    simp only [E131RootLayerData.lengthFields, List.mem_cons, List.not_mem_nil, or_false] at hi
    rcases hi with rfl | rfl | rfl
    · have h38 := hother 38 (by omega)
      omega
    · have h112 := hother 112 (by omega)
      omega
    · have h38 := hother 38 (by omega)
      omega

/-- Nor with the value count changed. -/
theorem Exact.count_noticed {c : UInt16} (h : Exact data b) (hi : i ∈ data.countFields)
    (hne : c ≠ u16At b i) : ¬ Nested data (withU16 b i c) := by
  have hfield := (h.field (.inr hi)).1
  rintro ⟨-, -, hnested'⟩
  have hnested := h.nested
  cases data with
  | dataPacket d =>
    obtain rfl : i = 123 := List.mem_singleton.mp hi
    obtain ⟨-, -, hcount⟩ := hnested
    obtain ⟨-, -, hcount'⟩ := hnested'
    rw [u16At_withU16 hfield, pduLengthAt_withU16 hfield (by omega), hcount] at hcount'
    exact hne (UInt16.toNat_inj.mp (Nat.add_left_cancel hcount').symm)
  | _ => exact absurd hi List.not_mem_nil

end Noticed

/-- **A single wrong length is always noticed**: the packed bytes of a packet do not parse when one
of their PDU lengths, or the property value count, is replaced by another value. -/
theorem AcnRootLayerProtocol.wrong_length_noticed {p : AcnRootLayerProtocol} {b : List UInt8}
    (h : p.InDomain) (hb : p.packAlloc = .ok b) :
    (∀ i ∈ p.pdu.data.lengthFields, ∀ n < 4096, n ≠ pduLengthAt b i →
      ∀ q, AcnRootLayerProtocol.parse (withLength b i n) ≠ .ok q) ∧
    ∀ i ∈ p.pdu.data.countFields, ∀ c, c ≠ u16At b i →
      ∀ q, AcnRootLayerProtocol.parse (withU16 b i c) ≠ .ok q := by
  rw [AcnRootLayerProtocol.packAlloc_eq h] at hb
  obtain rfl := ok.inj hb
  have hwire : p.Wire p.encode := by
    rw [← AcnRootLayerProtocol.parse_eq_ok, ← List.append_nil p.encode]
    exact AcnRootLayerProtocol.parse_encode h []
  have hexact := hwire.exact (AcnRootLayerProtocol.length_encode h)
  -- what still parses is nested, as a packet of the same kind
  have hnested : ∀ i v q, (i ∈ p.pdu.data.lengthFields ∨ i ∈ p.pdu.data.countFields) →
      AcnRootLayerProtocol.parse (withU16 p.encode i v) = .ok q →
      Nested p.pdu.data (withU16 p.encode i v) := by
    intro i v q hi hq
    obtain ⟨hfield, h18, h40⟩ := hexact.field hi
    refine hwire.nested.transfer (AcnRootLayerProtocol.parse_eq_ok.mp hq).nested ?_ ?_
    · unfold vectorAt
      rw [extract_withU16 hfield (by omega)]
    · unfold vectorAt
      rw [extract_withU16 hfield (by omega)]
  constructor
  · intro i hi n hn hne q hq
    exact hexact.length_noticed hi hn hne (hnested i _ q (.inl hi) hq)
  · intro i hi c hne q hq
    exact hexact.count_noticed hi hne (hnested i c q (.inr hi) hq)

/-- A data packet with two slots. -/
def twoSlotPacket : AcnRootLayerProtocol :=
  { pdu := { cid := .repeated 7
             data := .dataPacket
               { sourceName := "Stage", priority := 100, synchronizationAddress := 0
                 sequenceNumber := 3, previewData := false, streamTerminated := false
                 forceSynchronization := false, uni := 1
                 data := { propertyValues := [0, 200, 100] } } } }

theorem twoSlotPacket_wrong_length :
    (∀ i ∈ [16, 38, 115], ∀ n < 4096, n ≠ pduLengthAt twoSlotPacket.encode i →
      ∀ q, AcnRootLayerProtocol.parse (withLength twoSlotPacket.encode i n) ≠ .ok q) ∧
    ∀ i ∈ [123], ∀ c, c ≠ u16At twoSlotPacket.encode i →
      ∀ q, AcnRootLayerProtocol.parse (withU16 twoSlotPacket.encode i c) ≠ .ok q := by
  have hdomain : twoSlotPacket.InDomain :=
    ⟨⟨by decide, by decide⟩, by decide, by decide, by decide, by decide⟩
  exact AcnRootLayerProtocol.wrong_length_noticed hdomain
    (AcnRootLayerProtocol.packAlloc_eq hdomain)

end Sacn
