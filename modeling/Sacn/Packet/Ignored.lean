import Sacn.Packet.Wire

/-!
# Bytes a receiver must ignore (`packet.rs`)

A parsed buffer holds bytes that say nothing about the packet: the reserved bytes of a
synchronisation and of a discovery packet, the low five bits of a data packet's options, what
follows the zero byte of a name, and what lies between the end of a PDU and the end of the one
around it, or behind them all. The parser gets slices that contain these bytes, and does not look
at them.

* `SameIn`: two buffers agree on a range of positions; each layer's wire image only depends on the
  ranges of its fields.
* `Ignored`: the positions, and `SameButIgnored` the buffers that differ there only.
* **`parse_ignores`**: such a buffer parses to the same packet.
-/

namespace Sacn

open Rust Rust.Outcome

/-! ## Ranges -/

/-- The buffers have the same bytes from `i` up to `j`. -/
def SameIn (b b' : List UInt8) (i j : Nat) : Prop :=
  ∀ k, i ≤ k → k < j → byteAt b' k = byteAt b k

theorem byteAt_getElem {b : List UInt8} {i : Nat} (h : i < b.length) : byteAt b i = b[i] := by
  unfold byteAt
  rw [List.getD_eq_getElem?_getD, List.getElem?_eq_getElem h, Option.getD_some]

theorem byteAt_extract {b : List UInt8} {a i j k : Nat} (h : i + k < j) :
    byteAt ((b.drop a).extract i j) k = byteAt b (a + (i + k)) := by
  unfold byteAt
  rw [List.getD_eq_getElem?_getD, List.getD_eq_getElem?_getD, List.extract_eq_take_drop,
    List.getElem?_take_of_lt (by omega), List.getElem?_drop, List.getElem?_drop]

section SameIn

variable {b b' : List UInt8} {i j : Nat}

theorem SameIn.mono {i' j' : Nat} (h : SameIn b b' i j) (hi : i ≤ i') (hj : j' ≤ j) :
    SameIn b b' i' j' := fun k hik hkj => h k (hi.trans hik) (hkj.trans_le hj)

theorem SameIn.extract (h : SameIn b b' i j) (hb : j ≤ b.length) (hb' : j ≤ b'.length) :
    b'.extract i j = b.extract i j := by
  refine List.ext_getElem ?_ fun n hn hn' => ?_
  · rw [length_extract_of_le hb, length_extract_of_le hb']
  · rw [length_extract_of_le hb'] at hn
    have hsame := h (i + n) (Nat.le_add_right i n) (by omega)
    rw [byteAt_getElem (by omega), byteAt_getElem (by omega)] at hsame
    simp only [List.extract_eq_take_drop, List.getElem_take, List.getElem_drop]
    exact hsame

theorem SameIn.u16At {n : Nat} (h : SameIn b b' i j) (hi : i ≤ n) (hj : n + 2 ≤ j)
    (hb : j ≤ b.length) (hb' : j ≤ b'.length) : Rust.u16At b' n = Rust.u16At b n := by
  unfold Rust.u16At
  rw [(h.mono hi hj).extract (hj.trans hb) (hj.trans hb')]

/-- A range inside a slice. -/
theorem SameIn.inner {a s e : Nat} (h : SameIn b b' (a + (s + i)) (a + (s + j)))
    (hj : s + j ≤ e) : SameIn ((b.drop a).extract s e) ((b'.drop a).extract s e) i j := by
  intro k hik hkj
  rw [byteAt_extract (by omega), byteAt_extract (by omega)]
  exact h _ (by omega) (by omega)

end SameIn

/-! ## Each layer -/

section Layers

variable {b b' : List UInt8}

theorem PduHeader.congr {n length : Nat} {vector : UInt32} (h : PduHeader b n length vector)
    (hsame : SameIn b b' 0 (2 + n)) (hlen : 2 + n ≤ b'.length) : PduHeader b' n length vector := by
  have hpresent := h.present
  refine ⟨hlen, ?_, ?_, ?_⟩
  · rw [hsame 0 le_rfl (by omega)]
    exact h.flags
  · rw [hsame.u16At le_rfl (by omega) hpresent hlen]
    exact h.length_eq
  · rw [(hsame.mono (Nat.zero_le 2) le_rfl).extract hpresent hlen]
    exact h.vector_eq

/-- A name field depends on the name and its zero byte only. -/
theorem NameField.congr {field field' : List UInt8} {name : String} (h : NameField field name)
    (hlen : field'.length = field.length)
    (hsame : SameIn field field' 0 ((strBytes name).length + 1)) : NameField field' name := by
  have hlt := h.length_lt
  obtain ⟨rest, hfield, hz⟩ := h
  refine ⟨field'.drop ((strBytes name).length + 1), ?_, hz⟩
  have htake : ∀ w : List UInt8, w.take ((strBytes name).length + 1) =
      w.extract 0 ((strBytes name).length + 1) := by
    intro w
    rw [List.extract_eq_take_drop, List.drop_zero, Nat.sub_zero]
  have hfirst : field'.take ((strBytes name).length + 1) = strBytes name ++ [0] := by
    rw [htake, hsame.extract (by omega) (by omega), ← htake, hfield, List.take_append,
      List.take_of_length_le (Nat.le_succ _), Nat.add_sub_cancel_left]
    rfl
  rw [← List.singleton_append, ← List.append_assoc, ← hfirst, List.take_append_drop]

theorem DataPacketDmpLayer.Wire.congr {d : DataPacketDmpLayer} (h : d.Wire b)
    (hsame : SameIn b b' 0 (10 + d.propertyValues.length))
    (hlen : 10 + d.propertyValues.length ≤ b'.length) : d.Wire b' := by
  have hfits := h.fits
  have hword : ∀ n, n + 2 ≤ 10 → u16At b' n = u16At b n := fun n hn =>
    hsame.u16At (Nat.zero_le n) (by omega) hfits hlen
  refine ⟨h.header.congr (hsame.mono le_rfl (by omega)) (by omega), hlen, ?_, ?_, ?_, ?_,
    h.capacity, ?_⟩
  · rw [hsame 3 (Nat.zero_le 3) (by omega)]
    exact h.addressData
  · rw [hword 4 (by omega)]
    exact h.firstProperty
  · rw [hword 6 (by omega)]
    exact h.increment
  · rw [hword 8 le_rfl]
    exact h.count
  · rw [(hsame.mono (Nat.zero_le 10) le_rfl).extract hfits hlen]
    exact h.values

/-- The flags are in the high three bits of the options. -/
theorem options_congr {x y mask : UInt8} (h : x &&& 0xe0 = y &&& 0xe0) (hmask : 0xe0 &&& mask = mask) :
    x &&& mask = y &&& mask := by
  rw [← hmask, ← UInt8.and_assoc, h, UInt8.and_assoc]

theorem DataPacketFramingLayer.WireAt.congr {d : DataPacketFramingLayer} {length : Nat}
    (h : d.WireAt b length) (hlen : length ≤ b'.length) (hhead : SameIn b b' 0 6)
    (hname : SameIn b b' 6 (7 + (strBytes d.sourceName).length)) (hfields : SameIn b b' 70 74)
    (hoptions : byteAt b' 74 &&& 0xe0 = byteAt b 74 &&& 0xe0) (huni : SameIn b b' 75 77)
    (hdata : SameIn b b' 77 (87 + d.data.propertyValues.length)) : d.WireAt b' length := by
  have hfits := h.fits
  have hlong := h.long
  have hdmp : 10 + d.data.propertyValues.length ≤ (b.extract 77 length).length := h.data.fits
  have hfield : (b.extract 6 70).length = 64 := length_extract_of_le (by omega)
  have hfield' : (b'.extract 6 70).length = 64 := length_extract_of_le (by omega)
  have hnamelt := h.name.length_lt
  rw [length_extract_of_le hfits] at hdmp
  rw [hfield] at hnamelt
  refine ⟨h.header.congr hhead (by omega), hlen, hlong, ?_, ?_, h.priority_le, ?_, h.syncAddr_le, ?_,
    ?_, ?_, ?_, ?_, h.uni_range, ?_⟩
  · refine h.name.congr (by rw [hfield, hfield']) ?_
    exact SameIn.inner (a := 0) (hname.mono (by omega) (by omega)) (by omega)
  · rw [hfields 70 le_rfl (by omega)]
    exact h.priority
  · rw [hfields.u16At (by omega) (by omega) (by omega) (by omega)]
    exact h.syncAddr
  · rw [hfields 73 (by omega) (by omega)]
    exact h.seqNum
  · rw [options_congr hoptions (by decide)]
    exact h.preview
  · rw [options_congr hoptions (by decide)]
    exact h.terminated
  · rw [options_congr hoptions (by decide)]
    exact h.force
  · rw [huni.u16At le_rfl le_rfl (by omega) (by omega)]
    exact h.uni
  · refine h.data.congr ?_ (by rw [length_extract_of_le hlen]; exact hdmp)
    exact SameIn.inner (a := 0) (hdata.mono (by omega) (by omega)) (by omega)

theorem SynchronizationPacketFramingLayer.Wire.congr {d : SynchronizationPacketFramingLayer}
    (h : d.Wire b) (hlen : 11 ≤ b'.length) (hsame : SameIn b b' 0 9) : d.Wire b' := by
  have hfits := h.fits
  refine ⟨h.header.congr (hsame.mono le_rfl (by omega)) (by omega), hlen, ?_, ?_,
    h.syncAddr_range⟩
  · rw [hsame 6 (by omega) (by omega)]
    exact h.seqNum
  · rw [hsame.u16At (by omega) le_rfl (by omega) (by omega)]
    exact h.syncAddr

theorem UniverseDiscoveryPacketFramingLayer.WireAt.congr {d : UniverseDiscoveryPacketFramingLayer}
    {length : Nat} (h : d.WireAt b length) (hlen : length ≤ b'.length) (hhead : SameIn b b' 0 6)
    (hname : SameIn b b' 6 (7 + (strBytes d.sourceName).length))
    (hdata : SameIn b b' 74 length) : d.WireAt b' length := by
  have hfits := h.fits
  have hlong := h.long
  have hfield : (b.extract 6 70).length = 64 := length_extract_of_le (by omega)
  have hfield' : (b'.extract 6 70).length = 64 := length_extract_of_le (by omega)
  refine ⟨h.header.congr hhead (by omega), hlen, hlong, ?_, ?_⟩
  · refine h.name.congr (by rw [hfield, hfield']) ?_
    have hnamelt := h.name.length_lt
    rw [hfield] at hnamelt
    exact SameIn.inner (a := 0) (hname.mono (by omega) (by omega)) (by omega)
  · rw [hdata.extract hfits hlen]
    exact h.data

end Layers

/-! ## The positions -/

/-- The 12-bit length of the PDU that starts at `i`. -/
def pduLengthAt (buf : List UInt8) (i : Nat) : Nat := (u16At buf i &&& 0x0fff).toNat

/-- Changing byte `i` of `buf`, which carries such a packet, from `x` to `y` is a change a receiver
must ignore. The framing layer starts at byte 38, the name at 44, the DMP layer at 115 and the
discovery layer at 112. -/
inductive Ignored (buf : List UInt8) : E131RootLayerData → Nat → UInt8 → UInt8 → Prop where
  | syncReserved {d i x y} (h : 47 ≤ i ∧ i < 49) : Ignored buf (.synchronizationPacket d) i x y
  | discoveryReserved {d i x y} (h : 108 ≤ i ∧ i < 112) :
      Ignored buf (.universeDiscoveryPacket d) i x y
  | options {d x y} (h : x &&& 0xe0 = y &&& 0xe0) : Ignored buf (.dataPacket d) 112 x y
  | dataName {d i j x y} (hj : 44 ≤ j ∧ j < i) (hi : i < 108) (h : byteAt buf j = 0) :
      Ignored buf (.dataPacket d) i x y
  | discoveryName {d i j x y} (hj : 44 ≤ j ∧ j < i) (hi : i < 108) (h : byteAt buf j = 0) :
      Ignored buf (.universeDiscoveryPacket d) i x y
  | dmpGap {d i x y} (h : 115 + pduLengthAt buf 115 ≤ i ∧ i < 38 + pduLengthAt buf 38) :
      Ignored buf (.dataPacket d) i x y
  | discoveryGap {d i x y} (h : 112 + pduLengthAt buf 112 ≤ i ∧ i < 38 + pduLengthAt buf 38) :
      Ignored buf (.universeDiscoveryPacket d) i x y
  | framingGap {data i x y} (h : 38 + pduLengthAt buf 38 ≤ i ∧ i < 16 + pduLengthAt buf 16) :
      Ignored buf data i x y
  | afterRoot {data i x y} (h : 16 + pduLengthAt buf 16 ≤ i) : Ignored buf data i x y

/-- `b'` holds the root PDU of `b`, and differs from `b` in bytes a receiver must ignore only. -/
structure SameButIgnored (data : E131RootLayerData) (b b' : List UInt8) : Prop where
  long : 16 + pduLengthAt b 16 ≤ b'.length
  same : ∀ i, byteAt b' i ≠ byteAt b i → Ignored b data i (byteAt b i) (byteAt b' i)

theorem extract_drop (b : List UInt8) (a i j : Nat) :
    (b.drop a).extract i j = b.extract (a + i) (a + j) := by
  simp only [List.extract_eq_take_drop, List.drop_drop, Nat.add_sub_add_left]

theorem extract_extract {b : List UInt8} {s e i j : Nat} (h : s + j ≤ e) :
    (b.extract s e).extract i j = b.extract (s + i) (s + j) := by
  simp only [List.extract_eq_take_drop, List.drop_take, List.drop_drop, List.take_take]
  congr 1
  omega

theorem u16At_drop (b : List UInt8) (a k : Nat) : u16At (b.drop a) k = u16At b (a + k) := by
  unfold u16At
  rw [extract_drop, Nat.add_assoc]

theorem u16At_extract {b : List UInt8} {i j k : Nat} (h : i + k + 2 ≤ j) :
    u16At (b.extract i j) k = u16At b (i + k) := by
  unfold u16At
  rw [extract_extract (by omega), Nat.add_assoc]

/-- A name has no zero byte. -/
theorem NameField.byteAt_ne_zero {field : List UInt8} {name : String} {k : Nat}
    (h : NameField field name) (hk : k < (strBytes name).length) : byteAt field k ≠ 0 := by
  obtain ⟨rest, rfl, hz⟩ := h
  rw [byteAt_append_left hk, byteAt_getElem hk]
  exact fun h0 => hz (h0 ▸ List.getElem_mem hk)

section Packets

variable {b b' : List UInt8} {length : Nat}

/-- The framing layer of a buffer that carries a packet. -/
def framing (b : List UInt8) (length : Nat) : List UInt8 := (b.drop 16).extract 22 length

theorem SameIn.framing {i j : Nat} (h : SameIn b b' (38 + i) (38 + j)) (hj : 22 + j ≤ length) :
    SameIn (framing b length) (framing b' length) i j :=
  SameIn.inner (h.mono (by omega) (by omega)) hj

theorem pduLengthAt_framing {i : Nat} (h : 22 + i + 2 ≤ length) :
    pduLengthAt (framing b length) i = pduLengthAt b (38 + i) := by
  unfold pduLengthAt Sacn.framing
  rw [u16At_extract h, u16At_drop, ← Nat.add_assoc]

/-- The zero byte of the name is the first one of its field. -/
theorem NameField.framing_ne_zero {name : String} {j : Nat} (hlong : 92 ≤ length)
    (h : NameField ((framing b length).extract 6 70) name) (hn : (strBytes name).length < 64)
    (hj : 44 ≤ j ∧ j < 44 + (strBytes name).length) : byteAt b j ≠ 0 := by
  have hne := h.byteAt_ne_zero (k := j - 44) (by omega)
  have hinner : byteAt ((framing b length).extract 6 70) (j - 44) =
      byteAt (framing b length) (6 + (j - 44)) := by
    have hzero := @byteAt_extract (framing b length) 0 6 70 (j - 44) (by omega)
    rw [List.drop_zero, Nat.zero_add] at hzero
    exact hzero
  rw [hinner, framing, byteAt_extract (by omega)] at hne
  rwa [show 16 + (22 + (6 + (j - 44))) = j by omega] at hne

theorem DataPacketFramingLayer.WireAt.pduLengths {d : DataPacketFramingLayer} {l : Nat}
    (h : d.WireAt (framing b length) l) (hb : (framing b length).length = length - 22) :
    pduLengthAt b 38 = l ∧ pduLengthAt b 115 = 10 + d.data.propertyValues.length ∧
      77 + (10 + d.data.propertyValues.length) ≤ l := by
  have hfits := h.fits
  have hlong := h.long
  have hdmp : 10 + d.data.propertyValues.length ≤ ((framing b length).extract 77 l).length :=
    h.data.fits
  rw [length_extract_of_le hfits] at hdmp
  refine ⟨?_, ?_, by omega⟩
  · rw [← h.header.length_eq]
    exact (pduLengthAt_framing (i := 0) (by omega)).symm
  · rw [← h.data.header.length_eq, u16At_extract (by omega)]
    exact (pduLengthAt_framing (i := 77) (by omega)).symm

theorem SynchronizationPacketFramingLayer.Wire.pduLength {d : SynchronizationPacketFramingLayer}
    (h : d.Wire (framing b length)) (hb : (framing b length).length = length - 22) :
    pduLengthAt b 38 = 11 := by
  have hfits := h.fits
  rw [← h.header.length_eq]
  exact (pduLengthAt_framing (i := 0) (by omega)).symm

theorem UniverseDiscoveryPacketFramingLayer.WireAt.pduLengths {l : Nat}
    {d : UniverseDiscoveryPacketFramingLayer} (h : d.WireAt (framing b length) l)
    (hb : (framing b length).length = length - 22) :
    pduLengthAt b 38 = l ∧ pduLengthAt b 112 = l - 74 := by
  have hfits := h.fits
  have hlong := h.long
  constructor
  · rw [← h.header.length_eq]
    exact (pduLengthAt_framing (i := 0) (by omega)).symm
  · have hheader := h.data.header.length_eq
    rw [length_extract_of_le hfits, u16At_extract (by omega)] at hheader
    rw [← hheader]
    exact (pduLengthAt_framing (i := 74) (by omega)).symm

theorem E131RootLayer.WireAt.pduLength {r : E131RootLayer} (h : r.WireAt (b.drop 16) length) :
    pduLengthAt b 16 = length := by
  rw [← h.header.length_eq, u16At_drop]
  rfl

theorem DataPacketFramingLayer.WireAt.ignores {d : DataPacketFramingLayer} {l : Nat}
    (h : d.WireAt (framing b length) l) (hlength : pduLengthAt b 16 = length)
    (hb : (framing b length).length = length - 22) (hb' : (framing b' length).length = length - 22)
    (hsame : SameButIgnored (.dataPacket d) b b') : d.WireAt (framing b' length) l := by
  have hfits := h.fits
  have hlong := h.long
  obtain ⟨hframing, hdata, hdmp⟩ := h.pduLengths hb
  have hnamelt := h.name.length_lt
  rw [length_extract_of_le (by omega)] at hnamelt
  have hname := fun j => h.name.framing_ne_zero (j := j) (by omega) hnamelt
  have hread : ∀ k, ¬ (112 ≤ k ∧ k < 113) → k < 125 + d.data.propertyValues.length →
      (44 + (strBytes d.sourceName).length < k → 108 ≤ k) → byteAt b' k = byteAt b k := by
    intro k hopt hk hnul
    by_contra hne
    cases hsame.same k hne with
    | options _ => omega
    | dataName hj hi h0 => exact hname _ (by omega) h0
    | dmpGap h => omega
    | framingGap h => omega
    | afterRoot h => omega
  refine h.congr (by omega) ?_ ?_ ?_ ?_ ?_ ?_
  · exact SameIn.framing (fun k _ _ => hread k (by omega) (by omega) (by omega)) (by omega)
  · exact SameIn.framing (fun k _ _ => hread k (by omega) (by omega) (by omega)) (by omega)
  · exact SameIn.framing (fun k _ _ => hread k (by omega) (by omega) (by omega)) (by omega)
  · rw [framing, framing, byteAt_extract (by omega), byteAt_extract (by omega)]
    by_cases heq : byteAt b' 112 = byteAt b 112
    · exact congrArg (· &&& 0xe0) heq
    · cases hsame.same 112 heq with
      | options h => exact h.symm
      | dataName hj hi h0 => omega
      | dmpGap h => omega
      | framingGap h => omega
      | afterRoot h => omega
  · exact SameIn.framing (fun k _ _ => hread k (by omega) (by omega) (by omega)) (by omega)
  · exact SameIn.framing (fun k _ _ => hread k (by omega) (by omega) (by omega)) (by omega)

theorem SynchronizationPacketFramingLayer.Wire.ignores {d : SynchronizationPacketFramingLayer}
    (h : d.Wire (framing b length)) (hlength : pduLengthAt b 16 = length)
    (hb : (framing b length).length = length - 22) (hb' : (framing b' length).length = length - 22)
    (hsame : SameButIgnored (.synchronizationPacket d) b b') : d.Wire (framing b' length) := by
  have hfits := h.fits
  have hframing := h.pduLength hb
  refine h.congr (by omega) (SameIn.framing (fun k _ hk => ?_) (by omega))
  by_contra hne
  cases hsame.same k hne with
  | syncReserved h => omega
  | framingGap h => omega
  | afterRoot h => omega

theorem UniverseDiscoveryPacketFramingLayer.WireAt.ignores {l : Nat}
    {d : UniverseDiscoveryPacketFramingLayer} (h : d.WireAt (framing b length) l)
    (hlength : pduLengthAt b 16 = length) (hb : (framing b length).length = length - 22)
    (hb' : (framing b' length).length = length - 22)
    (hsame : SameButIgnored (.universeDiscoveryPacket d) b b') :
    d.WireAt (framing b' length) l := by
  have hfits := h.fits
  have hlong := h.long
  obtain ⟨hframing, hdata⟩ := h.pduLengths hb
  have hnamelt := h.name.length_lt
  rw [length_extract_of_le (by omega)] at hnamelt
  have hname := fun j => h.name.framing_ne_zero (j := j) (by omega) hnamelt
  have hread : ∀ k, ¬ (108 ≤ k ∧ k < 112) → k < 38 + l →
      (44 + (strBytes d.sourceName).length < k → 108 ≤ k) → byteAt b' k = byteAt b k := by
    intro k hreserved hk hnul
    by_contra hne
    cases hsame.same k hne with
    | discoveryReserved h => omega
    | discoveryName hj hi h0 => exact hname _ (by omega) h0
    | discoveryGap h => omega
    | framingGap h => omega
    | afterRoot h => omega
  refine h.congr (by omega) ?_ ?_ ?_
  · exact SameIn.framing (fun k _ _ => hread k (by omega) (by omega) (by omega)) (by omega)
  · exact SameIn.framing (fun k _ _ => hread k (by omega) (by omega) (by omega)) (by omega)
  · exact SameIn.framing (fun k _ _ => hread k (by omega) (by omega) (by omega)) (by omega)

/-- By kind of packet. -/
theorem E131RootLayerData.Wire.ignores {data : E131RootLayerData}
    (h : data.Wire (framing b length)) (hlength : pduLengthAt b 16 = length)
    (hb : (framing b length).length = length - 22) (hb' : (framing b' length).length = length - 22)
    (hsame : SameButIgnored data b b') : data.Wire (framing b' length) := by
  cases data with
  | dataPacket d =>
    obtain ⟨l, hat⟩ := h
    exact ⟨l, hat.ignores hlength hb hb' hsame⟩
  | synchronizationPacket d =>
    exact SynchronizationPacketFramingLayer.Wire.ignores h hlength hb hb' hsame
  | universeDiscoveryPacket d =>
    obtain ⟨l, hat⟩ := h
    exact ⟨l, hat.ignores hlength hb hb' hsame⟩

/-- Nothing before the framing layer is ignored. -/
theorem Ignored.ge {data : E131RootLayerData} {i : Nat} {x y : UInt8} (h : Ignored b data i x y)
    (hlong : 22 ≤ pduLengthAt b 16) : 38 ≤ i := by
  cases h with
  | options h => omega
  | dataName hj hi h => omega
  | discoveryName hj hi h => omega
  | _ h => omega

end Packets

/-- The whole packet. -/
theorem AcnRootLayerProtocol.Wire.ignores {p : AcnRootLayerProtocol} {b b' : List UInt8}
    (h : p.Wire b) (hsame : SameButIgnored p.pdu.data b b') : p.Wire b' := by
  obtain ⟨length, hroot⟩ := h.pdu
  have hfits := hroot.fits
  have hlong := hroot.long
  have hlength := hroot.pduLength
  have hlong' := hsame.long
  rw [List.length_drop] at hfits
  have hfront : SameIn b b' 0 38 := by
    intro k _ hk
    by_contra hne
    have hge := (hsame.same k hne).ge (by omega)
    omega
  have hroot' : SameIn (b.drop 16) (b'.drop 16) 0 22 := by
    intro k _ hk
    have hdrop : ∀ w : List UInt8, byteAt (w.drop 16) k = byteAt w (16 + k) := fun w => by
      unfold byteAt
      rw [List.getD_eq_getElem?_getD, List.getElem?_drop, ← List.getD_eq_getElem?_getD]
    rw [hdrop, hdrop]
    exact hfront _ (Nat.zero_le _) (by omega)
  have hb : (b.drop 16).length = b.length - 16 := List.length_drop
  have hb' : (b'.drop 16).length = b'.length - 16 := List.length_drop
  refine ⟨by omega, ?_, ?_, ?_, length, ?_, by omega, hlong, ?_, ?_⟩
  · rw [hfront.u16At (by omega) (by omega) (by omega) (by omega)]
    exact h.preamble
  · rw [hfront.u16At (by omega) (by omega) (by omega) (by omega)]
    exact h.postamble
  · rw [(hfront.mono (by omega) (by omega)).extract (by omega) (by omega)]
    exact h.identifier
  · exact hroot.header.congr (hroot'.mono le_rfl (by omega)) (by omega)
  · rw [(hroot'.mono (by omega) le_rfl).extract (by omega) (by omega)]
    exact hroot.cid
  · exact E131RootLayerData.Wire.ignores hroot.data hlength (length_extract_of_le (by omega))
      (length_extract_of_le (by omega)) hsame

/-- **Bytes a receiver must ignore are ignored**: a buffer that differs from a parsed one in such
bytes only parses to the same packet. -/
theorem AcnRootLayerProtocol.parse_ignores {p : AcnRootLayerProtocol} {b b' : List UInt8}
    (h : AcnRootLayerProtocol.parse b = .ok p) (hsame : SameButIgnored p.pdu.data b b') :
    AcnRootLayerProtocol.parse b' = .ok p :=
  AcnRootLayerProtocol.parse_eq_ok.mpr ((AcnRootLayerProtocol.parse_eq_ok.mp h).ignores hsame)

/-- A synchronisation packet up to its reserved bytes, with three bytes of slack in its root PDU. -/
def slackSync : List UInt8 :=
  [0, 16, 0, 0] ++ e131AcnPacketIdentifier ++ ([0x70, 36, 0, 0, 0, 8] ++ List.replicate 16 7) ++
    [0x70, 11, 0, 0, 0, 1, 9, 0, 7]

theorem slackSync_parse_ignores :
    AcnRootLayerProtocol.parse (slackSync ++ [5, 6, 1, 2, 3, 4, 4]) =
      .ok { pdu := { cid := .repeated 7
                     data := .synchronizationPacket
                       { sequenceNumber := 9, synchronizationAddress := 7 } } } := by
  have hparse : AcnRootLayerProtocol.parse (slackSync ++ [0, 0, 0, 0, 0]) =
      .ok { pdu := { cid := .repeated 7
                     data := .synchronizationPacket
                       { sequenceNumber := 9, synchronizationAddress := 7 } } } := by
    decide +kernel
  refine AcnRootLayerProtocol.parse_ignores hparse ⟨by decide, fun i hne => ?_⟩
  have hlength : slackSync.length = 47 := rfl
  have hframing : pduLengthAt (slackSync ++ [0, 0, 0, 0, 0]) 38 = 11 := by decide
  have hroot : pduLengthAt (slackSync ++ [0, 0, 0, 0, 0]) 16 = 36 := by decide
  by_cases hfront : i < 47
  · rw [byteAt_append_left (by omega), byteAt_append_left (by omega)] at hne
    exact absurd rfl hne
  by_cases hreserved : i < 49
  · exact .syncReserved (by omega)
  by_cases hslack : i < 52
  · exact .framingGap (by omega)
  · exact .afterRoot (by omega)

end Sacn
