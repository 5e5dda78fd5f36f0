import Sacn.Packet.RoundTrip

/-!
# Packing arbitrary packets (`packet.rs`)

The fields of a packet are public, so `pack` can be given any of them. The DMP layer and the
discovery layer check the sizes of their lists before they write. The framing layers do not check
the name: `len` counts 64 bytes for it, and `pack` slices as many as it has. A longer name runs over
the fields behind it, which are written afterwards and cover it up to the packet's length.

* `Confined`: a writer that does not panic, whose output is its own up to a length and the buffer's
  from there on.
* **`pack_confined_iff`**: packing is confined iff the name ends inside the packet.
-/

namespace Sacn

open Rust Rust.Outcome

/-- On every buffer of at least `n` bytes, `f` fails, or puts the same `n` bytes in front and leaves
the others as they were. -/
def Confined (f : List UInt8 → Outcome SacnError (List UInt8)) (n : Nat) : Prop :=
  ∃ bytes : List UInt8, bytes.length = n ∧ ∀ buf, n ≤ buf.length →
    (∃ e, f buf = .err e) ∨ f buf = .ok (bytes ++ buf.drop n)

/-- A writer that writes `pre` itself and leaves the rest of the buffer to a confined one. -/
theorem Confined.append {f g : List UInt8 → Outcome SacnError (List UInt8)} {pre : List UInt8}
    {a m n : Nat} (hg : Confined g m) (hpre : pre.length = a) (hn : n = a + m)
    (hf : ∀ buf, n ≤ buf.length → f buf = (do return pre ++ (← g (buf.drop a)))) :
    Confined f n := by
  obtain ⟨bytes, hlength, hg⟩ := hg
  refine ⟨pre ++ bytes, by rw [List.length_append, hpre, hlength, hn], fun buf hbuf => ?_⟩
  rw [hf buf hbuf]
  rcases hg (buf.drop a) (by rw [List.length_drop]; omega) with ⟨e, he⟩ | hok
  · exact .inl ⟨e, by rw [he]; rfl⟩
  · refine .inr ?_
    rw [hok, ok_bind, List.drop_drop, ← hn, ← List.append_assoc]
    rfl

/-! ## The layers that check their lists -/

theorem DataPacketDmpLayer.confined (d : DataPacketDmpLayer) : Confined d.pack d.len := by
  by_cases hv : d.propertyValues.length ≤ 513
  · exact ⟨d.encode, d.length_encode, fun buf hlen => .inr (d.pack_eq hv hlen)⟩
  · refine ⟨List.replicate d.len 0, List.length_replicate, fun buf _ => .inl ?_⟩
    have hgt : d.propertyValues.length > universeChannelCapacity := Nat.not_le.mp hv
    unfold DataPacketDmpLayer.pack throwIf
    rw [if_pos hgt]
    exact ⟨_, rfl⟩

theorem SynchronizationPacketFramingLayer.confined (d : SynchronizationPacketFramingLayer) :
    Confined d.pack d.len :=
  ⟨d.encode, d.length_encode, fun _ hlen => .inr (d.pack_eq hlen)⟩

/-- The check loop ends with `Ok` or `Err`. -/
theorem checkUniverses_cases (us : List UInt16) :
    checkUniverses us = .ok () ∨ ∃ e, checkUniverses us = .err e := by
  induction us with
  | nil => exact .inl rfl
  | cons u us ih =>
    cases us with
    | nil => exact .inl rfl
    | cons v us =>
      unfold checkUniverses throwIf
      by_cases heq : v = u
      · rw [if_pos heq]
        exact .inr ⟨_, rfl⟩
      · rw [if_neg heq, ok_bind]
        by_cases hle : v ≤ u
        · rw [if_pos hle]
          exact .inr ⟨_, rfl⟩
        · rw [if_neg hle]
          exact ih

/-- The list of universes is checked when the fields before it are written. -/
theorem UniverseDiscoveryPacketUniverseDiscoveryLayer.pack_unsorted
    {d : UniverseDiscoveryPacketUniverseDiscoveryLayer} {buf : List UInt8} {e : SacnError}
    (hu : d.universes.length ≤ 512) (hcheck : checkUniverses d.universes = .err e)
    (hlen : d.len ≤ buf.length) : d.pack buf = .err e := by
  have hl : d.len = 8 + d.universes.length * 2 := rfl
  unfold UniverseDiscoveryPacketUniverseDiscoveryLayer.pack
  rw [throwIf_neg (by simpa using hu), ok_bind, throwIf_neg (by omega), ok_bind, hcheck]
  simp only [e131DiscoveryLayerLastPageFieldIndex, e131DiscoveryLayerPageFieldIndex,
    e131DiscoveryLayerVectorFieldIndex, vectorUniverseDiscoveryUniverseList,
    e131PduLengthFlagsLength, Nat.reduceAdd]
  rw [modify_zero (by omega) fun s => writeU16_ok, ok_bind,
    modify_drop (by simp) (by omega) (by omega) fun s => writeU32_ok, ok_bind,
    setIndex_drop (by simp) (by omega), ok_bind, setIndex_drop (by simp) (by omega), ok_bind,
    err_bind]

theorem UniverseDiscoveryPacketUniverseDiscoveryLayer.confined
    (d : UniverseDiscoveryPacketUniverseDiscoveryLayer) : Confined d.pack d.len := by
  by_cases hu : d.universes.length ≤ 512
  · rcases checkUniverses_cases d.universes with hok | ⟨e, he⟩
    · have hs := checkUniverses_eq_ok.mp hok
      exact ⟨d.encode, d.length_encode, fun buf hlen => .inr (d.pack_eq hu hs hlen)⟩
    · exact ⟨List.replicate d.len 0, List.length_replicate,
        fun buf hlen => .inl ⟨e, d.pack_unsorted hu he hlen⟩⟩
  · refine ⟨List.replicate d.len 0, List.length_replicate, fun buf _ => .inl ?_⟩
    have hgt : d.universes.length > discoveryUniPerPage := Nat.not_le.mp hu
    unfold UniverseDiscoveryPacketUniverseDiscoveryLayer.pack throwIf
    rw [if_pos hgt]
    exact ⟨_, rfl⟩

/-! ## The layers that hold the name -/

/-- Copying a name of any length over the zeroed field: the field holds its first 64 bytes, and the
buffer is the same from the end of the name on. -/
theorem modify_name_any {w r : List UInt8} {name : String} {a : Nat} (hw : w.length = a)
    (hn : (strBytes name).length ≤ 64 + r.length) :
    ∃ r' : List UInt8, r'.length = r.length ∧
      (∀ k, (strBytes name).length ≤ 64 + k → r'.drop k = r.drop k) ∧
      (modify (w ++ List.replicate 64 0 ++ r) a (a + (strBytes name).length)
        (copyFromSlice (strBytes name)) : Outcome SacnError _) =
          .ok (w ++ (nameField name).take 64 ++ r') := by
  by_cases hle : (strBytes name).length ≤ 64
  · refine ⟨r, rfl, fun _ _ => rfl, ?_⟩
    rw [modify_name hw rfl hle, List.take_of_length_le (length_nameField hle).le]
  · -- the name runs over the first bytes of `r`
    have hfield : (nameField name).take 64 = (strBytes name).take 64 :=
      List.take_append_of_le_length (by omega)
    refine ⟨(strBytes name).drop 64 ++ r.drop ((strBytes name).length - 64), ?_, ?_, ?_⟩
    · rw [List.length_append, List.length_drop, List.length_drop]
      omega
    · intro k hk
      rw [List.drop_append, List.drop_eq_nil_of_le (by rw [List.length_drop]; omega),
        List.nil_append, List.drop_drop, List.length_drop]
      congr 1
      omega
    · have hmid : w ++ List.replicate 64 0 ++ r = w ++ (List.replicate 64 0 ++ r) ++ [] := by
        rw [List.append_nil, List.append_assoc]
      have hdrop : (List.replicate 64 (0 : UInt8) ++ r).drop (strBytes name).length =
          r.drop ((strBytes name).length - 64) := by
        rw [List.drop_append, List.drop_eq_nil_of_le (by rw [List.length_replicate]; omega),
          List.nil_append, List.length_replicate]
      have hlength : (List.replicate 64 (0 : UInt8) ++ r).length = 64 + r.length := by
        rw [List.length_append, List.length_replicate]
      rw [hmid, modify_within hw (by omega)
        (copyFromSlice_ok (by rw [List.length_take, hlength]; omega)), hdrop, hfield]
      rw [List.append_nil, List.append_assoc, ← List.append_assoc _ (List.drop 64 _),
        List.take_append_drop]

/-- Slicing more bytes than the buffer has. -/
theorem modify_name_panics {buf : List UInt8} {name : String} {a : Nat}
    (h : buf.length < a + (strBytes name).length) :
    (modify buf a (a + (strBytes name).length) (copyFromSlice (strBytes name)) :
      Outcome SacnError _) = .panic := by
  have hslice : (slice buf a (a + (strBytes name).length) : Outcome SacnError _) = .panic :=
    slice_eq_panic.mpr (by omega)
  unfold Rust.modify
  rw [hslice]
  rfl

section Named

variable {head fields : List UInt8} {name : String}
  {pack packFields packData : List UInt8 → Outcome SacnError (List UInt8)} {n m : Nat}

/-- A framing layer that holds the name: it writes the head and zeroes the name field, copies the
name, and goes on with the fields behind it and its data. -/
structure NamedLayer (head fields : List UInt8) (name : String)
    (pack packFields packData : List UInt8 → Outcome SacnError (List UInt8)) (n m : Nat) : Prop where
  length_head : head.length = 6
  length_eq : n = 70 + fields.length + m
  pack_named : ∀ buf : List UInt8, n ≤ buf.length → pack buf =
    (modify (head ++ List.replicate 64 0 ++ buf.drop 70) 6 (6 + (strBytes name).length)
      (copyFromSlice (strBytes name)) >>= packFields)
  packFields_eq : ∀ w buf : List UInt8, w.length = 70 → n ≤ buf.length →
    packFields (w ++ buf.drop 70) =
      (do return w ++ fields ++ (← packData (buf.drop (70 + fields.length))))

/-- A layer whose name ends inside it is confined. -/
theorem NamedLayer.confined (h : NamedLayer head fields name pack packFields packData n m)
    (hdata : Confined packData m) (hname : 6 + (strBytes name).length ≤ n) : Confined pack n := by
  have hhead := h.length_head
  have hn := h.length_eq
  obtain ⟨bytes, hbytes, hdata⟩ := hdata
  have hfield : ((nameField name).take 64).length = 64 := by
    rw [List.length_take, nameField, List.length_append, List.length_replicate]
    omega
  refine ⟨head ++ (nameField name).take 64 ++ fields ++ bytes, ?_, fun buf hbuf => ?_⟩
  · simp only [List.length_append, hhead, hfield, hbytes]
    omega
  have hlength : (buf.drop 70).length = buf.length - 70 := List.length_drop
  have hroom : (strBytes name).length ≤ 64 + (buf.drop 70).length := by omega
  obtain ⟨r, hr, hdrop, hcopy⟩ := modify_name_any hhead hroom
  -- from here on the buffer ends with `r` in place of what was behind the name field
  have hr70 : r = (List.replicate 70 0 ++ r).drop 70 := by
    rw [List.drop_left' (List.length_replicate)]
  have hlong : n ≤ (List.replicate 70 0 ++ r).length := by
    rw [List.length_append, List.length_replicate]
    omega
  have hwritten : (head ++ (nameField name).take 64).length = 70 := by
    rw [List.length_append, hhead, hfield]
  rw [h.pack_named buf hbuf, hcopy, ok_bind, hr70, h.packFields_eq _ _ hwritten hlong,
    ← List.drop_drop, ← hr70]
  rcases hdata (r.drop fields.length) (by rw [List.length_drop]; omega) with ⟨e, he⟩ | hok
  · exact .inl ⟨e, by rw [he]; rfl⟩
  · refine .inr ?_
    rw [hok, ok_bind, List.drop_drop, hdrop _ (by omega), List.drop_drop, hn, Nat.add_assoc]
    simp only [pure_eq, List.append_assoc]

/-- A name that ends behind the buffer makes the layer panic. -/
theorem NamedLayer.panics (h : NamedLayer head fields name pack packFields packData n m)
    {buf : List UInt8} (hbuf : n ≤ buf.length) (hname : buf.length < 6 + (strBytes name).length) :
    pack buf = .panic := by
  have hhead := h.length_head
  have hn := h.length_eq
  have hlength : (head ++ List.replicate 64 0 ++ buf.drop 70).length = buf.length := by
    simp only [List.length_append, List.length_replicate, List.length_drop, hhead]
    omega
  rw [h.pack_named buf hbuf, modify_name_panics (by rw [hlength]; exact hname)]
  rfl

end Named

theorem DataPacketFramingLayer.namedLayer (d : DataPacketFramingLayer) :
    NamedLayer d.head d.fields d.sourceName d.pack d.packFields d.data.pack d.len d.data.len where
  length_head := by simp [DataPacketFramingLayer.head]
  length_eq := by simp [DataPacketFramingLayer.fields, DataPacketFramingLayer.len]
  pack_named := fun _ hlen => pack_named hlen
  packFields_eq := fun w buf hw hlen => packFields_eq hw (by
    have hl : d.len = 77 + d.data.len := rfl
    omega)

theorem UniverseDiscoveryPacketFramingLayer.namedLayer (d : UniverseDiscoveryPacketFramingLayer) :
    NamedLayer d.head (List.replicate 4 0) d.sourceName d.pack d.packFields d.data.pack d.len
      d.data.len where
  length_head := by simp [UniverseDiscoveryPacketFramingLayer.head]
  length_eq := rfl
  pack_named := fun _ hlen => pack_named hlen
  packFields_eq := fun w buf hw hlen => packFields_eq hw (by
    have hl : d.len = 74 + d.data.len := rfl
    omega)

/-! ## The whole packet -/

/-- The name ends inside the packet. -/
def E131RootLayerData.NameInside : E131RootLayerData → Prop
  | dataPacket d => sourceNameIndex + (strBytes d.sourceName).length ≤ d.len
  | synchronizationPacket _ => True
  | universeDiscoveryPacket d =>
    e131DiscoveryFramingLayerSourceNameFieldIndex + (strBytes d.sourceName).length ≤ d.len

theorem E131RootLayerData.confined {data : E131RootLayerData} (h : data.NameInside) :
    Confined data.pack data.len := by
  cases data with
  | dataPacket d => exact d.namedLayer.confined d.data.confined h
  | synchronizationPacket d => exact d.confined
  | universeDiscoveryPacket d => exact d.namedLayer.confined d.data.confined h

theorem E131RootLayerData.panics {data : E131RootLayerData} {buf : List UInt8}
    (h : ¬ data.NameInside) (hbuf : buf.length = data.len) : data.pack buf = .panic := by
  cases data with
  | dataPacket d => exact d.namedLayer.panics hbuf.ge (hbuf.trans_lt (Nat.not_le.mp h))
  | synchronizationPacket d => exact absurd trivial h
  | universeDiscoveryPacket d =>
    exact d.namedLayer.panics hbuf.ge (hbuf.trans_lt (Nat.not_le.mp h))

namespace AcnRootLayerProtocol

theorem confined {p : AcnRootLayerProtocol} (h : p.pdu.data.NameInside) :
    Confined p.pack p.len := by
  have hcid := p.pdu.cid.length_eq
  have hhead : p.pdu.head.length = 22 := by simp [E131RootLayer.head, hcid]
  have hroot : Confined p.pdu.pack p.pdu.len :=
    (E131RootLayerData.confined h).append hhead rfl fun _ hlen => E131RootLayer.pack_data hlen
  have hpreamble : preamble.length = 16 := rfl
  exact hroot.append hpreamble p.len_eq fun _ hlen => pack_pdu hlen

theorem panics {p : AcnRootLayerProtocol} {buf : List UInt8} (h : ¬ p.pdu.data.NameInside)
    (hbuf : buf.length = p.len) : p.pack buf = .panic := by
  have hl := p.len_eq
  have hr : p.pdu.len = 22 + p.pdu.data.len := rfl
  have hdata : p.pdu.data.pack ((buf.drop 16).drop 22) = .panic :=
    E131RootLayerData.panics h (by simp only [List.length_drop]; omega)
  rw [pack_pdu hbuf.ge, E131RootLayer.pack_data (by rw [List.length_drop]; omega), hdata]
  rfl

/-- Packing `p` never panics, and when it succeeds the first `len` bytes are those of the packet,
whatever the buffer held, and the others are the buffer's. -/
def PackConfined (p : AcnRootLayerProtocol) : Prop :=
  (∀ buf, p.pack buf ≠ .panic) ∧ ∃ bytes : List UInt8, bytes.length = p.len ∧
    ∀ buf out, p.pack buf = .ok out → out.take p.len = bytes ∧ out.drop p.len = buf.drop p.len

/-- A buffer that is too short is refused. -/
theorem pack_short {p : AcnRootLayerProtocol} {buf : List UInt8} (h : buf.length < p.len) :
    ∃ e, p.pack buf = .err e := by
  unfold pack throwIf
  rw [if_pos h]
  exact ⟨_, rfl⟩

/-- **Packing is total and confined** exactly for the packets whose name ends inside the packet. -/
theorem pack_confined_iff (p : AcnRootLayerProtocol) :
    p.PackConfined ↔ p.pdu.data.NameInside := by
  constructor
  · rintro ⟨htotal, -⟩
    by_contra h
    exact htotal (List.replicate p.len 0) (panics h List.length_replicate)
  · intro h
    obtain ⟨bytes, hbytes, hpack⟩ := confined h
    have hends : ∀ buf, (∃ e, p.pack buf = .err e) ∨ p.pack buf = .ok (bytes ++ buf.drop p.len) :=
      fun buf => (Nat.lt_or_ge buf.length p.len).elim (fun hlt => .inl (pack_short hlt)) (hpack buf)
    refine ⟨fun buf hpanic => ?_, bytes, hbytes, fun buf out hout => ?_⟩
    · rcases hends buf with ⟨e, he⟩ | hok
      · rw [hpanic] at he
        cases he
      · rw [hpanic] at hok
        cases hok
    · rcases hends buf with ⟨e, he⟩ | hok
      · rw [hout] at he
        cases he
      · rw [hout] at hok
        rw [ok.inj hok, ← hbytes]
        exact ⟨List.take_left, List.drop_left⟩

/-- A data packet without values, whose name is one byte longer than the rest of the packet. -/
def longNamePacket : AcnRootLayerProtocol :=
  { pdu := { cid := .repeated 1
             data := .dataPacket
               { sourceName := String.ofList (List.replicate 82 'a'), priority := 100
                 synchronizationAddress := 0, sequenceNumber := 0, previewData := false
                 streamTerminated := false, forceSynchronization := false, uni := 1
                 data := { propertyValues := [] } } } }

theorem longNamePacket_not_confined : ¬ ∀ p : AcnRootLayerProtocol, p.PackConfined := by
  intro hall
  have hpanic : longNamePacket.packAlloc = .panic := by decide +kernel
  exact (hall longNamePacket).1 _ hpanic

end AcnRootLayerProtocol

end Sacn
