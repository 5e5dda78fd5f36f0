import Sacn.Source.Universes

/-!
# What a successful call sends (`source.rs`)

`Emits` says which packets the datagrams are that a source put on the wire between two states.

* `emits_forM`: a loop emits what its steps emit.
* **`sendUniverseDiscovery_emits`**: the pages of the registered universes, in order.
* **`send_emits`**: one data packet for each part of the data, on the universes in order.
-/

namespace Sacn

open Rust Rust.Outcome SacnSourceInternal

/-- Between the two states, the source sent exactly the datagrams of these packets. -/
def Emits (src src' : SacnSourceInternal) (packets : List AcnRootLayerProtocol) : Prop :=
  ∃ datagrams, src'.socket.sent = src.socket.sent ++ datagrams ∧
    List.Forall₂ (fun p d => p.packAlloc = .ok d.2) packets datagrams

theorem Emits.refl (src : SacnSourceInternal) : Emits src src [] :=
  ⟨[], (List.append_nil _).symm, .nil⟩

theorem Emits.trans {a b c : SacnSourceInternal} {ps qs : List AcnRootLayerProtocol}
    (h : Emits a b ps) (h' : Emits b c qs) : Emits a c (ps ++ qs) := by
  obtain ⟨ds, hds, hps⟩ := h
  obtain ⟨es, hes, hqs⟩ := h'
  exact ⟨ds ++ es, by rw [hes, hds, List.append_assoc], List.rel_append hps hqs⟩

/-- A loop emits what its steps emit. `P` holds before each step, of the elements still to come. -/
theorem emits_forM {α : Type} {f : α → Method SacnSourceInternal SacnError Unit}
    {packet : α → AcnRootLayerProtocol} {P : List α → SacnSourceInternal → Prop}
    (hstep : ∀ a as src src', P (a :: as) src → (f a).run src = (.ok (), src') →
      Emits src src' [packet a] ∧ P as src') {as : List α} :
    ∀ {src src' : SacnSourceInternal}, P as src → (as.forM f).run src = (.ok (), src') →
      Emits src src' (as.map packet) ∧ P [] src' := by
  induction as with
  | nil =>
    intro src src' hP h
    obtain rfl := (Prod.mk.inj h).2
    exact ⟨.refl src, hP⟩
  | cons a as ih =>
    intro src src' hP h
    obtain ⟨_, mid, hfirst, hrest⟩ := Method.run_bind_eq_ok.mp h
    obtain ⟨hemits, hmid⟩ := hstep a as src mid hP hfirst
    obtain ⟨hemits', hlast⟩ := ih hmid hrest
    exact ⟨hemits.trans hemits', hlast⟩

/-- The elements of a list made from an index range, with their indices. -/
theorem mapIdx_map_range {α β : Type} (f : Nat → α → β) (g : Nat → α) (n : Nat) :
    ((List.range n).map g).mapIdx f = (List.range n).map fun i => f i (g i) := by
  refine List.ext_getElem (by simp) fun i _ _ => ?_
  simp only [List.getElem_mapIdx, List.getElem_map, List.getElem_range]

/-! ## Universe discovery -/

namespace SacnSourceInternal

/-- The part of the universe list on page `p`. -/
def pagePart (src : SacnSourceInternal) (p : Nat) : List UInt16 :=
  src.universes.extract (p * discoveryUniPerPage)
    (min ((p + 1) * discoveryUniPerPage) src.universes.length)

theorem length_pagePart_le (src : SacnSourceInternal) (p : Nat) : (src.pagePart p).length ≤ 512 := by
  unfold pagePart
  rw [length_extract_of_le (Nat.min_le_right _ _)]
  show min ((p + 1) * 512) src.universes.length - p * 512 ≤ 512
  omega

theorem Ascending.pagePart {src : SacnSourceInternal} (h : src.Ascending) (p : Nat) :
    (src.pagePart p).Pairwise (· < ·) := by
  unfold SacnSourceInternal.pagePart
  rw [List.extract_eq_take_drop]
  exact h.sublist ((List.take_sublist _ _).trans (List.drop_sublist _ _))

/-- The parts of the universe list, 512 to a page; the last one has what is left, which may be
nothing. -/
def discoveryPages (src : SacnSourceInternal) : List (List UInt16) :=
  (List.range (src.universes.length / discoveryUniPerPage + 1)).map src.pagePart

/-- The packets of the pages. -/
def discoveryPackets (src : SacnSourceInternal) : List AcnRootLayerProtocol :=
  src.discoveryPages.mapIdx fun p universes =>
    src.discoveryPacket (UInt8.ofNat p) (UInt8.ofNat (src.discoveryPages.length - 1)) universes

theorem length_discoveryPages (src : SacnSourceInternal) :
    src.discoveryPages.length = src.universes.length / 512 + 1 := by
  unfold discoveryPages
  rw [List.length_map, List.length_range]
  rfl

theorem flatten_discoveryPages (src : SacnSourceInternal) :
    src.discoveryPages.flatten = src.universes := by
  refine (flatten_extract src.universes discoveryUniPerPage _).trans (List.take_of_length_le ?_)
  show src.universes.length ≤ (src.universes.length / 512 + 1) * 512
  omega

/-- **A discovery round on the wire**, as long as the page count fits into a byte. -/
theorem sendUniverseDiscovery_emits {src src' : SacnSourceInternal}
    (hcount : src.universes.length / 512 + 1 < 256)
    (h : sendUniverseDiscovery.run src = (.ok (), src')) :
    Emits src src' src.discoveryPackets := by
  have hpages : src.pagesReq.toNat = src.universes.length / 512 + 1 :=
    UInt8.toNat_ofNat_of_lt' hcount
  have hlast : src.pagesReq - 1 = UInt8.ofNat (src.discoveryPages.length - 1) := by
    refine UInt8.toNat_inj.mp ?_
    rw [UInt8.toNat_sub_of_le _ _ (by rw [UInt8.le_iff_toNat_le, hpages]; exact Nat.le_add_left 1 _),
      hpages, length_discoveryPages, Nat.add_sub_cancel,
      UInt8.toNat_ofNat_of_lt' (Nat.lt_of_succ_lt hcount)]
    rfl
  have hpackets : src.discoveryPackets = (List.range src.pagesReq.toNat).map fun p =>
      src.discoveryPacket (UInt8.ofNat p) (src.pagesReq - 1) (src.pagePart p) := by
    unfold discoveryPackets
    rw [← hlast, hpages]
    exact mapIdx_map_range _ _ _
  unfold sendUniverseDiscovery at h
  rw [Method.run_bind_of_ok (Method.run_get src)] at h
  rw [hpackets]
  refine (emits_forM (P := fun _ s => s.cid = src.cid ∧ s.name = src.name) ?_ ⟨rfl, rfl⟩ h).1
  rintro p _ s s' ⟨hcid, hname⟩ hp
  obtain ⟨universes, s₁, hslice, hsend⟩ := Method.run_bind_eq_ok.mp hp
  obtain ⟨huniverses, rfl⟩ := Prod.mk.inj hslice
  obtain ⟨-, rfl⟩ := slice_eq_ok.mp huniverses
  have hends := sendUniverseDiscoveryDetailed_ends s (UInt8.ofNat p) (src.pagesReq - 1)
    (src.pagePart p)
  rw [pagePart, hsend] at hends
  obtain ⟨-, dst, bytes, hpack, rfl⟩ := hends.of_ok
  refine ⟨⟨[(dst, bytes)], rfl, .cons ?_ .nil⟩, hcid, hname⟩
  unfold discoveryPacket at hpack ⊢
  rw [hcid, hname] at hpack
  exact hpack

/-! ## Data -/

/-- The part of the data the `i`-th universe carries. -/
def dataPart (data : List UInt8) (i : Nat) : List UInt8 :=
  data.extract (i * universeChannelCapacity)
    (min ((i + 1) * universeChannelCapacity) data.length)

/-- The packets of the parts of the data, on the first universes of the list. -/
def sendPackets (src : SacnSourceInternal) (universes : List UInt16) (data : List UInt8)
    (priority : UInt8) (syncAddress : UInt16) : List AcnRootLayerProtocol :=
  (universes.zipIdx.take (requiredUniverses data)).map fun (uni, i) =>
    src.dataPacket uni (dataPart data i) priority syncAddress

theorem requiredUniverses_pos {data : List UInt8} (h : data ≠ []) :
    0 < requiredUniverses data := by
  have hpos := List.length_pos_iff.mpr h
  show 0 < (data.length + 512) / 513
  omega

theorem flatten_dataPart (data : List UInt8) :
    ((List.range (requiredUniverses data)).map (dataPart data)).flatten = data := by
  refine (flatten_extract data universeChannelCapacity _).trans (List.take_of_length_le ?_)
  show data.length ≤ (data.length + 512) / 513 * 513
  omega

theorem length_dataPart_le (data : List UInt8) (i : Nat) : (dataPart data i).length ≤ 513 := by
  unfold dataPart
  rw [length_extract_of_le (Nat.min_le_right _ _)]
  show min ((i + 1) * 513) data.length - i * 513 ≤ 513
  omega

/-- The parts of a `send`: their universes are the first of the list. -/
theorem map_fst_parts (universes : List UInt16) (n : Nat) :
    (universes.zipIdx.take n).map Prod.fst = universes.take n := by
  rw [List.map_take, List.zipIdx_map_fst]

theorem map_snd_parts {universes : List UInt16} {n : Nat} (h : n ≤ universes.length) :
    (universes.zipIdx.take n).map Prod.snd = List.range n := by
  rw [List.map_take, List.zipIdx_map_snd, List.take_range'_of_length_ge h, List.range_eq_range']

/-- Before a step of `send`: the source is as it was, but for the numbers of the universes it has
sent on. -/
structure Sending (src : SacnSourceInternal) (rest : List (UInt16 × Nat)) (s : SacnSourceInternal) :
    Prop where
  cid : s.cid = src.cid
  name : s.name = src.name
  preview : s.previewData = src.previewData
  sync : s.syncSequences = src.syncSequences
  distinct : (rest.map Prod.fst).Nodup
  numbers : ∀ e ∈ rest, s.dataSequence e.1 = src.dataSequence e.1

theorem Sending.dataPacket {src s : SacnSourceInternal} {uni : UInt16} {i : Nat}
    {rest : List (UInt16 × Nat)} (h : Sending src ((uni, i) :: rest) s) (values : List UInt8)
    (priority : UInt8) (syncAddress : UInt16) :
    s.dataPacket uni values priority syncAddress = src.dataPacket uni values priority syncAddress := by
  unfold SacnSourceInternal.dataPacket
  rw [h.cid, h.name, h.preview, h.numbers _ List.mem_cons_self]

theorem Sending.next {src s : SacnSourceInternal} {uni : UInt16} {i : Nat}
    {rest : List (UInt16 × Nat)} (h : Sending src ((uni, i) :: rest) s) (socket : Socket)
    (n : UInt8) :
    Sending src rest
      { s with socket, dataSequences := s.dataSequences.insert uni n } := by
  obtain ⟨huni, hdistinct⟩ := List.nodup_cons.mp h.distinct
  refine ⟨h.cid, h.name, h.preview, h.sync, hdistinct, fun e he => ?_⟩
  rw [← h.numbers e (List.mem_cons_of_mem _ he)]
  unfold dataSequence
  rw [HashMap.get_insert, if_neg]
  rintro rfl
  have hmem : e.1 ∈ rest.map Prod.fst := List.mem_map_of_mem he
  exact huni hmem

/-- The body of the loop of `send`. -/
def sendPart (data : List UInt8) (priority : UInt8) (dstIp : Option SocketAddr)
    (syncAddress : UInt16) (part : UInt16 × Nat) : Method SacnSourceInternal SacnError Unit := do
  let values ← Method.lift (chunk data part.2)
  sendUniverse part.1 values priority dstIp syncAddress

/-- A part that is sent: what was checked, the packet, and the source after it. -/
theorem sendPart_ok {s s' : SacnSourceInternal} {data : List UInt8} {priority : UInt8}
    {dstIp : Option SocketAddr} {syncAddress : UInt16} {part : UInt16 × Nat}
    (h : (sendPart data priority dstIp syncAddress part).run s = (.ok (), s')) :
    priority ≤ e131MaxPriority ∧
      Emits s s' [s.dataPacket part.1 (dataPart data part.2) priority syncAddress] ∧
      ∃ socket, s' = { s with
        socket
        dataSequences := s.dataSequences.insert part.1 (nextSequence (s.dataSequence part.1)) } := by
  obtain ⟨uni, i⟩ := part
  obtain ⟨values, s₁, hslice, hsend⟩ := Method.run_bind_eq_ok.mp h
  obtain ⟨hvalues, rfl⟩ := Prod.mk.inj hslice
  obtain ⟨-, rfl⟩ := slice_eq_ok.mp hvalues
  have hends := sendUniverse_ends s uni (dataPart data i) priority dstIp syncAddress
  rw [dataPart, hsend] at hends
  obtain ⟨hchecked, dst, bytes, hpack, rfl⟩ := hends.of_ok
  exact ⟨hchecked.1, ⟨[(dst, bytes)], rfl, .cons hpack .nil⟩, _, rfl⟩

/-- What a successful `send` has checked before its loop, and the loop. -/
theorem send_checked {src src' : SacnSourceInternal} {universes : List UInt16} {data : List UInt8}
    {priority : Option UInt8} {dstIp : Option SocketAddr} {sync : Option UInt16}
    (h : (send universes data priority dstIp sync).run src = (.ok (), src')) :
    data ≠ [] ∧ (∀ u ∈ universes, src.universeAllowed u = .ok ()) ∧
      (∀ a ∈ sync, src.universeAllowed a = .ok ()) ∧
      requiredUniverses data ≤ universes.length ∧
      ((universes.zipIdx.take (requiredUniverses data)).forM
        (sendPart data (priority.getD e131DefaultPriority) dstIp (sync.getD noSyncUniverse))).run
          src = (.ok (), src') := by
  unfold send at h
  simp only [Method.run_bind_of_ok (Method.run_get src), Method.run_bind_eq_ok,
    Method.run_throwIf_eq_ok, Method.run_forM_lift_eq_ok] at h
  obtain ⟨_, _, ⟨-, rfl⟩, _, _, ⟨hdata, rfl⟩, _, _, ⟨hallowed, rfl⟩, _, s, hsync, _, _,
    ⟨hlength, rfl⟩, hloop⟩ := h
  have hnil : data ≠ [] := fun hnil => hdata (List.isEmpty_iff.mpr hnil)
  cases sync with
  | none =>
    obtain rfl := (Prod.mk.inj hsync).2
    exact ⟨hnil, hallowed, by simp, Nat.not_lt.mp hlength, hloop⟩
  | some a =>
    obtain ⟨ha, rfl⟩ := Prod.mk.inj hsync
    refine ⟨hnil, hallowed, ?_, Nat.not_lt.mp hlength, hloop⟩
    rintro b ⟨⟩
    exact mapErr_eq_ok.mp ha

/-- What `send` has checked when its loop starts. -/
theorem send_eq_ok {src src' : SacnSourceInternal} {universes : List UInt16} {data : List UInt8}
    {priority : Option UInt8} {dstIp : Option SocketAddr} {sync : Option UInt16}
    (h : (send universes data priority dstIp sync).run src = (.ok (), src')) :
    data ≠ [] ∧ requiredUniverses data ≤ universes.length ∧
      ((universes.zipIdx.take (requiredUniverses data)).forM
        (sendPart data (priority.getD e131DefaultPriority) dstIp (sync.getD noSyncUniverse))).run
          src = (.ok (), src') := by
  obtain ⟨hdata, -, -, hlength, hloop⟩ := send_checked h
  exact ⟨hdata, hlength, hloop⟩

/-- **The rule for `send`**: the priority it checked, and what its loop emits. `P` holds before each
part, of the parts still to come. -/
theorem send_loop {src src' : SacnSourceInternal} {universes : List UInt16} {data : List UInt8}
    {priority : Option UInt8} {dstIp : Option SocketAddr} {sync : Option UInt16}
    {packet : UInt16 × Nat → AcnRootLayerProtocol}
    {P : List (UInt16 × Nat) → SacnSourceInternal → Prop}
    (hstep : ∀ part rest s s', P (part :: rest) s →
      (sendPart data (priority.getD e131DefaultPriority) dstIp (sync.getD noSyncUniverse) part).run
        s = (.ok (), s') → Emits s s' [packet part] ∧ P rest s')
    (hstart : P (universes.zipIdx.take (requiredUniverses data)) src)
    (h : (send universes data priority dstIp sync).run src = (.ok (), src')) :
    priority.getD e131DefaultPriority ≤ e131MaxPriority ∧
      Emits src src' ((universes.zipIdx.take (requiredUniverses data)).map packet) ∧ P [] src' := by
  obtain ⟨hdata, hlength, hloop⟩ := send_eq_ok h
  refine ⟨?_, emits_forM hstep hstart hloop⟩
  -- the first part is sent with the priority of all
  cases hparts : universes.zipIdx.take (requiredUniverses data) with
  | nil =>
    have hpos := requiredUniverses_pos hdata
    have hnone := congrArg List.length hparts
    rw [List.length_take, List.length_zipIdx, List.length_nil] at hnone
    omega
  | cons part rest =>
    rw [hparts] at hloop
    obtain ⟨_, _, hpart, -⟩ := Method.run_bind_eq_ok.mp hloop
    exact (sendPart_ok hpart).1

/-- **A successful `send` on distinct universes**: what it checked, what it sent and what it left
alone. -/
theorem send_emits {src src' : SacnSourceInternal} {universes : List UInt16} {data : List UInt8}
    {priority : Option UInt8} {dstIp : Option SocketAddr} {sync : Option UInt16}
    (hdistinct : universes.Nodup)
    (h : (send universes data priority dstIp sync).run src = (.ok (), src')) :
    data ≠ [] ∧ requiredUniverses data ≤ universes.length ∧
      priority.getD e131DefaultPriority ≤ e131MaxPriority ∧
      Emits src src' (src.sendPackets universes data (priority.getD e131DefaultPriority)
        (sync.getD noSyncUniverse)) ∧ Sending src [] src' := by
  obtain ⟨hdata, hlength, -⟩ := send_eq_ok h
  have hfst := map_fst_parts universes (requiredUniverses data)
  have hstart : Sending src (universes.zipIdx.take (requiredUniverses data)) src :=
    ⟨rfl, rfl, rfl, rfl, hfst ▸ hdistinct.sublist (List.take_sublist _ _), fun _ _ => rfl⟩
  refine ⟨hdata, hlength, send_loop (fun part rest s s' hs hpart => ?_) hstart h⟩
  obtain ⟨-, hemits, socket, rfl⟩ := sendPart_ok hpart
  rw [hs.dataPacket] at hemits
  exact ⟨hemits, hs.next socket _⟩

/-- **A successful `send_sync_packet`.** -/
theorem sendSyncPacket_emits {src src' : SacnSourceInternal} {uni : UInt16}
    {dstIp : Option SocketAddr} (h : (sendSyncPacket uni dstIp).run src = (.ok (), src')) :
    Emits src src' [src.syncPacket uni] := by
  have hends := sendSyncPacket_ends src uni dstIp
  rw [h] at hends
  obtain ⟨-, dst, bytes, hpack, rfl⟩ := hends.of_ok
  exact ⟨[(dst, bytes)], rfl, .cons hpack .nil⟩

end SacnSourceInternal

end Sacn
