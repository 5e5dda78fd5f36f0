import Sacn.EndToEnd.Parsing
import Sacn.EndToEnd.Sync
import Sacn.Receive.Session

/-!
# A stream end to end

Successive calls of `send` without a sync address, and `recv` called once for each datagram they put
on the wire. The numbers of a universe go on from one call to the next, past the wrap at 256, and
what the receiver remembers of a universe stays one behind them, so that no packet is discarded.

* `Streams`: what a part, a `send` and several calls of `send` emit, as one relation.
* `InStep`: what is asked of the receiver before each packet; **`InStep.recv`**: a `recv` that reads
  the packet returns its frame and leaves the receiver in step with the next one.
* **`stream_end_to_end`**: every `recv` returns the frame of its datagram, and the frames of each
  `send` are the parts of its data, each on its universe.
-/

namespace Sacn

open Rust Rust.Outcome SacnSourceInternal

/-! ## The packets of a stream -/

/-- The packets count up on each universe, from the numbers `next` to the numbers `last`. -/
inductive InTurn : (UInt16 → UInt8) → List DataPacketFramingLayer → (UInt16 → UInt8) → Prop where
  | nil (next : UInt16 → UInt8) : InTurn next [] next
  | cons {next last : UInt16 → UInt8} {pkt : DataPacketFramingLayer}
      {pkts : List DataPacketFramingLayer} (hnumber : pkt.sequenceNumber = next pkt.uni)
      (hrest : InTurn (Function.update next pkt.uni (next pkt.uni + 1)) pkts last) :
      InTurn next (pkt :: pkts) last

theorem InTurn.append {next mid last : UInt16 → UInt8} {pkts pkts' : List DataPacketFramingLayer}
    (h : InTurn next pkts mid) (h' : InTurn mid pkts' last) : InTurn next (pkts ++ pkts') last := by
  induction h with
  | nil next => exact h'
  | cons hnumber _ ih => exact .cons hnumber (ih h')

/-- A packet of a stream of the source, on one of the universes. -/
structure StreamPacket (src : SacnSourceInternal) (universes : List UInt16)
    (pkt : DataPacketFramingLayer) : Prop where
  domain : pkt.InDomain
  preview : pkt.previewData = src.previewData
  live : pkt.streamTerminated = false
  unsynced : pkt.synchronizationAddress = e131NoSyncAddr
  uni : pkt.uni ∈ universes

/-- Between the two states, the source sent these packets and no others, with numbers that go on
from one state to the next. -/
structure Streams (universes : List UInt16) (src src' : SacnSourceInternal)
    (pkts : List DataPacketFramingLayer) : Prop where
  emits : Emits src src' (pkts.map (dataPacketOf src.cid))
  cid : src'.cid = src.cid
  name : src'.name = src.name
  preview : src'.previewData = src.previewData
  packets : ∀ pkt ∈ pkts, StreamPacket src universes pkt
  numbers : InTurn src.dataSequence pkts src'.dataSequence

namespace Streams

variable {universes : List UInt16} {a b c : SacnSourceInternal}
  {pkts pkts' : List DataPacketFramingLayer}

theorem refl (universes : List UInt16) (src : SacnSourceInternal) :
    Streams universes src src [] where
  emits := .refl src
  cid := rfl
  name := rfl
  preview := rfl
  packets := fun _ h => absurd h List.not_mem_nil
  numbers := .nil _

theorem trans (h : Streams universes a b pkts) (h' : Streams universes b c pkts') :
    Streams universes a c (pkts ++ pkts') where
  emits := by
    rw [List.map_append]
    exact h.emits.trans (h.cid ▸ h'.emits)
  cid := h'.cid.trans h.cid
  name := h'.name.trans h.name
  preview := h'.preview.trans h.preview
  packets := by
    intro pkt hpkt
    rcases List.mem_append.mp hpkt with hpkt | hpkt
    · exact h.packets pkt hpkt
    · have hlater := h'.packets pkt hpkt
      exact ⟨hlater.domain, hlater.preview.trans h.preview, hlater.live, hlater.unsynced,
        hlater.uni⟩
  numbers := h.numbers.append h'.numbers

theorem mono {universes' : List UInt16} (h : Streams universes a b pkts)
    (hsub : ∀ u ∈ universes, u ∈ universes') : Streams universes' a b pkts where
  emits := h.emits
  cid := h.cid
  name := h.name
  preview := h.preview
  packets := fun pkt hpkt =>
    have hp := h.packets pkt hpkt
    ⟨hp.domain, hp.preview, hp.live, hp.unsynced, hsub _ hp.uni⟩
  numbers := h.numbers

end Streams

theorem dataSequence_insert (src : SacnSourceInternal) (socket : Socket) (uni : UInt16) :
    ({ src with
        socket
        dataSequences := src.dataSequences.insert uni
          (nextSequence (src.dataSequence uni)) } : SacnSourceInternal).dataSequence =
      Function.update src.dataSequence uni (src.dataSequence uni + 1) := by
  funext u
  rw [nextSequence_eq, Function.update_apply]
  show ((src.dataSequences.insert uni (src.dataSequence uni + 1)).get u).getD _ = _
  rw [HashMap.get_insert]
  split <;> rfl

/-- **A part that is sent without a sync address** is the next packet of its universe. -/
theorem sendPart_streams {s s' : SacnSourceInternal} {data : List UInt8} {priority : UInt8}
    {dstIp : Option SocketAddr} {part : UInt16 × Nat} {universes : List UInt16}
    (hname : NameInDomain s.name) (huni : part.1 ∈ universes) (hrange : 1 ≤ part.1 ∧ part.1 ≤ 63999)
    (h : (sendPart data priority dstIp noSyncUniverse part).run s = (.ok (), s')) :
    Streams universes s s' [s.dataLayer data priority noSyncUniverse part] := by
  obtain ⟨hpriority, hemits, socket, rfl⟩ := sendPart_ok h
  refine ⟨hemits, rfl, rfl, rfl, List.forall_mem_singleton.mpr ⟨⟨hname, hpriority, ?_, hrange,
    length_dataPart_le data part.2⟩, rfl, rfl, rfl, huni⟩, ?_⟩
  · exact UInt16.le_iff_toNat_le.mpr (Nat.zero_le _)
  · rw [dataSequence_insert]
    exact .cons rfl (.nil _)

/-- The loop of `send`. -/
theorem sendLoop_streams {data : List UInt8} {priority : UInt8} {dstIp : Option SocketAddr}
    {universes : List UInt16} {parts : List (UInt16 × Nat)} :
    ∀ {s s' : SacnSourceInternal}, NameInDomain s.name →
      (∀ part ∈ parts, part.1 ∈ universes ∧ 1 ≤ part.1 ∧ part.1 ≤ 63999) →
      (parts.forM (sendPart data priority dstIp noSyncUniverse)).run s = (.ok (), s') →
      ∃ pkts, Streams universes s s' pkts ∧
        pkts.map (fun pkt => (pkt.uni, pkt.data.propertyValues)) =
          parts.map fun part => (part.1, dataPart data part.2) := by
  induction parts with
  | nil =>
    intro s s' _ _ h
    obtain rfl := (Prod.mk.inj h).2
    exact ⟨[], .refl universes s, rfl⟩
  | cons part parts ih =>
    intro s s' hname hparts h
    obtain ⟨huni, hrange⟩ := hparts part List.mem_cons_self
    obtain ⟨_, mid, hfirst, hrest⟩ := Method.run_bind_eq_ok.mp h
    have hstreams := sendPart_streams hname huni hrange hfirst
    obtain ⟨pkts, hlater, hvalues⟩ := ih (hstreams.name ▸ hname)
      (fun p hp => hparts p (List.mem_cons_of_mem part hp)) hrest
    exact ⟨_, hstreams.trans hlater, congrArg ((part.1, dataPart data part.2) :: ·) hvalues⟩

/-- A call of `send` without a sync address. -/
structure StreamSend where
  universes : List UInt16
  data : List UInt8
  priority : Option UInt8
  dstIp : Option SocketAddr

/-- The call. -/
def StreamSend.call (c : StreamSend) : SendCall := .send c.universes c.data c.priority c.dstIp none

/-- The universes and values of the packets are those of the parts of the data. -/
structure StreamSend.Parts (c : StreamSend) (parts : List (UInt16 × List UInt8)) : Prop where
  unis : parts.map Prod.fst = c.universes.take (requiredUniverses c.data)
  values : parts.flatMap Prod.snd = c.data

/-- **A successful `send`**, as a piece of a stream. -/
theorem StreamSend.streams {c : StreamSend} {src src' : SacnSourceInternal}
    (hlegal : c.call.Legal src) (h : c.call.method.run src = (.ok (), src')) :
    ∃ pkts, Streams c.universes src src' pkts ∧
      c.Parts (pkts.map fun pkt => (pkt.uni, pkt.data.propertyValues)) := by
  obtain ⟨hname, hdiscovery, -⟩ := hlegal
  obtain ⟨-, hallowed, -, hlength, hloop⟩ := send_checked h
  have hfst := map_fst_parts c.universes (requiredUniverses c.data)
  have hparts : ∀ part ∈ c.universes.zipIdx.take (requiredUniverses c.data),
      part.1 ∈ c.universes ∧ 1 ≤ part.1 ∧ part.1 ≤ 63999 := by
    intro part hpart
    have hmem : part.1 ∈ c.universes.take (requiredUniverses c.data) :=
      hfst ▸ List.mem_map_of_mem hpart
    have huni := List.mem_of_mem_take hmem
    exact ⟨huni, (universeAllowed_range (hallowed _ huni)).parsed_iff.mpr
      fun heq => hdiscovery (heq ▸ hmem)⟩
  obtain ⟨pkts, hstreams, hvalues⟩ := sendLoop_streams hname hparts hloop
  refine ⟨pkts, hstreams, ?_, ?_⟩
  · rw [hvalues, List.map_map]
    exact hfst
  · rw [hvalues, List.flatMap_map, List.flatMap_def]
    show ((c.universes.zipIdx.take _).map (dataPart c.data ∘ Prod.snd)).flatten = _
    rw [← List.map_map, map_snd_parts hlength, flatten_dataPart]

/-- **Calls of `send` one after the other.** -/
theorem sends_stream {sends : List StreamSend} :
    ∀ {src sent : SacnSourceInternal}, (∀ c ∈ sends, c.call.Legal src) →
      (sends.forM fun c => c.call.method).run src = (.ok (), sent) →
      ∃ groups : List (List DataPacketFramingLayer),
        Streams (sends.flatMap StreamSend.universes) src sent groups.flatten ∧
        List.Forall₂ (fun c pkts =>
          c.Parts (pkts.map fun pkt => (pkt.uni, pkt.data.propertyValues))) sends groups := by
  induction sends with
  | nil =>
    intro src sent _ h
    obtain rfl := (Prod.mk.inj h).2
    exact ⟨[], .refl _ src, .nil⟩
  | cons c sends ih =>
    intro src sent hlegal h
    obtain ⟨_, mid, hfirst, hrest⟩ := Method.run_bind_eq_ok.mp h
    obtain ⟨pkts, hstreams, hparts⟩ := StreamSend.streams (hlegal c List.mem_cons_self) hfirst
    have hlater : ∀ d ∈ sends, d.call.Legal mid := by
      intro d hd
      have hd := hlegal d (List.mem_cons_of_mem c hd)
      exact ⟨hstreams.name ▸ hd.1, hd.2⟩
    obtain ⟨groups, hstreams', hparts'⟩ := ih hlater hrest
    refine ⟨pkts :: groups, ?_, .cons hparts hparts'⟩
    rw [List.flatMap_cons, List.flatten_cons]
    exact (hstreams.mono fun u hu => List.mem_append_left _ hu).trans
      (hstreams'.mono fun u hu => List.mem_append_right _ hu)

/-! ## A receiver in step -/

/-- The receiver listens to the universes of a stream of the source and would discard none of the
packets with the numbers `next`; it does not announce timeouts, and has room for the source. -/
structure InStep (src : SacnSourceInternal) (universes : List UInt16) (next : UInt16 → UInt8)
    (r : SacnReceiver) : Prop where
  quiet : r.announceTimeout = false
  preview : src.previewData = true → r.processPreviewData = true
  listens : ∀ u ∈ universes, r.isListening u = true
  room : r.sequences.dataSequences.Room r.sourceLimit src.cid
  numbers : ∀ u s, r.sequences.dataSequences.lookup src.cid u = some s →
    ¬ discards (next u) s.sequenceNumber

namespace InStep

variable {src : SacnSourceInternal} {universes : List UInt16} {next : UInt16 → UInt8}

theorem swept {r : SacnReceiver} (h : InStep src universes next r) (turn : Turn) :
    InStep src universes next (r.swept turn) where
  quiet := h.quiet
  preview := h.preview
  listens := h.listens
  room := h.room.sweep _ _
  numbers := fun u s hs => h.numbers u s (SeqTable.lookup_of_sweep hs)

/-- **The next packet of a universe is delivered**, and the one after it is the next. -/
theorem handlePacket {r : SacnReceiver} (h : InStep src universes next r)
    {pkt : DataPacketFramingLayer} (hpkt : StreamPacket src universes pkt)
    (hnumber : pkt.sequenceNumber = next pkt.uni) (turn : Turn) :
    ((SacnReceiver.handlePacket turn (dataPacketOf src.cid pkt)).run r).1 =
        .ok (some [SacnReceiver.dmxData src.cid pkt turn.now]) ∧
      InStep src universes (Function.update next pkt.uni (next pkt.uni + 1))
        ((SacnReceiver.handlePacket turn (dataPacketOf src.cid pkt)).run r).2 := by
  have haccept : ∀ s, r.sequences.dataSequences.lookup src.cid pkt.uni = some s →
      ¬ discards pkt.sequenceNumber s.sequenceNumber := hnumber ▸ h.numbers pkt.uni
  have hshown : (pkt.previewData && !r.processPreviewData) = false := by
    cases hpreview : pkt.previewData with
    | false => rfl
    | true => rw [h.preview (hpkt.preview ▸ hpreview)]; rfl
  have hrun : (SacnReceiver.handlePacket turn (dataPacketOf src.cid pkt)).run r =
      (.ok (some [SacnReceiver.dmxData src.cid pkt turn.now]),
        SacnReceiver.clearWaitingData pkt.uni { r with
          sequences := { r.sequences with
            dataSequences := r.numbered src.cid pkt turn.check } }) := by
    show (SacnReceiver.handleDataPacket src.cid pkt turn.check turn.now).run r = _
    unfold SacnReceiver.handleDataPacket SacnReceiver.acceptDataPacket
    rw [Method.run_bind_of_ok (Method.run_get r), hshown, hpkt.live, h.listens _ hpkt.uni]
    simp only [Bool.false_eq_true, if_false, Bool.not_true]
    rw [Method.run_bind_of_ok (Method.run_get r),
      Method.run_bind_of_ok (SacnReceiver.run_checkDataSeqNumber_accepted h.quiet haccept h.room),
      if_pos hpkt.unsynced]
    rfl
  rw [hrun]
  refine ⟨rfl, h.quiet, h.preview, h.listens, (h.room.sweep _ _).record _ _, fun u s hs => ?_⟩
  have hlookup : (r.numbered src.cid pkt turn.check).lookup src.cid u = some s := hs
  unfold SacnReceiver.numbered at hlookup
  rw [SeqTable.lookup_record] at hlookup
  rw [Function.update_apply]
  by_cases hu : u = pkt.uni
  · rw [if_pos ⟨rfl, hu⟩] at hlookup
    obtain rfl := Option.some.inj hlookup
    -- the number remembered is the one before the next
    have hfirst := not_discards_first (next pkt.uni + 1)
    rw [UInt8.add_sub_cancel] at hfirst
    rw [if_pos hu, hnumber]
    exact hfirst
  · rw [if_neg fun hc => hu hc.2] at hlookup
    rw [if_neg hu]
    exact h.numbers u s (SeqTable.lookup_of_sweep hlookup)

end InStep

/-! ## `recv`, call by call -/

/-- The step of a session. -/
abbrev apiStep (l : Listener) (c : ApiCall) :
    Option (Outcome SacnError (Option (List DMXData))) × Listener := (c.ended l, c.next l)

/-- A `recv` whose first turn comes before its deadline and can set its wait. -/
def ApiCall.InTime : ApiCall → Prop
  | recv timeout start _ (t :: _) => timeout ≠ some 0 ∧
    ¬ Listener.Expired (timeout.bind (checkedAdd start)) t.clock ∧ t.timeoutSet = none
  | _ => False

/-- The next reads of the socket are these datagrams. -/
def Listener.Brings (l : Listener) (datagrams : List (List UInt8)) : Prop :=
  ∀ i (h : i < datagrams.length), l.reads (l.taken + i) = .datagram datagrams[i]

theorem Listener.Brings.tail {l l' : Listener} {d : List UInt8} {datagrams : List (List UInt8)}
    (h : l.Brings (d :: datagrams)) (hreads : l'.reads = l.reads)
    (htaken : l'.taken = l.taken + 1) : l'.Brings datagrams := by
  intro i hi
  have hread := h (i + 1) (Nat.succ_lt_succ hi)
  rwa [hreads, htaken, Nat.add_assoc, Nat.add_comm 1 i]

namespace InStep

variable {src : SacnSourceInternal} {universes : List UInt16} {next last : UInt16 → UInt8}

/-- **A `recv` that reads the next packet** returns its frame. -/
theorem recv {l : Listener} (h : InStep src universes next l.receiver)
    {pkt : DataPacketFramingLayer} (hpkt : StreamPacket src universes pkt)
    (hnumber : pkt.sequenceNumber = next pkt.uni)
    (hread : l.reads l.taken = .datagram (dataPacketOf src.cid pkt).encode)
    {c : ApiCall} (hc : c.InTime) :
    ∃ d : DMXData, (d.uni, d.values) = (pkt.uni, pkt.data.propertyValues) ∧
      c.ended l = some (.ok (some [d])) ∧
      InStep src universes (Function.update next pkt.uni (next pkt.uni + 1)) (c.next l).receiver ∧
      (c.next l).reads = l.reads ∧ (c.next l).taken = l.taken + 1 := by
  match c, hc with
  | .recv timeout start zero (t :: turns), ⟨htimeout, hlive, hset⟩ =>
    have hguard : l.receiver.universes ≠ [e131DiscoveryUniverse] := by
      intro honly
      have hmem := List.contains_iff_mem.mp (h.listens _ hpkt.uni)
      rw [honly] at hmem
      exact discoveryUniverse_not_le (List.mem_singleton.mp hmem ▸ hpkt.domain.uni_range.2)
    have hreads : Listener.Reads (timeout.bind (checkedAdd start)) t l (l.receiver.swept t.turn) :=
      ⟨Listener.checks_swept h.quiet t.turn, hlive, hset⟩
    obtain ⟨hframes, hnext⟩ := (h.swept t.turn).handlePacket hpkt hnumber t.turn
    rw [← SacnReceiver.recvTurn_run h.quiet
      (carries_encode (p := dataPacketOf src.cid pkt) hpkt.domain).receives] at hframes hnext
    have hrecv : l.recv timeout start zero (t :: turns) = _ :=
      Listener.recv_first hguard htimeout hreads hread hframes
    have hended : (ApiCall.recv timeout start zero (t :: turns)).ended l =
        some (.ok (some [SacnReceiver.dmxData src.cid pkt t.turn.now])) :=
      congrArg (fun res => res.1.map (some <$> ·)) hrecv
    have hafter : (ApiCall.recv timeout start zero (t :: turns)).next l = _ :=
      congrArg Prod.snd hrecv
    refine ⟨SacnReceiver.dmxData src.cid pkt t.turn.now, rfl, hended, ?_⟩
    rw [hafter]
    exact ⟨hnext, rfl, rfl⟩

/-- **`recv`, once for each packet.** -/
theorem recvs {pkts : List DataPacketFramingLayer} (hturns : InTurn next pkts last)
    (hpkts : ∀ pkt ∈ pkts, StreamPacket src universes pkt) :
    ∀ {l : Listener} {calls : List ApiCall}, InStep src universes next l.receiver →
      l.Brings (pkts.map fun pkt => (dataPacketOf src.cid pkt).encode) →
      calls.length = pkts.length → (∀ c ∈ calls, c.InTime) →
      ∃ frames : List DMXData,
        (events apiStep l calls).1.map Prod.snd = frames.map (fun d => some (.ok (some [d]))) ∧
        frames.map (fun d => (d.uni, d.values)) =
          pkts.map (fun pkt => (pkt.uni, pkt.data.propertyValues)) ∧
        InStep src universes last (events apiStep l calls).2.receiver := by
  induction hturns with
  | nil next =>
    intro l calls h _ hlength _
    obtain rfl := List.length_eq_zero_iff.mp hlength
    exact ⟨[], rfl, rfl, h⟩
  | @cons next last pkt pkts hnumber _ ih =>
    intro l calls h hbrings hlength htime
    obtain ⟨c, calls, rfl⟩ := List.exists_cons_of_length_eq_add_one hlength
    obtain ⟨d, hd, hended, hnext, hreads, htaken⟩ := h.recv (hpkts pkt List.mem_cons_self) hnumber
      (hbrings 0 (Nat.succ_pos _)) (htime c List.mem_cons_self)
    obtain ⟨frames, hresults, hvalues, hlast⟩ := ih
      (fun p hp => hpkts p (List.mem_cons_of_mem pkt hp)) hnext (hbrings.tail hreads htaken)
      (Nat.succ.inj hlength) fun c' hc' => htime c' (List.mem_cons_of_mem c hc')
    exact ⟨d :: frames, congrArg₂ List.cons hended hresults, congrArg₂ List.cons hd hvalues, hlast⟩

end InStep

/-! ## Both sides -/

/-- **A stream end to end.** Calls of `send` without a sync address that all succeed, from a source
whose name fits its field and which does not send on the discovery universe, hand the socket one
datagram for each part of their data. Where a receiver is in step with the source and its socket
reads these datagrams in order, `recv`, called in time once for each, returns every time the one
frame of its datagram: the frames of each `send` are, in order, the parts of its data on their
universes. The receiver is then in step with what the source sends next. -/
theorem stream_end_to_end {src sent : SacnSourceInternal} {sends : List StreamSend}
    (hlegal : ∀ c ∈ sends, c.call.Legal src)
    (hsends : (sends.forM fun c => c.call.method).run src = (.ok (), sent)) :
    ∃ (datagrams : List (SocketAddr × List UInt8)) (parts : List (List (UInt16 × List UInt8))),
      sent.socket.sent = src.socket.sent ++ datagrams ∧
      List.Forall₂ StreamSend.Parts sends parts ∧ datagrams.length = parts.flatten.length ∧
      ∀ (l : Listener) (calls : List ApiCall),
        InStep src (sends.flatMap StreamSend.universes) src.dataSequence l.receiver →
        l.Brings (datagrams.map Prod.snd) → calls.length = datagrams.length →
        (∀ c ∈ calls, c.InTime) →
        ∃ frames : List DMXData,
          (events apiStep l calls).1.map Prod.snd = frames.map (fun d => some (.ok (some [d]))) ∧
          frames.map (fun d => (d.uni, d.values)) = parts.flatten ∧
          InStep sent (sends.flatMap StreamSend.universes) sent.dataSequence
            (events apiStep l calls).2.receiver := by
  obtain ⟨groups, hstreams, hparts⟩ := sends_stream hlegal hsends
  obtain ⟨datagrams, hsent, hencoded⟩ := hstreams.emits.encoded fun p hp => by
    obtain ⟨pkt, hpkt, rfl⟩ := List.mem_map.mp hp
    exact E131RootLayerData.InDomain.packable (hstreams.packets pkt hpkt).domain
  rw [List.map_map] at hencoded
  have hlength := congrArg List.length hencoded
  rw [List.length_map, List.length_map] at hlength
  refine ⟨datagrams, groups.map (List.map fun pkt => (pkt.uni, pkt.data.propertyValues)), hsent,
    List.forall₂_map_right_iff.mpr hparts, ?_, fun l calls hstep hbrings hcalls htime => ?_⟩
  · rw [← List.map_flatten, List.length_map, hlength]
  · obtain ⟨frames, hresults, hvalues, hlast⟩ := InStep.recvs hstreams.numbers hstreams.packets
      hstep (hencoded ▸ hbrings) (hcalls.trans hlength) htime
    rw [← List.map_flatten]
    exact ⟨frames, hresults, hvalues, hlast.quiet, fun hp => hlast.preview (hstreams.preview ▸ hp),
      hlast.listens, hstreams.cid ▸ hlast.room, hstreams.cid ▸ hlast.numbers⟩

/-- A receiver that is ready for the source is in step with it. -/
theorem SacnReceiver.Ready.inStep {r : SacnReceiver} {src : SacnSourceInternal}
    {universes : List UInt16} (h : r.Ready src.cid universes) (hpreview : src.previewData = false)
    (next : UInt16 → UInt8) : InStep src universes next r where
  quiet := h.quiet
  preview := fun hp => absurd (hpreview.symm.trans hp) (by simp)
  listens := h.listens
  room := h.dataRoom
  numbers := fun u s hs => absurd ((h.dataNumbers u).symm.trans hs) (by simp)

/-- Data that fits one universe is one part. -/
theorem StreamSend.Parts.single {c : StreamSend} {parts : List (UInt16 × List UInt8)} {u : UInt16}
    (h : c.Parts parts) (huni : c.universes.take (requiredUniverses c.data) = [u]) :
    parts = [(u, c.data)] := by
  obtain ⟨part, rfl, rfl⟩ := List.map_eq_singleton_iff.mp (h.unis.trans huni)
  have hvalues := h.values
  rw [List.flatMap_singleton] at hvalues
  rw [← hvalues]

/-- A call of `send` with two bytes. -/
def shortSend (value : UInt8) : StreamSend :=
  { universes := [1], data := [0, value], priority := none, dstIp := none }

/-- A receiver on a socket that reads these datagrams. -/
def streamListener (datagrams : List (List UInt8)) : Listener :=
  { receiver := syncReceiver
    reads := fun n => datagrams[n]?.elim (.failed .wouldBlock "") .datagram
    taken := 0, waits := [] }

theorem streamListener_brings (datagrams : List (List UInt8)) :
    (streamListener datagrams).Brings datagrams := by
  intro i hi
  unfold streamListener
  simp only [Nat.zero_add, List.getElem?_eq_getElem hi, Option.elim_some]

/-- A `recv` without a timeout. -/
def streamRecv : ApiCall := .recv none 0 idleTurn [idleLoopTurn]

theorem shortSends_received : ∃ (datagrams : List (List UInt8)) (d e : DMXData),
    (events apiStep (streamListener datagrams) [streamRecv, streamRecv]).1.map Prod.snd =
        [some (.ok (some [d])), some (.ok (some [e]))] ∧
      (d.uni, d.values) = (1, [0, 255]) ∧ (e.uni, e.values) = (1, [0, 7]) := by
  have hsent : (([shortSend 255, shortSend 7].forM fun c => c.call.method).run syncSource).1 =
      .ok () := by decide +kernel
  have hname : NameInDomain syncSource.name := ⟨by decide, by decide⟩
  have hlegal : ∀ c ∈ [shortSend 255, shortSend 7], c.call.Legal syncSource := by
    intro c hc
    rcases List.mem_pair.mp hc with rfl | rfl
    · exact ⟨hname, by decide, by simp⟩
    · exact ⟨hname, by decide, by simp⟩
  obtain ⟨datagrams, parts, -, hparts, hlength, hreceive⟩ :=
    stream_end_to_end hlegal (by rw [← hsent])
  obtain ⟨p, _, hp, hrest, rfl⟩ := List.forall₂_cons_left_iff.mp hparts
  obtain ⟨q, _, hq, hnil, rfl⟩ := List.forall₂_cons_left_iff.mp hrest
  obtain rfl := List.forall₂_nil_left_iff.mp hnil
  obtain rfl := hp.single (u := 1) (by decide)
  obtain rfl := hq.single (u := 1) (by decide)
  have hready : syncReceiver.Ready syncSource.cid [1, 1] :=
    { syncReceiver_ready with listens := by simpa using syncReceiver_ready.listens 1 (by simp) }
  have hstep : InStep syncSource [1, 1] syncSource.dataSequence syncReceiver :=
    hready.inStep rfl _
  have htime : streamRecv.InTime :=
    ⟨by decide, fun hexpired => absurd hexpired (by simp [Listener.Expired]), rfl⟩
  obtain ⟨frames, hresults, hvalues, -⟩ := hreceive (streamListener (datagrams.map Prod.snd))
    [streamRecv, streamRecv] hstep (streamListener_brings _) hlength.symm
    (by simpa using htime)
  obtain ⟨d, tail, rfl, hd, htail⟩ := List.map_eq_cons_iff.mp hvalues
  obtain ⟨e, rfl, he⟩ := List.map_eq_singleton_iff.mp htail
  exact ⟨_, d, e, hresults, hd, he⟩

end Sacn
