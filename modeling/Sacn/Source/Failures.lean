import Sacn.Source.Datagrams

/-!
# Numbering when sends fail (`source.rs`)

`send_universe` and `send_sync_packet` store the next sequence number after the packet went out, so
a packet that fails to go out leaves its number for the next one. `send_terminate_stream_pkt` takes
the number out of the table first: if the packet fails, the number is gone and the universe starts
again from 0.

* `Counts`: the numbers sent so far are `0, 1, 2, …` modulo 256, and the next one is known.
* **`numbers_consecutive`**: in every run that loses no termination packet with a number other than
  0, the packets sent on each universe and on each synchronisation address are numbered from 0.
-/

namespace Sacn

open Rust Rust.Outcome SacnSourceInternal

/-! ## Counting -/

/-- The numbers are `0, 1, 2, …` modulo 256. -/
def Consecutive (numbers : List UInt8) : Prop :=
  numbers = (List.range numbers.length).map UInt8.ofNat

instance (numbers : List UInt8) : Decidable (Consecutive numbers) :=
  inferInstanceAs (Decidable (_ = _))

/-- The numbers are `0, 1, 2, …` modulo 256, and `next` comes next. -/
structure Counts (numbers : List UInt8) (next : UInt8) : Prop where
  consecutive : Consecutive numbers
  next_eq : next = UInt8.ofNat numbers.length

theorem Counts.nil : Counts [] 0 := ⟨rfl, rfl⟩

theorem Counts.snoc {numbers : List UInt8} {next : UInt8} (h : Counts numbers next) :
    Counts (numbers ++ [next]) (next + 1) := by
  obtain ⟨hconsecutive, hnext⟩ := h
  constructor
  · unfold Consecutive
    rw [List.length_append, List.length_singleton, List.range_succ, List.map_append,
      List.map_singleton, ← hconsecutive, hnext]
  · rw [List.length_append, List.length_singleton, UInt8.ofNat_add, hnext]
    rfl

namespace SacnSourceInternal

/-- The name fits its field, and on every stream the packets sent so far are numbered from 0 with
the source's number next. -/
structure Numbered (src : SacnSourceInternal) : Prop where
  name_le : (strBytes src.name).length ≤ 64
  counts : ∀ k : Stream, Counts (numbersOn k.kind k.uni src.socket.sent) (src.next k)

/-- What a step that sends no numbered packet must leave alone. -/
def visible (src : SacnSourceInternal) :
    String × List (SocketAddr × List UInt8) × (Stream → UInt8) :=
  (src.name, src.socket.sent, fun k => src.next k)

theorem Numbered.of_visible {src src' : SacnSourceInternal} (h : src.Numbered)
    (hvisible : src'.visible = src.visible) : src'.Numbered := by
  obtain ⟨hname, hrest⟩ := Prod.mk.inj hvisible
  obtain ⟨hsent, hnext⟩ := Prod.mk.inj hrest
  refine ⟨hname ▸ h.name_le, fun k => ?_⟩
  rw [hsent, show src'.next k = src.next k from congrFun hnext k]
  exact h.counts k

/-- A step that sends the next packet of a stream and moves its number on. -/
theorem Numbered.of_sent {src src' : SacnSourceInternal} {p : AcnRootLayerProtocol}
    {on : Stream} {dst : SocketAddr} {bytes : List UInt8} (h : src.Numbered)
    (hpack : p.packAlloc = .ok bytes) (hon : p.numbered = some (on, src.next on))
    (hname : src'.name = src.name)
    (hsent : src'.socket.sent = src.socket.sent ++ [(dst, bytes)])
    (hnext : ∀ k, src'.next k =
      if k.kind = on.kind ∧ k.uni = on.uni then src.next on + 1 else src.next k) :
    src'.Numbered := by
  refine ⟨hname ▸ h.name_le, fun k => ?_⟩
  have hcounts := h.counts k
  have hnumber : p.numberOn k.kind k.uni =
      if on.kind = k.kind ∧ on.uni = k.uni then some (src.next on) else none := by
    unfold AcnRootLayerProtocol.numberOn
    rw [hon]
    rfl
  rw [hsent, numbersOn_snoc hpack, hnext, hnumber]
  by_cases hk : k.kind = on.kind ∧ k.uni = on.uni
  · have hsame : src.next k = src.next on := by
      unfold next
      rw [hk.1, hk.2]
    rw [if_pos hk, if_pos ⟨hk.1.symm, hk.2.symm⟩, ← hsame]
    exact hcounts.snoc
  · rw [if_neg hk, if_neg fun ho => hk ⟨ho.1.symm, ho.2.symm⟩, Option.toList_none, List.append_nil]
    exact hcounts

/-! ## Each method -/

/-- A call that sends the next packet of a stream, or nothing. -/
theorem Numbered.of_ends {src : SacnSourceInternal} {p : AcnRootLayerProtocol} {checked : Prop}
    {next : SacnSourceInternal → SacnSourceInternal} {on : Stream}
    {r : Outcome SacnError Unit × SacnSourceInternal} (h : src.Numbered)
    (hends : SendEnds src p checked next r) (hon : p.numbered = some (on, src.next on))
    (hkeeps : ∀ s, (next s).name = s.name ∧ (next s).socket = s.socket)
    (hnext : ∀ socket k, (next { src with socket }).next k =
      if k.kind = on.kind ∧ k.uni = on.uni then src.next on + 1 else src.next k) :
    r.2.Numbered := by
  cases hends with
  | sent dst bytes hpack _ =>
    obtain ⟨hname, hsocket⟩ := hkeeps { src with socket := src.socket.logged dst bytes }
    have hsent : (next { src with socket := src.socket.logged dst bytes }).socket.sent =
        src.socket.sent ++ [(dst, bytes)] := by
      rw [hsocket]
      rfl
    exact h.of_sent hpack hon hname hsent (hnext _)
  | failed outcome calls _ => exact h.of_visible rfl

theorem numbered_sendUniverse (uni : UInt16) (data : List UInt8) (priority : UInt8)
    (dstIp : Option SocketAddr) (syncAddress : UInt16) :
    Method.Preserves Numbered (sendUniverse uni data priority dstIp syncAddress) := by
  intro src h
  have hon : (src.dataPacket uni data priority syncAddress).numbered =
      some (⟨.data, src.cid, uni⟩, src.next ⟨.data, src.cid, uni⟩) := rfl
  refine h.of_ends (sendUniverse_ends src uni data priority dstIp syncAddress) hon
    (fun _ => ⟨rfl, rfl⟩) fun socket k => ?_
  rw [(next_insert k { src with socket } uni _).1, nextSequence_eq]
  rfl

theorem numbered_sendSyncPacket (uni : UInt16) (dstIp : Option SocketAddr) :
    Method.Preserves Numbered (sendSyncPacket uni dstIp) := by
  intro src h
  have hon : (src.syncPacket uni).numbered =
      some (⟨.sync, src.cid, uni⟩, src.next ⟨.sync, src.cid, uni⟩) := rfl
  refine h.of_ends (sendSyncPacket_ends src uni dstIp) hon (fun _ => ⟨rfl, rfl⟩)
    fun socket k => ?_
  rw [(next_insert k { src with socket } uni _).2, nextSequence_eq]
  rfl

theorem numbered_send (universes : List UInt16) (data : List UInt8) (priority : Option UInt8)
    (dstIp : Option SocketAddr) (sync : Option UInt16) :
    Method.Preserves Numbered (send universes data priority dstIp sync) := by
  refine .get_bind fun src h => Method.Preserves.bind (.throwIf _ _) (fun _ => ?_) src h
  exact .bind (.throwIf _ _) fun _ => .bind (.forM fun _ _ => .lift _) fun _ =>
    .bind (.forM_option fun _ _ => .lift _) fun _ => .bind (.throwIf _ _) fun _ =>
    .forM fun part _ => .bind (.lift _) fun values => numbered_sendUniverse part.1 values _ dstIp _

/-- A call that sends a packet without a number, or nothing. -/
theorem Numbered.of_unnumbered {src : SacnSourceInternal} {p : AcnRootLayerProtocol}
    {r : Outcome SacnError Unit × SacnSourceInternal} (h : src.Numbered)
    (hends : SendEnds src p True id r) (hnone : p.numbered = none) : r.2.Numbered := by
  cases hends with
  | sent dst bytes hpack _ =>
    refine ⟨h.name_le, fun k => ?_⟩
    show Counts (numbersOn k.kind k.uni (src.socket.sent ++ [(dst, bytes)])) _
    have hnumber : p.numberOn k.kind k.uni = none := by
      unfold AcnRootLayerProtocol.numberOn
      rw [hnone]
      rfl
    rw [numbersOn_snoc hpack, hnumber, Option.toList_none, List.append_nil]
    exact h.counts k
  | failed outcome calls _ => exact h.of_visible rfl

theorem numbered_sendUniverseDiscovery :
    Method.Preserves Numbered sendUniverseDiscovery := by
  refine .get_bind fun src h => Method.Preserves.forM (fun p _ => ?_) src h
  exact .bind (.lift _) fun universes s hs =>
    hs.of_unnumbered (sendUniverseDiscoveryDetailed_ends s _ _ universes) rfl

/-- A method that registers or deregisters universes. -/
theorem numbered_of_keeps {x : Method SacnSourceInternal SacnError Unit}
    (hkeeps : Method.Keeps visible x) : Method.Preserves Numbered x :=
  fun src h => h.of_visible (hkeeps src)

theorem numbered_registerUniverse (uni : UInt16) :
    Method.Preserves Numbered (registerUniverse uni) :=
  numbered_of_keeps (keeps_registerUniverse fun _ _ => rfl)

theorem numbered_deregisterUniverse (uni : UInt16) :
    Method.Preserves Numbered (deregisterUniverse uni) :=
  numbered_of_keeps (keeps_deregisterUniverse fun _ _ => rfl)

theorem numbered_setName (name : String) : Method.Preserves Numbered (setName name) :=
  preserves_setName fun hfits _ h => ⟨hfits, h.counts⟩

/-! ## Termination -/

/-- The sends that `n` termination packets make do not lose a number: if one fails after those
before it went out, its number is 0, with which the universe starts anyway. -/
def KeepsNumber (src : SacnSourceInternal) (uni : UInt16) (n : Nat) : Prop :=
  src.universeAllowed uni = .ok () → ∀ i < n,
    (∀ j < i, src.socket.results (src.socket.calls + j) = none) →
    src.socket.results (src.socket.calls + i) = none ∨ src.dataSequence uni + UInt8.ofNat i = 0

/-- After a packet went out, the condition is about the others. -/
theorem KeepsNumber.next {src src' : SacnSourceInternal} {uni : UInt16} {n : Nat}
    (h : KeepsNumber src uni (n + 1)) (hallowed : src.universeAllowed uni = .ok ())
    (hsocket : src.socket.results src.socket.calls = none)
    (hresults : src'.socket.results = src.socket.results)
    (hcalls : src'.socket.calls = src.socket.calls + 1)
    (hnumber : src'.dataSequence uni = src.dataSequence uni + 1) : KeepsNumber src' uni n := by
  intro _ i hi hbefore
  rw [hresults, hcalls] at hbefore ⊢
  have hnumbers : src.dataSequence uni + UInt8.ofNat (i + 1) =
      src'.dataSequence uni + UInt8.ofNat i := by
    rw [hnumber, UInt8.add_assoc, Nat.add_comm, UInt8.ofNat_add]
    rfl
  have hshift : src.socket.calls + 1 + i = src.socket.calls + (i + 1) := by omega
  rw [hshift, ← hnumbers]
  refine h hallowed (i + 1) (Nat.succ_lt_succ hi) fun j hj => ?_
  cases j with
  | zero => exact hsocket
  | succ j =>
    rw [← hbefore j (Nat.lt_of_succ_lt_succ hj)]
    congr 1
    omega

/-- The numbers while the termination packet is sent: the universe's own is gone. -/
theorem next_removed {k : Stream} {src : SacnSourceInternal} {uni : UInt16} (socket : Socket) :
    next k { src with socket, dataSequences := src.dataSequences.remove uni } =
      if k.kind = .data ∧ k.uni = uni then 0 else next k src := by
  unfold next dataSequence
  cases k.kind with
  | data =>
    by_cases huni : k.uni = uni
    · simp only [HashMap.get_remove, huni, if_true, and_self]
      rfl
    · simp only [HashMap.get_remove, huni, if_false, and_false]
  | sync => simp only [reduceCtorEq, false_and, if_false]; rfl

theorem next_terminated {k : Stream} {src : SacnSourceInternal} {uni : UInt16} {n : UInt8}
    (socket : Socket) :
    next k { src with socket, dataSequences := (src.dataSequences.remove uni).insert uni n } =
      if k.kind = .data ∧ k.uni = uni then n else next k src := by
  rw [(next_insert k { src with socket, dataSequences := src.dataSequences.remove uni } uni n).1,
    next_removed]
  by_cases hk : k.kind = .data ∧ k.uni = uni
  · rw [if_pos hk, if_pos hk]
  · rw [if_neg hk, if_neg hk, if_neg hk]

/-- The loop of `terminate_stream`, of any length. -/
theorem Numbered.terminateLoop {uni : UInt16} {startCode : UInt8} {rounds : List Nat} :
    ∀ {src : SacnSourceInternal}, src.Numbered → KeepsNumber src uni rounds.length →
      ((rounds.forM fun _ => sendTerminateStreamPkt uni none startCode).run src).2.Numbered := by
  induction rounds with
  | nil => exact fun h _ => h
  | cons round rounds ih =>
    intro src h hkeeps
    show ((sendTerminateStreamPkt uni none startCode >>= fun _ =>
      rounds.forM fun _ => sendTerminateStreamPkt uni none startCode).run src).2.Numbered
    have hpackable : (src.terminatePacket uni startCode).pdu.data.Packable :=
      ⟨h.name_le, (by decide : 1 ≤ 513)⟩
    have hends := sendTerminateStreamPkt_ends src uni none startCode
    rw [Method.run_bind]
    generalize (sendTerminateStreamPkt uni none startCode).run src = r at hends
    cases hends with
    | sent dst bytes hallowed hsocket hpack =>
      have hon : (src.terminatePacket uni startCode).numbered =
          some (⟨.data, src.cid, uni⟩, src.next ⟨.data, src.cid, uni⟩) := rfl
      refine ih (h.of_sent hpack hon rfl rfl fun k => ?_)
        (hkeeps.next hallowed hsocket rfl rfl ?_)
      · rw [next_terminated, nextSequence_eq]
        rfl
      · unfold dataSequence
        rw [HashMap.get_insert_self, nextSequence_eq]
        rfl
    | refused outcome hne =>
      cases outcome with
      | ok _ => exact absurd rfl hne
      | err e => exact h
      | panic => exact h
    | failed kind msg hallowed hsocket =>
      have hzero : src.dataSequence uni + UInt8.ofNat 0 = 0 := by
        refine (hkeeps hallowed 0 (Nat.succ_pos _) fun j hj => ?_).resolve_left ?_
        · exact absurd hj (Nat.not_lt_zero j)
        · rw [Nat.add_zero, hsocket]
          exact Option.some_ne_none _
      have hnext : ∀ k, next k { src with
          socket := { src.socket with calls := src.socket.calls + 1 }
          dataSequences := src.dataSequences.remove uni } = next k src := by
        intro k
        rw [next_removed]
        by_cases hk : k.kind = .data ∧ k.uni = uni
        · rw [if_pos hk, ← hzero]
          unfold next
          rw [hk.1, hk.2]
          exact UInt8.add_zero _
        · rw [if_neg hk]
      exact h.of_visible (Prod.ext rfl (Prod.ext rfl (funext hnext)))
    | unpacked hpack =>
      exact absurd (AcnRootLayerProtocol.packAlloc_ok hpackable) (hpack _)

theorem Numbered.terminateStream {src : SacnSourceInternal} {uni : UInt16} {startCode : UInt8}
    (h : src.Numbered) (hkeeps : KeepsNumber src uni e131TerminateStreamPacketCount) :
    ((terminateStream uni startCode).run src).2.Numbered := by
  have hloop := @Numbered.terminateLoop uni startCode
    (List.range e131TerminateStreamPacketCount) src h hkeeps
  unfold SacnSourceInternal.terminateStream
  rw [Method.run_bind]
  generalize ((List.range e131TerminateStreamPacketCount).forM fun _ =>
    sendTerminateStreamPkt uni none startCode).run src = r at hloop
  obtain ⟨outcome, mid⟩ := r
  cases outcome with
  | ok _ => exact numbered_deregisterUniverse uni mid hloop
  | err e => exact hloop
  | panic => exact hloop

end SacnSourceInternal

/-! ## Runs -/

/-- The condition on a call: a `terminate_stream` loses no number. -/
def UserCall.KeepsNumbers (src : SacnSourceInternal) : UserCall → Prop
  | sends (.terminateStream uni _) => KeepsNumber src uni e131TerminateStreamPacketCount
  | _ => True

/-- **One call.** -/
theorem SacnSourceInternal.Numbered.call {src : SacnSourceInternal} {c : UserCall}
    (hc : c.KeepsNumbers src) (h : src.Numbered) : (c.method.run src).2.Numbered := by
  cases c with
  | sends c =>
    cases c with
    | send universes data priority dstIp sync =>
      exact numbered_send universes data priority dstIp sync src h
    | sendSyncPacket uni dstIp => exact numbered_sendSyncPacket uni dstIp src h
    | terminateStream uni startCode => exact h.terminateStream hc
  | registerUniverse uni => exact numbered_registerUniverse uni src h
  | registerUniverses universes =>
    exact Method.Preserves.forM (fun uni _ => numbered_registerUniverse uni) src h
  | setName name => exact numbered_setName name src h
  | setCid cid => exact h.of_visible rfl
  | setPreviewMode previewMode => exact h.of_visible rfl
  | sendUniverseDiscovery => exact numbered_sendUniverseDiscovery src h

theorem SacnSource.Created.numbered {src : SacnSourceInternal} (h : SacnSource.Created src) :
    src.Numbered := by
  have hname := h.name_le
  obtain ⟨name, cid, ip, results, h⟩ := h
  obtain ⟨_, -, hsrc⟩ := bind_eq_ok.mp h
  obtain rfl := ok.inj hsrc
  refine ⟨hname, fun k => ?_⟩
  have hzero : (SacnSourceInternal.withCidIp name cid ip
      { results, calls := 0, sent := [] }).next k = 0 := by
    unfold next
    cases k.kind <;> rfl
  rw [hzero]
  exact .nil

/-- **A source keeps its numbering when sends fail**: in every run of a source, whatever its socket
returns for each send, whose `terminate_stream` calls lose no number, the packets sent on each
universe, and the synchronisation packets sent on each address, are numbered `0, 1, 2, …`
modulo 256. -/
theorem numbers_consecutive {log : List (UserCall × Outcome SacnError Unit)}
    {src : SacnSourceInternal} (h : SourceRun (fun src c => c.KeepsNumbers src) log src)
    (kind : PacketKind) (uni : UInt16) : Consecutive (numbersOn kind uni src.socket.sent) := by
  have hnumbered : src.Numbered :=
    Run.reaches h (fun _ hs => hs.numbered) fun _ _ hc hs => hs.call hc
  exact (hnumbered.counts ⟨kind, src.cid, uni⟩).consecutive

/-- A source whose `i`-th send fails. -/
def failingSource (i : Nat) : SacnSourceInternal :=
  .withCidIp "Stage" (.repeated 1) { ip := .v4 192 168 0 1, port := 5568 }
    { results := fun n => if n = i then some (.other, "network unreachable") else none
      calls := 0, sent := [] }

theorem failingSource_created (i : Nat) : SacnSource.Created (failingSource i) :=
  ⟨"Stage", .repeated 1, _, _, rfl⟩

/-- Two bytes on a universe. -/
def sendTwo : UserCall := .sends (.send [1] [0, 255] none none none)

/-- The source, with the universe registered and after a first attempt to send on it. -/
def sendingSource (i : Nat) : SacnSourceInternal :=
  (sendTwo.method.run ((UserCall.registerUniverse 1).method.run (failingSource i)).2).2

/-- The source after it terminated the universe and tried to send again. -/
def terminatedSource (i : Nat) : SacnSourceInternal :=
  (sendTwo.method.run
    ((UserCall.sends (.terminateStream 1 0)).method.run (sendingSource i)).2).2

theorem terminatedSource_run (allowed : SacnSourceInternal → UserCall → Prop)
    (hregister : ∀ src, allowed src (.registerUniverse 1)) (hsend : ∀ src, allowed src sendTwo)
    (i : Nat) (hterminate : allowed (sendingSource i) (.sends (.terminateStream 1 0))) :
    ∃ log : List (UserCall × Outcome SacnError Unit),
      SourceRun allowed log (terminatedSource i) := by
  have hcreated : SourceRun allowed [] (failingSource i) := .nil (failingSource_created i)
  have hregistered := hcreated.snoc (.registerUniverse 1) (hregister _)
  have hsent : SourceRun allowed _ (sendingSource i) := hregistered.snoc sendTwo (hsend _)
  have hterminated := hsent.snoc (.sends (.terminateStream 1 0)) hterminate
  exact ⟨_, hterminated.snoc sendTwo (hsend _)⟩

theorem terminatedSource_consecutive :
    Consecutive (numbersOn .data 1 (terminatedSource 0).socket.sent) := by
  have hkeeps : KeepsNumber (sendingSource 0) 1 e131TerminateStreamPacketCount := by
    unfold KeepsNumber
    decide +kernel
  obtain ⟨log, hrun⟩ := terminatedSource_run (fun src c => c.KeepsNumbers src) (fun _ => trivial)
    (fun _ => trivial) 0 hkeeps
  exact numbers_consecutive hrun .data 1

theorem terminatedSource_repeats :
    ¬ ∀ (log : List (UserCall × Outcome SacnError Unit)) (src : SacnSourceInternal),
      SourceRun (fun _ _ => True) log src →
        ∀ kind uni, Consecutive (numbersOn kind uni src.socket.sent) := by
  intro hall
  obtain ⟨log, hrun⟩ := terminatedSource_run (fun _ _ => True) (fun _ => trivial)
    (fun _ => trivial) 1 trivial
  exact absurd (hall log _ hrun .data 1) (by decide +kernel)

end Sacn
