import Sacn.Receive.Ends

/-!
# Sessions (`receive.rs`)

A session is the calls an application makes on one receiver: `recv`, with what its turns take from
outside, and the other methods. The runs of a receiver are over the calls of its handlers, which the
application cannot make; a session is such a run, with a block of these calls for every `recv`.

* `recvBody_steps`, `recv_steps`: a turn, and a `recv`, as calls of the handlers.
* **`session_refines`**: a session is a run. The packets that are handled are those of the datagrams
  read, in order, and a `recv` returns the frames that a handler does.
* `Listener.packets`: the packets of the datagrams that were read.
-/

namespace Sacn

open Rust Rust.Outcome SacnReceiver

/-- A call of an application. -/
inductive ApiCall where
  | recv (timeout : Option Nat) (start : Nat) (zero : Turn) (turns : List LoopTurn)
  | call (c : ReceiverCall)

/-- How a call ends, if it does within its turns. -/
def ApiCall.ended (l : Listener) : ApiCall → Option (Outcome SacnError (Option (List DMXData)))
  | recv timeout start zero turns => (l.recv timeout start zero turns).1.map (some <$> ·)
  | call c => some (c.ended l.receiver)

/-- The listener after a call. -/
def ApiCall.next (l : Listener) : ApiCall → Listener
  | recv timeout start zero turns => (l.recv timeout start zero turns).2
  | call c => l.withReceiver (c.next l.receiver)

/-- The methods that are `pub`. -/
def ReceiverCall.isPublic : ReceiverCall → Bool
  | handleDataPacket _ _ _ _ => false
  | handleSyncPacket _ _ _ _ _ => false
  | handleUniverseDiscoveryPacket _ _ _ => false
  | checkTimeouts _ _ => false
  | checkWaitingDataTimeouts _ => false
  | _ => true

/-- The packet a handler is called with. -/
def ReceiverCall.packet : ReceiverCall → Option AcnRootLayerProtocol
  | handleDataPacket cid pkt _ _ => some { pdu := { cid, data := .dataPacket pkt } }
  | handleSyncPacket cid pkt _ _ _ => some { pdu := { cid, data := .synchronizationPacket pkt } }
  | handleUniverseDiscoveryPacket cid pkt _ =>
    some { pdu := { cid, data := .universeDiscoveryPacket pkt } }
  | _ => none

/-- The handler that `recv` calls for a packet. -/
def packetCall (turn : Turn) (packet : AcnRootLayerProtocol) : ReceiverCall :=
  match packet.pdu.data with
  | .dataPacket d => .handleDataPacket packet.pdu.cid d turn.check turn.now
  | .synchronizationPacket s =>
    .handleSyncPacket packet.pdu.cid s turn.check turn.order turn.release
  | .universeDiscoveryPacket u => .handleUniverseDiscoveryPacket packet.pdu.cid u turn.now

/-- The calls of the loop of `recv`: its checks, and the handlers of what it receives. -/
inductive ReceiverCall.OfLoop : ReceiverCall → Prop where
  | timeouts (data sync : Ambient) : OfLoop (.checkTimeouts data sync)
  | waiting (now : UInt16 → Nat) : OfLoop (.checkWaitingDataTimeouts now)
  | packet (turn : Turn) (bytes : List UInt8) (packet : AcnRootLayerProtocol)
      (h : recvDatagram bytes = .ok packet) : OfLoop (packetCall turn packet)

/-- The frames that a call returns. -/
def returned : Outcome SacnError (Option (List DMXData)) → Option (List DMXData)
  | .ok frames => frames
  | _ => none

theorem returned_settled {x : Outcome SacnError (Option (List DMXData))}
    {o : Outcome SacnError (List DMXData)} (h : x.settled = some o) :
    returned x = o.toOption := by
  rcases x with (_ | frames) | e | _
  · exact absurd h (by simp [Outcome.settled])
  · obtain rfl := Option.some.inj h
    rfl
  · obtain rfl := Option.some.inj h
    rfl
  · obtain rfl := Option.some.inj h
    rfl

theorem returned_recv (o : Option (Outcome SacnError (List DMXData))) :
    (o.map (some <$> ·)).bind returned = o.bind Outcome.toOption := by
  rcases o with _ | frames | e | _ <;> rfl

/-- The packets of the datagrams that were read. -/
def Listener.packets (l : Listener) : List AcnRootLayerProtocol :=
  (List.range l.taken).filterMap fun n => (l.reads n).packet.toOption

/-! ## A packet -/

theorem packetCall_packet (turn : Turn) (packet : AcnRootLayerProtocol) :
    (packetCall turn packet).packet = some packet := by
  obtain ⟨⟨cid, _ | _ | _⟩⟩ := packet <;> rfl

/-- **The handling of a packet** is the call of its handler, but for the source that `recv`
announces. -/
theorem handlePacket_call (turn : Turn) (packet : AcnRootLayerProtocol) (r : SacnReceiver) :
    ((handlePacket turn packet).run r).2 = (packetCall turn packet).next r ∧
      returned ((handlePacket turn packet).run r).1 =
        returned ((packetCall turn packet).ended r) := by
  obtain ⟨⟨cid, pkt | pkt | pkt⟩⟩ := packet
  · exact ⟨rfl, rfl⟩
  · exact ⟨rfl, rfl⟩
  · show ((handleDiscovery cid pkt turn.now).run r).2 = _ ∧
      returned ((handleDiscovery cid pkt turn.now).run r).1 = none
    unfold handleDiscovery
    rw [Method.run_bind_of_ok (Method.run_get r), Method.run_bind_of_ok (Method.run_set r _)]
    cases (handleUniverseDiscoveryPacket cid pkt turn.now r).1 with
    | none => exact ⟨rfl, rfl⟩
    | some name =>
      simp only
      by_cases hannounce : r.announceSourceDiscovery = true
      · rw [Method.run_bind_of_err (Method.run_throwIf_pos hannounce _ _)]
        exact ⟨rfl, rfl⟩
      · rw [Method.run_bind_of_ok (Method.run_throwIf_neg hannounce _ _)]
        exact ⟨rfl, rfl⟩

/-! ## A turn -/

/-- The step of a receiver: what a call returns, and the receiver after it. -/
abbrev receiverStep (r : SacnReceiver) (c : ReceiverCall) :
    Outcome SacnError (Option (List DMXData)) × SacnReceiver := (c.ended r, c.next r)

/-- A listener goes to another by calls of the loop, which handle the packets read on the way and
return these frames. -/
structure Steps (l l' : Listener) (frames : Option (List DMXData)) (calls : List ReceiverCall) :
    Prop where
  loop : ∀ c ∈ calls, c.OfLoop
  receiver : (events receiverStep l.receiver calls).2 = l'.receiver
  reads : l'.reads = l.reads
  packets : l'.packets = l.packets ++ calls.filterMap ReceiverCall.packet
  frames : (events receiverStep l.receiver calls).1.filterMap (fun e => returned e.2) =
    frames.toList

namespace Steps

variable {l l' l'' : Listener} {frames : Option (List DMXData)} {calls calls' : List ReceiverCall}

theorem refl (l : Listener) : Steps l l none [] where
  loop := fun _ hc => absurd hc List.not_mem_nil
  receiver := rfl
  reads := rfl
  packets := (List.append_nil _).symm
  frames := rfl

theorem trans (h : Steps l l' none calls) (h' : Steps l' l'' frames calls') :
    Steps l l'' frames (calls ++ calls') where
  loop := fun c hc => (List.mem_append.mp hc).elim (h.loop c) (h'.loop c)
  receiver := by rw [events_append, h.receiver, h'.receiver]
  reads := h'.reads.trans h.reads
  packets := by rw [h'.packets, h.packets, List.filterMap_append, List.append_assoc]
  frames := by
    rw [events_append, List.filterMap_append, h.receiver, h.frames, h'.frames]
    rfl

/-- One call, in which nothing is read. -/
theorem single {c : ReceiverCall} (hc : c.OfLoop) (hpacket : c.packet = none)
    (hreceiver : c.next l.receiver = l'.receiver) (hreads : l'.reads = l.reads)
    (htaken : l'.taken = l.taken) (hframes : returned (c.ended l.receiver) = none) :
    Steps l l' none [c] where
  loop := fun d hd => List.mem_singleton.mp hd ▸ hc
  receiver := hreceiver
  reads := hreads
  packets := by
    unfold Listener.packets
    rw [List.filterMap_cons_none hpacket, hreads, htaken, List.filterMap_nil, List.append_nil]
  frames := List.filterMap_cons_none hframes

end Steps

/-- What the calls of the loop keep. -/
theorem Steps.keeps {P : SacnReceiver → Prop} {l l' : Listener} {frames : Option (List DMXData)}
    {calls : List ReceiverCall} (h : Steps l l' frames calls)
    (hkeeps : ∀ (r : SacnReceiver) (c : ReceiverCall), c.OfLoop → P r → P (c.next r))
    (hl : P l.receiver) : P l'.receiver := by
  rw [← h.receiver]
  exact events_invariant (fun c hc r hr => hkeeps r c (h.loop c hc) hr) hl

/-- **The checks** are two calls, or one that announces a timeout. -/
theorem checks_steps (turn : Turn) {l l' : Listener} (hreads : l'.reads = l.reads)
    (htaken : l'.taken = l.taken) (hreceiver : l'.receiver = ((checks turn).run l.receiver).2) :
    ∃ calls, Steps l l' none calls := by
  rcases Listener.checks_cases turn l.receiver with ⟨hrun, hended⟩ | ⟨-, cid, u, hrun, hended⟩
  · have hsweep : Steps l (l.withReceiver
        ((ReceiverCall.checkTimeouts turn.data turn.sync).next l.receiver)) none _ :=
      .single (.timeouts turn.data turn.sync) rfl rfl rfl rfl (by rw [hended]; rfl)
    refine ⟨_, hsweep.trans (.single (.waiting turn.waiting) rfl ?_ hreads htaken rfl)⟩
    rw [hreceiver, hrun]
    rfl
  · refine ⟨_, .single (.timeouts turn.data turn.sync) rfl ?_ hreads htaken (by rw [hended]; rfl)⟩
    rw [hreceiver, hrun]

theorem Listener.packets_read {l l' : Listener} (hreads : l'.reads = l.reads)
    (htaken : l'.taken = l.taken + 1) :
    l'.packets = l.packets ++ (l.reads l.taken).packet.toOption.toList := by
  unfold Listener.packets
  rw [hreads, htaken, List.range_succ, List.filterMap_append]
  refine congrArg _ ?_
  cases hpacket : (l.reads l.taken).packet.toOption with
  | none => exact List.filterMap_cons_none hpacket
  | some packet => exact List.filterMap_cons_some hpacket

theorem Listener.packets_afterRead (deadline : Option Nat) (t : LoopTurn) (l : Listener)
    (r r' : SacnReceiver) : ((afterRead deadline t l r).withReceiver r').packets =
      l.packets ++ (l.reads l.taken).packet.toOption.toList := packets_read rfl rfl

theorem SocketRead.packet_eq_ok {read : SocketRead} {packet : AcnRootLayerProtocol}
    (h : read.packet = .ok packet) : ∃ bytes, read = .datagram bytes ∧
      recvDatagram bytes = .ok packet := by
  cases read with
  | datagram bytes => exact ⟨bytes, rfl, h⟩
  | failed kind msg => exact absurd h (by simp [SocketRead.packet])

/-- **A read** is the call of a handler, if there is a packet in it. -/
theorem handleRead_steps (turn : Turn) {l l' : Listener} (hreceiver : l'.receiver = l.receiver)
    (hreads : l'.reads = l.reads) (htaken : l'.taken = l.taken + 1) :
    ∃ calls, Steps l ((Listener.handleRead turn (l.reads l.taken)).run l').2
      (returned ((Listener.handleRead turn (l.reads l.taken)).run l').1) calls := by
  have hpackets := Listener.packets_read hreads htaken
  -- a read without a packet leaves the receiver as it is
  have hnone : (l.reads l.taken).packet.toOption = none → Steps l l' none [] := fun hpacket =>
    ⟨fun _ hc => absurd hc List.not_mem_nil, hreceiver.symm, hreads, by rw [hpackets, hpacket]; rfl,
      rfl⟩
  unfold Listener.handleRead
  cases hread : (l.reads l.taken).packet with
  | err e =>
    simp only
    split
    · exact ⟨[], hnone (by rw [hread]; rfl)⟩
    · exact ⟨[], hnone (by rw [hread]; rfl)⟩
  | panic => exact ⟨[], hnone (by rw [hread]; rfl)⟩
  | ok packet =>
    obtain ⟨bytes, -, hbytes⟩ := SocketRead.packet_eq_ok hread
    obtain ⟨hnext, hframes⟩ := handlePacket_call turn packet l.receiver
    simp only
    rw [Listener.run_onReceiver, hreceiver]
    refine ⟨[packetCall turn packet], ?_, hnext.symm, hreads, ?_, ?_⟩
    · exact fun c hc => List.mem_singleton.mp hc ▸ .packet turn bytes packet hbytes
    · refine (hpackets.trans (congrArg _ ?_)).trans rfl
      rw [hread, List.filterMap_cons_some (packetCall_packet turn packet)]
      rfl
    · simp only [hframes, events, List.filterMap_cons, List.filterMap_nil]
      cases returned ((packetCall turn packet).ended l.receiver) <;> rfl

/-- **A turn of the loop**, as calls. -/
theorem recvBody_steps (deadline : Option Nat) (t : LoopTurn) (l : Listener) :
    ∃ calls, Steps l ((Listener.recvBody deadline t).run l).2
      (returned ((Listener.recvBody deadline t).run l).1) calls := by
  have hends := Listener.recvBody_ends deadline t l
  generalize (Listener.recvBody deadline t).run l = res at hends
  cases hends with
  | announced cid u h => exact checks_steps t.turn rfl rfl (by rw [h])
  | expired r h _ => exact checks_steps t.turn rfl rfl (by rw [h])
  | unset r h _ kind msg _ => exact checks_steps t.turn rfl rfl (by rw [h])
  | read r h =>
    obtain ⟨checked, hchecked⟩ := @checks_steps t.turn l (l.withReceiver r) rfl rfl (by
      rw [h.passed]
      rfl)
    obtain ⟨handled, hhandled⟩ := @handleRead_steps t.turn (l.withReceiver r)
      (Listener.afterRead deadline t l r) rfl rfl rfl
    exact ⟨checked ++ handled, hchecked.trans hhandled⟩

/-- The turns before the last, as calls. -/
theorem goesOn_steps {deadline : Option Nat} {turns : List LoopTurn} {l l' : Listener}
    (h : GoesOn (Listener.recvBody deadline) turns l l') : ∃ calls, Steps l l' none calls := by
  induction h with
  | nil l => exact ⟨[], .refl l⟩
  | @cons t turns l l' l'' h _ ih =>
    obtain ⟨turned, hturned⟩ := recvBody_steps deadline t l
    obtain ⟨rest, hrest⟩ := ih
    rw [h] at hturned
    exact ⟨turned ++ rest, hturned.trans hrest⟩

/-- **`recv`**, as calls of the handlers. -/
theorem recv_steps (timeout : Option Nat) (start : Nat) (zero : Turn) (turns : List LoopTurn)
    (l : Listener) : ∃ calls, Steps l (l.recv timeout start zero turns).2
      ((l.recv timeout start zero turns).1.bind Outcome.toOption) calls := by
  unfold Listener.recv
  split
  · exact ⟨[], .refl l⟩
  split
  · rw [Listener.run_onReceiver]
    rcases Listener.checks_cases zero l.receiver with ⟨hrun, -⟩ | ⟨-, cid, u, hrun, -⟩
    · simp only [hrun]
      exact checks_steps zero rfl rfl (by rw [hrun]; rfl)
    · simp only [hrun]
      exact checks_steps zero rfl rfl (by rw [hrun]; rfl)
  · rcases repeatBody_cases (Listener.recvBody (timeout.bind (checkedAdd start))) turns l with
      ⟨l', hon, hrun⟩ | ⟨pre, t, post, mid, o, -, hon, hsettled, hrun⟩
    · rw [hrun]
      exact goesOn_steps hon
    · rw [hrun]
      obtain ⟨before, hbefore⟩ := goesOn_steps hon
      obtain ⟨last, hlast⟩ := recvBody_steps (timeout.bind (checkedAdd start)) t mid
      refine ⟨before ++ last, hbefore.trans ?_⟩
      rwa [returned_settled hsettled] at hlast

/-! ## Sessions -/

/-- A call with how it ended. -/
abbrev ApiEvent : Type := ApiCall × Option (Outcome SacnError (Option (List DMXData)))

/-- A new receiver, whose socket has not been read. -/
structure Listener.Fresh (sourceLimit : Option Nat) (l : Listener) : Prop where
  created : CreatedWith sourceLimit l.receiver
  taken : l.taken = 0

/-- The sessions on a receiver: `recv`, and the other public methods that `allowed` lets through. -/
abbrev Session (sourceLimit : Option Nat) (allowed : ReceiverCall → Prop) :
    List ApiEvent → Listener → Prop :=
  Run (fun l c => (c.ended l, c.next l)) (Listener.Fresh sourceLimit)
    fun _ c => ∀ m, c = .call m → m.isPublic = true ∧ allowed m

/-- What a call of a session is for the receiver: itself, or for `recv` calls of the loop, of which
one returns frames if `recv` does, the same ones. -/
inductive CallBlock : ApiEvent → List ReceiverEvent → Prop where
  | call (c : ReceiverCall) (o : Outcome SacnError (Option (List DMXData))) :
      CallBlock (.call c, some o) [(c, o)]
  | recv (timeout : Option Nat) (start : Nat) (zero : Turn) (turns : List LoopTurn)
      (o : Option (Outcome SacnError (Option (List DMXData)))) (block : List ReceiverEvent)
      (hloop : ∀ e ∈ block, e.1.OfLoop)
      (hframes : block.filterMap (fun e => returned e.2) = (o.bind returned).toList) :
      CallBlock (.recv timeout start zero turns, o) block

theorem ReceiverCall.packet_of_public {c : ReceiverCall} (h : c.isPublic = true) :
    c.packet = none := by
  cases c with
  | handleDataPacket _ _ _ _ => exact absurd h (by simp [isPublic])
  | handleSyncPacket _ _ _ _ _ => exact absurd h (by simp [isPublic])
  | handleUniverseDiscoveryPacket _ _ _ => exact absurd h (by simp [isPublic])
  | _ => rfl

/-- The packets of a block are those of its calls. -/
theorem packets_events (r : SacnReceiver) (calls : List ReceiverCall) :
    (events receiverStep r calls).1.filterMap (fun e => e.1.packet) =
      calls.filterMap ReceiverCall.packet := by
  rw [← events_calls receiverStep r calls, List.filterMap_map, events_calls]
  rfl

/-- One call of a session, as calls of the receiver. -/
theorem ApiCall.refines {allowed : ReceiverCall → Prop} {l : Listener} {c : ApiCall}
    (hc : ∀ m, c = .call m → m.isPublic = true ∧ allowed m) :
    ∃ calls : List ReceiverCall, (∀ d ∈ calls, d.OfLoop ∨ d.isPublic = true ∧ allowed d) ∧
      (events receiverStep l.receiver calls).2 = (c.next l).receiver ∧
      CallBlock (c, c.ended l) (events receiverStep l.receiver calls).1 ∧
      (c.next l).packets = l.packets ++ calls.filterMap ReceiverCall.packet := by
  cases c with
  | call m =>
    refine ⟨[m], fun d hd => .inr (List.mem_singleton.mp hd ▸ hc m rfl), rfl, .call m _, ?_⟩
    rw [List.filterMap_cons_none (ReceiverCall.packet_of_public (hc m rfl).1), List.filterMap_nil,
      List.append_nil]
    rfl
  | recv timeout start zero turns =>
    obtain ⟨calls, hsteps⟩ := recv_steps timeout start zero turns l
    refine ⟨calls, fun d hd => .inl (hsteps.loop d hd), hsteps.receiver,
      .recv timeout start zero turns _ _ (fun e he => hsteps.loop _ ?_) ?_, hsteps.packets⟩
    · rw [← events_calls receiverStep l.receiver calls]
      exact List.mem_map_of_mem he
    · exact hsteps.frames.trans (congrArg Option.toList (returned_recv _).symm)

/-- **A session is a run of the handlers**, block by block: no datagram that was read is lost,
handled twice or out of order, and every `recv` returns the frames of the handler that ends it. -/
theorem session_refines {sourceLimit : Option Nat} {allowed : ReceiverCall → Prop}
    {log : List ApiEvent} {l : Listener} (h : Session sourceLimit allowed log l) :
    ∃ blocks : List (List ReceiverEvent),
      ReceiverRun (CreatedWith sourceLimit) (fun _ c => c.OfLoop ∨ c.isPublic = true ∧ allowed c)
        blocks.flatten l.receiver ∧
      List.Forall₂ CallBlock log blocks ∧
      blocks.flatten.filterMap (fun e => e.1.packet) = l.packets := by
  refine h.refines Listener.receiver CallBlock
    (fun l log' => log'.filterMap (fun e => e.1.packet) = l.packets) ?_ ?_
  · intro l hl
    refine ⟨hl.created, ?_⟩
    unfold Listener.packets
    rw [hl.taken]
    rfl
  · intro l c hc
    obtain ⟨calls, hallowed, hreceiver, hblock, hpackets⟩ := ApiCall.refines hc
    refine ⟨calls, fun d hd _ => hallowed d hd, hreceiver, hblock, fun log' hlog => ?_⟩
    rw [List.filterMap_append, hlog, hpackets, packets_events]

/-- The data packet `namedPkt`, from a source. -/
def namedPacket : AcnRootLayerProtocol :=
  { pdu := { cid := .repeated 2, data := .dataPacket namedPkt } }

/-- A turn while the clock stands still. -/
def idleTurn : Turn :=
  { data := stillAmbient, sync := stillAmbient, waiting := fun _ => 0, check := stillAmbient
    now := 0, order := [], release := fun _ => 0 }

def idleLoopTurn : LoopTurn := { turn := idleTurn, clock := 0, timeoutSet := none }

/-- A new receiver whose socket reads the packet, and then falls silent. -/
def newListener : Listener :=
  { receiver := newReceiver
    reads := fun n => if n = 0 then .datagram namedPacket.encode else .failed .wouldBlock ""
    taken := 0
    waits := [] }

theorem newListener_session :
    Session none ReceiverCall.MergesAsProvided [] newListener := .nil ⟨newReceiver_created, rfl⟩

/-- It listens to universe 7. -/
def namedListener : Listener :=
  newListener.withReceiver ((ReceiverCall.listenUniverses [7]).next newReceiver)

theorem namedPacket_received : recvDatagram namedPacket.encode = .ok namedPacket :=
  (recvDatagram_encode (p := namedPacket) namedPkt_inDomain).2

theorem namedListener_recv : namedListener.recv none 0 idleTurn [idleLoopTurn] =
    (some (.ok [dmxData (.repeated 2) namedPkt 0]),
      (Listener.afterRead none idleLoopTurn namedListener
        ((checks idleTurn).run namedListener.receiver).2).withReceiver
          ((handlePacket idleTurn namedPacket).run
            ((checks idleTurn).run namedListener.receiver).2).2) := by
  have hturn : (recvTurn idleLoopTurn.turn namedPacket.encode).run namedListener.receiver =
      (handlePacket idleTurn namedPacket).run
        ((checks idleTurn).run namedListener.receiver).2 :=
    recvTurn_run rfl namedPacket_received
  have hframes : ((recvTurn idleLoopTurn.turn namedPacket.encode).run namedListener.receiver).1 =
      .ok (some [dmxData (.repeated 2) namedPkt 0]) := by
    rw [hturn]
    decide +kernel
  have hreads : Listener.Reads none idleLoopTurn namedListener
      ((checks idleTurn).run namedListener.receiver).2 :=
    ⟨rfl, fun h => absurd h (by simp [Listener.Expired]), rfl⟩
  have hrecv := @Listener.recv_first none 0 idleTurn _ [] _ _ _ _ (by decide +kernel) (by decide)
    hreads rfl hframes
  rw [← hturn]
  exact hrecv

theorem namedListener_packets :
    (namedListener.recv none 0 idleTurn [idleLoopTurn]).2.packets = [namedPacket] := by
  have hpacket : (namedListener.reads namedListener.taken).packet = .ok namedPacket :=
    namedPacket_received
  rw [namedListener_recv, Listener.packets_afterRead, hpacket]
  rfl

/-- It has listened to universe 7. -/
theorem namedListener_session : Session none ReceiverCall.MergesAsProvided
    [(.call (.listenUniverses [7]), some (.ok none))] namedListener := by
  refine newListener_session.snoc (.call (.listenUniverses [7])) ?_
  rintro m ⟨⟩
  exact ⟨rfl, by rintro merge ⟨⟩⟩

theorem namedSession : Session none ReceiverCall.MergesAsProvided
    [(.call (.listenUniverses [7]), some (.ok none)),
      (.recv none 0 idleTurn [idleLoopTurn],
        some (.ok (some [dmxData (.repeated 2) namedPkt 0])))]
    (namedListener.recv none 0 idleTurn [idleLoopTurn]).2 := by
  have hrecv := namedListener_session.snoc (.recv none 0 idleTurn [idleLoopTurn]) (by rintro m ⟨⟩)
  have hended : ApiCall.ended namedListener (.recv none 0 idleTurn [idleLoopTurn]) =
      some (.ok (some [dmxData (.repeated 2) namedPkt 0])) :=
    congrArg (fun res => res.1.map (some <$> ·)) namedListener_recv
  simp only [hended] at hrecv
  exact hrecv

theorem namedSession_refines : ∃ blocks : List (List ReceiverEvent),
    ReceiverRun (CreatedWith none) (fun _ c => c.OfLoop ∨ c.isPublic = true ∧ c.MergesAsProvided)
      blocks.flatten (namedListener.recv none 0 idleTurn [idleLoopTurn]).2.receiver ∧
    List.Forall₂ CallBlock [(.call (.listenUniverses [7]), some (.ok none)),
      (.recv none 0 idleTurn [idleLoopTurn],
        some (.ok (some [dmxData (.repeated 2) namedPkt 0])))] blocks ∧
    blocks.flatten.filterMap (fun e => e.1.packet) = [namedPacket] := by
  obtain ⟨blocks, hrun, hblocks, hpackets⟩ := session_refines namedSession
  exact ⟨blocks, hrun, hblocks, hpackets.trans namedListener_packets⟩

end Sacn
