import Sacn.EndToEnd.Discovery
import Sacn.Receive.Names
import Sacn.Receive.Recv
import Sacn.Rust.Run
import Sacn.Source.Split

/-!
# Advertising (`source.rs`, `receive.rs`)

The update thread of a source calls `perform_periodic_update` again and again; ten seconds after the
last advertisement, that sends the discovery pages. A receiver forgets a source it has not heard of
for 2.5 s, when it is next asked for the sources it knows.

`DiscoveryNetwork` is a source and a receiver with the pages between them. The thread, the user of
the source, the user of the receiver and the packets of everybody else take turns in any order; the
clock only goes forward.

* `performPeriodicUpdate_cases`: what an update does.
* `AdvertRun`: the runs.
* **`pages_read`**: what a receiver reads of an advertisement, whatever the source is called.
* **`Flight.deliver`**: one page more.
-/

namespace Sacn

open Rust Rust.Outcome SacnSourceInternal SacnReceiver

/-! ## The update thread -/

/-- `E131_UNIVERSE_DISCOVERY_INTERVAL`: 10 s. -/
def e131UniverseDiscoveryInterval : Nat := 10000000000

/-- `DEFAULT_POLL_PERIOD`: 1 s. -/
def defaultPollPeriod : Nat := 1000000000

/-- `SacnSourceInternal` with the two fields its update thread looks at. -/
structure AdvertisingSource extends SacnSourceInternal where
  lastDiscoveryAdvertTimestamp : Nat
  isSendingDiscovery : Bool

namespace AdvertisingSource

/-- A method of the rest of the source. -/
def onInternal {α : Type} (x : Method SacnSourceInternal SacnError α) :
    Method AdvertisingSource SacnError α :=
  Method.onField toSacnSourceInternal
    (fun src internal => { src with toSacnSourceInternal := internal }) x

/-- `perform_periodic_update`, which reads the clock twice. -/
def performPeriodicUpdate (now stamp : Nat) : Method AdvertisingSource SacnError Unit := do
  let src ← Method.get
  if src.isSendingDiscovery = true ∧
      elapsed src.lastDiscoveryAdvertTimestamp now > e131UniverseDiscoveryInterval then
    onInternal sendUniverseDiscovery
    Method.modify fun src => { src with lastDiscoveryAdvertTimestamp := stamp }

/-- **A successful update** of a source that sends discovery packets: it is not time yet and nothing
changes, or the pages are sent. -/
theorem performPeriodicUpdate_cases {now stamp : Nat} {src src' : AdvertisingSource}
    (hsending : src.isSendingDiscovery = true)
    (h : (performPeriodicUpdate now stamp).run src = (.ok (), src')) :
    now ≤ src.lastDiscoveryAdvertTimestamp + e131UniverseDiscoveryInterval ∧ src' = src ∨
      ∃ internal, sendUniverseDiscovery.run src.toSacnSourceInternal = (.ok (), internal) ∧
        src' = { src with toSacnSourceInternal := internal, lastDiscoveryAdvertTimestamp := stamp } := by
  unfold performPeriodicUpdate at h
  rw [Method.run_bind_of_ok (Method.run_get src)] at h
  by_cases hdue : src.isSendingDiscovery = true ∧
      elapsed src.lastDiscoveryAdvertTimestamp now > e131UniverseDiscoveryInterval
  · rw [if_pos hdue] at h
    obtain ⟨_, mid, hsend, hstamp⟩ := Method.run_bind_eq_ok.mp h
    unfold onInternal at hsend
    rw [Method.run_onField] at hsend
    obtain ⟨hok, hmid⟩ := Prod.mk.inj hsend
    refine .inr ⟨_, Prod.ext hok rfl, ?_⟩
    rw [← (Prod.mk.inj hstamp).2, ← hmid]
  · rw [if_neg hdue] at h
    refine .inl ⟨?_, (Prod.mk.inj h).2.symm⟩
    have hwait : ¬ now - src.lastDiscoveryAdvertTimestamp > e131UniverseDiscoveryInterval :=
      fun hlate => hdue ⟨hsending, hlate⟩
    omega

end AdvertisingSource

/-! ## The receiver -/

namespace SacnReceiver

/-- What a turn of `recv` does with a datagram, once it has checked its timeouts. -/
def receiveDatagram (turn : Turn) (datagram : List UInt8) :
    Method SacnReceiver SacnError (Option (List DMXData)) := do
  let packet ← Method.lift (recvDatagram datagram)
  handlePacket turn packet

/-- `get_discovered_sources`, at one reading of the clock. -/
def getDiscoveredSources (now : Nat) (r : SacnReceiver) :
    List DiscoveredSacnSource × SacnReceiver :=
  ((removeExpiredSources (fun _ => now) r).discoveredSources,
    removeExpiredSources (fun _ => now) r)

end SacnReceiver

/-! ## The network -/

/-- A source and a receiver, the discovery pages that are on their way, oldest first, the time of the
last event, and the time of the last call of `perform_periodic_update`. -/
structure DiscoveryNetwork where
  source : AdvertisingSource
  receiver : SacnReceiver
  inFlight : List (List UInt8)
  clock : Nat
  polled : Nat

/-- The receipt of the oldest page. -/
def DiscoveryNetwork.deliver (turn : Turn) (w : DiscoveryNetwork) : DiscoveryNetwork :=
  match w.inFlight with
  | [] => { w with clock := turn.now }
  | datagram :: rest =>
    { w with
      receiver := ((SacnReceiver.receiveDatagram turn datagram).run w.receiver).2
      inFlight := rest
      clock := turn.now }

/-- What happens: an update, a call by the user of the source, the receipt of the oldest page, a
call of the receiver, which may be the handling of any other packet, and a query of the receiver. -/
inductive DiscoveryEvent where
  | performPeriodicUpdate (now stamp : Nat)
  | sourceCall (c : UserCall) (now : Nat)
  | deliver (turn : Turn)
  | receiverCall (c : ReceiverCall) (now : Nat)
  | getDiscoveredSources (now : Nat)

namespace DiscoveryEvent

/-- When it happens. -/
def time : DiscoveryEvent → Nat
  | performPeriodicUpdate now _ => now
  | sourceCall _ now => now
  | deliver turn => turn.now
  | receiverCall _ now => now
  | getDiscoveredSources now => now

/-- The network after it. -/
def next (w : DiscoveryNetwork) : DiscoveryEvent → DiscoveryNetwork
  | performPeriodicUpdate now stamp =>
    let source := ((AdvertisingSource.performPeriodicUpdate now stamp).run w.source).2
    { w with
      source
      inFlight := w.inFlight ++
        (source.socket.sent.drop w.source.socket.sent.length).map Prod.snd
      clock := now
      polled := now }
  | sourceCall c now =>
    { w with
      source := { w.source with
        toSacnSourceInternal := (c.method.run w.source.toSacnSourceInternal).2 }
      clock := now }
  | deliver turn => w.deliver turn
  | receiverCall c now => { w with receiver := c.next w.receiver, clock := now }
  | getDiscoveredSources now =>
    { w with receiver := (SacnReceiver.getDiscoveredSources now w.receiver).2, clock := now }

/-- What the parties do: every update succeeds and finds the pages of the one before delivered; the
user of the source leaves the updates to the thread; no other source has the source's CID; the
receiver's records expire in queries only, and are not wiped while pages are on their way. -/
def Proper (cid : Uuid) (w : DiscoveryNetwork) : DiscoveryEvent → Prop
  | performPeriodicUpdate now stamp => now ≤ stamp ∧ w.inFlight = [] ∧
      ((AdvertisingSource.performPeriodicUpdate now stamp).run w.source).1 = .ok ()
  | sourceCall c _ => c ≠ .sendUniverseDiscovery
  | deliver _ => True
  | receiverCall c _ => c.ParsedDiscovery ∧ c.discovery cid = none ∧
      (∀ now, c ≠ .removeExpiredSources now) ∧ (c = .resetSources → w.inFlight = [])
  | getDiscoveredSources _ => True

/-- The clock goes forward, and no second passes without an update. -/
def Allowed (cid : Uuid) (w : DiscoveryNetwork) (e : DiscoveryEvent) : Prop :=
  w.clock ≤ e.time ∧ e.time ≤ w.polled + defaultPollPeriod ∧ e.Proper cid w

end DiscoveryEvent

/-- Any state of a source that sends discovery packets, and any state of a receiver that has not
heard of it. -/
structure DiscoveryNetwork.Start (cid : Uuid) (w : DiscoveryNetwork) : Prop where
  source : ∃ log, SourceRun (fun _ _ => True) log w.source.toSacnSourceInternal
  sending : w.source.isSendingDiscovery = true
  waiting : w.polled ≤ w.source.lastDiscoveryAdvertTimestamp + e131UniverseDiscoveryInterval
  time : w.polled ≤ w.clock ∧ w.clock ≤ w.polled + defaultPollPeriod
  receiver : w.receiver.Reachable ReceiverCall.ParsedDiscovery
  unknown : w.receiver.view cid = { pending := none, found := none }
  empty : w.inFlight = []

/-- An event, and the network it happens in. -/
abbrev DiscoveryEntry : Type := DiscoveryEvent × DiscoveryNetwork

/-- The runs, with the histories. -/
abbrev AdvertRun (cid : Uuid) : List DiscoveryEntry → DiscoveryNetwork → Prop :=
  Run (fun w e => (w, e.next w)) (DiscoveryNetwork.Start cid) fun w e => e.Allowed cid w

/-! ## What is on its way -/

/-- The round of a source's pages under another name. -/
def SacnSourceInternal.roundAs (src : SacnSourceInternal) (hascending : src.Ascending)
    {name : String} (hname : NameInDomain name) : DiscoveryRound :=
  discoveryRound { src with name } hname hascending

theorem nameInDomain_empty : NameInDomain "" := ⟨by decide, by decide⟩

section Pages

variable {src src' : SacnSourceInternal} (hascending : src.Ascending)

/-- The name is on each page, and nowhere else in a round. -/
theorem packets_roundAs {name : String} (hname : NameInDomain name) :
    (src.roundAs hascending hname).packets =
      (src.roundAs hascending nameInDomain_empty).packets.map (·.renamed name) := by
  unfold DiscoveryRound.packets
  rw [List.map_map]
  rfl

theorem roundAs_inDomain : ∀ pkt ∈ (src.roundAs hascending nameInDomain_empty).packets,
    (pkt.renamed "").InDomain := by
  intro pkt hpkt
  have hdomain := (src.roundAs hascending nameInDomain_empty).packets_inDomain pkt hpkt
  exact ⟨nameInDomain_empty, hdomain.page_le, hdomain.universes_le, hdomain.ascending⟩

/-- What the source packs, whatever its name. -/
theorem discoveryPackets_renamed : src.discoveryPackets =
    (src.roundAs hascending nameInDomain_empty).packets.map fun pkt =>
      discoveryPacketOf src.cid (pkt.renamed src.name) :=
  discoveryPackets_round src rfl

/-- The datagrams of an advertisement. -/
theorem advertisement_encoded (hname : src.NameFits)
    (h : sendUniverseDiscovery.run src = (.ok (), src')) :
    (src'.socket.sent.drop src.socket.sent.length).map Prod.snd =
      (src.roundAs hascending nameInDomain_empty).packets.map fun pkt =>
        (discoveryPacketOf src.cid (pkt.renamed src.name)).encode := by
  have hpackets := discoveryPackets_renamed hascending
  obtain ⟨datagrams, hsent, hencoded⟩ :=
    (sendUniverseDiscovery_emits hascending.pages_lt h).encoded fun p hp => by
      rw [hpackets] at hp
      obtain ⟨pkt, hpkt, rfl⟩ := List.mem_map.mp hp
      have hdomain := roundAs_inDomain hascending pkt hpkt
      exact ⟨hname, hdomain.universes_le, hdomain.ascending⟩
  rw [hsent, List.drop_left, hencoded, hpackets, List.map_map]
  rfl

/-- **What a receiver reads of an advertisement**: nothing, or a complete round. -/
theorem pages_read (hname : src.NameFits) (hascending : src.Ascending)
    (h : sendUniverseDiscovery.run src = (.ok (), src')) :
    (∀ d ∈ (src'.socket.sent.drop src.socket.sent.length).map Prod.snd,
      ∀ p, recvDatagram d ≠ .ok p) ∨
    ∃ round : DiscoveryRound, List.Forall₂
      (fun d pkt => recvDatagram d = .ok (discoveryPacketOf src.cid pkt))
      ((src'.socket.sent.drop src.socket.sent.length).map Prod.snd) round.packets := by
  have hpage : ∀ pkt ∈ (src.roundAs hascending nameInDomain_empty).packets,
      ((pkt.renamed src.name).renamed "").InDomain := roundAs_inDomain hascending
  rw [advertisement_encoded hascending hname h]
  by_cases hread : ∃ name, NameField (nameField src.name) name
  · obtain ⟨name, hfield⟩ := hread
    refine .inr ⟨src.roundAs hascending (hfield.inDomain (length_nameField hname).le), ?_⟩
    rw [packets_roundAs hascending (hfield.inDomain (length_nameField hname).le)]
    refine List.forall₂_map_left_iff.mpr (List.forall₂_map_right_iff.mpr
      (List.forall₂_same.mpr fun pkt hpkt => ?_))
    exact recvDatagram_named (hpage pkt hpkt) hname hfield
  · refine .inl fun d hd => ?_
    obtain ⟨pkt, hpkt, rfl⟩ := List.mem_map.mp hd
    exact recvDatagram_unnamed (hpage pkt hpkt) hname (not_exists.mp hread)

end Pages

/-- What is on its way from the source, after a time, to a receiver that holds this partial record
of it: pages that the receiver will not take for pages of the source, or the pages that complete a
round. -/
inductive Flight (cid : Uuid) (since : Nat) :
    List (List UInt8) → Option DiscoveredSacnSource → Prop where
  | others {ds : List (List UInt8)} (h : ∀ d ∈ ds, ∀ p, recvDatagram d = .ok p →
      ∃ c pkt, c ≠ cid ∧ p = discoveryPacketOf c pkt) : Flight cid since ds none
  | pages {ds : List (List UInt8)} {pending : Option DiscoveredSacnSource}
      {pkts : List UniverseDiscoveryPacketFramingLayer} (round : DiscoveryRound) (hne : ds ≠ [])
      (hread : List.Forall₂ (fun d pkt => recvDatagram d = .ok (discoveryPacketOf cid pkt)) ds pkts)
      (hleft : round.Left pending pkts) (hyoung : ∀ src ∈ pending, since ≤ src.lastUpdated) :
      Flight cid since ds pending

theorem Flight.nil {cid : Uuid} {since : Nat} : Flight cid since [] none := .others (by simp)

/-- An advertisement on its way to a receiver that holds no part of one. -/
theorem Flight.sent {src src' : SacnSourceInternal} (hname : src.NameFits)
    (hascending : src.Ascending) (h : sendUniverseDiscovery.run src = (.ok (), src')) (cid : Uuid)
    (since : Nat) :
    Flight cid since ((src'.socket.sent.drop src.socket.sent.length).map Prod.snd) none := by
  rcases pages_read hname hascending h with hrefused | ⟨round, hread⟩
  · exact .others fun d hd p hp => absurd hp (hrefused d hd p)
  · by_cases hc : src.cid = cid
    · subst hc
      refine .pages round (fun hnil => ?_) hread (round.left_all (.refl _)) (by simp)
      rw [hnil] at hread
      have hlength := hread.length_eq
      rw [round.length_packets] at hlength
      exact round.pages_pos.ne hlength
    · refine .others fun d hd p hp => ?_
      obtain ⟨i, hi, rfl⟩ := List.getElem_of_mem hd
      have hpage := hread.get hi (hread.length_eq ▸ hi)
      exact ⟨src.cid, _, hc, ok.inj (hp.symm.trans hpage)⟩

/-- Nothing on its way, nothing pending. -/
theorem Flight.pending_of_nil {cid : Uuid} {since : Nat} {pending : Option DiscoveredSacnSource}
    (h : Flight cid since [] pending) : pending = none := by
  cases h with
  | others _ => rfl
  | pages round hne _ _ _ => exact absurd rfl hne

/-- Whatever is pending is young. -/
theorem Flight.young {cid : Uuid} {since : Nat} {ds : List (List UInt8)}
    {pending : Option DiscoveredSacnSource} (h : Flight cid since ds pending) :
    ∀ src ∈ pending, since ≤ src.lastUpdated := by
  cases h with
  | others _ => simp
  | pages _ _ _ _ hyoung => exact hyoung

/-- When the receiver last heard of the source. -/
def SacnReceiver.heard (cid : Uuid) (r : SacnReceiver) : Option Nat :=
  (r.view cid).found.map DiscoveredSacnSource.lastUpdated

namespace SacnReceiver

variable (turn : Turn) {d : List UInt8} {r : SacnReceiver}

theorem receiveDatagram_refused (h : ∀ p, recvDatagram d ≠ .ok p) :
    ((receiveDatagram turn d).run r).2 = r := by
  unfold receiveDatagram
  cases hd : recvDatagram d with
  | ok p => exact absurd hd (h p)
  | err e => rfl
  | panic => rfl

theorem receiveDatagram_discovery {c : Uuid} {pkt : UniverseDiscoveryPacketFramingLayer}
    (h : recvDatagram d = .ok (discoveryPacketOf c pkt)) :
    ((receiveDatagram turn d).run r).2 =
      (ReceiverCall.handleUniverseDiscoveryPacket c pkt turn.now).next r := by
  unfold receiveDatagram
  rw [h]
  show ((handleDiscovery c pkt turn.now).run r).2 = _
  unfold handleDiscovery
  rw [Method.run_bind_of_ok (Method.run_get r), Method.run_bind_of_ok (Method.run_set r _)]
  split
  · by_cases hannounce : r.announceSourceDiscovery = true
    · rw [Method.run_bind_of_err (Method.run_throwIf_pos hannounce _ _)]
      rfl
    · rw [Method.run_bind_of_ok (Method.run_throwIf_neg hannounce _ _)]
      rfl
  · rfl

end SacnReceiver

/-- The datagram is the last one on its way, and the receiver reads it as a page of the source. -/
def LastPage (cid : Uuid) (d : List UInt8) (rest : List (List UInt8)) : Prop :=
  rest = [] ∧ ∃ p, recvDatagram d = .ok p ∧ p.pdu.cid = cid

theorem lastUpdated_joined (cid : Uuid) (pkt : UniverseDiscoveryPacketFramingLayer) (now : Nat)
    (v : SourceView) : (v.joined cid pkt now).lastUpdated = now := by
  unfold SourceView.joined
  cases v.pending <;> rfl

/-- A page of a source: the receiver, and its view of every source. -/
theorem receive_page {r : SacnReceiver} (hr : r.Discovering) (turn : Turn) {d : List UInt8}
    {c : Uuid} {pkt : UniverseDiscoveryPacketFramingLayer}
    (h : recvDatagram d = .ok (discoveryPacketOf c pkt)) :
    ((receiveDatagram turn d).run r).2.Discovering ∧
      ∀ cid, ((receiveDatagram turn d).run r).2.view cid =
        if cid = c then ((r.view c).handle c pkt turn.now).2 else r.view cid := by
  rw [receiveDatagram_discovery turn h]
  have hdomain : pkt.InDomain := recvDatagram_inDomain h
  refine ⟨ReceiverCall.discovering_next hr ?_, fun cid => ?_⟩
  · rintro _ _ _ ⟨⟩
    exact hdomain.page_le
  · exact (view_handle hr.distinct c pkt turn.now).2.2 cid

/-- What a page leaves: what is still on its way fits what the receiver now holds of the source, and
the last page is the one by which the receiver hears of it. -/
structure PageReceived (cid : Uuid) (since now : Nat) (d : List UInt8) (rest : List (List UInt8))
    (r r' : SacnReceiver) : Prop where
  discovering : r'.Discovering
  flight : Flight cid since rest (r'.view cid).pending
  last : LastPage cid d rest → r'.heard cid = some now
  more : ¬ LastPage cid d rest → r'.heard cid = r.heard cid

section Deliver

variable {cid : Uuid} {since : Nat} {d : List UInt8} {rest : List (List UInt8)} {turn : Turn}
  {r : SacnReceiver}

/-- A page of another source, or none. -/
theorem receive_other (turn : Turn) (hr : r.Discovering)
    (hother : ∀ p, recvDatagram d = .ok p → ∃ c pkt, c ≠ cid ∧ p = discoveryPacketOf c pkt) :
    ((receiveDatagram turn d).run r).2.Discovering ∧
      ((receiveDatagram turn d).run r).2.view cid = r.view cid ∧ ¬ LastPage cid d rest := by
  by_cases hread : ∃ p, recvDatagram d = .ok p
  · obtain ⟨p, hp⟩ := hread
    obtain ⟨c, pkt, hne, rfl⟩ := hother p hp
    obtain ⟨hafter, hview⟩ := receive_page hr turn hp
    refine ⟨hafter, (hview cid).trans (if_neg hne.symm), ?_⟩
    rintro ⟨-, q, hq, rfl⟩
    rw [hp] at hq
    exact hne (congrArg (fun q => q.pdu.cid) (ok.inj hq))
  · rw [receiveDatagram_refused turn (not_exists.mp hread)]
    refine ⟨hr, rfl, ?_⟩
    rintro ⟨-, p, hp, -⟩
    exact hread ⟨p, hp⟩

/-- A page of the source. -/
theorem receive_left (hr : r.Discovering) (hnow : since ≤ turn.now) {round : DiscoveryRound}
    {pkt : UniverseDiscoveryPacketFramingLayer} {pkts : List UniverseDiscoveryPacketFramingLayer}
    (hd : recvDatagram d = .ok (discoveryPacketOf cid pkt))
    (hrest : List.Forall₂ (fun d pkt => recvDatagram d = .ok (discoveryPacketOf cid pkt)) rest pkts)
    (hleft : round.Left (r.view cid).pending (pkt :: pkts)) :
    PageReceived cid since turn.now d rest r ((receiveDatagram turn d).run r).2 := by
  obtain ⟨hafter, hview⟩ := receive_page hr turn hd
  have hsame := (hview cid).trans (if_pos rfl)
  cases hrest with
  | nil =>
    obtain ⟨-, hhandle⟩ := hleft.handle_last cid turn.now
    rw [hhandle] at hsame
    refine ⟨hafter, ?_, fun _ => ?_, fun hnot => absurd ⟨rfl, _, hd, rfl⟩ hnot⟩
    · rw [hsame]
      exact .nil
    · unfold heard
      rw [hsame]
      exact congrArg some (lastUpdated_joined cid pkt turn.now _)
  | @cons d' pkt' rest pkts hd' hrest =>
    obtain ⟨hmore, hhandle⟩ := hleft.handle_more (by simp) cid turn.now
    rw [hhandle] at hsame
    refine ⟨hafter, ?_, fun hlast => absurd hlast.1 (by simp), fun _ => ?_⟩
    · rw [hsame]
      refine .pages round (by simp) (.cons hd' hrest) hmore ?_
      rintro _ ⟨⟩
      rw [lastUpdated_joined]
      exact hnow
    · unfold heard
      rw [hsame]

/-- **One page more.** -/
theorem Flight.deliver (hr : r.Discovering) (hnow : since ≤ turn.now)
    (h : Flight cid since (d :: rest) (r.view cid).pending) :
    PageReceived cid since turn.now d rest r ((receiveDatagram turn d).run r).2 := by
  generalize hpending : (r.view cid).pending = pending at h
  cases h with
  | others hothers =>
    obtain ⟨hafter, hview, hnot⟩ := receive_other turn hr (hothers d List.mem_cons_self)
    refine ⟨hafter, ?_, fun hlast => absurd hlast hnot, fun _ => ?_⟩
    · rw [hview, hpending]
      exact .others fun x hx => hothers x (List.mem_cons_of_mem d hx)
    · unfold heard
      rw [hview]
  | pages round hne hread hleft hyoung =>
    cases hread with
    | cons hd hrest => exact receive_left hr hnow hd hrest (hpending ▸ hleft)

end Deliver

end Sacn
