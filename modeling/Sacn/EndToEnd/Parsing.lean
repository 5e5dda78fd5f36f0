import Sacn.EndToEnd.Delivery
import Sacn.Packet.Reencode
import Sacn.Source.Calls

/-!
# What a source sends and a parser accepts

The sender and the parser check the same fields against different bounds. The sender lets a name
fill its 64-byte field, and lets zero bytes into it; the parser reads up to the first zero byte and
wants one. The sender counts the discovery universe as a universe to send on and to synchronise on;
the parser takes `1..=63999` only. The other bounds agree.

* `Emits.parsesBack_iff`: what was sent parses back iff every packet is in the parser's domain.
* **`SendCall.parsesBack_iff_legal`**: a successful call's datagrams parse back to its packets iff the
  name keeps its zero byte and the call does not use the discovery universe.
-/

namespace Sacn

open Rust Rust.Outcome SacnSourceInternal

/-- Between the two states, the source sent one datagram for each of these packets, and each
datagram parses to its packet. -/
def ParsesBack (src src' : SacnSourceInternal) (packets : List AcnRootLayerProtocol) : Prop :=
  ∃ datagrams, src'.socket.sent = src.socket.sent ++ datagrams ∧
    List.Forall₂ (fun p d => AcnRootLayerProtocol.parse d.2 = .ok p) packets datagrams

/-- **The datagrams of packets parse back** iff every packet is in the parser's domain. -/
theorem Emits.parsesBack_iff {src src' : SacnSourceInternal} {packets : List AcnRootLayerProtocol}
    (h : Emits src src' packets) : ParsesBack src src' packets ↔ ∀ p ∈ packets, p.InDomain := by
  constructor
  · rintro ⟨datagrams, -, hparses⟩ p hp
    obtain ⟨i, hi, rfl⟩ := List.getElem_of_mem hp
    exact (AcnRootLayerProtocol.parse_reencode (hparses.get hi (hparses.length_eq ▸ hi))).1
  · intro hdomain
    obtain ⟨datagrams, hsent, hcarries⟩ := h.delivered hdomain
    exact ⟨datagrams, hsent, hcarries.imp fun _ _ hc => hc.parses⟩

/-! ## The bounds, field by field -/

theorem discoveryUniverse_not_le : ¬ e131DiscoveryUniverse ≤ 63999 := by decide

/-- Of the universes the sender allows, the parser takes all but the discovery universe. -/
theorem UniverseInRange.parsed_iff {uni : UInt16} (h : UniverseInRange uni) :
    (1 ≤ uni ∧ uni ≤ 63999) ↔ uni ≠ e131DiscoveryUniverse := by
  constructor
  · rintro ⟨-, hle⟩ rfl
    exact discoveryUniverse_not_le hle
  · exact fun hne => h.resolve_left hne

theorem universeAllowed_range {src : SacnSourceInternal} {uni : UInt16}
    (h : src.universeAllowed uni = .ok ()) : UniverseInRange uni := by
  obtain ⟨_, hrange, -⟩ := bind_eq_ok.mp h
  exact isUniverseInRange_eq_ok.mp hrange

/-- The synchronisation addresses the sender allows. -/
theorem syncAddress_parsed_iff {src : SacnSourceInternal} {sync : Option UInt16}
    (h : ∀ a ∈ sync, src.universeAllowed a = .ok ()) :
    sync.getD noSyncUniverse ≤ 63999 ↔ sync ≠ some e131DiscoveryUniverse := by
  cases sync with
  | none => exact iff_of_true (by decide) (by simp)
  | some a =>
    have ha := (universeAllowed_range (h a rfl)).parsed_iff
    rw [Option.getD_some, ne_eq, Option.some_inj]
    constructor
    · rintro hle rfl
      exact discoveryUniverse_not_le hle
    · exact fun hne => (ha.mpr hne).2

theorem dataPacket_inDomain_iff {src : SacnSourceInternal} {uni : UInt16} {values : List UInt8}
    {priority : UInt8} {syncAddress : UInt16} (hpriority : priority ≤ e131MaxPriority)
    (hvalues : values.length ≤ 513) (huni : UniverseInRange uni) :
    (src.dataPacket uni values priority syncAddress).InDomain ↔
      NameInDomain src.name ∧ uni ≠ e131DiscoveryUniverse ∧ syncAddress ≤ 63999 := by
  rw [← huni.parsed_iff]
  constructor
  · exact fun h => ⟨h.name, h.uni_range, h.syncAddr_le⟩
  · rintro ⟨hname, hrange, hsync⟩
    exact ⟨hname, hpriority, hsync, hrange, hvalues⟩

theorem terminatePacket_inDomain_iff {src : SacnSourceInternal} {uni : UInt16} {startCode : UInt8}
    (huni : UniverseInRange uni) :
    (src.terminatePacket uni startCode).InDomain ↔
      NameInDomain src.name ∧ uni ≠ e131DiscoveryUniverse := by
  rw [← huni.parsed_iff]
  constructor
  · exact fun h => ⟨h.name, h.uni_range⟩
  · rintro ⟨hname, hrange⟩
    exact ⟨hname, (by decide : (100 : UInt8) ≤ 200), (by decide : (0 : UInt16) ≤ 63999), hrange,
      (by decide : 1 ≤ 513)⟩

theorem syncPacket_inDomain_iff {src : SacnSourceInternal} {uni : UInt16}
    (huni : UniverseInRange uni) :
    (src.syncPacket uni).InDomain ↔ uni ≠ e131DiscoveryUniverse := by
  rw [← huni.parsed_iff]
  exact ⟨fun h => h.syncAddr_range, fun h => ⟨h⟩⟩

/-! ## The calls -/

/-- The name keeps its zero byte, and the call does not use the discovery universe. -/
def SendCall.Legal (src : SacnSourceInternal) : SendCall → Prop
  | send universes data _ _ synchronisationAddr =>
    NameInDomain src.name ∧ e131DiscoveryUniverse ∉ universes.take (requiredUniverses data) ∧
      synchronisationAddr ≠ some e131DiscoveryUniverse
  | sendSyncPacket uni _ => uni ≠ e131DiscoveryUniverse
  | terminateStream uni _ => NameInDomain src.name ∧ uni ≠ e131DiscoveryUniverse

/-- The packets of `send`. -/
theorem sentPackets_inDomain_iff {src src' : SacnSourceInternal} {universes : List UInt16}
    {data : List UInt8} {priority : Option UInt8} {dstIp : Option SocketAddr}
    {sync : Option UInt16}
    (h : (SacnSourceInternal.send universes data priority dstIp sync).run src = (.ok (), src')) :
    (∀ p ∈ src.sentPackets universes data (priority.getD e131DefaultPriority)
        (sync.getD noSyncUniverse), p.InDomain) ↔
      (SendCall.send universes data priority dstIp sync).Legal src := by
  obtain ⟨hdata, hallowed, hsync, hlength, -⟩ := send_checked h
  obtain ⟨hpriority, -⟩ := send_sends h
  have hfst := map_fst_parts universes (requiredUniverses data)
  have hpacket : ∀ part ∈ universes.zipIdx.take (requiredUniverses data),
      (((src.advanced part.1 ((universes.take part.2).count part.1)).dataPacket part.1
        (dataPart data part.2) (priority.getD e131DefaultPriority)
        (sync.getD noSyncUniverse)).InDomain ↔
      NameInDomain src.name ∧ part.1 ≠ e131DiscoveryUniverse ∧
        sync ≠ some e131DiscoveryUniverse) := by
    intro part hpart
    have hmem : part.1 ∈ universes.take (requiredUniverses data) :=
      hfst ▸ List.mem_map_of_mem hpart
    rw [dataPacket_inDomain_iff hpriority (length_dataPart_le _ _)
      (universeAllowed_range (hallowed _ (List.mem_of_mem_take hmem))), syncAddress_parsed_iff hsync]
    rfl
  unfold sentPackets SendCall.Legal
  rw [List.forall_mem_map]
  constructor
  · intro hall
    -- there is a first part, since there is data
    have hpos := requiredUniverses_pos hdata
    have hpart := List.getElem_mem (l := universes.zipIdx.take (requiredUniverses data)) (n := 0)
      (by rw [List.length_take, List.length_zipIdx]; omega)
    obtain ⟨hname, -, hs⟩ := (hpacket _ hpart).mp (hall _ hpart)
    refine ⟨hname, fun hmem => ?_, hs⟩
    rw [← hfst] at hmem
    obtain ⟨part, hpart, huni⟩ := List.mem_map.mp hmem
    exact ((hpacket part hpart).mp (hall part hpart)).2.1 huni
  · rintro ⟨hname, huni, hs⟩ part hpart
    refine (hpacket part hpart).mpr ⟨hname, fun heq => huni ?_, hs⟩
    rw [← heq, ← hfst]
    exact List.mem_map_of_mem hpart

/-- **What a source sends parses back**, exactly when the source's name fits its field with a zero
byte, has none itself, and the call does not use the discovery universe: in every state, and for
every call of `send`, `send_sync_packet` or `terminate_stream` that returns `Ok`, the datagrams
handed to the socket are one for each packet the call built, and each parses to its packet. -/
theorem SendCall.parsesBack_iff_legal {src src' : SacnSourceInternal} {c : SendCall}
    (h : c.method.run src = (.ok (), src')) :
    ParsesBack src src' (c.packets src) ↔ c.Legal src := by
  refine (SendCall.emits h).parsesBack_iff.trans ?_
  cases c with
  | send universes data priority dstIp sync => exact sentPackets_inDomain_iff h
  | sendSyncPacket uni dstIp =>
    have hends := sendSyncPacket_ends src uni dstIp
    rw [show (SacnSourceInternal.sendSyncPacket uni dstIp).run src = (.ok (), src') from h] at hends
    rw [SendCall.packets, List.forall_mem_singleton]
    exact syncPacket_inDomain_iff (universeAllowed_range hends.of_ok.1)
  | terminateStream uni startCode =>
    have huni := universeAllowed_range (terminateStream_sends h).1
    unfold SendCall.packets terminatePackets SendCall.Legal
    rw [List.forall_mem_map]
    constructor
    · intro hall
      have hfirst : ((src.advanced uni 0).terminatePacket uni startCode).InDomain :=
        hall 0 (by decide)
      obtain ⟨hname, hne⟩ := (terminatePacket_inDomain_iff huni).mp hfirst
      exact ⟨hname, hne⟩
    · exact fun hlegal i _ => (terminatePacket_inDomain_iff huni).mpr hlegal

/-- A new source with a registered universe. -/
def registeredSource (name : String) : SacnSourceInternal :=
  ((registerUniverse 1).run { sampleSource with name }).2

/-- A call that sends two bytes on it. -/
def sampleSend : SendCall := .send [1] [0, 255] none none none

theorem registeredSource_parsed :
    ParsesBack (registeredSource "Stage") (sampleSend.method.run (registeredSource "Stage")).2
      (sampleSend.packets (registeredSource "Stage")) := by
  have hsent : (sampleSend.method.run (registeredSource "Stage")).1 = .ok () := by decide +kernel
  refine (SendCall.parsesBack_iff_legal (by rw [← hsent])).mpr ⟨⟨?_, ?_⟩, ?_, ?_⟩
  · decide +kernel
  · decide +kernel
  · decide
  · decide

/-- A name of 64 bytes, which a source accepts. -/
def fullName : String := "0123456789012345678901234567890123456789012345678901234567890123"

theorem fullName_not_parsed :
    ¬ ∀ (log : List (UserCall × Outcome SacnError Unit)) (src src' : SacnSourceInternal)
      (c : SendCall), SourceRun (fun _ _ => True) log src → c.method.run src = (.ok (), src') →
        ParsesBack src src' (c.packets src) := by
  intro hall
  have hcreated : SacnSource.Created { sampleSource with name := fullName } :=
    ⟨fullName, .repeated 1, sampleSource.addr, fun _ => none, rfl⟩
  have hrun : SourceRun (fun _ _ => True) _ (registeredSource fullName) :=
    (Run.nil hcreated).snoc (UserCall.registerUniverse 1) trivial
  have hsent : (sampleSend.method.run (registeredSource fullName)).1 = .ok () := by decide +kernel
  have hsend : sampleSend.method.run (registeredSource fullName) =
      (.ok (), (sampleSend.method.run (registeredSource fullName)).2) := by rw [← hsent]
  have hdomain := (SendCall.emits hsend).parsesBack_iff.mp (hall _ _ _ sampleSend hrun hsend)
  have hlegal := (sentPackets_inDomain_iff hsend).mp hdomain
  exact absurd hlegal.1.fits (by decide +kernel)

end Sacn
