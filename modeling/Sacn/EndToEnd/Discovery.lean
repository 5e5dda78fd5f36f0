import Sacn.EndToEnd.Delivery
import Sacn.Receive.Recovery
import Sacn.Source.Pages

/-!
# Universe discovery end to end

The pages a source sends are a complete round in the sense of `DiscoveryRound`, so a receiver that
holds no partial record of the source puts them together again in whatever order they arrive.

* `discoveryRound`: the round of a source whose universes are strictly ascending.
* **`discovery_end_to_end`**: from the registered universes of a source to the record of a receiver.
-/

namespace Sacn

open Rust Rust.Outcome SacnSourceInternal

/-- The round of discovery pages of a source. -/
def SacnSourceInternal.discoveryRound (src : SacnSourceInternal) (hname : NameInDomain src.name)
    (hascending : src.Ascending) : DiscoveryRound where
  name := src.name
  pages := src.discoveryPages
  name_ok := hname
  nonempty := by
    refine List.ne_nil_of_length_pos ?_
    rw [length_discoveryPages]
    exact Nat.succ_pos _
  count_le := by
    rw [length_discoveryPages]
    exact hascending.pages_lt.le
  legal := by
    intro us hus
    obtain ⟨p, -, rfl⟩ := List.mem_map.mp hus
    exact ⟨src.length_pagePart_le p, hascending.pagePart p⟩

/-- The packets of a source's pages are those of a round of the pages, under the source's name. -/
theorem discoveryPackets_round (src : SacnSourceInternal) {round : DiscoveryRound}
    (hpages : round.pages = src.discoveryPages) :
    src.discoveryPackets = round.packets.map fun pkt =>
      { pdu := { cid := src.cid
                 data := .universeDiscoveryPacket { pkt with sourceName := src.name } } } := by
  unfold discoveryPackets DiscoveryRound.packets DiscoveryRound.numbered DiscoveryRound.packet
    DiscoveryRound.lastPage
  rw [hpages, List.map_map]
  refine List.ext_getElem? fun i => ?_
  rw [List.getElem?_map, List.getElem?_mapIdx, List.getElem?_mapIdx, Option.map_map]
  rfl

/-- The packets of a source's pages. -/
theorem discoveryPackets_eq (src : SacnSourceInternal) (hname : NameInDomain src.name)
    (hascending : src.Ascending) :
    src.discoveryPackets = (src.discoveryRound hname hascending).packets.map fun pkt =>
      { pdu := { cid := src.cid, data := .universeDiscoveryPacket pkt } } := by
  have hpages : (src.discoveryRound hname hascending).pages = src.discoveryPages := rfl
  rw [discoveryPackets_round src hpages]
  refine List.map_congr_left fun pkt hpkt => ?_
  obtain ⟨p, -, rfl⟩ := List.mem_map.mp hpkt
  rfl

/-- **Universe discovery end to end.** In every state of a source whose name fits its field, on a
socket that takes its pages, `send_universe_discovery` succeeds and sends pages that each pack, fit
a receive buffer and parse. Any receiver that holds no partial record of the source and handles each
page once, in any order and with any packets of other sources in between, reports the source at the
last page and not before, and then holds one record of it, with exactly the registered universes. -/
theorem discovery_end_to_end {src : SacnSourceInternal} (hsrc : src.Reachable)
    (hname : NameInDomain src.name) (hsocket : src.TakesPages) :
    (∃ src' datagrams, sendUniverseDiscovery.run src = (.ok (), src') ∧
      src'.socket.sent = src.socket.sent ++ datagrams ∧
      List.Forall₂ (fun pkt d =>
          Carries { pdu := { cid := src.cid, data := .universeDiscoveryPacket pkt } } d.2)
        (src.discoveryRound hname hsrc.ascending).packets datagrams) ∧
    ∀ (r : SacnReceiver) (calls : List ReceiverCall),
      r.Reachable ReceiverCall.ParsedDiscovery →
      (∀ s ∈ r.partiallyDiscoveredSources, s.cid ≠ src.cid) →
      (∀ c ∈ calls, c.ParsedDiscovery ∧ c.SparesSource src.cid) →
      ((calls.filterMap fun c => c.discovery src.cid).map Prod.fst).Perm
        (src.discoveryRound hname hsrc.ascending).packets →
      r.reports src.cid calls =
          List.replicate (src.universes.length / 512) none ++ [some src.name] ∧
        ∃ record : DiscoveredSacnSource,
          (calls.foldl (fun r c => c.next r) r).discoveredSources.filter (·.cid = src.cid) =
            [record] ∧
          record.getAllUniverses = src.universes := by
  constructor
  · have hok := src.sendUniverseDiscovery_succeeds (hname.fits.trans (by decide)) hsrc.ascending
      hsocket
    have hsend : sendUniverseDiscovery.run src = (.ok (), (sendUniverseDiscovery.run src).2) :=
      Prod.ext hok rfl
    have hemits := sendUniverseDiscovery_emits hsrc.ascending.pages_lt hsend
    rw [discoveryPackets_eq src hname hsrc.ascending] at hemits
    obtain ⟨datagrams, hsent, hcarries⟩ := hemits.delivered fun p hp => by
      obtain ⟨pkt, hpkt, rfl⟩ := List.mem_map.mp hp
      exact (src.discoveryRound hname hsrc.ascending).packets_inDomain pkt hpkt
    exact ⟨_, datagrams, hsend, hsent, List.forall₂_map_left_iff.mp hcarries⟩
  · intro r calls hr hpending hcalls hpages
    obtain ⟨hafter, hrun⟩ := view_run hr.discovering hcalls
    have hnone : (r.view src.cid).pending = none := KeyedVec.lookup_eq_none.mpr hpending
    obtain ⟨record, huniverses, hround⟩ := SourceView.run_round hnone
      (src.discoveryRound hname hsrc.ascending) hpages
    rw [hround] at hrun
    obtain ⟨hreports, hview⟩ := Prod.mk.inj hrun
    have hcount : (src.discoveryRound hname hsrc.ascending).pages.length - 1 =
        src.universes.length / 512 :=
      (congrArg (· - 1) (length_discoveryPages src)).trans (Nat.add_sub_cancel ..)
    refine ⟨?_, record, KeyedVec.filter_of_lookup hafter.distinct.discovered ?_, ?_⟩
    · rw [hreports, hcount]
      rfl
    · exact congrArg SourceView.found hview
    · rw [huniverses]
      exact flatten_discoveryPages src

/-! ## A list of two pages -/

/-- The packets of a source, the last one first, between two packets of another source. -/
def backwardCalls (cid : Uuid) (pkts : List UniverseDiscoveryPacketFramingLayer) :
    List ReceiverCall :=
  roundCalls (.repeated 2) [pairRound.packet { page := 0, universes := [1] }] ++
    roundCalls cid pkts.reverse ++
    roundCalls (.repeated 2) [pairRound.packet { page := 1, universes := [2] }]

theorem discovery_backwardCalls {cid : Uuid} (hcid : cid ≠ .repeated 2)
    (pkts : List UniverseDiscoveryPacketFramingLayer) :
    ((backwardCalls cid pkts).filterMap fun c => c.discovery cid) =
      pkts.reverse.map fun pkt => (pkt, 0) := by
  have hother : ∀ pkt, ((roundCalls (.repeated 2) [pkt]).filterMap fun c => c.discovery cid) = [] :=
    fun pkt => List.filterMap_cons_none (if_neg (Ne.symm hcid))
  unfold backwardCalls
  rw [List.filterMap_append, List.filterMap_append, hother, hother, List.nil_append,
    List.append_nil, discovery_roundCalls]

theorem backwardCalls_spares {cid c : Uuid} {pkts : List UniverseDiscoveryPacketFramingLayer}
    (h : ∀ pkt ∈ pkts, pkt.InDomain) :
    ∀ call ∈ backwardCalls cid pkts, call.ParsedDiscovery ∧ call.SparesSource c := by
  have hother : ∀ page ∈ pairRound.numbered,
      ∀ pkt ∈ [pairRound.packet page], pkt.InDomain := by
    intro page hpage pkt hpkt
    rw [List.mem_singleton.mp hpkt]
    exact pairRound.packets_inDomain _ (List.mem_map_of_mem hpage)
  intro call hcall
  rcases List.mem_append.mp hcall with hcall | hlast
  · rcases List.mem_append.mp hcall with hfirst | hround
    · exact roundCalls_spares (hother _ (by decide)) _ _ call hfirst
    · exact roundCalls_spares (fun pkt hpkt => h pkt (List.mem_reverse.mp hpkt)) _ _ call hround
  · exact roundCalls_spares (hother _ (by decide)) _ _ call hlast

/-- The numbers of a source's two pages. -/
theorem discoveryRound_two {src : SacnSourceInternal} (hname : NameInDomain src.name)
    (hascending : src.Ascending) (hcount : src.universes.length / 512 = 1) :
    ((src.discoveryRound hname hascending).packets.map fun pkt => pkt.data.page) = [0, 1] := by
  obtain ⟨first, second, htwo⟩ : ∃ first second, src.discoveryPages = [first, second] :=
    List.length_eq_two.mp ((length_discoveryPages src).trans (congrArg (· + 1) hcount))
  show ((src.discoveryPages.mapIdx _).map _).map _ = [0, 1]
  rw [htwo]
  rfl

/-- The universes 1 to 513 need two pages; the second one is handled first. -/
theorem registeredFirst_discovery :
    ∃ pkts : List UniverseDiscoveryPacketFramingLayer,
      (pkts.map fun pkt => pkt.data.page) = [0, 1] ∧
      newReceiver.reports (.repeated 1) (backwardCalls (.repeated 1) pkts) = [none, some "Stage"] ∧
      ∃ record : DiscoveredSacnSource,
        record.getAllUniverses = (registeredFirst 513).universes ∧
        ((backwardCalls (.repeated 1) pkts).foldl (fun r c => c.next r)
          newReceiver).discoveredSources.filter (·.cid = .repeated 1) = [record] := by
  have hle : 513 ≤ 63999 := by decide
  have hreachable := registeredFirst_reachable 513
  have hlength := length_registeredFirst hle
  have hstage := registeredFirst_name hle
  have hsocket := registeredFirst_takesPages hle
  have hcid : (registeredFirst 513).cid = .repeated 1 := by
    rw [registeredFirst_eq hle]
    rfl
  generalize registeredFirst 513 = src at *
  have hname : NameInDomain src.name := by
    rw [hstage]
    exact ⟨by decide, by decide⟩
  obtain ⟨-, hreceive⟩ := discovery_end_to_end hreachable hname hsocket
  have hdomain := (src.discoveryRound hname hreachable.ascending).packets_inDomain
  have hpages := discoveryRound_two hname hreachable.ascending (by rw [hlength])
  generalize (src.discoveryRound hname hreachable.ascending).packets = pkts at *
  have hperm : (((backwardCalls src.cid pkts).filterMap fun c => c.discovery src.cid).map
      Prod.fst).Perm pkts := by
    rw [discovery_backwardCalls (by rw [hcid]; decide), List.map_map]
    exact (List.Perm.of_eq (List.map_id _)).trans pkts.reverse_perm
  obtain ⟨hreports, record, hrecord, huniverses⟩ := hreceive newReceiver
    (backwardCalls src.cid pkts) (newReceiver_reachable _)
    (fun s hs => absurd (show s ∈ [] from hs) List.not_mem_nil) (backwardCalls_spares hdomain) hperm
  rw [hcid, hlength, hstage] at hreports
  rw [hcid] at hrecord
  exact ⟨pkts, hpages, hreports, record, huniverses, hrecord⟩

end Sacn
