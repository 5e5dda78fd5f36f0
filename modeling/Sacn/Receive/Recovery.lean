import Sacn.Receive.Round

/-!
# Recovering from lost and repeated pages (`receive.rs`)

A partial record keeps the pages of earlier rounds, and the last page number of the first of them;
a page that comes again is appended once more. `Recovers` says that a complete round repairs this.

* **`recovers_iff`**: a receiver recovers a source's list from every complete round exactly when it
  holds no partial record of the source.
* `repeatedPage_not_recovered`: the receiver that missed the last page of one round.
-/

namespace Sacn

open Rust SacnReceiver

/-- From this state, every complete round of the source, in any order and with any packets that
leave its records alone in between, is reported, and the record then stored lists the round's
universes. -/
def SacnReceiver.Recovers (r : SacnReceiver) (cid : Uuid) : Prop :=
  ∀ (round : DiscoveryRound) (calls : List ReceiverCall),
    (∀ c ∈ calls, c.ParsedDiscovery ∧ c.SparesSource cid) →
    ((calls.filterMap fun c => c.discovery cid).map Prod.fst).Perm round.packets →
      some round.name ∈ r.reports cid calls ∧
      ((calls.foldl (fun r c => c.next r) r).view cid).found.map
        DiscoveredSacnSource.getAllUniverses = some round.pages.flatten

/-- The calls that handle these packets of the source, at time 0. -/
def roundCalls (cid : Uuid) (pkts : List UniverseDiscoveryPacketFramingLayer) :
    List ReceiverCall := pkts.map fun pkt => .handleUniverseDiscoveryPacket cid pkt 0

theorem discovery_roundCalls (cid : Uuid) (pkts : List UniverseDiscoveryPacketFramingLayer) :
    ((roundCalls cid pkts).filterMap fun c => c.discovery cid) = pkts.map fun pkt => (pkt, 0) := by
  induction pkts with
  | nil => rfl
  | cons pkt pkts ih =>
    have hhead : (ReceiverCall.handleUniverseDiscoveryPacket cid pkt 0).discovery cid =
        some (pkt, 0) := if_pos rfl
    exact (List.filterMap_cons_some hhead).trans (congrArg _ ih)

theorem roundCalls_spares {pkts : List UniverseDiscoveryPacketFramingLayer}
    (h : ∀ pkt ∈ pkts, pkt.InDomain) (cid c : Uuid) :
    ∀ call ∈ roundCalls cid pkts, call.ParsedDiscovery ∧ call.SparesSource c := by
  intro call hcall
  obtain ⟨pkt, hpkt, rfl⟩ := List.mem_map.mp hcall
  refine ⟨?_, trivial⟩
  rintro _ _ _ ⟨⟩
  exact (h pkt hpkt).page_le

/-- A round that is recovered in order, seen from the source. -/
theorem SacnReceiver.Recovers.in_order {r : SacnReceiver} {cid : Uuid} (h : r.Recovers cid)
    (hr : r.Discovering) (round : DiscoveryRound) :
    some round.name ∈ ((r.view cid).run cid (round.packets.map fun pkt => (pkt, 0))).1 ∧
      ((r.view cid).run cid (round.packets.map fun pkt => (pkt, 0))).2.found.map
        DiscoveredSacnSource.getAllUniverses = some round.pages.flatten := by
  have hcalls := roundCalls_spares round.packets_inDomain cid cid
  obtain ⟨-, hrun⟩ := view_run hr hcalls
  rw [discovery_roundCalls] at hrun
  rw [← hrun]
  refine h round _ hcalls ?_
  rw [discovery_roundCalls, List.map_map]
  exact .of_eq (List.map_id _)

/-- With fewer packets to come than it waits for, a partial record stays partial. -/
theorem SourceView.found_of_few {cid : Uuid}
    {events : List (UniverseDiscoveryPacketFramingLayer × Nat)} {src : DiscoveredSacnSource}
    {found : Option DiscoveredSacnSource}
    (h : src.pages.length + events.length ≤ src.lastPage.toNat) :
    (SourceView.run cid { pending := some src, found } events).2.found = found := by
  induction events generalizing src with
  | nil => rfl
  | cons e rest ih =>
    obtain ⟨pkt, now⟩ := e
    rw [List.length_cons] at h
    have hlength := length_withPage src pkt now
    have hmore : ¬ (src.withPage pkt now).allPages = true := fun hall => by
      have hlt := DiscoveredSacnSource.lastPage_lt_length hall
      rw [show (src.withPage pkt now).lastPage = src.lastPage from rfl] at hlt
      omega
    rw [SourceView.run]
    simp only [SourceView.handle, if_neg hmore]
    exact ih (by rw [hlength]; show _ ≤ src.lastPage.toNat; omega)

/-- The round of one empty page. -/
def emptyRound : DiscoveryRound where
  name := ""
  pages := [[]]
  name_ok := ⟨by decide, by decide⟩
  nonempty := by simp
  count_le := by simp
  legal := by simp

/-- The round of `n + 2` pages that is empty but for page 1. -/
def sparseRound (n : Nat) (hn : n + 2 ≤ 256) (us : List UInt16) (hus : us.length ≤ 512)
    (hascending : us.Pairwise (· < ·)) : DiscoveryRound where
  name := ""
  pages := [] :: us :: List.replicate n []
  name_ok := ⟨by decide, by decide⟩
  nonempty := by simp
  count_le := by
    rw [List.length_cons, List.length_cons, List.length_replicate]
    exact hn
  legal := by
    intro page hpage
    rcases List.mem_cons.mp hpage with rfl | hpage
    · exact ⟨Nat.zero_le _, .nil⟩
    · rcases List.mem_cons.mp hpage with rfl | hpage
      · exact ⟨hus, hascending⟩
      · rw [List.eq_of_mem_replicate hpage]
        exact ⟨Nat.zero_le _, .nil⟩

theorem flatten_sparseRound (n : Nat) (hn : n + 2 ≤ 256) (us : List UInt16)
    (hus : us.length ≤ 512) (hascending : us.Pairwise (· < ·)) :
    (sparseRound n hn us hus hascending).pages.flatten = us := by
  show [] ++ (us ++ (List.replicate n []).flatten) = us
  rw [List.flatten_replicate_nil, List.append_nil, List.nil_append]

/-- A partial record that page 0 of a round of more pages completes: no later page is stored. -/
theorem found_of_early {cid : Uuid} {src : DiscoveredSacnSource}
    {found : Option DiscoveredSacnSource} (round : DiscoveryRound) {us us' : List UInt16}
    {tail : List (List UInt16)} (hpages : round.pages = us :: us' :: tail)
    (hall : (src.withPage (round.packet { page := 0, universes := us }) 0).allPages = true) :
    (SourceView.run cid { pending := some src, found }
      (round.packets.map fun pkt => (pkt, 0))).2.found =
        some (src.withPage (round.packet { page := 0, universes := us }) 0) := by
  obtain ⟨rest, hpackets⟩ : ∃ rest, round.packets =
      round.packet { page := 0, universes := us } ::
        round.packet { page := 1, universes := us' } :: rest := by
    unfold DiscoveryRound.packets DiscoveryRound.numbered
    rw [hpages, List.mapIdx_cons, List.mapIdx_cons]
    exact ⟨_, rfl⟩
  have hcount := round.toNat_lastPage
  rw [← round.length_packets, hpackets] at hcount
  have hsecond : ¬ (round.packet { page := 1, universes := us' }).data.page = 0 :=
    (by decide : (1 : UInt8) ≠ 0)
  rw [hpackets, List.map_cons, List.map_cons, SourceView.run, SourceView.run]
  simp only [SourceView.handle, if_pos hall]
  rw [if_neg fun h => hsecond h.1]
  refine SourceView.found_of_few ?_
  show 1 + (rest.map _).length ≤ round.lastPage.toNat
  rw [List.length_map, Nat.succ_injective hcount, List.length_cons, Nat.add_comm]

/-- **Exactly when a receiver recovers a source's list from every complete round**: when it holds no
partial record of the source. -/
theorem recovers_iff {r : SacnReceiver} (hr : r.Reachable ReceiverCall.ParsedDiscovery)
    (cid : Uuid) : r.Recovers cid ↔ ∀ src ∈ r.partiallyDiscoveredSources, src.cid ≠ cid := by
  have hdiscovering := hr.discovering
  rw [← KeyedVec.lookup_eq_none]
  constructor
  · intro hrecovers
    cases hpending : KeyedVec.lookup DiscoveredSacnSource.cid r.partiallyDiscoveredSources cid with
    | none => rfl
    | some src =>
      exfalso
      have hmulti := hdiscovering.multi src (KeyedVec.lookup_mem hpending).1
      have hview : r.view cid = { pending := some src, found := (r.view cid).found } :=
        congrArg (SourceView.mk · _) hpending
      -- Either page 0 alone does not complete the record, and the round of one page is not reported,
      -- or it completes it with pages of old rounds, and the rest of the round is never complete.
      let pkt : UniverseDiscoveryPacketFramingLayer :=
        emptyRound.packet { page := 0, universes := [] }
      by_cases hall : (src.withPage pkt 0).allPages = true
      · have hle := src.lastPage.toNat_lt
        have hpos : 0 < src.lastPage.toNat := UInt8.lt_iff_toNat_lt.mp hmulti
        have hn : src.lastPage.toNat - 1 + 2 ≤ 256 := by omega
        have hstored : ∀ us (hus : us.length ≤ 512) (hascending : us.Pairwise (· < ·)),
            (src.withPage pkt 0).getAllUniverses = us := by
          intro us hus hascending
          let round := sparseRound (src.lastPage.toNat - 1) hn us hus hascending
          have hfound := (hrecovers.in_order hdiscovering round).2
          rw [hview, found_of_early round rfl hall, flatten_sparseRound] at hfound
          exact Option.some.inj hfound
        have hnil := hstored [] (Nat.zero_le _) .nil
        have hone := hstored [1] (by decide) (List.pairwise_singleton _ _)
        exact absurd (hnil.symm.trans hone) (by decide)
      · have hreport := (hrecovers.in_order hdiscovering emptyRound).1
        have hpackets : emptyRound.packets = [pkt] := rfl
        rw [hview, hpackets, List.map_singleton, SourceView.run] at hreport
        simp only [SourceView.handle, if_neg hall] at hreport
        exact absurd hreport (by simp [SourceView.run])
  · intro hpending round calls hcalls hpackets
    obtain ⟨-, hrun⟩ := view_run hdiscovering hcalls
    obtain ⟨rec, huniverses, hround⟩ := SourceView.run_round (v := r.view cid) hpending round
      hpackets
    rw [hround] at hrun
    obtain ⟨hreports, hview⟩ := Prod.mk.inj hrun
    rw [hreports, hview]
    exact ⟨List.mem_append_right _ (List.mem_singleton_self _), congrArg some huniverses⟩

/-- Two pages of one universe each. -/
def pairRound : DiscoveryRound where
  name := "Stage"
  pages := [[1], [2]]
  name_ok := ⟨by decide, by decide⟩
  nonempty := by simp
  count_le := by simp
  legal := by simp

/-- A new receiver after page 0 of the round; page 1 was lost. -/
def interruptedReceiver : SacnReceiver :=
  (ReceiverCall.handleUniverseDiscoveryPacket (.repeated 1)
    (pairRound.packet { page := 0, universes := [1] }) 0).next newReceiver

theorem interruptedReceiver_reachable :
    interruptedReceiver.Reachable ReceiverCall.ParsedDiscovery := by
  refine .step _ _ (newReceiver_reachable _) ?_
  rintro _ _ _ ⟨⟩
  decide

/-- The next round is complete and in order, and is not reported. -/
theorem repeatedPage_not_recovered :
    ¬ ∀ r : SacnReceiver, r.Reachable ReceiverCall.ParsedDiscovery → ∀ cid, r.Recovers cid := by
  intro h
  have hreport := ((h _ interruptedReceiver_reachable (.repeated 1)).in_order
    interruptedReceiver_reachable.discovering pairRound).1
  revert hreport
  decide +kernel

/-- It recovers the list of any other source. -/
theorem interruptedReceiver_recovers :
    (interruptedReceiver.view (.repeated 1)).pending ≠ none ∧
      interruptedReceiver.Recovers (.repeated 2) :=
  ⟨by decide +kernel, (recovers_iff interruptedReceiver_reachable _).mpr (by decide +kernel)⟩

end Sacn
