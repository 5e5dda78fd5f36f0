import Sacn.Receive.Recovery
import Sacn.Receive.Runs

/-!
# Discovered records (`receive.rs`)

`has_all_pages` looks at the first `last_page + 1` positions of the sorted pages. What is behind
them in a complete record are pages past the last one, or further copies of the last one; both get
into a record because a page is pushed without looking at its number.

* `complete_numbers`: without them the pages of a complete record are exactly `0..=last_page`.
* **`discovered_wellFormed`**: in every run that adds no such page to a record, every discovered
  record has the pages `0..=last_page`, each once and in order.
-/

namespace Sacn

open Rust SacnReceiver

namespace DiscoveredSacnSource

/-- The pages are numbered `0, 1, …, last_page`, each once and in that order, and what
`get_all_universes` lists are their universes, without repeats if no two of them share one. -/
structure WellFormed (src : DiscoveredSacnSource) : Prop where
  numbers : src.pages.map UniversePage.page =
    (List.range (src.lastPage.toNat + 1)).map UInt8.ofNat
  no_repeats : (src.pages.Pairwise fun p q => List.Disjoint p.universes q.universes) →
    src.getAllUniverses.Nodup
  in_range : ∀ u ∈ src.getAllUniverses,
    ∃ p ∈ src.pages, p.page ≤ src.lastPage ∧ u ∈ p.universes

/-- Two pages are not both the last one. -/
def NotBothLast (last : UInt8) (p q : UniversePage) : Prop := ¬ (p.page = last ∧ q.page = last)

theorem NotBothLast.symm {last : UInt8} {p q : UniversePage} (h : NotBothLast last p q) :
    NotBothLast last q p := fun hqp => h hqp.symm

/-- The invariant of a partial record: no page is past the last one, the last one is there at most
once, and each page lists its universes in order. -/
structure Collecting (src : DiscoveredSacnSource) : Prop where
  page_le : ∀ p ∈ src.pages, p.page ≤ src.lastPage
  last_once : src.pages.Pairwise (NotBothLast src.lastPage)
  ascending : ∀ p ∈ src.pages, p.universes.Pairwise (· < ·)

/-- The invariant of a discovered record. -/
structure Complete (src : DiscoveredSacnSource) : Prop where
  numbers : src.pages.map UniversePage.page =
    (List.range (src.lastPage.toNat + 1)).map UInt8.ofNat
  ascending : ∀ p ∈ src.pages, p.universes.Pairwise (· < ·)

/-- **A complete record without a page too many.** -/
theorem complete_numbers {src : DiscoveredSacnSource}
    (hsorted : src.pages.Pairwise fun p q => p.page ≤ q.page) (hall : src.allPages = true)
    (h : src.Collecting) : src.pages.map UniversePage.page =
      (List.range (src.lastPage.toNat + 1)).map UInt8.ofNat := by
  have hlong := lastPage_lt_length hall
  have hat : ∀ i (hi : i < src.pages.length), i ≤ src.lastPage.toNat →
      src.pages[i].page = UInt8.ofNat i := by
    intro i hi hle
    have hi' := List.all_eq_true.mp hall i (List.mem_range.mpr (Nat.lt_succ_of_le hle))
    rw [List.getElem?_eq_getElem hi, Option.any_some] at hi'
    exact of_decide_eq_true hi'
  have hlast : src.pages[src.lastPage.toNat].page = src.lastPage := by
    rw [hat _ hlong (Nat.le_refl _), UInt8.ofNat_toNat]
  -- a page behind the last one would be the last one again
  have hlength : src.pages.length = src.lastPage.toNat + 1 := by
    by_contra hne
    have hmore : src.lastPage.toNat + 1 < src.pages.length := by omega
    have hnext : src.pages[src.lastPage.toNat + 1].page = src.lastPage := by
      refine UInt8.le_antisymm (h.page_le _ (List.getElem_mem hmore)) ?_
      calc src.lastPage = src.pages[src.lastPage.toNat].page := hlast.symm
        _ ≤ src.pages[src.lastPage.toNat + 1].page :=
          List.pairwise_iff_getElem.mp hsorted _ _ hlong hmore (Nat.lt_succ_self _)
    exact List.pairwise_iff_getElem.mp h.last_once _ _ hlong hmore (Nat.lt_succ_self _)
      ⟨hlast, hnext⟩
  refine List.ext_getElem (by rw [List.length_map, List.length_map, List.length_range, hlength])
    fun i hi _ => ?_
  rw [List.length_map] at hi
  rw [List.getElem_map, List.getElem_map, List.getElem_range]
  exact hat i hi (by omega)

theorem Complete.wellFormed {src : DiscoveredSacnSource} (h : src.Complete) : src.WellFormed := by
  refine ⟨h.numbers, fun hdisjoint => ?_, fun u hu => ?_⟩
  · unfold getAllUniverses
    rw [List.nodup_flatMap]
    exact ⟨fun p hp => (h.ascending p hp).imp fun hlt => UInt16.ne_of_lt hlt, hdisjoint⟩
  · obtain ⟨p, hp, hu⟩ := List.mem_flatMap.mp hu
    have hpage : p.page ∈ src.pages.map UniversePage.page := List.mem_map_of_mem hp
    rw [h.numbers] at hpage
    obtain ⟨i, hi, heq⟩ := List.mem_map.mp hpage
    refine ⟨p, hp, ?_, hu⟩
    rw [← heq, UInt8.le_iff_toNat_le, UInt8.toNat_ofNat']
    exact (Nat.mod_le _ _).trans (Nat.le_of_lt_succ (List.mem_range.mp hi))

/-- Stream termination takes universes out of pages, and no page out of a record. -/
theorem Complete.terminateUniverse {src : DiscoveredSacnSource} (h : src.Complete) (uni : UInt16) :
    (src.terminateUniverse uni).Complete := by
  unfold DiscoveredSacnSource.terminateUniverse
  constructor
  · show (src.pages.map _).map UniversePage.page = _
    rw [List.map_map]
    exact h.numbers
  · intro p hp
    obtain ⟨q, hq, rfl⟩ := List.mem_map.mp hp
    exact (h.ascending q hq).filter _

/-- The page a packet adds to a record is none too many: it is not past the record's last one, and
not a second copy of it. -/
def Fresh (src : DiscoveredSacnSource) (pkt : UniverseDiscoveryPacketFramingLayer) : Prop :=
  pkt.data.page ≤ src.lastPage ∧
    (pkt.data.page = src.lastPage → ∀ p ∈ src.pages, p.page ≠ src.lastPage)

theorem Collecting.withPage {src : DiscoveredSacnSource} (h : src.Collecting)
    {pkt : UniverseDiscoveryPacketFramingLayer} (hpkt : pkt.InDomain) (hfresh : src.Fresh pkt)
    (now : Nat) : (src.withPage pkt now).Collecting := by
  have hperm := perm_withPage src pkt now
  have hmem : ∀ p ∈ (src.withPage pkt now).pages, p ∈ src.pages ∨ p = pageOf pkt := by
    intro p hp
    rcases List.mem_append.mp (hperm.mem_iff.mp hp) with hp | hp
    · exact .inl hp
    · exact .inr (List.mem_singleton.mp hp)
  refine ⟨fun p hp => ?_, ?_, fun p hp => ?_⟩
  · rcases hmem p hp with hp | rfl
    · exact h.page_le p hp
    · exact hfresh.1
  · refine (hperm.pairwise_iff fun hpq => hpq.symm).mpr ?_
    refine List.pairwise_append.mpr ⟨h.last_once, List.pairwise_singleton _ _, fun p hp q hq => ?_⟩
    rw [List.mem_singleton.mp hq]
    rintro ⟨hp', hq'⟩
    exact hfresh.2 hq' p hp hp'
  · rcases hmem p hp with hp | rfl
    · exact h.ascending p hp
    · exact hpkt.ascending

theorem withPage_sorted (src : DiscoveredSacnSource) (pkt : UniverseDiscoveryPacketFramingLayer)
    (now : Nat) : (src.withPage pkt now).pages.Pairwise fun p q => p.page ≤ q.page :=
  pairwise_sortedPages _

theorem collecting_firstRecord (cid : Uuid) {pkt : UniverseDiscoveryPacketFramingLayer}
    (hpkt : pkt.InDomain) (now : Nat) : (firstRecord cid pkt now).Collecting := by
  refine ⟨fun p hp => ?_, List.pairwise_singleton _ _, fun p hp => ?_⟩
  · rw [List.mem_singleton.mp hp]
    exact hpkt.page_le
  · rw [List.mem_singleton.mp hp]
    exact hpkt.ascending

end DiscoveredSacnSource

/-! ## The receiver -/

/-- The invariant of a receiver's records. -/
structure SacnReceiver.Recording (r : SacnReceiver) : Prop where
  collecting : ∀ src ∈ r.partiallyDiscoveredSources, src.Collecting
  complete : ∀ src ∈ r.discoveredSources, src.Complete

theorem SacnReceiver.Recording.of_sources {r r' : SacnReceiver} (h : r'.sources = r.sources)
    (hr : r.Recording) : r'.Recording := by
  obtain ⟨hpartially, hdiscovered⟩ := Prod.mk.inj h
  exact ⟨hpartially ▸ hr.collecting, hdiscovered ▸ hr.complete⟩

/-- A discovery packet is one the parser can produce. -/
def ReceiverCall.ParsedPage : ReceiverCall → Prop
  | handleUniverseDiscoveryPacket _ pkt _ => pkt.InDomain
  | _ => True

/-- The page of a discovery packet is none too many for the partial record of its source, if there
is one. -/
def ReceiverCall.FreshPage (r : SacnReceiver) : ReceiverCall → Prop
  | handleUniverseDiscoveryPacket cid pkt _ => ∀ src ∈ (r.view cid).pending, src.Fresh pkt
  | _ => True

/-- A page that is none too many keeps the invariant. -/
theorem recording_pageRule {cid : Uuid} {pkt : UniverseDiscoveryPacketFramingLayer}
    (hpkt : pkt.InDomain) {v : SourceView} (hfresh : ∀ src ∈ v.pending, src.Fresh pkt)
    (now : Nat) : PageRule DiscoveredSacnSource.Collecting DiscoveredSacnSource.Complete cid pkt now
      v := by
  have hfirst := DiscoveredSacnSource.collecting_firstRecord cid hpkt now
  refine ⟨fun hsingle => ?_, fun _ => hfirst, fun src hsrc hold hall => ?_,
    fun src hsrc hold _ => hold.withPage hpkt (hfresh src hsrc) now⟩
  · have hnumbers : [pkt.data.page] =
        (List.range (pkt.data.lastPage.toNat + 1)).map UInt8.ofNat := by
      rw [← hsingle.2, hsingle.1]
      rfl
    exact ⟨hnumbers, hfirst.ascending⟩
  · have hpage := hold.withPage hpkt (hfresh src hsrc) now
    exact ⟨DiscoveredSacnSource.complete_numbers (src.withPage_sorted pkt now) hall hpage,
      hpage.ascending⟩

/-- **One call.** -/
theorem ReceiverCall.recording_next {r : SacnReceiver} {c : ReceiverCall} (hparsed : c.ParsedPage)
    (hfresh : c.FreshPage r) (hr : r.Recording) : (c.next r).Recording := by
  obtain ⟨hcollecting, hcomplete⟩ := c.forall_records_next hr.collecting hr.complete
    (fun _ uni hsrc => hsrc.terminateUniverse uni) fun cid pkt now heq => by
      subst heq
      exact recording_pageRule hparsed hfresh now
  exact ⟨hcollecting, hcomplete⟩

theorem CreatedWith.recording {sourceLimit : Option Nat} {r : SacnReceiver}
    (h : CreatedWith sourceLimit r) : r.Recording := by
  obtain ⟨ip, socket, h⟩ := h
  have hbound : (bound ip sourceLimit socket).Recording :=
    ⟨fun src hsrc => absurd hsrc List.not_mem_nil, fun src hsrc => absurd hsrc List.not_mem_nil⟩
  exact hbound.of_sources (sources_of_withIp h)

/-- **Discovered records are well formed**: in every run of a receiver, on discovery packets the
parser can produce, none of which adds a page past the last one or a second copy of the last one to
a partial record, every discovered record has pages `0..=last_page`, each once and in that order,
and lists exactly their universes. -/
theorem discovered_wellFormed {sourceLimit : Option Nat} {log : List ReceiverEvent}
    {r : SacnReceiver} (h : ReceiverRun (CreatedWith sourceLimit)
      (fun r c => c.ParsedPage ∧ c.FreshPage r) log r) :
    ∀ src ∈ r.discoveredSources, src.WellFormed := by
  have hrecording : r.Recording := Run.reaches h (fun _ hs => hs.recording)
    fun _ _ hc hs => ReceiverCall.recording_next hc.1 hc.2 hs
  exact fun src hsrc => (hrecording.complete src hsrc).wellFormed

/-! ## Two pages -/

/-- A page of a round. -/
def roundPage (round : DiscoveryRound) (page : UniversePage) : ReceiverCall :=
  .handleUniverseDiscoveryPacket (.repeated 1) (round.packet page) 0

/-- A receiver after the second page of the round. -/
def secondFirst : SacnReceiver :=
  (roundPage pairRound { page := 1, universes := [2] }).next newReceiver

theorem roundPage_parsed {round : DiscoveryRound} {page : UniversePage}
    (h : page ∈ round.numbered) : (roundPage round page).ParsedPage :=
  round.packets_inDomain _ (List.mem_map_of_mem h)

theorem pairRound_wellFormed :
    ∃ src ∈
      ((roundPage pairRound { page := 0, universes := [1] }).next secondFirst).discoveredSources,
      src.getAllUniverses = [1, 2] ∧ src.WellFormed := by
  have hstart : ReceiverRun (CreatedWith none) (fun r c => c.ParsedPage ∧ c.FreshPage r) []
      newReceiver := .nil newReceiver_created
  have hsecond := hstart.snoc (roundPage pairRound { page := 1, universes := [2] })
    ⟨roundPage_parsed (by decide), by rintro _ ⟨⟩⟩
  have hfirst := hsecond.snoc (roundPage pairRound { page := 0, universes := [1] })
    ⟨roundPage_parsed (by decide), by
      rintro _ ⟨⟩
      exact ⟨by decide, by decide⟩⟩
  exact ⟨_, List.mem_singleton_self _, by decide, discovered_wellFormed hfirst _
    (List.mem_singleton_self _)⟩

/-- The second page arrives twice before the first one. -/
theorem repeatedLast_kept :
    ¬ ∀ (sourceLimit : Option Nat) (log : List ReceiverEvent) (r : SacnReceiver),
      ReceiverRun (CreatedWith sourceLimit) (fun _ c => c.ParsedPage) log r →
        ∀ src ∈ r.discoveredSources, src.WellFormed := by
  intro h
  have hstart : ReceiverRun (CreatedWith none) (fun _ c => c.ParsedPage) [] newReceiver :=
    .nil newReceiver_created
  have hsecond := hstart.snoc (roundPage pairRound { page := 1, universes := [2] })
    (roundPage_parsed (by decide))
  have hagain := hsecond.snoc (roundPage pairRound { page := 1, universes := [2] })
    (roundPage_parsed (by decide))
  have hfirst := hagain.snoc (roundPage pairRound { page := 0, universes := [1] })
    (roundPage_parsed (by decide))
  exact absurd (h _ _ _ hfirst _ (List.mem_singleton_self _)).numbers (by decide)

end Sacn
