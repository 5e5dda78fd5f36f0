import Sacn.Receive.Records

/-!
# Partial records (`receive.rs`)

Each source has at most one partial and one discovered record. A partial record has its pages
sorted, and `has_all_pages` finds one missing: the page that starts a record is one of several, and
every later one is followed by the test. The test looks for page `i` at position `i`, so a second
copy of an early page hides the pages behind it: such a record stays partial for good.

* `Partial`, **`Reachable.partial_records`**: what holds of the partial records in every state;
  `Partial.hasAllPages`: the test on such a record fails and leaves it as it is.
* `HasEveryPage`: the record has a page for each number, wherever it is.
* **`partial_records_incomplete`**: in every run in which no page below the last one is added twice,
  no partial record has every page.
-/

namespace Sacn

open Rust SacnReceiver

/-! ## One record -/

namespace DiscoveredSacnSource

/-- The invariant of a partial record. -/
structure Partial (src : DiscoveredSacnSource) : Prop where
  sorted : src.pages.Pairwise fun p q => p.page ≤ q.page
  missing : src.allPages = false

/-- Of each number up to the last one there is a page. -/
def HasEveryPage (src : DiscoveredSacnSource) : Prop :=
  ∀ i ≤ src.lastPage, ∃ p ∈ src.pages, p.page = i

/-- No page below the last one is there twice. -/
def NoRepeats (src : DiscoveredSacnSource) : Prop :=
  src.pages.Pairwise fun p q => p.page = q.page → src.lastPage ≤ p.page

/-- Asked again, `has_all_pages` says no, and has nothing to sort. -/
theorem Partial.hasAllPages {src : DiscoveredSacnSource} (h : src.Partial) :
    src.hasAllPages = (false, src) := by
  have hsame : src.sortPages = src := by
    unfold sortPages
    rw [h.sorted.insertionSort_eq]
  unfold DiscoveredSacnSource.hasAllPages
  rw [hsame, h.missing]

/-- A page that starts a partial record. -/
theorem partial_firstRecord (cid : Uuid) {pkt : UniverseDiscoveryPacketFramingLayer} (now : Nat)
    (hpage : pkt.data.page ≤ pkt.data.lastPage)
    (hmulti : ¬ (pkt.data.page = 0 ∧ pkt.data.page = pkt.data.lastPage)) :
    (firstRecord cid pkt now).Partial := by
  refine ⟨List.pairwise_singleton _ _, Bool.eq_false_iff.mpr fun hall => ?_⟩
  have hlong : pkt.data.lastPage.toNat < 1 := lastPage_lt_length hall
  have hpos := UInt8.lt_iff_toNat_lt.mp (lastPage_pos hpage hmulti)
  exact absurd hpos (Nat.not_lt.mpr (Nat.le_of_lt_succ hlong))

/-- A page that leaves a record incomplete. -/
theorem partial_withPage {src : DiscoveredSacnSource} {pkt : UniverseDiscoveryPacketFramingLayer}
    {now : Nat} (h : ¬ (src.withPage pkt now).allPages = true) : (src.withPage pkt now).Partial :=
  ⟨src.withPage_sorted pkt now, Bool.eq_false_iff.mpr h⟩

/-- A page that is no second copy of one below the last. -/
theorem NoRepeats.withPage {src : DiscoveredSacnSource} (h : src.NoRepeats)
    {pkt : UniverseDiscoveryPacketFramingLayer}
    (hnew : ∀ p ∈ src.pages, p.page = pkt.data.page → src.lastPage ≤ p.page) (now : Nat) :
    (src.withPage pkt now).NoRepeats := by
  have hsymm : ∀ {p q : UniversePage}, (p.page = q.page → src.lastPage ≤ p.page) →
      q.page = p.page → src.lastPage ≤ q.page := fun hpq hqp => hqp ▸ hpq hqp.symm
  refine ((perm_withPage src pkt now).pairwise_iff hsymm).mpr ?_
  refine List.pairwise_append.mpr ⟨h, List.pairwise_singleton _ _, fun p hp q hq => ?_⟩
  rw [List.mem_singleton.mp hq]
  exact hnew p hp

/-- **A sorted record without repeats that has every page is one that `has_all_pages` sees.** -/
theorem allPages_of_hasEveryPage {src : DiscoveredSacnSource}
    (hsorted : src.pages.Pairwise fun p q => p.page ≤ q.page) (hrepeats : src.NoRepeats)
    (hevery : src.HasEveryPage) : src.allPages = true := by
  have hnumbered : src.pages.Pairwise fun p q => p.page.toNat ≤ q.page.toNat :=
    hsorted.imp fun hle => UInt8.le_iff_toNat_le.mp hle
  have hfind : ∀ i ≤ src.lastPage.toNat, ∃ p ∈ src.pages, p.page.toNat = i := by
    intro i hi
    have htoNat : (UInt8.ofNat i).toNat = i :=
      UInt8.toNat_ofNat_of_lt' (Nat.lt_of_le_of_lt hi src.lastPage.toNat_lt)
    have hle : UInt8.ofNat i ≤ src.lastPage := by
      rw [UInt8.le_iff_toNat_le, htoNat]
      exact hi
    obtain ⟨p, hp, hpage⟩ := hevery (UInt8.ofNat i) hle
    exact ⟨p, hp, by rw [hpage, htoNat]⟩
  have honce : src.pages.Pairwise fun p q =>
      p.page.toNat = q.page.toNat → src.lastPage.toNat ≤ p.page.toNat :=
    hrepeats.imp fun hlast hsame => UInt8.le_iff_toNat_le.mp (hlast (UInt8.toNat_inj.mp hsame))
  refine List.all_eq_true.mpr fun i hi => ?_
  have hle := Nat.le_of_lt_succ (List.mem_range.mp hi)
  obtain ⟨hlt, hpage⟩ := getElem_of_numbered hnumbered hfind honce i hle
  rw [List.getElem?_eq_getElem hlt, Option.any_some]
  refine decide_eq_true (UInt8.toNat_inj.mp ?_)
  rw [hpage, UInt8.toNat_ofNat_of_lt' (hpage ▸ src.pages[i].page.toNat_lt)]

end DiscoveredSacnSource

/-! ## Runs -/

/-- **In every state the partial records are sorted, and incomplete as far as `has_all_pages`
sees.** -/
theorem SacnReceiver.Reachable.partial_records {r : SacnReceiver}
    (h : r.Reachable ReceiverCall.ParsedDiscovery) :
    ∀ src ∈ r.partiallyDiscoveredSources, src.Partial := by
  induction h with
  | new ip sourceLimit socket r h =>
    rw [show r.partiallyDiscoveredSources = [] from congrArg Prod.fst (sources_of_withIp h)]
    exact fun src hsrc => absurd hsrc List.not_mem_nil
  | step r c _ hc ih =>
    refine (c.forall_records_next (J := fun _ => True) ih (fun _ _ => trivial)
      (fun _ _ _ => trivial) fun cid pkt now heq => ?_).1
    exact ⟨fun _ => trivial, DiscoveredSacnSource.partial_firstRecord cid now (hc cid pkt now heq),
      fun _ _ _ _ => trivial, fun _ _ _ => DiscoveredSacnSource.partial_withPage⟩

/-- The page of a discovery packet is no second copy of a page below the last one that the partial
record of its source has already. -/
def ReceiverCall.NewPage (r : SacnReceiver) : ReceiverCall → Prop
  | handleUniverseDiscoveryPacket cid pkt _ => ∀ src ∈ (r.view cid).pending,
      ∀ p ∈ src.pages, p.page = pkt.data.page → src.lastPage ≤ p.page
  | _ => True

/-- Each source has at most one record of each kind, and a partial record has its pages sorted and
not all of them. -/
structure SacnReceiver.PartialRecords (r : SacnReceiver) : Prop where
  discovered : (r.discoveredSources.map DiscoveredSacnSource.cid).Nodup
  partially : (r.partiallyDiscoveredSources.map DiscoveredSacnSource.cid).Nodup
  sorted : ∀ src ∈ r.partiallyDiscoveredSources, src.pages.Pairwise fun p q => p.page ≤ q.page
  incomplete : ∀ src ∈ r.partiallyDiscoveredSources, ¬ src.HasEveryPage

/-- The calls of a run lead to a state that calls reach. -/
theorem ReceiverRun.reachable {sourceLimit : Option Nat}
    {allowed : SacnReceiver → ReceiverCall → Prop} {P : ReceiverCall → Prop}
    (hallowed : ∀ r c, allowed r c → P c) {log : List ReceiverEvent} {r : SacnReceiver}
    (h : ReceiverRun (CreatedWith sourceLimit) allowed log r) : r.Reachable P :=
  Run.reaches h (fun s ⟨ip, socket, hs⟩ => .new ip sourceLimit socket s hs)
    fun s c hc hs => .step s c hs (hallowed s c hc)

/-- **Partial records are partial**: in every run of a receiver, on discovery packets with no page
past their last one, none of which adds a second copy of an early page to a partial record. -/
theorem partial_records_incomplete {sourceLimit : Option Nat} {log : List ReceiverEvent}
    {r : SacnReceiver} (h : ReceiverRun (CreatedWith sourceLimit)
      (fun r c => c.ParsedDiscovery ∧ c.NewPage r) log r) : r.PartialRecords := by
  have hreachable : r.Reachable ReceiverCall.ParsedDiscovery :=
    ReceiverRun.reachable (fun _ _ hc => hc.1) h
  have hrecords := hreachable.partial_records
  have hrepeats : ∀ src ∈ r.partiallyDiscoveredSources, src.NoRepeats := by
    refine Run.reaches (P := fun s => ∀ src ∈ s.partiallyDiscoveredSources, src.NoRepeats) h
      (fun s hs => ?_) fun s c hc hs => ?_
    · obtain ⟨ip, socket, hs⟩ := hs
      rw [show s.partiallyDiscoveredSources = [] from congrArg Prod.fst (sources_of_withIp hs)]
      exact fun src hsrc => absurd hsrc List.not_mem_nil
    · refine (c.forall_records_next (J := fun _ => True) hs (fun _ _ => trivial)
        (fun _ _ _ => trivial) ?_).1
      rintro cid pkt now rfl
      exact ⟨fun _ => trivial, fun _ => List.pairwise_singleton _ _, fun _ _ _ _ => trivial,
        fun src hsrc hold _ => hold.withPage (hc.2 src hsrc) now⟩
  refine ⟨hreachable.discovering.distinct.discovered, hreachable.discovering.distinct.partially,
    fun src hsrc => (hrecords src hsrc).sorted, fun src hsrc hevery => ?_⟩
  have hall := DiscoveredSacnSource.allPages_of_hasEveryPage (hrecords src hsrc).sorted
    (hrepeats src hsrc) hevery
  rw [(hrecords src hsrc).missing] at hall
  exact absurd hall (by simp)

/-- Three pages of one universe each. -/
def tripleRound : DiscoveryRound where
  name := "Stage"
  pages := [[1], [2], [3]]
  name_ok := pairRound.name_ok
  nonempty := List.cons_ne_nil _ _
  count_le := by decide
  legal := by
    intro us hus
    simp only [List.mem_cons, List.not_mem_nil, or_false] at hus
    rcases hus with rfl | rfl | rfl
    · exact ⟨by decide, List.pairwise_singleton _ _⟩
    · exact ⟨by decide, List.pairwise_singleton _ _⟩
    · exact ⟨by decide, List.pairwise_singleton _ _⟩

theorem roundPage_parsedDiscovery {round : DiscoveryRound} {page : UniversePage}
    (h : page ∈ round.numbered) : (roundPage round page).ParsedDiscovery := by
  rintro _ _ _ ⟨⟩
  exact (roundPage_parsed h).page_le

/-- A receiver after the first page of the round of three. -/
def firstOfThree : SacnReceiver :=
  (roundPage tripleRound { page := 0, universes := [1] }).next newReceiver

/-- A receiver after the first two. -/
def twoOfThree : SacnReceiver :=
  (roundPage tripleRound { page := 1, universes := [2] }).next firstOfThree

theorem twoOfThree_partial :
    (∃ src ∈ twoOfThree.partiallyDiscoveredSources, src.pages.map UniversePage.page = [0, 1] ∧
      src.lastPage = 2) ∧ twoOfThree.PartialRecords := by
  have hstart : ReceiverRun (CreatedWith none) (fun r c => c.ParsedDiscovery ∧ c.NewPage r) []
      newReceiver := .nil newReceiver_created
  have hfirst := hstart.snoc (roundPage tripleRound { page := 0, universes := [1] })
    ⟨roundPage_parsedDiscovery (by decide), by rintro _ ⟨⟩⟩
  have hsecond := hfirst.snoc (roundPage tripleRound { page := 1, universes := [2] })
    ⟨roundPage_parsedDiscovery (by decide), by
      rintro _ ⟨⟩
      decide⟩
  exact ⟨⟨_, List.mem_singleton_self _, by decide, rfl⟩, partial_records_incomplete hsecond⟩

/-- The first page arrives twice before the second one. -/
theorem repeatedFirst_kept :
    ¬ ∀ (sourceLimit : Option Nat) (log : List ReceiverEvent) (r : SacnReceiver),
      ReceiverRun (CreatedWith sourceLimit) (fun _ c => c.ParsedDiscovery) log r →
        r.PartialRecords := by
  intro h
  have hstart : ReceiverRun (CreatedWith none) (fun _ c => c.ParsedDiscovery) [] newReceiver :=
    .nil newReceiver_created
  have hfirst := hstart.snoc (roundPage pairRound { page := 0, universes := [1] })
    (roundPage_parsedDiscovery (by decide))
  have hagain := hfirst.snoc (roundPage pairRound { page := 0, universes := [1] })
    (roundPage_parsedDiscovery (by decide))
  have hsecond := hagain.snoc (roundPage pairRound { page := 1, universes := [2] })
    (roundPage_parsedDiscovery (by decide))
  have hincomplete := (h _ _ _ hsecond).incomplete _ (List.mem_singleton_self _)
  refine hincomplete fun i hi => ?_
  have hcases : i = 0 ∨ i = 1 := by
    have hi' := UInt8.le_iff_toNat_le.mp hi
    rcases Nat.le_one_iff_eq_zero_or_eq_one.mp hi' with hi' | hi'
    · exact .inl (UInt8.toNat_inj.mp hi')
    · exact .inr (UInt8.toNat_inj.mp hi')
  rcases hcases with rfl | rfl
  · exact ⟨{ page := 0, universes := [1] }, by decide, rfl⟩
  · exact ⟨{ page := 1, universes := [2] }, by decide, rfl⟩

end Sacn
