import Sacn.Packet.RoundTrip
import Sacn.Receive.Discovery

/-!
# Complete rounds of discovery pages (`receive.rs`)

`DiscoveryRound` is the page list a source sends once: page `i` of `L + 1` carries the number `i`
and the last page's number `L`. Sorting the pages of a round, in whatever order they came, gives
the page list back, and no record is complete with fewer pages than it waits for.

* `sort_perm`: a permutation of a round's pages, sorted.
* `Left`: what is left of a round; **`Left.handle_last`**, **`Left.handle_more`**: one more packet.
* **`SourceView.run_round`**: from a view without a partial record, a round in any order is reported
  at its last page and not before, with the round's universes.
-/

namespace Sacn

open Rust SacnReceiver

/-- The pages of a record, sorted as `has_all_pages` sorts them. -/
theorem pairwise_sortedPages (ps : List UniversePage) :
    (ps.insertionSort fun a b => a.page ≤ b.page).Pairwise fun p q => p.page ≤ q.page := by
  have htotal : Std.Total fun a b : UniversePage => a.page ≤ b.page :=
    ⟨fun a b => UInt8.le_total a.page b.page⟩
  have htrans : IsTrans UniversePage fun a b => a.page ≤ b.page :=
    ⟨fun a b c => UInt8.le_trans⟩
  exact List.pairwise_insertionSort _ _

/-- The pages a source sends in one round of universe discovery. -/
structure DiscoveryRound where
  name : String
  pages : List (List UInt16)
  name_ok : NameInDomain name
  nonempty : pages ≠ []
  count_le : pages.length ≤ 256
  legal : ∀ us ∈ pages, us.length ≤ 512 ∧ us.Pairwise (· < ·)

namespace DiscoveryRound

variable (round : DiscoveryRound)

/-- The number of the last page. -/
def lastPage : UInt8 := UInt8.ofNat (round.pages.length - 1)

/-- The pages with their numbers, as a record holds them. -/
def numbered : List UniversePage :=
  round.pages.mapIdx fun i us => { page := UInt8.ofNat i, universes := us }

/-- The packet of one page. -/
def packet (p : UniversePage) : UniverseDiscoveryPacketFramingLayer :=
  { sourceName := round.name
    data := { page := p.page, lastPage := round.lastPage, universes := p.universes } }

/-- The packets of the round, in order. -/
def packets : List UniverseDiscoveryPacketFramingLayer := round.numbered.map round.packet

@[simp] theorem length_numbered : round.numbered.length = round.pages.length := List.length_mapIdx

@[simp] theorem length_packets : round.packets.length = round.pages.length := by
  unfold packets
  rw [List.length_map, length_numbered]

theorem pages_pos : 0 < round.pages.length := List.length_pos_iff.mpr round.nonempty

theorem toNat_lastPage : round.lastPage.toNat + 1 = round.pages.length := by
  have hpos := round.pages_pos
  have hle := round.count_le
  unfold lastPage
  rw [UInt8.toNat_ofNat_of_lt' (by show _ < 256; omega)]
  omega

theorem pageOf_packets : round.packets.map pageOf = round.numbered := by
  unfold packets
  rw [List.map_map]
  exact List.map_id _

/-- Every packet of the round carries its name and its last page number. -/
theorem packets_name_lastPage : ∀ pkt ∈ round.packets,
    pkt.sourceName = round.name ∧ pkt.data.lastPage = round.lastPage := by
  intro pkt hpkt
  obtain ⟨p, -, rfl⟩ := List.mem_map.mp hpkt
  exact ⟨rfl, rfl⟩

/-- The record that holds the page list lists the universes of the round. -/
theorem getAllUniverses_numbered {src : DiscoveredSacnSource} (hpages : src.pages = round.numbered) :
    src.getAllUniverses = round.pages.flatten := by
  have huniverses : round.numbered.map UniversePage.universes = round.pages := by
    refine List.ext_getElem? fun i => ?_
    unfold numbered
    rw [List.getElem?_map, List.getElem?_mapIdx, Option.map_map]
    exact Option.map_id_apply
  unfold DiscoveredSacnSource.getAllUniverses
  rw [hpages, List.flatMap_def, huniverses]

/-- The page at index `i` carries the number `i`. -/
theorem page_getElem {i : Nat} (hi : i < round.numbered.length) :
    round.numbered[i].page.toNat = i := by
  have hle := round.count_le
  have hi' : i < round.pages.length := round.length_numbered ▸ hi
  simp only [numbered, List.getElem_mapIdx]
  exact UInt8.toNat_ofNat_of_lt' (Nat.lt_of_lt_of_le hi' hle)

/-- The page numbers ascend. -/
theorem pairwise_numbered : round.numbered.Pairwise fun p q => p.page < q.page := by
  refine List.pairwise_iff_getElem.mpr fun i j hi hj hij => ?_
  rw [UInt8.lt_iff_toNat_lt, round.page_getElem hi, round.page_getElem hj]
  exact hij

/-- The packets of a round are packets the parser returns. -/
theorem packets_inDomain : ∀ pkt ∈ round.packets, pkt.InDomain := by
  intro pkt hpkt
  obtain ⟨p, hp, rfl⟩ := List.mem_map.mp hpkt
  obtain ⟨i, hi, rfl⟩ := List.getElem_of_mem hp
  have hi' : i < round.pages.length := round.length_numbered ▸ hi
  have hpage := round.page_getElem hi
  have hlast := round.toNat_lastPage
  have huniverses : round.numbered[i].universes ∈ round.pages := by
    simp only [numbered, List.getElem_mapIdx]
    exact List.getElem_mem hi'
  obtain ⟨hcount, hascending⟩ := round.legal _ huniverses
  refine ⟨round.name_ok, ?_, hcount, hascending⟩
  show round.numbered[i].page ≤ round.lastPage
  rw [UInt8.le_iff_toNat_le, hpage]
  omega

/-- Two pages of one number are one page. -/
theorem eq_of_page_eq {p q : UniversePage} (hp : p ∈ round.numbered) (hq : q ∈ round.numbered)
    (h : p.page = q.page) : p = q := by
  have hnodup : (round.numbered.map UniversePage.page).Nodup :=
    List.pairwise_map.mpr (round.pairwise_numbered.imp fun h => UInt8.ne_of_lt h)
  exact List.inj_on_of_nodup_map hnodup hp hq h

/-- A permutation of the pages, sorted, is the page list. -/
theorem sort_perm {ps : List UniversePage} (h : ps.Perm round.numbered) :
    ps.insertionSort (fun a b => a.page ≤ b.page) = round.numbered := by
  have hsorted := (List.perm_insertionSort (fun a b : UniversePage => a.page ≤ b.page) ps).trans h
  refine hsorted.eq_of_pairwise (fun a b ha hb hab hba => ?_) (pairwise_sortedPages ps)
    (round.pairwise_numbered.imp fun h => UInt8.le_of_lt h)
  exact round.eq_of_page_eq (hsorted.mem_iff.mp ha) hb (UInt8.le_antisymm hab hba)

/-- The record that holds the page list is complete. -/
theorem allPages_numbered (src : DiscoveredSacnSource) (hlast : src.lastPage = round.lastPage)
    (hpages : src.pages = round.numbered) : src.allPages = true := by
  unfold DiscoveredSacnSource.allPages
  rw [hlast, round.toNat_lastPage, hpages, List.all_eq_true]
  intro i hi
  have hi : i < round.pages.length := List.mem_range.mp hi
  unfold numbered
  simp [hi]

end DiscoveryRound

/-- A complete record has a page for each number up to the last. -/
theorem DiscoveredSacnSource.lastPage_lt_length {src : DiscoveredSacnSource}
    (h : src.allPages = true) : src.lastPage.toNat < src.pages.length := by
  have hlast := List.all_eq_true.mp h _ (List.mem_range.mpr (Nat.lt_succ_self _))
  obtain ⟨p, hp, -⟩ := (Option.any_eq_true _ _).mp hlast
  exact (List.getElem?_eq_some_iff.mp hp).1

theorem length_withPage (src : DiscoveredSacnSource) (pkt : UniverseDiscoveryPacketFramingLayer)
    (now : Nat) : (src.withPage pkt now).pages.length = src.pages.length + 1 := by
  show (List.insertionSort _ _).length = _
  rw [List.length_insertionSort, List.length_append, List.length_singleton]

theorem perm_withPage (src : DiscoveredSacnSource) (pkt : UniverseDiscoveryPacketFramingLayer)
    (now : Nat) : (src.withPage pkt now).pages.Perm (src.pages ++ [pageOf pkt]) :=
  List.perm_insertionSort _ _

/-! ## What is left of a round -/

/-- The record a page makes of what a view holds. -/
def SourceView.joined (cid : Uuid) (pkt : UniverseDiscoveryPacketFramingLayer) (now : Nat)
    (v : SourceView) : DiscoveredSacnSource :=
  v.pending.elim (firstRecord cid pkt now) fun src => src.withPage pkt now

/-- The packets complete the round: its other pages are the ones the partial record holds. -/
structure DiscoveryRound.Left (round : DiscoveryRound) (pending : Option DiscoveredSacnSource)
    (pkts : List UniverseDiscoveryPacketFramingLayer) : Prop where
  named : ∀ pkt ∈ pkts, pkt.sourceName = round.name ∧ pkt.data.lastPage = round.lastPage
  lastPage : ∀ src ∈ pending, src.lastPage = round.lastPage
  pages : (pending.elim [] DiscoveredSacnSource.pages ++ pkts.map pageOf).Perm round.numbered

section Left

variable {round : DiscoveryRound} {v : SourceView} {pkt : UniverseDiscoveryPacketFramingLayer}
  {pkts : List UniverseDiscoveryPacketFramingLayer}

/-- From a view without a partial record, the whole round is left, in any order. -/
theorem DiscoveryRound.left_all (h : pkts.Perm round.packets) : round.Left none pkts := by
  refine ⟨fun pkt hpkt => round.packets_name_lastPage _ (h.mem_iff.mp hpkt), by simp, ?_⟩
  rw [← round.pageOf_packets]
  exact h.map pageOf

theorem DiscoveryRound.Left.lastPage_joined (h : round.Left v.pending (pkt :: pkts)) (cid : Uuid)
    (now : Nat) : (v.joined cid pkt now).lastPage = round.lastPage := by
  unfold SourceView.joined
  cases hv : v.pending with
  | none => exact (h.named pkt List.mem_cons_self).2
  | some src => exact h.lastPage src hv

/-- Its pages are the ones before and the packet's. -/
theorem perm_joined (v : SourceView) (pkt : UniverseDiscoveryPacketFramingLayer) (cid : Uuid)
    (now : Nat) : (v.joined cid pkt now).pages.Perm
    (v.pending.elim [] DiscoveredSacnSource.pages ++ [pageOf pkt]) := by
  unfold SourceView.joined
  cases v.pending with
  | none => exact .refl _
  | some src => exact perm_withPage src pkt now

/-- **The last packet left** completes the record. -/
theorem DiscoveryRound.Left.handle_last (h : round.Left v.pending [pkt]) (cid : Uuid) (now : Nat) :
    (v.joined cid pkt now).pages = round.numbered ∧ v.handle cid pkt now =
      (some round.name, { pending := none, found := some (v.joined cid pkt now) }) := by
  have hlast := h.lastPage_joined cid now
  have hpages := h.pages
  obtain ⟨hname, hpktlast⟩ := h.named pkt List.mem_cons_self
  unfold SourceView.joined at hlast ⊢
  unfold SourceView.handle
  cases hv : v.pending with
  | none =>
    rw [hv] at hpages
    have hnumbered : [pageOf pkt] = round.numbered := (List.perm_singleton.mp hpages.symm).symm
    have hzero : pkt.data.page = 0 := by
      have hpage := round.page_getElem (i := 0) (by rw [← hnumbered]; exact Nat.zero_lt_one)
      simp only [← hnumbered] at hpage
      exact UInt8.toNat_inj.mp hpage
    have hcount := round.toNat_lastPage
    rw [← round.length_numbered, ← hnumbered, List.length_singleton, ← hpktlast] at hcount
    have hsingle : pkt.data.page = 0 ∧ pkt.data.page = pkt.data.lastPage := by
      refine ⟨hzero, ?_⟩
      rw [hzero]
      exact UInt8.toNat_inj.mp (Nat.succ_injective hcount).symm
    simp only [if_pos hsingle, hname]
    exact ⟨hnumbered, rfl⟩
  | some src =>
    rw [hv] at hpages hlast
    have hsorted : (src.withPage pkt now).pages = round.numbered := round.sort_perm hpages
    have hall := round.allPages_numbered (src.withPage pkt now) hlast hsorted
    simp only [if_pos hall, hname]
    exact ⟨hsorted, rfl⟩

/-- **Any packet before it** leaves the round partial. -/
theorem DiscoveryRound.Left.handle_more (h : round.Left v.pending (pkt :: pkts)) (hne : pkts ≠ [])
    (cid : Uuid) (now : Nat) : round.Left (some (v.joined cid pkt now)) pkts ∧
      v.handle cid pkt now =
        (none, { pending := some (v.joined cid pkt now), found := v.found }) := by
  have hlast := h.lastPage_joined cid now
  have hperm := perm_joined v pkt cid now
  have hpages : ((v.joined cid pkt now).pages ++ pkts.map pageOf).Perm round.numbered := by
    refine (hperm.append_right _).trans ?_
    rw [List.append_assoc]
    exact h.pages
  have hcount := hpages.length_eq
  rw [List.length_append, List.length_map, round.length_numbered, ← round.toNat_lastPage] at hcount
  have hpos := List.length_pos_iff.mpr hne
  refine ⟨⟨fun p hp => h.named p (List.mem_cons_of_mem _ hp), ?_, hpages⟩, ?_⟩
  · rintro _ ⟨⟩
    exact hlast
  · unfold SourceView.joined at hlast hcount ⊢
    unfold SourceView.handle
    cases hv : v.pending with
    | none =>
      rw [hv] at hcount
      have hmore : ¬ (pkt.data.page = 0 ∧ pkt.data.page = pkt.data.lastPage) := by
        rintro ⟨hpage, hsame⟩
        rw [← (h.named pkt List.mem_cons_self).2, ← hsame, hpage] at hcount
        have hone : 1 + pkts.length = 0 + 1 := hcount
        omega
      simp only [if_neg hmore]
      rfl
    | some src =>
      have hmore : ¬ (src.withPage pkt now).allPages = true := by
        intro hall
        have hlt := DiscoveredSacnSource.lastPage_lt_length hall
        rw [hv] at hlast hcount
        rw [show (src.withPage pkt now).lastPage = round.lastPage from hlast] at hlt
        simp only [Option.elim_some] at hcount
        omega
      simp only [if_neg hmore]
      rfl

/-- **The packets left of a round** are reported at the last one, with the round's pages. -/
theorem SourceView.run_left (cid : Uuid)
    {events : List (UniverseDiscoveryPacketFramingLayer × Nat)} (hevents : events ≠ [])
    (h : round.Left v.pending (events.map Prod.fst)) :
    ∃ rec : DiscoveredSacnSource, rec.pages = round.numbered ∧ v.run cid events =
        (List.replicate (events.length - 1) none ++ [some round.name],
          { pending := none, found := some rec }) := by
  induction events generalizing v with
  | nil => exact absurd rfl hevents
  | cons e rest ih =>
    obtain ⟨pkt, now⟩ := e
    cases rest with
    | nil =>
      obtain ⟨hpages, hhandle⟩ := h.handle_last cid now
      refine ⟨v.joined cid pkt now, hpages, ?_⟩
      rw [SourceView.run, hhandle]
      rfl
    | cons e' rest =>
      obtain ⟨hleft, hhandle⟩ := h.handle_more (by simp) cid now
      obtain ⟨rec, hrec, hrun⟩ :=
        ih (v := { pending := some (v.joined cid pkt now), found := v.found }) (by simp) hleft
      refine ⟨rec, hrec, ?_⟩
      rw [SourceView.run, hhandle, hrun]
      rfl

end Left

/-- **A complete round from scratch**: it is reported at its last page, with its universes. -/
theorem SourceView.run_round {cid : Uuid} {v : SourceView} (hv : v.pending = none)
    (round : DiscoveryRound) {events : List (UniverseDiscoveryPacketFramingLayer × Nat)}
    (hevents : (events.map Prod.fst).Perm round.packets) :
    ∃ rec : DiscoveredSacnSource, rec.getAllUniverses = round.pages.flatten ∧ v.run cid events =
        (List.replicate (round.pages.length - 1) none ++ [some round.name],
          { pending := none, found := some rec }) := by
  have hlength : events.length = round.pages.length := by
    simpa using hevents.length_eq
  have hne : events ≠ [] := by
    rintro rfl
    exact round.pages_pos.ne hlength
  obtain ⟨rec, hrec, hrun⟩ := SourceView.run_left cid hne (hv ▸ round.left_all hevents)
  exact ⟨rec, round.getAllUniverses_numbered hrec, hlength ▸ hrun⟩

end Sacn
