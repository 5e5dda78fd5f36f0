import Sacn.Source.Split

/-!
# How many pages (`source.rs`)

`send_universe_discovery` sends `universes.len() / 512 + 1` pages. That is the number of pages the
list needs unless its length is a positive multiple of 512: then the last page has nothing on it.

* `TakesPages`, **`sendUniverseDiscovery_succeeds`**: on a socket that takes every page the call
  succeeds.
* `PagesExactly`: the pages are those that the list needs, and no arithmetic on their number wraps.
* **`pages_exactly_iff`**: when that is so.
-/

namespace Sacn

open Rust Rust.Outcome SacnSourceInternal

/-- Two accounts of what was sent agree on how many packets there were. -/
theorem Emits.length_eq {src src' : SacnSourceInternal} {ps qs : List AcnRootLayerProtocol}
    (hp : Emits src src' ps) (hq : Emits src src' qs) : ps.length = qs.length := by
  obtain ⟨ds, hds, hps⟩ := hp
  obtain ⟨es, hes, hqs⟩ := hq
  rw [hps.length_eq, hqs.length_eq, List.append_cancel_left (hds.symm.trans hes)]

namespace SacnSourceInternal

/-! ## A round that succeeds -/

/-- A page of the list is a slice of it. -/
theorem pageUniverses_ok (src : SacnSourceInternal) {p : Nat}
    (hp : p ≤ src.universes.length / discoveryUniPerPage) :
    src.pageUniverses p = .ok (src.pagePart p) := by
  have hle : p ≤ src.universes.length / 512 := hp
  refine slice_ok ?_ (Nat.min_le_right _ _)
  show p * 512 ≤ min ((p + 1) * 512) src.universes.length
  omega

/-- A page that can be packed goes out, or the socket fails. -/
theorem sendUniverseDiscoveryDetailed_only_io (src : SacnSourceInternal) (hname : src.NameFits)
    (page lastPage : UInt8) {universes : List UInt16} (hle : universes.length ≤ 512)
    (hascending : universes.Pairwise (· < ·)) :
    (sendUniverseDiscoveryDetailed page lastPage universes).Ends src
      (fun _ s => ∃ dst bytes, s = { src with socket := src.socket.logged dst bytes })
      (fun _ _ => ∃ failure, src.socket.results src.socket.calls = some failure) := by
  have hlegal : UniverseInRange e131DiscoveryUniverse := .inl rfl
  obtain ⟨dst, hdst⟩ := src.multicastAddr_ok hlegal
  have hpack := AcnRootLayerProtocol.packAlloc_ok
    (p := src.discoveryPacket page lastPage universes) ⟨hname, hle, hascending⟩
  refine .get_bind (.lift_ok_bind hdst (.lift_ok_bind hpack ?_))
  unfold Method.Ends onSocket Socket.sendTo
  cases hresult : src.socket.results src.socket.calls with
  | none =>
    simp only [Method.run_onField, Method.run_bind, Method.run_get, hresult]
    exact ⟨dst, _, rfl⟩
  | some failure =>
    simp only [Method.run_onField, Method.run_bind, Method.run_get, hresult]
    exact ⟨failure, rfl⟩

/-- The socket takes every page of a round. -/
def TakesPages (src : SacnSourceInternal) : Prop :=
  ∀ i ≤ src.universes.length / discoveryUniPerPage,
    src.socket.results (src.socket.calls + i) = none

/-- The list and the socket before a page is sent, as far as the pages still to come need them. -/
def PagesLeft (src : SacnSourceInternal) (rest : List Nat) (s : SacnSourceInternal) : Prop :=
  (∀ p ∈ rest, p ≤ src.universes.length / discoveryUniPerPage) ∧
    ∃ i sent, i + rest.length = src.universes.length / discoveryUniPerPage + 1 ∧
      s = { src with socket := { src.socket with calls := src.socket.calls + i, sent } }

/-- The round goes out, or the socket fails one of its pages. -/
theorem sendUniverseDiscovery_only_io (src : SacnSourceInternal) (hname : src.NameFits)
    (hascending : src.Ascending) :
    sendUniverseDiscovery.Ends src (fun _ => src.PagesLeft []) (fun _ _ => ¬ src.TakesPages) := by
  have hpages : src.pagesReq.toNat = src.universes.length / discoveryUniPerPage + 1 :=
    UInt8.toNat_ofNat_of_lt' hascending.pages_lt
  refine .get_bind (Method.Ends.forM (P := src.PagesLeft) ?_ ⟨fun p hp => ?_, 0, _, ?_, rfl⟩)
  · rintro p rest s ⟨hrest, i, sent, hi, rfl⟩
    obtain ⟨hp, hrest⟩ := List.forall_mem_cons.mp hrest
    rw [List.length_cons] at hi
    refine .lift_ok_bind (src.pageUniverses_ok hp) ?_
    refine (sendUniverseDiscoveryDetailed_only_io { src with
      socket := { src.socket with calls := src.socket.calls + i, sent } } hname _ _
        (src.length_pagePart_le p) (hascending.pagePart p)).mono ?_ ?_
    · rintro - s ⟨dst, bytes, rfl⟩
      exact ⟨hrest, i + 1, _, by omega, rfl⟩
    · rintro - - ⟨failure, hfailed⟩ htakes
      exact absurd ((htakes i (by omega)).symm.trans hfailed) (by simp)
  · rw [hpages] at hp
    exact Nat.le_of_lt_succ (List.mem_range.mp hp)
  · rw [Nat.zero_add, List.length_range, hpages]

/-- **On a socket that takes its pages `send_universe_discovery` succeeds.** -/
theorem sendUniverseDiscovery_succeeds (src : SacnSourceInternal) (hname : src.NameFits)
    (hascending : src.Ascending) (hsocket : src.TakesPages) :
    (sendUniverseDiscovery.run src).1 = .ok () := by
  have hends := src.sendUniverseDiscovery_only_io hname hascending
  unfold Method.Ends at hends
  rcases hrun : sendUniverseDiscovery.run src with ⟨_ | e | _, s⟩
  · rfl
  · rw [hrun] at hends
    exact absurd hsocket hends
  · rw [hrun] at hends
    exact hends.elim

/-! ## The pages -/

/-- `send_universe_discovery` sends the pages that the list needs: as many as it fills, or one if it
is empty, none empty but the page of an empty list, numbered from 0 to the last page number, which
all of them carry. The page count fits into its `u8`, and can be counted down by one. -/
structure PagesExactly (src : SacnSourceInternal) : Prop where
  cast : src.pagesReq.toNat = src.universes.length / discoveryUniPerPage + 1
  pred : 1 ≤ src.pagesReq
  pages : ∀ socket s, sendUniverseDiscovery.run { src with socket } = (.ok (), s) →
    ∃ pages : List (List UInt16),
      pages.length = max 1 (src.universes.length ⌈/⌉ discoveryUniPerPage) ∧
      pages.length ≤ 256 ∧
      pages.flatten = src.universes ∧
      (∀ universes ∈ pages, universes = [] → src.universes = []) ∧
      Emits { src with socket } s (pages.mapIdx fun p universes =>
        src.discoveryPacket (UInt8.ofNat p) (UInt8.ofNat (pages.length - 1)) universes)

/-- The count of the code is the count of the list, but for a list that fills its pages. -/
theorem pages_needed {n : Nat} (h : n = 0 ∨ ¬ 512 ∣ n) : n / 512 + 1 = max 1 (n ⌈/⌉ 512) := by
  rw [Nat.ceilDiv_eq_add_pred_div]
  omega

theorem pagePart_ne_nil {src : SacnSourceInternal}
    (h : src.universes.length = 0 ∨ ¬ 512 ∣ src.universes.length) {p : Nat}
    (hp : p < src.universes.length / 512 + 1) (hnil : src.pagePart p = []) : src.universes = [] := by
  have hlen := congrArg List.length hnil
  unfold pagePart at hlen
  rw [length_extract_of_le (Nat.min_le_right _ _), List.length_nil] at hlen
  replace hlen : min ((p + 1) * 512) src.universes.length - p * 512 = 0 := hlen
  refine List.length_eq_zero_iff.mp (h.resolve_right fun hdvd => hdvd ⟨p, ?_⟩)
  omega

/-- A list that fills its pages is sent with one page too many. -/
theorem not_pagesExactly {src : SacnSourceInternal} (hname : src.NameFits)
    (hascending : src.Ascending) (hdvd : 512 ∣ src.universes.length)
    (hne : src.universes.length ≠ 0) : ¬ src.PagesExactly := by
  intro h
  let taking : Socket := { results := fun _ => none, calls := 0, sent := [] }
  have hok := sendUniverseDiscovery_succeeds { src with socket := taking } hname hascending
    fun _ _ => rfl
  have hrun : sendUniverseDiscovery.run { src with socket := taking } =
      (.ok (), (sendUniverseDiscovery.run { src with socket := taking }).2) := Prod.ext hok rfl
  obtain ⟨pages, hlength, -, -, -, hemits⟩ := h.pages taking _ hrun
  have hall := @sendUniverseDiscovery_emits { src with socket := taking } _
    hascending.pages_lt hrun
  have hcount := hemits.length_eq hall
  unfold discoveryPackets at hcount
  rw [List.length_mapIdx, List.length_mapIdx, hlength, length_discoveryPages] at hcount
  replace hcount : max 1 (src.universes.length ⌈/⌉ 512) = src.universes.length / 512 + 1 := hcount
  rw [Nat.ceilDiv_eq_add_pred_div] at hcount
  obtain ⟨k, hk⟩ := hdvd
  omega

/-- **The pages are exactly those that the list needs** iff its length is no positive multiple of
the 512 universes of a page. -/
theorem pages_exactly_iff {src : SacnSourceInternal} (h : src.Reachable) (hname : src.NameFits) :
    src.PagesExactly ↔ src.universes.length = 0 ∨ ¬ discoveryUniPerPage ∣ src.universes.length := by
  have hascending := h.ascending
  have hlt := hascending.pages_lt
  have hcast : src.pagesReq.toNat = src.universes.length / 512 + 1 := UInt8.toNat_ofNat_of_lt' hlt
  constructor
  · intro hpages
    by_contra hfull
    obtain ⟨hne, hdvd⟩ := not_or.mp hfull
    exact not_pagesExactly hname hascending (not_not.mp hdvd) hne hpages
  · intro hneeded
    refine ⟨hcast, ?_, fun socket s hrun => ⟨src.discoveryPages, ?_, ?_, ?_, ?_, ?_⟩⟩
    · rw [UInt8.le_iff_toNat_le, hcast]
      exact Nat.le_add_left 1 _
    · rw [length_discoveryPages]
      exact pages_needed hneeded
    · rw [length_discoveryPages]
      exact hlt.le
    · exact flatten_discoveryPages src
    · intro universes hmem hnil
      obtain ⟨p, hp, rfl⟩ := List.mem_map.mp hmem
      exact pagePart_ne_nil hneeded (List.mem_range.mp hp) hnil
    · exact @sendUniverseDiscovery_emits { src with socket } s hlt hrun

/-! ## A list that fills its pages -/

/-- The first `n` universes. -/
def firstUniverses (n : Nat) : List UInt16 := (List.range n).map fun i => UInt16.ofNat (i + 1)

theorem legal_firstUniverses {n : Nat} (hn : n ≤ 63999) :
    ∀ u ∈ firstUniverses n, UniverseInRange u := by
  intro u hu
  obtain ⟨i, hi, rfl⟩ := List.mem_map.mp hu
  have hi' := List.mem_range.mp hi
  have htoNat : (UInt16.ofNat (i + 1)).toNat = i + 1 := UInt16.toNat_ofNat_of_lt' (by
    show i + 1 < 65536
    omega)
  refine .inr ⟨UInt16.le_iff_toNat_le.mpr ?_, UInt16.le_iff_toNat_le.mpr ?_⟩
  · rw [htoNat]
    exact Nat.le_add_left 1 i
  · rw [htoNat]
    show i + 1 ≤ 63999
    omega

theorem nodup_firstUniverses {n : Nat} (hn : n ≤ 63999) : (firstUniverses n).Nodup := by
  refine List.Nodup.map_on (fun i hi j hj hij => ?_) List.nodup_range
  have hi' := List.mem_range.mp hi
  have hj' := List.mem_range.mp hj
  have htoNat := congrArg UInt16.toNat hij
  rw [UInt16.toNat_ofNat_of_lt' (by show i + 1 < 65536; omega),
    UInt16.toNat_ofNat_of_lt' (by show j + 1 < 65536; omega)] at htoNat
  omega

/-- A source with the first `n` universes registered. -/
def registeredFirst (n : Nat) : SacnSourceInternal :=
  ((registerUniverses (firstUniverses n)).run sampleSource).2

theorem registeredFirst_reachable (n : Nat) : (registeredFirst n).Reachable :=
  .registerUniverses sampleSource (firstUniverses n) (.new _ _ _ _)

theorem registeredFirst_eq {n : Nat} (hn : n ≤ 63999) :
    registeredFirst n =
      { sampleSource with universes := (firstUniverses n).foldl insertSorted [] } :=
  congrArg Prod.snd (registerUniverses_legal sampleSource (legal_firstUniverses hn))

theorem registeredFirst_name {n : Nat} (hn : n ≤ 63999) : (registeredFirst n).name = "Stage" := by
  rw [registeredFirst_eq hn]
  rfl

theorem registeredFirst_nameFits {n : Nat} (hn : n ≤ 63999) : (registeredFirst n).NameFits := by
  unfold NameFits
  rw [registeredFirst_name hn]
  decide

theorem registeredFirst_takesPages {n : Nat} (hn : n ≤ 63999) : (registeredFirst n).TakesPages := by
  intro i _
  rw [registeredFirst_eq hn]
  rfl

theorem length_registeredFirst {n : Nat} (hn : n ≤ 63999) :
    (registeredFirst n).universes.length = n := by
  rw [registeredFirst_eq hn]
  show ((firstUniverses n).foldl insertSorted []).length = n
  rw [length_foldl_insertSorted (nodup_firstUniverses hn)]
  unfold firstUniverses
  rw [List.length_map, List.length_range]

/-- The 512 universes are sent on two pages, the second one empty. -/
theorem registeredFirst_not_pagesExactly :
    (registeredFirst 512).Reachable ∧ (registeredFirst 512).universes.length = 512 ∧
    (registeredFirst 512).pagesReq = 2 ∧ (registeredFirst 512).pageUniverses 1 = .ok [] ∧
    ¬ ∀ src : SacnSourceInternal, src.Reachable → src.NameFits → src.PagesExactly := by
  have hreachable := registeredFirst_reachable 512
  have hle : 512 ≤ 63999 := by decide
  have hlength := length_registeredFirst hle
  have hname := registeredFirst_nameFits hle
  refine ⟨hreachable, hlength, ?_, ?_, fun h => ?_⟩
  · unfold pagesReq
    rw [hlength]
    rfl
  · have hpage := (registeredFirst 512).pageUniverses_ok (p := 1) (by rw [hlength]; decide)
    rw [hpage]
    refine congrArg Outcome.ok (List.length_eq_zero_iff.mp ?_)
    unfold pagePart
    rw [length_extract_of_le (Nat.min_le_right _ _), hlength]
    decide
  · exact not_pagesExactly hname hreachable.ascending (by rw [hlength]) (by rw [hlength]; decide)
      (h _ hreachable hname)

/-- Two universes need one page. -/
theorem registeredFirst_pagesExactly : (registeredFirst 2).PagesExactly :=
  (pages_exactly_iff (registeredFirst_reachable 2) (registeredFirst_nameFits (by decide))).mpr
    (.inr (by rw [length_registeredFirst (by decide)]; decide))

end SacnSourceInternal

end Sacn
