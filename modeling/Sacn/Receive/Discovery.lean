import Sacn.Packet.RoundTrip
import Sacn.Receive.Receiver

/-!
# Universe discovery, one source at a time (`receive.rs`)

What a receiver knows of one source is a partial record, a discovered record, both or neither
(`SourceView`). `handle_universe_discovery_packet` acts on the view of the packet's source as
`SourceView.handle` does, and on no other, as long as no two records of a list share a CID; this
holds in every reachable state.

* **`view_handle`**: the refinement of the receiver by the views of the sources.
* `PageRule`, **`forall_records_next`**: what holds of each record, over a call.
* **`view_run`**: over a run of calls that leave the records of a source to its discovery packets.
-/

namespace Sacn

open Rust Rust.Outcome SacnReceiver

/-! ## The view of one source -/

/-- What a receiver knows of one source. -/
structure SourceView where
  pending : Option DiscoveredSacnSource
  found : Option DiscoveredSacnSource

/-- The view of the source with this CID. -/
def SacnReceiver.view (r : SacnReceiver) (cid : Uuid) : SourceView :=
  { pending := KeyedVec.lookup DiscoveredSacnSource.cid r.partiallyDiscoveredSources cid
    found := KeyedVec.lookup DiscoveredSacnSource.cid r.discoveredSources cid }

/-- The page a packet carries. -/
def pageOf (pkt : UniverseDiscoveryPacketFramingLayer) : UniversePage :=
  { page := pkt.data.page, universes := pkt.data.universes }

/-- The record the first page of a source makes. -/
def firstRecord (cid : Uuid) (pkt : UniverseDiscoveryPacketFramingLayer) (now : Nat) :
    DiscoveredSacnSource :=
  { name := pkt.sourceName, cid, lastUpdated := now, pages := [pageOf pkt]
    lastPage := pkt.data.lastPage }

/-- The record a further page makes, with its pages sorted. -/
def DiscoveredSacnSource.withPage (src : DiscoveredSacnSource)
    (pkt : UniverseDiscoveryPacketFramingLayer) (now : Nat) : DiscoveredSacnSource :=
  { src with pages := src.pages ++ [pageOf pkt], lastUpdated := now }.sortPages

/-- A discovery packet of the source. -/
def SourceView.handle (cid : Uuid) (pkt : UniverseDiscoveryPacketFramingLayer) (now : Nat)
    (v : SourceView) : Option String × SourceView :=
  match v.pending with
  | some src =>
    if (src.withPage pkt now).allPages then
      (some pkt.sourceName, { pending := none, found := some (src.withPage pkt now) })
    else (none, { pending := some (src.withPage pkt now), found := v.found })
  | none =>
    if pkt.data.page = 0 ∧ pkt.data.page = pkt.data.lastPage then
      (some pkt.sourceName, { pending := none, found := some (firstRecord cid pkt now) })
    else (none, { pending := some (firstRecord cid pkt now), found := v.found })

/-- No two records of a list share a CID. -/
structure SacnReceiver.DistinctSources (r : SacnReceiver) : Prop where
  partially : KeyedVec.Distinct DiscoveredSacnSource.cid r.partiallyDiscoveredSources
  discovered : KeyedVec.Distinct DiscoveredSacnSource.cid r.discoveredSources

/-- `update_discovered_srcs` replaces the record of the source. -/
theorem updateDiscoveredSrcs_spec (src : DiscoveredSacnSource) {r : SacnReceiver}
    (h : r.DistinctSources) : (updateDiscoveredSrcs src r).DistinctSources ∧
      ∀ c, (updateDiscoveredSrcs src r).view c =
        if c = src.cid then { pending := (r.view c).pending, found := some src }
        else r.view c := by
  unfold updateDiscoveredSrcs findDiscoveredSrc
  cases hpos : KeyedVec.position DiscoveredSacnSource.cid r.discoveredSources src.cid with
  | none =>
    have hnone := KeyedVec.position_eq_none.mp hpos
    refine ⟨⟨h.partially, h.discovered.concat hnone⟩, fun c => ?_⟩
    unfold view
    simp only [KeyedVec.lookup_concat c hnone]
    split <;> rfl
  | some index =>
    have hnone : KeyedVec.lookup DiscoveredSacnSource.cid (r.discoveredSources.eraseIdx index)
        src.cid = none := by
      rw [KeyedVec.lookup_eraseIdx h.discovered hpos, if_pos rfl]
    refine ⟨⟨h.partially, (h.discovered.eraseIdx index).concat hnone⟩, fun c => ?_⟩
    unfold view
    simp only [KeyedVec.lookup_concat c hnone, KeyedVec.lookup_eraseIdx h.discovered hpos]
    split <;> rfl

theorem continueDiscovery_eq (index : Nat) (src : DiscoveredSacnSource)
    (pkt : UniverseDiscoveryPacketFramingLayer) (now : Nat) (r : SacnReceiver) :
    continueDiscovery index src pkt now r =
      if (src.withPage pkt now).allPages then
        (some pkt.sourceName, updateDiscoveredSrcs (src.withPage pkt now)
          { r with partiallyDiscoveredSources := r.partiallyDiscoveredSources.eraseIdx index })
      else (none, { r with
        partiallyDiscoveredSources :=
          r.partiallyDiscoveredSources.set index (src.withPage pkt now) }) := rfl

/-- A packet of a source without a partial record. -/
theorem startDiscovery_spec {r : SacnReceiver} (h : r.DistinctSources) {cid : Uuid}
    (hnone : (r.view cid).pending = none) (pkt : UniverseDiscoveryPacketFramingLayer) (now : Nat) :
    (startDiscovery cid pkt now r).2.DistinctSources ∧
      (startDiscovery cid pkt now r).1 = ((r.view cid).handle cid pkt now).1 ∧
      ∀ c, (startDiscovery cid pkt now r).2.view c =
        if c = cid then ((r.view cid).handle cid pkt now).2 else r.view c := by
  have hcid : (firstRecord cid pkt now).cid = cid := rfl
  unfold SourceView.handle startDiscovery
  simp only [hnone]
  by_cases hsingle : pkt.data.page = 0 ∧ pkt.data.page = pkt.data.lastPage
  · obtain ⟨hdistinct, hview⟩ := updateDiscoveredSrcs_spec (firstRecord cid pkt now) h
    simp only [if_pos hsingle]
    refine ⟨hdistinct, trivial, fun c => (hview c).trans ?_⟩
    rw [hcid]
    split
    · rename_i hc
      rw [hc, hnone]
    · rfl
  · simp only [if_neg hsingle]
    have hfirst : KeyedVec.lookup DiscoveredSacnSource.cid r.partiallyDiscoveredSources
        (firstRecord cid pkt now).cid = none := hnone
    refine ⟨⟨h.partially.concat hfirst, h.discovered⟩, trivial, fun c => ?_⟩
    show SourceView.mk (KeyedVec.lookup DiscoveredSacnSource.cid
      (r.partiallyDiscoveredSources ++ [firstRecord cid pkt now]) c) _ = _
    rw [KeyedVec.lookup_concat c hfirst, hcid]
    split
    · rename_i hc
      rw [hc]
      rfl
    · rfl

/-- A packet of the source whose partial record the search finds at `index`. -/
theorem continueDiscovery_spec {r : SacnReceiver} (h : r.DistinctSources) {cid : Uuid} {index : Nat}
    (hpos : KeyedVec.position DiscoveredSacnSource.cid r.partiallyDiscoveredSources cid =
      some index) {src : DiscoveredSacnSource} (hsrc : (r.view cid).pending = some src)
    (pkt : UniverseDiscoveryPacketFramingLayer) (now : Nat) :
    (continueDiscovery index src pkt now r).2.DistinctSources ∧
      (continueDiscovery index src pkt now r).1 = ((r.view cid).handle cid pkt now).1 ∧
      ∀ c, (continueDiscovery index src pkt now r).2.view c =
        if c = cid then ((r.view cid).handle cid pkt now).2 else r.view c := by
  have hcid : (src.withPage pkt now).cid = cid := (KeyedVec.lookup_mem hsrc).2
  unfold SourceView.handle
  simp only [hsrc]
  rw [continueDiscovery_eq]
  by_cases hall : (src.withPage pkt now).allPages = true
  · have herased : DistinctSources { r with
        partiallyDiscoveredSources := r.partiallyDiscoveredSources.eraseIdx index } :=
      ⟨h.partially.eraseIdx index, h.discovered⟩
    obtain ⟨hdistinct, hview⟩ := updateDiscoveredSrcs_spec (src.withPage pkt now) herased
    simp only [if_pos hall]
    refine ⟨hdistinct, trivial, fun c => (hview c).trans ?_⟩
    unfold view
    simp only [KeyedVec.lookup_eraseIdx h.partially hpos, hcid]
    split <;> rfl
  · simp only [if_neg hall]
    refine ⟨⟨h.partially.set hpos hcid, h.discovered⟩, trivial, fun c => ?_⟩
    unfold view
    simp only [KeyedVec.lookup_set hpos hcid]
    split
    · rename_i hc
      rw [hc]
    · rfl

/-- `handle_universe_discovery_packet` looks for a partial record of the source. -/
theorem handleUniverseDiscoveryPacket_cases (cid : Uuid)
    (pkt : UniverseDiscoveryPacketFramingLayer) (now : Nat) (r : SacnReceiver) :
    ((r.view cid).pending = none ∧
      handleUniverseDiscoveryPacket cid pkt now r = startDiscovery cid pkt now r) ∨
    ∃ index src,
      KeyedVec.position DiscoveredSacnSource.cid r.partiallyDiscoveredSources cid = some index ∧
      (r.view cid).pending = some src ∧
      handleUniverseDiscoveryPacket cid pkt now r = continueDiscovery index src pkt now r := by
  unfold handleUniverseDiscoveryPacket findDiscoveredSrc
  cases hpos : KeyedVec.position DiscoveredSacnSource.cid r.partiallyDiscoveredSources cid with
  | none => exact .inl ⟨KeyedVec.position_eq_none.mp hpos, rfl⟩
  | some index =>
    have hget := KeyedVec.getElem?_position hpos
    cases hsrc : KeyedVec.lookup DiscoveredSacnSource.cid r.partiallyDiscoveredSources cid with
    | none => exact absurd (KeyedVec.position_eq_none.mpr hsrc) (by simp [hpos])
    | some src =>
      rw [hsrc] at hget
      simp only [hget]
      exact .inr ⟨index, src, rfl, hsrc, rfl⟩

/-- **A discovery packet acts on the view of its source**, and on no other. -/
theorem view_handle {r : SacnReceiver} (h : r.DistinctSources) (cid : Uuid)
    (pkt : UniverseDiscoveryPacketFramingLayer) (now : Nat) :
    (handleUniverseDiscoveryPacket cid pkt now r).2.DistinctSources ∧
      (handleUniverseDiscoveryPacket cid pkt now r).1 =
        ((r.view cid).handle cid pkt now).1 ∧
      ∀ c, (handleUniverseDiscoveryPacket cid pkt now r).2.view c =
        if c = cid then ((r.view cid).handle cid pkt now).2 else r.view c := by
  rcases handleUniverseDiscoveryPacket_cases cid pkt now r with
    ⟨hnone, heq⟩ | ⟨index, src, hpos, hsrc, heq⟩
  · rw [heq]
    exact startDiscovery_spec h hnone pkt now
  · rw [heq]
    exact continueDiscovery_spec h hpos hsrc pkt now

/-! ## Reachable states -/

/-- The invariant: no two records of a list share a CID, and a partial record waits for more than
one page. -/
structure SacnReceiver.Discovering (r : SacnReceiver) : Prop where
  distinct : r.DistinctSources
  multi : ∀ src ∈ r.partiallyDiscoveredSources, 0 < src.lastPage

/-- What the invariant is about. -/
def SacnReceiver.sources (r : SacnReceiver) :
    List DiscoveredSacnSource × List DiscoveredSacnSource :=
  (r.partiallyDiscoveredSources, r.discoveredSources)

theorem SacnReceiver.Discovering.of_sources {r r' : SacnReceiver} (h : r'.sources = r.sources)
    (hr : r.Discovering) : r'.Discovering := by
  obtain ⟨hpartially, hdiscovered⟩ := Prod.mk.inj h
  exact ⟨⟨hpartially ▸ hr.distinct.partially, hdiscovered ▸ hr.distinct.discovered⟩,
    hpartially ▸ hr.multi⟩

/-- The discovery packets the parser lets through: no page is past the last one. -/
def ReceiverCall.ParsedDiscovery (c : ReceiverCall) : Prop :=
  ∀ cid pkt now, c = .handleUniverseDiscoveryPacket cid pkt now →
    pkt.data.page ≤ pkt.data.lastPage

theorem discovering_terminateStream (cid : Uuid) (uni : UInt16) {r : SacnReceiver}
    (hr : r.Discovering) : (terminateStream cid uni r).Discovering := by
  unfold terminateStream
  split
  · rename_i index _
    exact ⟨⟨hr.distinct.partially, hr.distinct.discovered.modify index fun _ => rfl⟩, hr.multi⟩
  · exact ⟨⟨hr.distinct.partially, hr.distinct.discovered⟩, hr.multi⟩

/-- What a discovery packet of the source makes of a record it starts or adds its page to: the
partial records have `I`, the discovered ones `J`. -/
structure PageRule (I J : DiscoveredSacnSource → Prop) (cid : Uuid)
    (pkt : UniverseDiscoveryPacketFramingLayer) (now : Nat) (v : SourceView) : Prop where
  whole : pkt.data.page = 0 ∧ pkt.data.page = pkt.data.lastPage → J (firstRecord cid pkt now)
  first : ¬ (pkt.data.page = 0 ∧ pkt.data.page = pkt.data.lastPage) → I (firstRecord cid pkt now)
  last : ∀ src ∈ v.pending, I src → (src.withPage pkt now).allPages = true →
    J (src.withPage pkt now)
  more : ∀ src ∈ v.pending, I src → ¬ (src.withPage pkt now).allPages = true →
    I (src.withPage pkt now)

theorem forall_updateDiscoveredSrcs {J : DiscoveredSacnSource → Prop} (r : SacnReceiver)
    (hold : ∀ src ∈ r.discoveredSources, J src) {src : DiscoveredSacnSource} (hsrc : J src) :
    ∀ s ∈ (updateDiscoveredSrcs src r).discoveredSources, J s := by
  unfold updateDiscoveredSrcs
  cases findDiscoveredSrc r.discoveredSources src.cid with
  | none => exact List.forall_mem_append.mpr ⟨hold, List.forall_mem_singleton.mpr hsrc⟩
  | some index =>
    exact List.forall_mem_append.mpr ⟨fun s hs => hold s (List.mem_of_mem_eraseIdx hs),
      List.forall_mem_singleton.mpr hsrc⟩

theorem partially_updateDiscoveredSrcs (src : DiscoveredSacnSource) (r : SacnReceiver) :
    (updateDiscoveredSrcs src r).partiallyDiscoveredSources = r.partiallyDiscoveredSources := by
  unfold updateDiscoveredSrcs
  cases findDiscoveredSrc r.discoveredSources src.cid with
  | none => rfl
  | some index => rfl

/-- **The rule for the records over a discovery packet.** -/
theorem forall_handleUniverseDiscoveryPacket {I J : DiscoveredSacnSource → Prop} {r : SacnReceiver}
    (hI : ∀ src ∈ r.partiallyDiscoveredSources, I src) (hJ : ∀ src ∈ r.discoveredSources, J src)
    {cid : Uuid} {pkt : UniverseDiscoveryPacketFramingLayer} {now : Nat}
    (h : PageRule I J cid pkt now (r.view cid)) :
    (∀ src ∈ (handleUniverseDiscoveryPacket cid pkt now r).2.partiallyDiscoveredSources, I src) ∧
      ∀ src ∈ (handleUniverseDiscoveryPacket cid pkt now r).2.discoveredSources, J src := by
  rcases handleUniverseDiscoveryPacket_cases cid pkt now r with
    ⟨-, heq⟩ | ⟨index, src, -, hsrc, heq⟩
  · rw [heq]
    unfold startDiscovery
    by_cases hsingle : pkt.data.page = 0 ∧ pkt.data.page = pkt.data.lastPage
    · simp only [if_pos hsingle]
      rw [partially_updateDiscoveredSrcs]
      exact ⟨hI, forall_updateDiscoveredSrcs r hJ (h.whole hsingle)⟩
    · simp only [if_neg hsingle]
      exact ⟨List.forall_mem_append.mpr ⟨hI, List.forall_mem_singleton.mpr (h.first hsingle)⟩, hJ⟩
  · have hold : I src := hI src (KeyedVec.lookup_mem hsrc).1
    rw [heq, continueDiscovery_eq]
    by_cases hall : (src.withPage pkt now).allPages = true
    · simp only [if_pos hall]
      rw [partially_updateDiscoveredSrcs]
      refine ⟨fun s hs => hI s (List.mem_of_mem_eraseIdx hs), ?_⟩
      exact forall_updateDiscoveredSrcs { r with
        partiallyDiscoveredSources := r.partiallyDiscoveredSources.eraseIdx index } hJ
          (h.last src hsrc hold hall)
    · simp only [if_neg hall]
      refine ⟨fun s hs => ?_, hJ⟩
      rcases List.mem_or_eq_of_mem_set hs with hs | rfl
      · exact hI s hs
      · exact h.more src hsrc hold hall

/-- The page of a packet that starts a partial record is one of several. -/
theorem lastPage_pos {pkt : UniverseDiscoveryPacketFramingLayer}
    (hpage : pkt.data.page ≤ pkt.data.lastPage)
    (hmulti : ¬ (pkt.data.page = 0 ∧ pkt.data.page = pkt.data.lastPage)) : 0 < pkt.data.lastPage := by
  refine UInt8.pos_iff_ne_zero.mpr fun hzero => hmulti ?_
  rw [hzero] at hpage ⊢
  have hpage0 := UInt8.le_zero_iff.mp hpage
  exact ⟨hpage0, hpage0⟩

theorem discovering_handleUniverseDiscoveryPacket (cid : Uuid)
    (pkt : UniverseDiscoveryPacketFramingLayer) (now : Nat) {r : SacnReceiver}
    (hr : r.Discovering) (hpage : pkt.data.page ≤ pkt.data.lastPage) :
    (handleUniverseDiscoveryPacket cid pkt now r).2.Discovering where
  distinct := (view_handle hr.distinct cid pkt now).1
  multi := by
    have hrule : PageRule (fun src => 0 < src.lastPage) (fun _ => True) cid pkt now (r.view cid) :=
      ⟨fun _ => trivial, lastPage_pos hpage, fun _ _ _ _ => trivial, fun _ _ hsrc _ => hsrc⟩
    exact (forall_handleUniverseDiscoveryPacket hr.multi (fun _ _ => trivial) hrule).1

/-- **The rule for the records**: a property of them is kept by every call, if it is by the end of a
stream, by a discovery packet and by the two calls that drop records. -/
theorem ReceiverCall.records_next {P : SacnReceiver → Prop}
    (hsame : ∀ {s s' : SacnReceiver}, s'.sources = s.sources → P s → P s')
    (hterminate : ∀ cid uni s, P s → P (terminateStream cid uni s)) {r : SacnReceiver}
    {c : ReceiverCall}
    (hdiscovery : ∀ cid pkt now, c = .handleUniverseDiscoveryPacket cid pkt now →
      P (SacnReceiver.handleUniverseDiscoveryPacket cid pkt now r).2)
    (hexpired : ∀ now, c = .removeExpiredSources now →
      P (SacnReceiver.removeExpiredSources now r))
    (hreset : c = .resetSources → P (SacnReceiver.resetSources r)) (hr : P r) : P (c.next r) := by
  have hkept : ∀ s : SacnReceiver, s.sources = r.sources → P s := fun _ hs => hsame hs hr
  cases c with
  | listenUniverses universes =>
    exact hkept _ (keeps_listenUniverses universes (fun _ _ => rfl) (fun _ _ => rfl) r)
  | muteUniverse uni =>
    exact hkept _ (keeps_muteUniverse uni (fun _ _ => rfl) (fun _ _ => rfl) r)
  | handleDataPacket cid pkt amb recvTimestamp =>
    have haccept : Method.Keeps sources (acceptDataPacket cid pkt amb recvTimestamp) :=
      keeps_acceptDataPacket _ _ _ _ (fun _ _ => rfl) (fun _ _ => rfl) (fun _ _ => rfl)
        fun _ _ => rfl
    exact preserves_handleDataPacket (fun _ s hs => hterminate cid pkt.uni s hs)
      (.of_keeps haccept fun _ _ => hsame) r hr
  | handleSyncPacket cid pkt amb order now =>
    exact hkept _
      (keeps_handleSyncPacket cid pkt amb order now (fun _ _ => rfl) (fun _ _ => rfl) r)
  | handleUniverseDiscoveryPacket cid pkt now => exact hdiscovery cid pkt now rfl
  | checkTimeouts data sync => exact hkept _ (keeps_onSequences _ (fun _ _ => rfl) r)
  | removeExpiredSources now => exact hexpired now rfl
  | resetSources => exact hreset rfl
  | checkWaitingDataTimeouts now => exact hkept _ rfl
  | clearWaitingData uni => exact hkept _ rfl
  | clearAllWaitingData => exact hkept _ rfl
  | setMergeFn merge => exact hkept _ rfl
  | setMulticastEnabled val => exact hkept _ rfl
  | setFlags _ _ _ _ => exact hkept _ rfl

/-- **The rule for each record over a call**: the end of a stream keeps what holds of the discovered
records, and a discovery packet keeps to its rule. -/
theorem ReceiverCall.forall_records_next {I J : DiscoveredSacnSource → Prop} {r : SacnReceiver}
    {c : ReceiverCall} (hI : ∀ src ∈ r.partiallyDiscoveredSources, I src)
    (hJ : ∀ src ∈ r.discoveredSources, J src)
    (hterminate : ∀ src uni, J src → J (src.terminateUniverse uni))
    (hpage : ∀ cid pkt now, c = .handleUniverseDiscoveryPacket cid pkt now →
      PageRule I J cid pkt now (r.view cid)) :
    (∀ src ∈ (c.next r).partiallyDiscoveredSources, I src) ∧
      ∀ src ∈ (c.next r).discoveredSources, J src := by
  refine records_next (P := fun s => (∀ src ∈ s.partiallyDiscoveredSources, I src) ∧
    ∀ src ∈ s.discoveredSources, J src) (fun {s s'} hsources hs => ?_) (fun cid uni s hs => ?_)
    (fun cid pkt now heq => ?_) (fun now _ => ?_) (fun _ => ?_) ⟨hI, hJ⟩
  · obtain ⟨hpartially, hdiscovered⟩ := Prod.mk.inj hsources
    rw [hpartially, hdiscovered]
    exact hs
  · unfold terminateStream
    cases findDiscoveredSrc s.discoveredSources cid with
    | none => exact hs
    | some index =>
      refine ⟨hs.1, fun src hsrc => ?_⟩
      obtain ⟨i, hi, rfl⟩ := List.getElem_of_mem hsrc
      rw [List.length_modify] at hi
      simp only [List.getElem_modify]
      split
      · exact hterminate _ uni (hs.2 _ (List.getElem_mem hi))
      · exact hs.2 _ (List.getElem_mem hi)
  · exact forall_handleUniverseDiscoveryPacket hI hJ (hpage cid pkt now heq)
  · exact ⟨fun src hsrc => hI src (List.mem_filter.mp hsrc).1,
      fun src hsrc => hJ src (List.mem_filter.mp hsrc).1⟩
  · exact ⟨fun src hsrc => absurd hsrc List.not_mem_nil,
      fun src hsrc => absurd hsrc List.not_mem_nil⟩

theorem ReceiverCall.discovering_next {r : SacnReceiver} {c : ReceiverCall} (hr : r.Discovering)
    (hc : c.ParsedDiscovery) : (c.next r).Discovering := by
  refine records_next .of_sources (fun cid uni _ hs => discovering_terminateStream cid uni hs)
    (fun cid pkt now heq => ?_) (fun now _ => ?_) (fun _ => ?_) hr
  · exact discovering_handleUniverseDiscoveryPacket cid pkt now hr (hc cid pkt now heq)
  · exact ⟨⟨hr.distinct.partially.filter _, hr.distinct.discovered.filter _⟩,
      fun src hsrc => hr.multi src (List.mem_filter.mp hsrc).1⟩
  · exact ⟨⟨List.nodup_nil, List.nodup_nil⟩, fun src hsrc => absurd hsrc List.not_mem_nil⟩

/-- `with_ip` leaves the records of the bound receiver: none. -/
theorem SacnReceiver.sources_of_withIp {ip : SocketAddr} {sourceLimit : Option Nat}
    {socket : MulticastSocket} {r : SacnReceiver} (h : withIp ip sourceLimit socket = .ok r) :
    r.sources = sources (bound ip sourceLimit socket) :=
  withIp_keeps h (fun _ _ => rfl) fun _ _ => rfl

/-- **The invariant holds in every reachable state.** -/
theorem SacnReceiver.Reachable.discovering {r : SacnReceiver}
    (h : r.Reachable ReceiverCall.ParsedDiscovery) : r.Discovering := by
  induction h with
  | new ip sourceLimit socket r h =>
    have hbound : (bound ip sourceLimit socket).Discovering :=
      ⟨⟨List.nodup_nil, List.nodup_nil⟩, fun src hsrc => absurd hsrc (by simp [bound])⟩
    exact hbound.of_sources (sources_of_withIp h)
  | step r c _ hc ih => exact c.discovering_next ih hc

/-! ## Runs -/

/-- A call that leaves the records of the source to its own discovery packets: any packet of
another source, and any packet but a stream termination of the source itself. -/
def ReceiverCall.SparesSource (cid : Uuid) : ReceiverCall → Prop
  | .handleDataPacket c pkt _ _ => c ≠ cid ∨ pkt.streamTerminated = false
  | .removeExpiredSources _ => False
  | .resetSources => False
  | _ => True

/-- The discovery packet of the source that a call handles, and the time. -/
def ReceiverCall.discovery (cid : Uuid) :
    ReceiverCall → Option (UniverseDiscoveryPacketFramingLayer × Nat)
  | .handleUniverseDiscoveryPacket c pkt now => if c = cid then some (pkt, now) else none
  | _ => none

/-- What the discovery packets of one source return, in a run of calls. -/
def SacnReceiver.reports (cid : Uuid) : SacnReceiver → List ReceiverCall → List (Option String)
  | _, [] => []
  | r, c :: calls =>
    match c.discovery cid with
    | some (pkt, now) =>
      (handleUniverseDiscoveryPacket cid pkt now r).1 :: reports cid (c.next r) calls
    | none => reports cid (c.next r) calls

/-- The discovery packets of one source, run on its view. -/
def SourceView.run (cid : Uuid) (v : SourceView) :
    List (UniverseDiscoveryPacketFramingLayer × Nat) → List (Option String) × SourceView
  | [] => ([], v)
  | (pkt, now) :: rest =>
    ((v.handle cid pkt now).1 :: (run cid (v.handle cid pkt now).2 rest).1,
      (run cid (v.handle cid pkt now).2 rest).2)

theorem view_of_sources {r r' : SacnReceiver} (h : r'.sources = r.sources) (cid : Uuid) :
    r'.view cid = r.view cid := by
  obtain ⟨hpartially, hdiscovered⟩ := Prod.mk.inj h
  unfold view
  rw [hpartially, hdiscovered]

/-- Ending a stream changes the records of its source only. -/
theorem view_terminateStream (uni : UInt16) (r : SacnReceiver) {c cid : Uuid} (h : c ≠ cid) :
    (terminateStream c uni r).view cid = r.view cid := by
  unfold terminateStream
  split
  · rename_i index hindex
    have hfound := KeyedVec.lookup_modify (f := DiscoveredSacnSource.terminateUniverse uni) hindex
      (fun _ => rfl) (Ne.symm h)
    exact congrArg (SourceView.mk _) hfound
  · rfl

theorem view_handleDataPacket {cid c : Uuid} {pkt : DataPacketFramingLayer}
    (h : c ≠ cid ∨ pkt.streamTerminated = false) (amb : Ambient) (recvTimestamp : Nat)
    (r : SacnReceiver) :
    ((handleDataPacket c pkt amb recvTimestamp).run r).2.view cid = r.view cid := by
  have haccept : Method.Keeps sources (acceptDataPacket c pkt amb recvTimestamp) :=
    keeps_acceptDataPacket _ _ _ _ (fun _ _ => rfl) (fun _ _ => rfl) (fun _ _ => rfl) fun _ _ => rfl
  have hview : Method.Preserves (fun s : SacnReceiver => s.view cid = r.view cid)
      (handleDataPacket c pkt amb recvTimestamp) := by
    refine preserves_handleDataPacket (fun hterminated s hs => ?_) ?_
    · have hne : c ≠ cid := h.resolve_right (by simp [hterminated])
      exact (view_terminateStream pkt.uni s hne).trans hs
    · exact .of_keeps haccept fun _ _ hsources hs => (view_of_sources hsources cid).trans hs
  exact hview r rfl

/-- One call, seen from the source. -/
theorem view_next {r : SacnReceiver} (hr : r.DistinctSources) {cid : Uuid} {c : ReceiverCall}
    (hc : c.SparesSource cid) :
    (c.next r).view cid =
      match c.discovery cid with
      | some (pkt, now) => ((r.view cid).handle cid pkt now).2
      | none => r.view cid := by
  cases c with
  | handleUniverseDiscoveryPacket cid' pkt now =>
    refine ((view_handle hr cid' pkt now).2.2 cid).trans ?_
    unfold ReceiverCall.discovery
    by_cases h : cid' = cid
    · simp only [h, if_true]
    · simp only [if_neg h, if_neg (Ne.symm h)]
  | handleDataPacket cid' pkt amb recvTimestamp =>
    exact view_handleDataPacket hc amb recvTimestamp r
  | handleSyncPacket cid' pkt amb order now =>
    exact view_of_sources
      (keeps_handleSyncPacket cid' pkt amb order now (fun _ _ => rfl) (fun _ _ => rfl) r) cid
  | listenUniverses universes =>
    exact view_of_sources (keeps_listenUniverses universes (fun _ _ => rfl) (fun _ _ => rfl) r) cid
  | muteUniverse uni =>
    exact view_of_sources (keeps_muteUniverse uni (fun _ _ => rfl) (fun _ _ => rfl) r) cid
  | checkTimeouts data sync =>
    exact view_of_sources (keeps_onSequences _ (fun _ _ => rfl) r) cid
  | removeExpiredSources now => exact hc.elim
  | resetSources => exact hc.elim
  | checkWaitingDataTimeouts now => rfl
  | clearWaitingData uni => rfl
  | clearAllWaitingData => rfl
  | setMergeFn merge => rfl
  | setMulticastEnabled val => rfl
  | setFlags _ _ _ _ => rfl

/-- **A run, seen from one source**: what its discovery packets return and the records it ends with
are those of the packets run on its view. -/
theorem view_run {cid : Uuid} {calls : List ReceiverCall} {r : SacnReceiver} (hr : r.Discovering)
    (hcalls : ∀ c ∈ calls, c.ParsedDiscovery ∧ c.SparesSource cid) :
    (calls.foldl (fun r c => c.next r) r).Discovering ∧
      (r.reports cid calls, (calls.foldl (fun r c => c.next r) r).view cid) =
        (r.view cid).run cid (calls.filterMap fun c => c.discovery cid) := by
  induction calls generalizing r with
  | nil => exact ⟨hr, rfl⟩
  | cons c calls ih =>
    obtain ⟨hparsed, hspares⟩ := hcalls c List.mem_cons_self
    obtain ⟨hafter, hrun⟩ := ih (c.discovering_next hr hparsed)
      fun c hc => hcalls c (List.mem_cons_of_mem _ hc)
    have hview := view_next hr.distinct hspares
    refine ⟨hafter, ?_⟩
    rw [List.foldl_cons, SacnReceiver.reports]
    cases hpkt : c.discovery cid with
    | none =>
      rw [List.filterMap_cons_none hpkt]
      rw [hpkt] at hview
      rw [← show (c.next r).view cid = r.view cid from hview]
      exact hrun
    | some p =>
      obtain ⟨pkt, now⟩ := p
      rw [List.filterMap_cons_some hpkt]
      rw [hpkt] at hview
      have hreport := (view_handle hr.distinct cid pkt now).2.1
      rw [show (c.next r).view cid = ((r.view cid).handle cid pkt now).2 from hview] at hrun
      obtain ⟨hreports, hlast⟩ := Prod.mk.inj hrun
      show (_ :: _, _) = (_ :: _, _)
      rw [hreport, hreports, hlast]

end Sacn
