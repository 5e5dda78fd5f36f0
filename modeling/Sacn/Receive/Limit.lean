import Sacn.Receive.Runs

/-!
# The source limit (`receive.rs`)

`SourcesExceededError` is documented as a limit on unique CIDs. The code compares the limit with the
number of sources in the table of the packet's own type, so a source that only sends data and a
source that only sends sync packets each count in one of the two tables only.

* `SeqCall.check_cases`: what a check does to the sources the two tables have together.
* `SeqCall.card_le_iff`: when it keeps them within the limit.
* **`limit_counts_sources`**: while every packet of a new source finds the sources that fill the
  limit in the table of its own type, the limit is one on sources.
* `twoKinds_exceed`: a limit of one, and two sources.
-/

namespace Sacn

open Rust SacnReceiver

/-! ## The sources of both tables -/

/-- The sources that either table has. -/
def SequenceNumbering.sources (n : SequenceNumbering) : Finset Uuid :=
  n.dataSequences.keys ∪ n.syncSequences.keys

theorem SequenceNumbering.mem_sources {n : SequenceNumbering} {cid : Uuid} :
    cid ∈ n.sources ↔ ∃ kind, (HashMap.get (n.table kind) cid).isSome := by
  unfold SequenceNumbering.sources
  rw [Finset.mem_union, HashMap.mem_keys, HashMap.mem_keys]
  constructor
  · rintro (h | h)
    · exact ⟨.data, h⟩
    · exact ⟨.sync, h⟩
  · rintro ⟨kind, h⟩
    cases kind with
    | data => exact .inl h
    | sync => exact .inr h

theorem SequenceNumbering.NoNewSource.sources {n n' : SequenceNumbering} (h : n.NoNewSource n') :
    n'.sources ⊆ n.sources := by
  intro cid hcid
  obtain ⟨kind, hsome⟩ := mem_sources.mp hcid
  exact mem_sources.mpr ⟨kind, h kind cid hsome⟩

/-- What the sweep of a check leaves: it sweeps the table of the packet's type. -/
def SeqCall.swept (c : SeqCall) (n : SequenceNumbering) : SequenceNumbering :=
  match c.stream.kind with
  | .data => { n with
      dataSequences := n.dataSequences.sweep e131NetworkDataLossTimeout c.amb.sweep }
  | .sync => { n with
      syncSequences := n.syncSequences.sweep e131NetworkDataLossTimeout c.amb.sweep }

theorem SeqCall.noNewSource_swept (c : SeqCall) (n : SequenceNumbering) :
    n.NoNewSource (c.swept n) := by
  intro kind cid h
  unfold SeqCall.swept at h
  cases hown : c.stream.kind with
  | data =>
    rw [hown] at h
    cases kind with
    | data => exact SeqTable.isSome_of_sweep h
    | sync => exact h
  | sync =>
    rw [hown] at h
    cases kind with
    | data => exact h
    | sync => exact SeqTable.isSome_of_sweep h

/-- **What a check does to the sources of both tables.** -/
theorem SeqCall.check_cases (sourceLimit : Option Nat) (c : SeqCall) (n : SequenceNumbering) :
    ((c.swept n).table c.stream.kind).HasRoom sourceLimit c.stream.cid ∧
        ((c.check sourceLimit).run n).2.sources = insert c.stream.cid (c.swept n).sources ∨
      ((c.check sourceLimit).run n).2 = c.swept n ∧ (c.stream.cid ∈ (c.swept n).sources ∨
        ((c.check sourceLimit).run n).1 =
            .err (.sourcesExceededError ((c.swept n).table c.stream.kind).len) ∧
          ¬ ((c.swept n).table c.stream.kind).HasRoom sourceLimit c.stream.cid) := by
  obtain ⟨⟨kind, cid, uni⟩, sequenceNumber, amb⟩ := c
  cases kind with
  | data =>
    have hdata : ((SeqCall.check sourceLimit ⟨⟨.data, cid, uni⟩, sequenceNumber, amb⟩).run n) =
        (((checkSeqNumber sourceLimit cid sequenceNumber uni false amb).run n.dataSequences).1,
          { n with dataSequences := ((checkSeqNumber sourceLimit cid sequenceNumber uni false
            amb).run n.dataSequences).2 }) := rfl
    rw [hdata]
    rcases checkSeqNumber_cases sourceLimit cid sequenceNumber uni amb n.dataSequences with
      ⟨hrun, hroom⟩ | ⟨_, _, hrun, hsource⟩ | ⟨hrun, hfull⟩
    · refine .inl ⟨hroom, ?_⟩
      rw [hrun]
      unfold SequenceNumbering.sources SeqTable.record
      rw [HashMap.keys_insert, Finset.insert_union]
      rfl
    · rw [hrun]
      exact .inr ⟨rfl, .inl (SequenceNumbering.mem_sources.mpr ⟨.data, hsource⟩)⟩
    · rw [hrun]
      exact .inr ⟨rfl, .inr ⟨rfl, hfull⟩⟩
  | sync =>
    have hsync : ((SeqCall.check sourceLimit ⟨⟨.sync, cid, uni⟩, sequenceNumber, amb⟩).run n) =
        (((checkSeqNumber sourceLimit cid sequenceNumber uni false amb).run n.syncSequences).1,
          { n with syncSequences := ((checkSeqNumber sourceLimit cid sequenceNumber uni false
            amb).run n.syncSequences).2 }) := rfl
    rw [hsync]
    rcases checkSeqNumber_cases sourceLimit cid sequenceNumber uni amb n.syncSequences with
      ⟨hrun, hroom⟩ | ⟨_, _, hrun, hsource⟩ | ⟨hrun, hfull⟩
    · refine .inl ⟨hroom, ?_⟩
      rw [hrun]
      unfold SequenceNumbering.sources SeqTable.record
      rw [HashMap.keys_insert, Finset.union_insert]
      rfl
    · rw [hrun]
      exact .inr ⟨rfl, .inl (SequenceNumbering.mem_sources.mpr ⟨.sync, hsource⟩)⟩
    · rw [hrun]
      exact .inr ⟨rfl, .inr ⟨rfl, hfull⟩⟩

/-! ## Runs within the limit -/

/-- When the packet's source is new to both tables and the tables have as many sources as the limit
allows, the table of the packet's own type has as many. -/
def SeqCall.WithinLimit (limit : Nat) (n : SequenceNumbering) (c : SeqCall) : Prop :=
  c.stream.cid ∉ n.sources → limit ≤ (c.swept n).sources.card →
    limit ≤ ((c.swept n).table c.stream.kind).len

/-- The calls of a receiver that does not announce timeouts, every check of which is within the
limit. -/
def LimitStep (limit : Nat) (r : SacnReceiver) (c : ReceiverCall) : Prop :=
  c.Quiet ∧ ∀ check, c.seqCall r = some check → check.WithinLimit limit r.sequences

variable {limit : Nat} {n : SequenceNumbering} {c : SeqCall}

/-- No room is made for a new source when the limit is reached. -/
theorem SeqCall.WithinLimit.not_hasRoom (h : c.WithinLimit limit n)
    (hnew : c.stream.cid ∉ n.sources) (hfull : limit ≤ (c.swept n).sources.card) :
    ¬ ((c.swept n).table c.stream.kind).HasRoom (some limit) c.stream.cid := by
  rintro (hsource | hfree)
  · exact hnew ((c.noNewSource_swept n).sources
      (SequenceNumbering.mem_sources.mpr ⟨_, hsource⟩))
  · have hlt : ((c.swept n).table c.stream.kind).len < limit := of_decide_eq_true hfree
    exact absurd (h hnew hfull) (Nat.not_le.mpr hlt)

/-- **A check keeps the sources of both tables within the limit** iff it is within it. -/
theorem SeqCall.card_le_iff (hn : n.sources.card ≤ limit) :
    ((c.check (some limit)).run n).2.sources.card ≤ limit ↔ c.WithinLimit limit n := by
  have hswept := (c.noNewSource_swept n).sources
  constructor
  · intro hafter hnew hfull
    have hunknown : c.stream.cid ∉ (c.swept n).sources := fun hmem => hnew (hswept hmem)
    rcases c.check_cases (some limit) n with ⟨-, hsources⟩ | ⟨-, hknown | ⟨-, hnoRoom⟩⟩
    · rw [hsources, Finset.card_insert_of_notMem hunknown] at hafter
      exact absurd hafter (Nat.not_le.mpr (Nat.lt_succ_of_le hfull))
    · exact absurd hknown hunknown
    · exact Nat.not_lt.mp fun hlt => hnoRoom (.inr (decide_eq_true hlt))
  · intro h
    rcases c.check_cases (some limit) n with ⟨hroom, hsources⟩ | ⟨hsame, -⟩
    · rw [hsources]
      by_cases hnew : c.stream.cid ∈ n.sources
      · exact (Finset.card_le_card (Finset.insert_subset hnew hswept)).trans hn
      · have hlt : (c.swept n).sources.card < limit :=
          Nat.not_le.mp fun hfull => h.not_hasRoom hnew hfull hroom
        exact (Finset.card_insert_le _ _).trans hlt
    · rw [hsame]
      exact (Finset.card_le_card hswept).trans hn

/-- A live source is still there after the sweep of a check. -/
theorem SeqCall.mem_swept {kind : PacketKind} {cid : Uuid} {uni : UInt16} {s : TimedStampedSeqNo}
    (hl : (n.table kind).lookup cid uni = some s)
    (hlive : elapsed s.lastRecv (c.amb.sweep cid uni) < e131NetworkDataLossTimeout) :
    cid ∈ (c.swept n).sources := by
  have hkept : ∀ t : SeqTable, t.lookup cid uni = some s →
      ((t.sweep e131NetworkDataLossTimeout c.amb.sweep).lookup cid uni) = some s := by
    intro t ht
    rw [SeqTable.lookup_sweep, ht, Option.filter_some_pos]
    rw [not_timedOut]
    exact decide_eq_true hlive
  have hsource : ∀ t : SeqTable, t.lookup cid uni = some s → (HashMap.get t cid).isSome := by
    intro t ht
    obtain ⟨universes, hm, -⟩ := Option.bind_eq_some_iff.mp ht
    rw [hm]
    rfl
  refine SequenceNumbering.mem_sources.mpr ⟨kind, ?_⟩
  unfold SeqCall.swept
  cases c.stream.kind with
  | data => cases kind with
    | data => exact hsource _ (hkept _ hl)
    | sync => exact hsource _ hl
  | sync => cases kind with
    | data => exact hsource _ hl
    | sync => exact hsource _ (hkept _ hl)

/-- What a run within the limit keeps. -/
structure SacnReceiver.Limited (limit : Nat) (r : SacnReceiver) : Prop where
  quiet : r.announceTimeout = false
  sourceLimit : r.sourceLimit = some limit
  sources : r.sequences.sources.card ≤ limit

theorem SacnReceiver.Limited.next {r : SacnReceiver} (h : r.Limited limit) {c : ReceiverCall}
    (hc : LimitStep limit r c) : (c.next r).Limited limit := by
  refine ⟨hc.1.next h.quiet, (c.next_sourceLimit r).trans h.sourceLimit, ?_⟩
  cases hcheck : c.seqCall r with
  | none =>
    have hsources := (ReceiverCall.next_of_seqCall_none h.quiet hcheck).sources
    exact (Finset.card_le_card hsources).trans h.sources
  | some check =>
    rw [(ReceiverCall.next_of_seqCall h.quiet hcheck).1, h.sourceLimit]
    exact (SeqCall.card_le_iff h.sources).mpr (hc.2 check hcheck)

theorem limited_of_created {r : SacnReceiver} (h : CreatedWith (some limit) r) :
    r.Limited limit := by
  obtain ⟨ip, socket, hnew⟩ := h
  refine ⟨withIp_keeps (f := SacnReceiver.announceTimeout) hnew (fun _ _ => rfl) fun _ _ => rfl,
    withIp_keeps (f := SacnReceiver.sourceLimit) hnew (fun _ _ => rfl) fun _ _ => rfl, ?_⟩
  rw [withIp_keeps (f := SacnReceiver.sequences) hnew (fun _ _ => rfl) fun _ _ => rfl]
  exact Nat.zero_le limit

/-- **The limit is one on sources** in every run whose checks are within it: the two tables never
have more than `limit` sources together, and a packet of a new source is refused when that many live
ones are tracked. -/
theorem limit_counts_sources {log : List ReceiverEvent} {r : SacnReceiver}
    (h : ReceiverRun (CreatedWith (some limit)) (LimitStep limit) log r) :
    r.sequences.sources.card ≤ limit ∧
    ∀ (c : ReceiverCall) (check : SeqCall), LimitStep limit r c → c.seqCall r = some check →
      check.stream.cid ∉ r.sequences.sources →
      ∀ live : Finset Uuid, limit ≤ live.card →
        (∀ cid ∈ live, ∃ kind uni s, (r.sequences.table kind).lookup cid uni = some s ∧
          elapsed s.lastRecv (check.amb.sweep cid uni) < e131NetworkDataLossTimeout) →
        ∃ count, c.ended r = .err (.sourcesExceededError count) := by
  have hlimited : r.Limited limit :=
    h.reaches (fun _ hnew => limited_of_created hnew) fun _ _ hc hr => hr.next hc
  refine ⟨hlimited.sources, fun c check hc hcheck hnew live hcard hlive => ?_⟩
  have hsubset : live ⊆ (check.swept r.sequences).sources := by
    intro cid hcid
    obtain ⟨kind, uni, s, hl, hyoung⟩ := hlive cid hcid
    exact SeqCall.mem_swept hl hyoung
  have hnoRoom := (hc.2 check hcheck).not_hasRoom hnew (hcard.trans (Finset.card_le_card hsubset))
  have herror := (ReceiverCall.next_of_seqCall hlimited.quiet hcheck).2
  rw [hlimited.sourceLimit] at herror
  rcases check.check_cases (some limit) r.sequences with
    ⟨hroom, -⟩ | ⟨-, hknown | ⟨hrefused, -⟩⟩
  · exact absurd hroom hnoRoom
  · exact absurd ((check.noNewSource_swept r.sequences).sources hknown) hnew
  · exact ⟨_, herror _ hrefused⟩

/-! ## A limit of one -/

/-- A new receiver with a limit of one source, whose socket joins every group. -/
def soloReceiver : SacnReceiver :=
  ((SacnReceiver.listenUniverses [e131DiscoveryUniverse]).run
    (SacnReceiver.bound { ip := .v4 0 0 0 0, port := acnSdtMulticastPort } (some 1)
      { results := fun _ _ => none, calls := 0 })).2

theorem soloReceiver_created : CreatedWith (some 1) soloReceiver :=
  ⟨{ ip := .v4 0 0 0 0, port := acnSdtMulticastPort }, { results := fun _ _ => none, calls := 0 },
    withIp_eq_ok.mpr ⟨by simp, rfl⟩⟩

/-- A first data packet of universe 1 from a source. -/
def soloData (cid : Uuid) : ReceiverCall :=
  .handleDataPacket cid
    { sourceName := "Stage", priority := 100, synchronizationAddress := 0, sequenceNumber := 0
      previewData := false, streamTerminated := false, forceSynchronization := false, uni := 1
      data := { propertyValues := [0, 255] } }
    { sweep := fun _ _ => 0, order := { srcs := [], unis := fun _ => [] }, stamp := 0 } 0

/-- The receiver that listens to universes 1 and 7 and has received a data packet of one source. -/
def busyReceiver : SacnReceiver :=
  (soloData (.repeated 1)).next ((ReceiverCall.listenUniverses [1, 7]).next soloReceiver)

theorem busyReceiver_refuses :
    ∃ log, ReceiverRun (CreatedWith (some 1)) (LimitStep 1) log busyReceiver ∧
      busyReceiver.sequences.sources.card ≤ 1 ∧
      ∃ count, (soloData (.repeated 2)).ended busyReceiver =
        .err (.sourcesExceededError count) := by
  have hstart : ReceiverRun (CreatedWith (some 1)) (LimitStep 1) [] soloReceiver :=
    .nil soloReceiver_created
  have hlisten := hstart.snoc (.listenUniverses [1, 7])
    ⟨by rintro _ _ _ _ ⟨⟩, fun _ h => absurd h (by simp [ReceiverCall.seqCall])⟩
  have hdata := hlisten.snoc (soloData (.repeated 1)) ⟨by rintro _ _ _ _ ⟨⟩, by
    rintro _ ⟨⟩ _ hfull
    exact absurd hfull (by decide)⟩
  have hwithin : LimitStep 1 busyReceiver (soloData (.repeated 2)) := by
    refine ⟨by rintro _ _ _ _ ⟨⟩, ?_⟩
    rintro _ ⟨⟩ _ _
    decide
  obtain ⟨hcard, hrefused⟩ := limit_counts_sources hdata
  refine ⟨_, hdata, hcard, hrefused _ _ hwithin rfl (by decide) {.repeated 1} (by decide) ?_⟩
  intro cid hcid
  rw [Finset.mem_singleton.mp hcid]
  exact ⟨.data, 1, { sequenceNumber := 0, lastRecv := 0 }, by decide, by decide⟩

/-- **Two sources within a limit of one**: the second sends sync packets only. -/
theorem twoKinds_exceed :
    ¬ ∀ (limit : Nat) (log : List ReceiverEvent) (r : SacnReceiver),
      ReceiverRun (CreatedWith (some limit)) (fun _ c => c.Quiet) log r →
      r.sequences.sources.card ≤ limit := by
  intro h
  have hstart : ReceiverRun (CreatedWith (some 1)) (fun _ c => c.Quiet) [] soloReceiver :=
    .nil soloReceiver_created
  have hlisten := hstart.snoc (.listenUniverses [1, 7]) (by rintro _ _ _ _ ⟨⟩)
  have hdata := hlisten.snoc (soloData (.repeated 1)) (by rintro _ _ _ _ ⟨⟩)
  have hsync := hdata.snoc (.handleSyncPacket (.repeated 2)
    { sequenceNumber := 0, synchronizationAddress := 7 }
    { sweep := fun _ _ => 0, order := { srcs := [], unis := fun _ => [] }, stamp := 0 } []
      fun _ => 0) (by rintro _ _ _ _ ⟨⟩)
  exact absurd (h _ _ _ hsync) (by decide)

end Sacn
