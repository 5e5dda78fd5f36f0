import Sacn.Receive.Announce
import Sacn.Receive.Receiver

/-!
# Stream termination (`receive.rs`)

`terminate_stream` forgets one stream: its entries in the two tables of sequence numbers, and its
universe in the discovered record of its source. `remove_seq_numbers` returns the error of the data
table, so the sync table is not reached when the data table does not have the stream.

* `removeSeqNumbers_state`: what `remove_seq_numbers` leaves of the two tables.
* `terminateStream_again`: a second termination changes nothing.
* **`terminateStream_forgets_iff`**: the stream is forgotten, and nothing else, iff the data table
  has it or the sync table does not.
* `syncOnly_not_forgotten`: a stream that only the sync table has.
-/

namespace Sacn

open Rust SacnReceiver

/-! ## One table -/

/-- What `remove_source_universe_seq` leaves. -/
def SeqTable.forget (t : SeqTable) (cid : Uuid) (u : UInt16) : SeqTable :=
  if (t.lookup cid u).isSome then t.removeEntry cid u else t

theorem removeSourceUniverseSeq_some {t : SeqTable} {cid : Uuid} {u : UInt16}
    (h : (t.lookup cid u).isSome) :
    (removeSourceUniverseSeq cid u).run t = (.ok (), t.forget cid u) := by
  obtain ⟨s, hs⟩ := Option.isSome_iff_exists.mp h
  obtain ⟨universes, hm, hg⟩ := Option.bind_eq_some_iff.mp hs
  unfold removeSourceUniverseSeq SeqTable.forget SeqTable.removeEntry
  rw [Method.run_bind_of_ok (Method.run_get t), hm, if_pos h]
  simp only [hg, Method.run_set]

theorem removeSourceUniverseSeq_none {t : SeqTable} {cid : Uuid} {u : UInt16}
    (h : t.lookup cid u = none) :
    ∃ e, (removeSourceUniverseSeq cid u).run t = (.err e, t.forget cid u) := by
  have hforget : t.forget cid u = t := if_neg (by simp [h])
  rw [hforget]
  unfold removeSourceUniverseSeq
  rw [Method.run_bind_of_ok (Method.run_get t)]
  cases hm : HashMap.get t cid with
  | none => exact ⟨_, rfl⟩
  | some universes =>
    have hg : universes.get u = none := by rw [← lookup_of_get hm, h]
    simp only [hg]
    exact ⟨_, rfl⟩

theorem removeSourceUniverseSeq_state (t : SeqTable) (cid : Uuid) (u : UInt16) :
    ((removeSourceUniverseSeq cid u).run t).2 = t.forget cid u := by
  cases h : t.lookup cid u with
  | none =>
    obtain ⟨e, he⟩ := removeSourceUniverseSeq_none h
    rw [he]
  | some s => rw [removeSourceUniverseSeq_some (by rw [h]; rfl)]

theorem SeqTable.lookup_forget (t : SeqTable) (cid c : Uuid) (u v : UInt16) :
    (t.forget cid u).lookup c v = if c = cid ∧ v = u then none else t.lookup c v := by
  unfold SeqTable.forget
  split
  · exact t.lookup_removeEntry cid c u v
  · rename_i h
    split
    · rename_i hcv
      rw [hcv.1, hcv.2]
      simpa using h
    · rfl

theorem SeqTable.isSome_of_forget {t : SeqTable} {cid c : Uuid} {u : UInt16}
    (h : (HashMap.get (t.forget cid u) c).isSome) : (HashMap.get t c).isSome := by
  unfold SeqTable.forget SeqTable.removeEntry at h
  cases hm : HashMap.get t cid with
  | none =>
    rw [hm] at h
    split at h <;> exact h
  | some universes =>
    by_cases hc : c = cid
    · rw [hc, hm]
      rfl
    · rw [hm] at h
      split at h
      · simp only at h
        split at h
        · rwa [HashMap.get_remove, if_neg hc] at h
        · rwa [HashMap.get_insert, if_neg hc] at h
      · exact h

/-- The table has forgotten one stream and nothing else: a source is gone iff that was its only
stream. -/
structure SeqTable.Forgets (cid : Uuid) (u : UInt16) (t t' : SeqTable) : Prop where
  gone : t'.lookup cid u = none
  dropped : (HashMap.get t cid).isSome →
    (HashMap.get t' cid = none ↔ ∀ v, (t.lookup cid v).isSome ↔ v = u)
  streams : ∀ c v, ¬ (c = cid ∧ v = u) → t'.lookup c v = t.lookup c v
  sources : ∀ c, c ≠ cid → HashMap.get t' c = HashMap.get t c

theorem SeqTable.get_removeEntry_self {t : SeqTable} {cid : Uuid} {u : UInt16}
    {universes : HashMap UInt16 TimedStampedSeqNo} (h : HashMap.get t cid = some universes) :
    HashMap.get (t.removeEntry cid u) cid = none ↔ ∀ v, v ≠ u → universes.get v = none := by
  have hempty : (universes.remove u).isEmpty = true ↔ ∀ v, v ≠ u → universes.get v = none := by
    rw [HashMap.isEmpty_iff]
    refine forall_congr' fun v => ?_
    rw [HashMap.get_remove]
    split
    · rename_i hv
      simp [hv]
    · rename_i hv
      simp [hv]
  rw [← hempty]
  unfold SeqTable.removeEntry
  rw [h]
  simp only
  split
  · rename_i he
    simp [HashMap.get_remove, he]
  · rename_i he
    simp [he]

theorem SeqTable.get_removeEntry_of_ne {t : SeqTable} {cid c : Uuid} (u : UInt16) (h : c ≠ cid) :
    HashMap.get (t.removeEntry cid u) c = HashMap.get t c := by
  unfold SeqTable.removeEntry
  split
  · split
    · rw [HashMap.get_remove, if_neg h]
    · rw [HashMap.get_insert, if_neg h]
  · rfl

/-- **`remove_source_universe_seq` forgets the stream**, whether or not the table has it. -/
theorem SeqTable.forgets_forget (t : SeqTable) (cid : Uuid) (u : UInt16) :
    SeqTable.Forgets cid u t (t.forget cid u) := by
  have hlookup := t.lookup_forget cid
  refine ⟨by rw [hlookup, if_pos ⟨rfl, rfl⟩], fun hsource => ?_,
    fun c v h => by rw [hlookup, if_neg h], fun c hc => ?_⟩
  · obtain ⟨universes, hm⟩ := Option.isSome_iff_exists.mp hsource
    unfold SeqTable.forget
    by_cases h : (t.lookup cid u).isSome
    · rw [if_pos h, SeqTable.get_removeEntry_self hm]
      refine forall_congr' fun v => ?_
      rw [← lookup_of_get hm]
      by_cases hv : v = u
      · simp [hv, h]
      · simp [hv]
    · rw [if_neg h, hm]
      have hnot : ¬ ∀ v, (t.lookup cid v).isSome = true ↔ v = u := fun hall => h ((hall u).mpr rfl)
      simp only [reduceCtorEq, hnot]
  · unfold SeqTable.forget
    split
    · exact SeqTable.get_removeEntry_of_ne u hc
    · rfl

/-! ## Both tables -/

/-- **`remove_seq_numbers`**: a stream the data table does not have stays in the sync table. -/
theorem removeSeqNumbers_state (n : SequenceNumbering) (cid : Uuid) (u : UInt16) :
    ((SequenceNumbering.removeSeqNumbers cid u).run n).2 =
      if (n.dataSequences.lookup cid u).isSome then
        { dataSequences := n.dataSequences.forget cid u
          syncSequences := n.syncSequences.forget cid u }
      else n := by
  unfold SequenceNumbering.removeSeqNumbers SequenceNumbering.onData SequenceNumbering.onSync
  rw [Method.run_bind, Method.run_onField]
  cases hd : n.dataSequences.lookup cid u with
  | none =>
    obtain ⟨e, he⟩ := removeSourceUniverseSeq_none hd
    have hforget : n.dataSequences.forget cid u = n.dataSequences := if_neg (by simp [hd])
    rw [he, hforget]
    rfl
  | some s =>
    rw [removeSourceUniverseSeq_some (by rw [hd]; rfl)]
    simp only [Method.run_onField, removeSourceUniverseSeq_state, Option.isSome_some, if_true]

/-- A removal reaches both tables unless only the sync table has the stream. -/
theorem removeSeqNumbers_both {n : SequenceNumbering} {cid : Uuid} {u : UInt16}
    (h : (n.dataSequences.lookup cid u).isSome ∨ n.syncSequences.lookup cid u = none) :
    ((SequenceNumbering.removeSeqNumbers cid u).run n).2 =
      { dataSequences := n.dataSequences.forget cid u
        syncSequences := n.syncSequences.forget cid u } := by
  rw [removeSeqNumbers_state]
  split
  · rfl
  · rename_i hd
    have hs := h.resolve_left hd
    unfold SeqTable.forget
    rw [if_neg hd, if_neg (by simp [hs])]

/-! ## The receiver -/

/-- The receiver `r'` is `r` without one stream. -/
structure SacnReceiver.Forgets (cid : Uuid) (u : UInt16) (r r' : SacnReceiver) : Prop where
  data : SeqTable.Forgets cid u r.sequences.dataSequences r'.sequences.dataSequences
  sync : SeqTable.Forgets cid u r.sequences.syncSequences r'.sequences.syncSequences
  /-- No page of the source's record lists the universe. -/
  record : ∀ i, findDiscoveredSrc r.discoveredSources cid = some i →
    ∃ src, r'.discoveredSources[i]? = some src ∧ ∀ p ∈ src.pages, u ∉ p.universes
  records : ∀ i, findDiscoveredSrc r.discoveredSources cid ≠ some i →
    r'.discoveredSources[i]? = r.discoveredSources[i]?
  again : terminateStream cid u r' = r'

/-- The discovered records after `terminate_stream`. -/
def terminateRecord (cid : Uuid) (u : UInt16) (srcs : List DiscoveredSacnSource) :
    List DiscoveredSacnSource :=
  match findDiscoveredSrc srcs cid with
  | some index => srcs.modify index (.terminateUniverse u)
  | none => srcs

theorem terminateStream_eq (cid : Uuid) (u : UInt16) (r : SacnReceiver) :
    terminateStream cid u r = { r with
      sequences := ((SequenceNumbering.removeSeqNumbers cid u).run r.sequences).2
      discoveredSources := terminateRecord cid u r.discoveredSources } := by
  unfold terminateStream terminateRecord
  cases findDiscoveredSrc r.discoveredSources cid <;> rfl

theorem terminateUniverse_again (u : UInt16) (src : DiscoveredSacnSource) :
    (src.terminateUniverse u).terminateUniverse u = src.terminateUniverse u := by
  unfold DiscoveredSacnSource.terminateUniverse
  simp only [List.map_map, DiscoveredSacnSource.mk.injEq, true_and, and_true]
  refine List.map_congr_left fun p _ => ?_
  simp only [Function.comp_apply, List.filter_filter, Bool.and_self]

theorem terminateRecord_again (cid : Uuid) (u : UInt16) (srcs : List DiscoveredSacnSource) :
    terminateRecord cid u (terminateRecord cid u srcs) = terminateRecord cid u srcs := by
  cases h : findDiscoveredSrc srcs cid with
  | none =>
    have hsame : terminateRecord cid u srcs = srcs := by
      unfold terminateRecord
      rw [h]
    rw [hsame, hsame]
  | some index =>
    have hfirst : terminateRecord cid u srcs = srcs.modify index (.terminateUniverse u) := by
      unfold terminateRecord
      rw [h]
    have hcid : ∀ src : DiscoveredSacnSource, (src.terminateUniverse u).cid = src.cid :=
      fun _ => rfl
    have hfound : findDiscoveredSrc (srcs.modify index (.terminateUniverse u)) cid = some index :=
      (KeyedVec.position_modify srcs cid index hcid).trans h
    rw [hfirst]
    unfold terminateRecord
    rw [hfound]
    simp only
    rw [List.modify_modify_eq]
    congr 1
    exact funext fun src => terminateUniverse_again u src

theorem removeSeqNumbers_again (n : SequenceNumbering) (cid : Uuid) (u : UInt16) :
    ((SequenceNumbering.removeSeqNumbers cid u).run
        ((SequenceNumbering.removeSeqNumbers cid u).run n).2).2 =
      ((SequenceNumbering.removeSeqNumbers cid u).run n).2 := by
  rw [removeSeqNumbers_state n]
  split
  · have hgone : (n.dataSequences.forget cid u).lookup cid u = none :=
      (n.dataSequences.forgets_forget cid u).gone
    rw [removeSeqNumbers_state, if_neg (by simp [hgone])]
  · rename_i h
    rw [removeSeqNumbers_state, if_neg h]

/-- **A second termination of a stream changes nothing.** -/
theorem terminateStream_again (cid : Uuid) (u : UInt16) (r : SacnReceiver) :
    terminateStream cid u (terminateStream cid u r) = terminateStream cid u r := by
  rw [terminateStream_eq cid u r, terminateStream_eq]
  simp only [removeSeqNumbers_again, terminateRecord_again]

/-- **`terminate_stream` forgets the stream, and nothing else**, iff the stream is not one that only
the sync table has. -/
theorem terminateStream_forgets_iff (r : SacnReceiver) (cid : Uuid) (u : UInt16) :
    SacnReceiver.Forgets cid u r (terminateStream cid u r) ↔
      (r.sequences.dataSequences.lookup cid u).isSome ∨
        r.sequences.syncSequences.lookup cid u = none := by
  have hsequences : (terminateStream cid u r).sequences =
      ((SequenceNumbering.removeSeqNumbers cid u).run r.sequences).2 := by rw [terminateStream_eq]
  have hrecords : (terminateStream cid u r).discoveredSources =
      terminateRecord cid u r.discoveredSources := by rw [terminateStream_eq]
  constructor
  · intro h
    by_cases hd : (r.sequences.dataSequences.lookup cid u).isSome
    · exact .inl hd
    · have hgone := h.sync.gone
      rw [hsequences, removeSeqNumbers_state, if_neg hd] at hgone
      exact .inr hgone
  · intro h
    have htables : (terminateStream cid u r).sequences =
        { dataSequences := r.sequences.dataSequences.forget cid u
          syncSequences := r.sequences.syncSequences.forget cid u } :=
      hsequences.trans (removeSeqNumbers_both h)
    refine ⟨?_, ?_, fun i hi => ?_, fun i hi => ?_, terminateStream_again cid u r⟩
    · rw [htables]
      exact SeqTable.forgets_forget _ cid u
    · rw [htables]
      exact SeqTable.forgets_forget _ cid u
    · obtain ⟨pre, src, post, hsrcs, hpre, -⟩ := KeyedVec.position_split hi
      refine ⟨src.terminateUniverse u, ?_, fun p hp => ?_⟩
      · rw [hrecords, terminateRecord, hi, hsrcs, ← hpre]
        simp
      · obtain ⟨q, -, rfl⟩ := List.mem_map.mp hp
        simp
    · rw [hrecords]
      unfold terminateRecord
      cases hfound : findDiscoveredSrc r.discoveredSources cid with
      | none => rfl
      | some j =>
        have hne : j ≠ i := fun he => hi (he ▸ hfound)
        exact List.getElem?_modify_ne _ _ hne

/-! ## A source of sync packets -/

/-- It listens to universe 7 and has received one sync packet for it. -/
def syncOnlyReceiver : SacnReceiver :=
  (ReceiverCall.handleSyncPacket (.repeated 1) { sequenceNumber := 0, synchronizationAddress := 7 }
    { sweep := fun _ _ => 0, order := { srcs := [], unis := fun _ => [] }, stamp := 0 } []
      fun _ => 0).next ((ReceiverCall.listenUniverses [7]).next newReceiver)

theorem syncOnlyReceiver_reachable : syncOnlyReceiver.Reachable fun _ => True :=
  .step _ _ (.step _ _ (newReceiver_reachable _) trivial) trivial

/-- The sync entry of the stream survives its termination. -/
theorem syncOnly_not_forgotten :
    ¬ ∀ (r : SacnReceiver) (cid : Uuid) (u : UInt16),
      r.Reachable (fun _ => True) → SacnReceiver.Forgets cid u r (terminateStream cid u r) := by
  intro h
  have hforgets := (h _ (.repeated 1) 7 syncOnlyReceiver_reachable).sync.gone
  exact absurd hforgets (by decide)

end Sacn
