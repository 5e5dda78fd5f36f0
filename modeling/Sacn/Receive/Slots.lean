import Sacn.Receive.Stream
import Sacn.Receive.Terminate
import Sacn.Rust.Run

/-!
# The slots of the source limit (`receive.rs`)

A source takes a slot of the limit while a table of sequence numbers has it. `check_seq_number` puts
a new source in with no universes before it judges the packet; the two sweeps and
`remove_source_universe_seq` take a source out with its last universe.

`SequenceRun` is a run of the methods of `SequenceNumbering` with timeouts not announced, with the
history of the calls and how each ended. `remove_seq_numbers` leaves through the error of the data
table, so a source that only the sync table has keeps its slot when it is removed.

* `checkSeqNumber_after`: what a check can do.
* `SlotTable`: no source is empty, the sources are within the limit, and every entry was stored by
  an accepted check of the history that no later removal was about. `Slots.step` keeps it.
* **`slots_held_by_live`**: while every removal reaches both tables, a refused check finds every slot
  taken by another source that is live.
* `removedSource_keeps_slot`: a source that is removed and keeps the only slot.
-/

namespace Sacn

open Rust

/-! ## One check -/

/-- **What a check can do** once its sweep has returned: it accepts the packet, finds it out of
order, or has no room for its source. -/
theorem checkSeqNumber_after {sourceLimit : Option Nat} {cid : Uuid} {sequenceNumber : UInt8}
    {uni : UInt16} {announceTimeout : Bool} {amb : Ambient} {t swept : SeqTable}
    (hsweep : (checkTimeouts e131NetworkDataLossTimeout announceTimeout amb).run t =
      (.ok (), swept)) :
    (checkSeqNumber sourceLimit cid sequenceNumber uni announceTimeout amb).run t =
        (.ok (), swept.record cid uni { sequenceNumber, lastRecv := amb.stamp }) ∧
        swept.HasRoom sourceLimit cid ∨
      (∃ expected diff,
        (checkSeqNumber sourceLimit cid sequenceNumber uni announceTimeout amb).run t =
          (.err (.outOfSequence sequenceNumber expected diff), swept) ∧
        (HashMap.get swept cid).isSome) ∨
      (checkSeqNumber sourceLimit cid sequenceNumber uni announceTimeout amb).run t =
        (.err (.sourcesExceededError swept.len), swept) ∧ ¬ swept.HasRoom sourceLimit cid := by
  by_cases hroom : swept.HasRoom sourceLimit cid
  · rw [checkSeqNumber_run hsweep hroom]
    cases hl : swept.lookup cid uni with
    | none => exact .inl ⟨rfl, hroom⟩
    | some s =>
      obtain ⟨universes, hm, -⟩ := Option.bind_eq_some_iff.mp hl
      have hsource : swept.withSource cid = swept := by
        unfold SeqTable.withSource
        rw [hm]
        rfl
      by_cases hd : discards sequenceNumber s.sequenceNumber
      · have hv : verdict (some s) sequenceNumber = .err (.outOfSequence sequenceNumber
            s.sequenceNumber (seqDiff sequenceNumber s.sequenceNumber)) := if_pos hd
        rw [hv, if_neg (by simp), hsource]
        exact .inr (.inl ⟨_, _, rfl, by rw [hm]; rfl⟩)
      · have hv : verdict (some s) sequenceNumber = .ok () := if_neg hd
        rw [hv, if_pos rfl]
        exact .inl ⟨rfl, hroom⟩
  · refine .inr (.inr ⟨?_, hroom⟩)
    obtain ⟨hnone, hfull⟩ := not_or.mp hroom
    unfold checkSeqNumber addSource
    rw [Method.run_bind_of_ok hsweep]
    refine Method.run_bind_of_err ?_ _
    rw [Method.run_bind_of_ok (Method.run_get swept), if_pos (by simpa using hnone), if_neg hfull,
      Method.run_throw]

/-- What a check can do when timeouts are not announced: it sweeps the table first. -/
theorem checkSeqNumber_cases (sourceLimit : Option Nat) (cid : Uuid) (sequenceNumber : UInt8)
    (uni : UInt16) (amb : Ambient) (t : SeqTable) :
    (checkSeqNumber sourceLimit cid sequenceNumber uni false amb).run t =
        (.ok (), (t.sweep e131NetworkDataLossTimeout amb.sweep).record cid uni
          { sequenceNumber, lastRecv := amb.stamp }) ∧
        (t.sweep e131NetworkDataLossTimeout amb.sweep).HasRoom sourceLimit cid ∨
      (∃ expected diff, (checkSeqNumber sourceLimit cid sequenceNumber uni false amb).run t =
        (.err (.outOfSequence sequenceNumber expected diff),
          t.sweep e131NetworkDataLossTimeout amb.sweep) ∧
        (HashMap.get (t.sweep e131NetworkDataLossTimeout amb.sweep) cid).isSome) ∨
      (checkSeqNumber sourceLimit cid sequenceNumber uni false amb).run t =
        (.err (.sourcesExceededError (t.sweep e131NetworkDataLossTimeout amb.sweep).len),
          t.sweep e131NetworkDataLossTimeout amb.sweep) ∧
        ¬ (t.sweep e131NetworkDataLossTimeout amb.sweep).HasRoom sourceLimit cid :=
  checkSeqNumber_after (checkTimeouts_silent e131NetworkDataLossTimeout amb t)

/-- A source has its slot once it is recorded. -/
theorem SeqTable.get_record (t : SeqTable) (cid c : Uuid) (uni : UInt16) (s : TimedStampedSeqNo) :
    HashMap.get (t.record cid uni s) c =
      if c = cid then some (((HashMap.get t cid).getD ∅).insert uni s) else HashMap.get t c :=
  HashMap.get_insert _ _ _ _

theorem noEmptySource_record {t : SeqTable} (h : NoEmptySource t) (cid : Uuid) (uni : UInt16)
    (s : TimedStampedSeqNo) : NoEmptySource (t.record cid uni s) := by
  intro c universes hm
  rw [SeqTable.get_record] at hm
  split at hm
  · rw [← Option.some.inj hm]
    exact HashMap.isEmpty_eq_false.mpr ⟨uni, by rw [HashMap.get_insert_self]; rfl⟩
  · exact h c universes hm

theorem noEmptySource_forget {t : SeqTable} (h : NoEmptySource t) (cid : Uuid) (uni : UInt16) :
    NoEmptySource (t.forget cid uni) := by
  unfold SeqTable.forget
  split
  · exact noEmptySource_removeEntry h cid uni
  · exact h

/-- The sources of a table are within the limit. -/
def SeqTable.Within (sourceLimit : Option Nat) (t : SeqTable) : Prop :=
  ∀ limit, sourceLimit = some limit → t.len ≤ limit

theorem within_record {t : SeqTable} {sourceLimit : Option Nat} (h : t.Within sourceLimit)
    {cid : Uuid} (hroom : t.HasRoom sourceLimit cid) (uni : UInt16) (s : TimedStampedSeqNo) :
    (t.record cid uni s).Within sourceLimit := by
  intro limit hlimit
  unfold SeqTable.record HashMap.len
  rw [HashMap.keys_insert]
  rcases hroom with hsource | hfree
  · rw [Finset.insert_eq_self.mpr (HashMap.mem_keys.mpr hsource)]
    exact h limit hlimit
  · rw [hlimit] at hfree
    have hlt : t.len < limit := of_decide_eq_true hfree
    exact (Finset.card_insert_le _ _).trans hlt

/-! ## Runs -/

/-- A call of a method of the sequence numbering, with timeouts not announced. -/
inductive SequenceCall where
  | check (c : SeqCall)
  | checkTimeouts (data sync : Ambient)
  | removeSeqNumbers (srcCid : Uuid) (uni : UInt16)

/-- The check of a packet of a stream, within a source limit. -/
def SeqCall.check (sourceLimit : Option Nat) (c : SeqCall) :
    Method SequenceNumbering SacnError Unit :=
  match c.stream.kind with
  | .data => SequenceNumbering.checkDataSeqNumber sourceLimit c.stream.cid c.sequenceNumber
      c.stream.uni false c.amb
  | .sync => SequenceNumbering.checkSyncSeqNumber sourceLimit c.stream.cid c.sequenceNumber
      c.stream.uni false c.amb

def SequenceCall.method (sourceLimit : Option Nat) :
    SequenceCall → Method SequenceNumbering SacnError Unit
  | check c => c.check sourceLimit
  | checkTimeouts data sync => SequenceNumbering.checkTimeouts false data sync
  | removeSeqNumbers srcCid uni => SequenceNumbering.removeSeqNumbers srcCid uni

/-- A call with how it ended. -/
abbrev SequenceEvent : Type := SequenceCall × Outcome SacnError Unit

/-- The runs of a new sequence numbering. -/
abbrev SequenceRun (sourceLimit : Option Nat)
    (allowed : SequenceNumbering → SequenceCall → Prop) :
    List SequenceEvent → SequenceNumbering → Prop :=
  Run (fun n c => (c.method sourceLimit).run n) (· = .new) allowed

/-- If the call removes a stream, the data table has it, or the sync table does not. -/
def RemovesBoth (n : SequenceNumbering) (c : SequenceCall) : Prop :=
  ∀ cid uni, c = .removeSeqNumbers cid uni →
    (n.dataSequences.lookup cid uni).isSome ∨ n.syncSequences.lookup cid uni = none

/-- A packet of the stream was accepted with this number at this time, and the stream has not been
removed since, whatever the removal returned. -/
def StoredIn (log : List SequenceEvent) (k : Stream) (s : TimedStampedSeqNo) : Prop :=
  Since log
    (fun e => ∃ c : SeqCall, c.stream = k ∧ c.sequenceNumber = s.sequenceNumber ∧
      c.amb.stamp = s.lastRecv ∧ e = (.check c, .ok ()))
    (·.1 = .removeSeqNumbers k.cid k.uni)

/-- The invariant of one table. -/
structure SlotTable (sourceLimit : Option Nat) (log : List SequenceEvent) (kind : PacketKind)
    (t : SeqTable) : Prop where
  noEmpty : NoEmptySource t
  within : t.Within sourceLimit
  stored : ∀ cid uni s, t.lookup cid uni = some s → StoredIn log { kind, cid, uni } s

variable {sourceLimit : Option Nat} {log : List SequenceEvent} {kind : PacketKind} {t t' : SeqTable}

/-- A call that adds nothing to the table. -/
theorem SlotTable.shrink (h : SlotTable sourceLimit log kind t) (e : SequenceEvent)
    (hempty : NoEmptySource t')
    (hsources : ∀ c, (HashMap.get t' c).isSome → (HashMap.get t c).isSome)
    (hstreams : ∀ c u s, t'.lookup c u = some s →
      t.lookup c u = some s ∧ e.1 ≠ .removeSeqNumbers c u) :
    SlotTable sourceLimit (log ++ [e]) kind t' := by
  refine ⟨hempty, fun limit hlimit => ?_, fun c u s hl => ?_⟩
  · exact (HashMap.len_le hsources).trans (h.within limit hlimit)
  · obtain ⟨hl', he⟩ := hstreams c u s hl
    exact since_snoc.mpr (.inr ⟨h.stored c u s hl', he⟩)

theorem SlotTable.sweep (h : SlotTable sourceLimit log kind t) (e : SequenceEvent)
    (he : ∀ c u, e.1 ≠ .removeSeqNumbers c u) (timeout : Nat)
    (now : Uuid → UInt16 → Nat) :
    SlotTable sourceLimit (log ++ [e]) kind (t.sweep timeout now) := by
  refine h.shrink e (t.noEmptySource_sweep timeout now) (fun c => SeqTable.isSome_of_sweep)
    fun c u s hl => ?_
  rw [SeqTable.lookup_sweep, Option.filter_eq_some_iff] at hl
  exact ⟨hl.1, he c u⟩

/-- **A check keeps the invariant of its table.** -/
theorem SlotTable.check (h : SlotTable sourceLimit log kind t) (c : SeqCall)
    (hkind : c.stream.kind = kind) {res : Outcome SacnError Unit × SeqTable}
    (hres : (checkSeqNumber sourceLimit c.stream.cid c.sequenceNumber c.stream.uni false
      c.amb).run t = res) :
    SlotTable sourceLimit (log ++ [(.check c, res.1)]) kind res.2 := by
  subst hres
  have hswept := h.sweep (.check c, ((checkSeqNumber sourceLimit c.stream.cid c.sequenceNumber
    c.stream.uni false c.amb).run t).1) (by simp) e131NetworkDataLossTimeout c.amb.sweep
  rcases checkSeqNumber_cases sourceLimit c.stream.cid c.sequenceNumber c.stream.uni c.amb t with
    ⟨hrun, hroom⟩ | ⟨_, _, hrun, -⟩ | ⟨hrun, -⟩
  · rw [hrun] at hswept ⊢
    refine ⟨noEmptySource_record hswept.noEmpty _ _ _,
      within_record hswept.within hroom _ _, fun cid uni s hl => ?_⟩
    rw [SeqTable.lookup_record] at hl
    split at hl
    · rename_i hstream
      obtain ⟨rfl, rfl⟩ := hstream
      rw [← Option.some.inj hl]
      exact since_snoc.mpr (.inl ⟨c, by rw [← hkind], rfl, rfl, rfl⟩)
    · exact hswept.stored cid uni s hl
  · rw [hrun] at hswept ⊢
    exact hswept
  · rw [hrun] at hswept ⊢
    exact hswept

/-- A call that does not touch the table. -/
theorem SlotTable.same (h : SlotTable sourceLimit log kind t) (e : SequenceEvent)
    (he : ∀ c u, e.1 ≠ .removeSeqNumbers c u) :
    SlotTable sourceLimit (log ++ [e]) kind t :=
  h.shrink e h.noEmpty (fun _ hc => hc) fun c u _ hl => ⟨hl, he c u⟩

theorem SlotTable.forget (h : SlotTable sourceLimit log kind t) (cid : Uuid) (uni : UInt16)
    (res : Outcome SacnError Unit) :
    SlotTable sourceLimit (log ++ [(.removeSeqNumbers cid uni, res)]) kind
      (t.forget cid uni) := by
  refine h.shrink _ (noEmptySource_forget h.noEmpty cid uni) (fun c => SeqTable.isSome_of_forget)
    fun c u s hl => ?_
  rw [SeqTable.lookup_forget] at hl
  split at hl
  · exact absurd hl (by simp)
  · rename_i hne
    refine ⟨hl, ?_⟩
    rintro ⟨⟩
    exact hne ⟨rfl, rfl⟩

/-- The invariant of both tables. -/
def Slots (sourceLimit : Option Nat) (log : List SequenceEvent) (n : SequenceNumbering) : Prop :=
  ∀ kind, SlotTable sourceLimit log kind (n.table kind)

/-- **The invariant is kept by every call.** -/
theorem Slots.step {n : SequenceNumbering} (h : Slots sourceLimit log n) {c : SequenceCall}
    (hc : RemovesBoth n c) :
    Slots sourceLimit (log ++ [(c, ((c.method sourceLimit).run n).1)])
      ((c.method sourceLimit).run n).2 := by
  intro kind
  cases c with
  | check c =>
    obtain ⟨⟨own, cid, uni⟩, sequenceNumber, amb⟩ := c
    cases own with
    | data => cases kind with
      | data => exact (h .data).check ⟨⟨.data, cid, uni⟩, sequenceNumber, amb⟩ rfl rfl
      | sync => exact (h .sync).same _ (by simp)
    | sync => cases kind with
      | data => exact (h .data).same _ (by simp)
      | sync => exact (h .sync).check ⟨⟨.sync, cid, uni⟩, sequenceNumber, amb⟩ rfl rfl
  | checkTimeouts data sync =>
    cases kind with
    | data => exact (h .data).sweep _ (by simp) _ data.sweep
    | sync => exact (h .sync).sweep _ (by simp) _ sync.sweep
  | removeSeqNumbers cid uni =>
    have hmethod : (SequenceCall.removeSeqNumbers cid uni).method sourceLimit =
      SequenceNumbering.removeSeqNumbers cid uni := rfl
    rw [hmethod, removeSeqNumbers_both (hc cid uni rfl)]
    cases kind with
    | data => exact (h .data).forget cid uni _
    | sync => exact (h .sync).forget cid uni _

theorem slots_of_new : Slots sourceLimit [] .new := by
  intro kind
  have hempty : ∀ c, HashMap.get (SequenceNumbering.new.table kind) c = none := by
    intro c
    cases kind <;> exact HashMap.get_empty c
  refine ⟨fun c universes hm => ?_, fun limit _ => ?_, fun c u s hl => ?_⟩
  · rw [hempty] at hm
    exact absurd hm (by simp)
  · cases kind <;> exact Nat.zero_le limit
  · unfold SeqTable.lookup at hl
    rw [hempty] at hl
    exact absurd hl (by simp)

theorem SequenceRun.slots {n : SequenceNumbering} (h : SequenceRun sourceLimit RemovesBoth log n) :
    Slots sourceLimit log n :=
  h.invariant (fun _ hnew => hnew ▸ slots_of_new) fun _ _ _ hc hn => hn.step hc

/-! ## A refused source -/

/-- The table of a packet's kind after its check. -/
theorem SeqCall.run_check (sourceLimit : Option Nat) (c : SeqCall) (n : SequenceNumbering) :
    ((c.check sourceLimit).run n).1 = ((checkSeqNumber sourceLimit c.stream.cid c.sequenceNumber
        c.stream.uni false c.amb).run (n.table c.stream.kind)).1 ∧
      ((c.check sourceLimit).run n).2.table c.stream.kind = ((checkSeqNumber sourceLimit
        c.stream.cid c.sequenceNumber c.stream.uni false c.amb).run (n.table c.stream.kind)).2 := by
  obtain ⟨⟨kind, cid, uni⟩, sequenceNumber, amb⟩ := c
  cases kind <;> exact ⟨rfl, rfl⟩

/-- **Only live sources hold the slots.** No source has an empty universe map; and a check that is
refused with `SourcesExceededError(n)` leaves a table with `n` sources, `n` the limit, of which the
packet's is none, and each of them has a stream whose last packet was accepted, and not removed
since, less than the timeout before the check. -/
structure LiveSlots (sourceLimit : Option Nat) (log : List SequenceEvent) (n : SequenceNumbering) :
    Prop where
  noEmpty : ∀ kind, NoEmptySource (n.table kind)
  refused : ∀ (c : SeqCall) (count : Nat),
    ((c.check sourceLimit).run n).1 = .err (.sourcesExceededError count) →
    sourceLimit = some count ∧
    ∃ sources : Finset Uuid, sources.card = count ∧ c.stream.cid ∉ sources ∧
      (∀ cid, cid ∈ sources ↔
        (HashMap.get (((c.check sourceLimit).run n).2.table c.stream.kind) cid).isSome) ∧
      ∀ cid ∈ sources, ∃ uni s,
        (((c.check sourceLimit).run n).2.table c.stream.kind).lookup cid uni = some s ∧
        StoredIn log { kind := c.stream.kind, cid, uni } s ∧
        elapsed s.lastRecv (c.amb.sweep cid uni) < e131NetworkDataLossTimeout

/-- **Only live sources hold the slots of the limit** in every state of a run whose removals each
reach both tables. -/
theorem slots_held_by_live {n : SequenceNumbering}
    (h : SequenceRun sourceLimit RemovesBoth log n) : LiveSlots sourceLimit log n := by
  refine ⟨fun kind => (h.slots kind).noEmpty, fun c count hrefused => ?_⟩
  have hslots := h.slots c.stream.kind
  obtain ⟨hres, htable⟩ := c.run_check sourceLimit n
  rw [hres] at hrefused
  rw [htable]
  generalize n.table c.stream.kind = t at hslots hrefused ⊢
  rcases checkSeqNumber_cases sourceLimit c.stream.cid c.sequenceNumber c.stream.uni c.amb t with
    ⟨hrun, -⟩ | ⟨_, _, hrun, -⟩ | ⟨hrun, hroom⟩
  · rw [hrun] at hrefused
    exact absurd hrefused (by simp)
  · rw [hrun] at hrefused
    exact absurd hrefused (by simp)
  · rw [hrun] at hrefused ⊢
    have hcount : (t.sweep e131NetworkDataLossTimeout c.amb.sweep).len = count := by
      simpa using hrefused
    obtain ⟨hnone, hfull⟩ := not_or.mp hroom
    have hwithin := (hslots.sweep (.check c, .err (.sourcesExceededError count)) (by simp)
      e131NetworkDataLossTimeout c.amb.sweep).within
    refine ⟨?_, (t.sweep e131NetworkDataLossTimeout c.amb.sweep).keys, hcount,
      fun hmem => hnone (HashMap.mem_keys.mp hmem), fun cid => HashMap.mem_keys, fun cid hcid => ?_⟩
    · cases hlimit : sourceLimit with
      | none =>
        rw [hlimit] at hfull
        exact absurd rfl hfull
      | some limit =>
        rw [hlimit] at hfull
        have hle := hwithin limit hlimit
        have hge : ¬ (t.sweep e131NetworkDataLossTimeout c.amb.sweep).len < limit := by
          simpa using hfull
        rw [← hcount, Nat.le_antisymm hle (Nat.not_lt.mp hge)]
    · obtain ⟨universes, hm⟩ := Option.isSome_iff_exists.mp (HashMap.mem_keys.mp hcid)
      obtain ⟨uni, hu⟩ := HashMap.isEmpty_eq_false.mp (t.noEmptySource_sweep _ _ cid universes hm)
      obtain ⟨s, hs⟩ := Option.isSome_iff_exists.mp hu
      have hl := (lookup_of_get hm uni).trans hs
      refine ⟨uni, s, hl, ?_⟩
      rw [SeqTable.lookup_sweep, Option.filter_eq_some_iff, not_timedOut, decide_eq_true_eq] at hl
      exact ⟨hslots.stored cid uni s hl.1, hl.2⟩

/-! ## One slot -/

/-- A packet of universe 1, number 0, of a source. -/
def firstCheck (kind : PacketKind) (cid : Uuid) : SeqCall :=
  { stream := { kind, cid, uni := 1 }, sequenceNumber := 0
    amb := { sweep := fun _ _ => 0, order := { srcs := [], unis := fun _ => [] }, stamp := 0 } }

/-- One slot, which the first source leaves and the second takes: the third is refused. -/
theorem thirdSource_refused :
    ∃ n log, SequenceRun (some 1) RemovesBoth log n ∧
      (∃ res, (SequenceCall.removeSeqNumbers (.repeated 1) 1, res) ∈ log) ∧
      ∃ sources : Finset Uuid, sources.card = 1 ∧ Uuid.repeated 3 ∉ sources ∧
        ∀ cid ∈ sources, ∃ uni s, StoredIn log { kind := .data, cid, uni } s := by
  have hstart : SequenceRun (some 1) RemovesBoth [] .new := .nil rfl
  have hfirst := hstart.snoc (.check (firstCheck .data (.repeated 1))) (by rintro _ _ ⟨⟩)
  have hremoved := hfirst.snoc (.removeSeqNumbers (.repeated 1) 1) (by
    rintro _ _ ⟨⟩
    exact .inl (by decide))
  have hsecond := hremoved.snoc (.check (firstCheck .data (.repeated 2))) (by rintro _ _ ⟨⟩)
  refine ⟨_, _, hsecond, ⟨_, by simp; rfl⟩, ?_⟩
  obtain ⟨-, sources, hcard, hnot, -, hstored⟩ := (slots_held_by_live hsecond).refused
    (firstCheck .data (.repeated 3)) 1 (by decide)
  refine ⟨sources, hcard, hnot, fun cid hcid => ?_⟩
  obtain ⟨uni, s, -, hs, -⟩ := hstored cid hcid
  exact ⟨uni, s, hs⟩

/-- **A removed source keeps its slot**: a source that has sent one sync packet is removed, and the
sync packet of another finds the only slot taken. -/
theorem removedSource_keeps_slot :
    ¬ ∀ (sourceLimit : Option Nat) (log : List SequenceEvent) (n : SequenceNumbering),
      SequenceRun sourceLimit (fun _ _ => True) log n → LiveSlots sourceLimit log n := by
  intro h
  have hstart : SequenceRun (some 1) (fun _ _ => True) [] .new := .nil rfl
  have hfirst := hstart.snoc (.check (firstCheck .sync (.repeated 1))) trivial
  have hremoved := hfirst.snoc (.removeSeqNumbers (.repeated 1) 1) trivial
  obtain ⟨-, sources, hcard, -, -, hlive⟩ := (h _ _ _ hremoved).refused
    (firstCheck .sync (.repeated 2)) 1 (by decide)
  obtain ⟨cid, hcid⟩ := Finset.card_pos.mp (hcard ▸ Nat.one_pos)
  obtain ⟨uni, s, -, hstored, -⟩ := hlive cid hcid
  -- the only accepted packet is the one of the stream that is removed after it
  rcases since_snoc.mp hstored with ⟨_, -, -, -, hcheck⟩ | ⟨hbefore, hnot⟩
  · exact absurd (Prod.mk.inj hcheck).1 (by simp)
  rcases since_snoc.mp hbefore with ⟨c, hstream, -, -, hcheck⟩ | ⟨⟨_, _, _, hnil, -, -⟩, -⟩
  · obtain rfl := SequenceCall.check.inj (Prod.mk.inj hcheck).1
    obtain ⟨-, rfl, rfl⟩ := Stream.mk.inj hstream
    exact hnot rfl
  · exact absurd hnil (by simp)

end Sacn
