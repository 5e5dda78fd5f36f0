import Sacn.Error
import Sacn.Packet.Layout
import Sacn.Rust.HashMap
import Sacn.Rust.Method

/-!
# Sequence numbering (`receive.rs`)

`SequenceNumbering`: the last accepted sequence number of each stream (packet type, source,
universe) and when it was accepted, `check_seq_number`, which judges a packet, and
`check_timeouts`, which forgets what is too old.

An `Instant` and a `Duration` are numbers of nanoseconds; `elapsed` saturates at zero as
`Instant::elapsed` does. The code reads the clock anew for every entry a sweep looks at and again
when it stores a number, and walks the maps in an order it does not control. `Ambient` is what one
call gets of both.

* `checkTimeouts_silent`, `lookup_sweep`: the silent sweep keeps the entries younger than the
  timeout.
* **`checkSeqNumber_run`**: the verdict and the table after a check, in terms of what the swept
  table remembers of the packet's own stream.
-/

namespace Sacn

open Rust

/-- `Instant::elapsed` at the reading `now`. -/
def elapsed (last now : Nat) : Nat := now - last

/-- `E131_NETWORK_DATA_LOSS_TIMEOUT`: 2.5 s. -/
def e131NetworkDataLossTimeout : Nat := 2500000000

/-- `TimedStampedSeqNo`. -/
structure TimedStampedSeqNo where
  sequenceNumber : UInt8
  lastRecv : Nat
  deriving DecidableEq, Repr

/-- A table of sequence numbers: `HashMap<Uuid, HashMap<u16, TimedStampedSeqNo>>`. -/
abbrev SeqTable : Type := HashMap Uuid (HashMap UInt16 TimedStampedSeqNo)

/-- The entry of a source's universe. -/
def SeqTable.lookup (t : SeqTable) (cid : Uuid) (uni : UInt16) : Option TimedStampedSeqNo :=
  (HashMap.get t cid).bind fun universes => universes.get uni

/-- An order in which to walk a table: the sources, and the universes of each. -/
structure IterOrder where
  srcs : List Uuid
  unis : Uuid → List UInt16

/-- What a call takes from outside: the clock reading at which a sweep looks at each entry, the
order in which it walks the table, and the reading taken when a number is stored. -/
structure Ambient where
  sweep : Uuid → UInt16 → Nat
  order : IterOrder
  stamp : Nat

/-! ## `check_timeouts` -/

/-- `seq_num.last_recv.elapsed() >= timeout`. -/
def timedOut (timeout : Nat) (s : TimedStampedSeqNo) (now : Nat) : Bool :=
  timeout ≤ elapsed s.lastRecv now

/-- The inner loop of the announcing search: the first universe that has timed out. -/
def findTimedOutUni (timeout : Nat) (universes : HashMap UInt16 TimedStampedSeqNo)
    (now : UInt16 → Nat) (order : List UInt16) : Option UInt16 :=
  order.find? fun u => (universes.get u).any fun s => timedOut timeout s (now u)

/-- The outer loop of the announcing search, with what it found so far: it stops at a source at
whose end nothing has been found yet, and otherwise goes on. -/
def findTimedOut (timeout : Nat) (t : SeqTable) (amb : Ambient) :
    List Uuid → Option (Uuid × UInt16) → Option (Uuid × UInt16)
  | [], found => found
  | cid :: srcs, found =>
    let found := match (HashMap.get t cid).bind fun universes =>
        findTimedOutUni timeout universes (amb.sweep cid) (amb.order.unis cid) with
      | some u => some (cid, u)
      | none => found
    if found.isNone then found else findTimedOut timeout t amb srcs found

/-- The silent sweep: `retain` the universes that have not timed out, then the sources that have
any left. -/
def SeqTable.sweep (t : SeqTable) (timeout : Nat) (now : Uuid → UInt16 → Nat) :
    SeqTable :=
  HashMap.retain
    (HashMap.mapVal t fun cid universes => universes.retain fun u s => !timedOut timeout s (now cid u))
    fun _ universes => !universes.isEmpty

/-- `check_timeouts`. -/
def checkTimeouts (timeout : Nat) (announceTimeout : Bool) (amb : Ambient) :
    Method SeqTable SacnError Unit := do
  let t ← Method.get
  if announceTimeout then
    match findTimedOut timeout t amb amb.order.srcs none with
    | some (timedoutSrcId, uniToRemove) =>
      match HashMap.get t timedoutSrcId with
      | some universes =>
        let universes := universes.remove uniToRemove
        Method.set (if universes.isEmpty then HashMap.remove t timedoutSrcId
          else HashMap.insert t timedoutSrcId universes)
        Method.throw (.universeTimeout timedoutSrcId uniToRemove)
      | none => return ()
    | none => return ()
  else
    Method.set (t.sweep timeout amb.sweep)

theorem checkTimeouts_silent (timeout : Nat) (amb : Ambient) (t : SeqTable) :
    (checkTimeouts timeout false amb).run t = (.ok (), t.sweep timeout amb.sweep) := rfl

theorem SeqTable.get_sweep (t : SeqTable) (timeout : Nat) (now : Uuid → UInt16 → Nat)
    (cid : Uuid) :
    HashMap.get (t.sweep timeout now) cid =
      ((HashMap.get t cid).map fun universes =>
        universes.retain fun u s => !timedOut timeout s (now cid u)).filter (!·.isEmpty) := by
  unfold SeqTable.sweep
  rw [HashMap.get_retain, HashMap.get_mapVal]

theorem SeqTable.isSome_of_sweep {t : SeqTable} {timeout : Nat} {now : Uuid → UInt16 → Nat}
    {cid : Uuid} (h : (HashMap.get (t.sweep timeout now) cid).isSome) :
    (HashMap.get t cid).isSome := by
  rw [SeqTable.get_sweep] at h
  cases hm : HashMap.get t cid with
  | none =>
    rw [hm] at h
    exact absurd h (by simp)
  | some universes => rfl

/-- **The silent sweep forgets the entries that have timed out**, and no others. -/
theorem SeqTable.lookup_sweep (t : SeqTable) (timeout : Nat)
    (now : Uuid → UInt16 → Nat) (cid : Uuid) (u : UInt16) :
    (t.sweep timeout now).lookup cid u =
      (t.lookup cid u).filter fun s => !timedOut timeout s (now cid u) := by
  unfold SeqTable.lookup
  rw [SeqTable.get_sweep]
  cases hm : HashMap.get t cid with
  | none => rfl
  | some universes =>
    have hget : (universes.retain fun u s => !timedOut timeout s (now cid u)).get u =
        (universes.get u).filter fun s => !timedOut timeout s (now cid u) :=
      HashMap.get_retain _ _ _
    rw [Option.map_some, Option.bind_some, ← hget]
    cases he : (universes.retain fun u s => !timedOut timeout s (now cid u)).isEmpty with
    | false => rw [Option.filter_some_pos (by simp [he]), Option.bind_some]
    | true =>
      rw [Option.filter_some_neg (by simp [he]), Option.bind_none, HashMap.isEmpty_iff.mp he u]

theorem SeqTable.lookup_of_sweep {t : SeqTable} {timeout : Nat} {now : Uuid → UInt16 → Nat}
    {cid : Uuid} {u : UInt16} {s : TimedStampedSeqNo}
    (h : (t.sweep timeout now).lookup cid u = some s) : t.lookup cid u = some s := by
  rw [SeqTable.lookup_sweep, Option.filter_eq_some_iff] at h
  exact h.1

/-! ## `check_seq_number` -/

/-- `sequence_number.wrapping_sub(expected) as i8 as isize`. -/
def seqDiff (sequenceNumber expected : UInt8) : Int :=
  (sequenceNumber - expected).toInt8.toInt

/-- The window of out-of-order packets. -/
def discards (sequenceNumber expected : UInt8) : Prop :=
  seqDiff sequenceNumber expected ≤ e131SeqDiffDiscardUpperBound ∧
    seqDiff sequenceNumber expected > e131SeqDiffDiscardLowerBound

instance (sequenceNumber expected : UInt8) : Decidable (discards sequenceNumber expected) :=
  inferInstanceAs (Decidable (_ ∧ _))

/-- The block of `check_seq_number` that adds a source not received from before. -/
def addSource (sourceLimit : Option Nat) (cid : Uuid) : Method SeqTable SacnError Unit := do
  let t ← Method.get
  if (HashMap.get t cid).isNone then
    if sourceLimit.all (t.len < ·) then Method.set (HashMap.insert t cid ∅)
    else Method.throw (.sourcesExceededError t.len)

/-- `expected_seq` of `check_seq_number`: the entry of the stream, or the number before the
packet's. -/
def expectedSeq (cid : Uuid) (sequenceNumber : UInt8) (uni : UInt16) (amb : Ambient) :
    Method SeqTable SacnError TimedStampedSeqNo := do
  let t ← Method.get
  match HashMap.get t cid with
  | some src => match src.get uni with
    | some s => return s
    | none => return { sequenceNumber := sequenceNumber - 1, lastRecv := amb.stamp }
  | none => Method.panic

/-- The last block of `check_seq_number`: the packet's number replaces the old one. -/
def storeSeq (cid : Uuid) (uni : UInt16) (s : TimedStampedSeqNo) :
    Method SeqTable SacnError Unit := do
  let t ← Method.get
  match HashMap.get t cid with
  | some src => Method.set (HashMap.insert t cid (src.insert uni s))
  | none => Method.panic

/-- `check_seq_number`. -/
def checkSeqNumber (sourceLimit : Option Nat) (cid : Uuid) (sequenceNumber : UInt8)
    (uni : UInt16) (announceTimeout : Bool) (amb : Ambient) : Method SeqTable SacnError Unit := do
  checkTimeouts e131NetworkDataLossTimeout announceTimeout amb
  addSource sourceLimit cid
  let expected ← expectedSeq cid sequenceNumber uni amb
  Method.throwIf (discards sequenceNumber expected.sequenceNumber)
    (.outOfSequence sequenceNumber expected.sequenceNumber
      (seqDiff sequenceNumber expected.sequenceNumber))
  storeSeq cid uni { sequenceNumber, lastRecv := amb.stamp }

/-- The source of a packet has a place in the table. -/
def SeqTable.HasRoom (t : SeqTable) (sourceLimit : Option Nat) (cid : Uuid) : Prop :=
  (HashMap.get t cid).isSome ∨ sourceLimit.all (t.len < ·) = true

/-- The verdict on a packet, given what is remembered of its stream. -/
def verdict (remembered : Option TimedStampedSeqNo) (sequenceNumber : UInt8) :
    Outcome SacnError Unit :=
  match remembered with
  | none => .ok ()
  | some s =>
    if discards sequenceNumber s.sequenceNumber then
      .err (.outOfSequence sequenceNumber s.sequenceNumber
        (seqDiff sequenceNumber s.sequenceNumber))
    else .ok ()

/-- The number before the packet's own never puts it out of order. -/
theorem not_discards_first (sequenceNumber : UInt8) :
    ¬ discards sequenceNumber (sequenceNumber - 1) := by
  have h : sequenceNumber - (sequenceNumber - 1) = 1 := by
    rw [← UInt8.toNat_inj, UInt8.toNat_sub, UInt8.toNat_sub]
    have h1 : (1 : UInt8).toNat = 1 := rfl
    have hlt := sequenceNumber.toNat_lt
    omega
  unfold discards seqDiff
  rw [h]
  decide

theorem SeqTable.lookup_insert (t : SeqTable) (cid cid' : Uuid)
    (universes : HashMap UInt16 TimedStampedSeqNo) (u : UInt16) :
    SeqTable.lookup (HashMap.insert t cid universes) cid' u =
      if cid' = cid then universes.get u else t.lookup cid' u := by
  unfold SeqTable.lookup
  rw [HashMap.get_insert]
  split <;> rfl

/-- What a check leaves in the table, when the packet's source has a place in it. -/
def SeqTable.record (t : SeqTable) (cid : Uuid) (uni : UInt16) (s : TimedStampedSeqNo) :
    SeqTable :=
  HashMap.insert t cid (((HashMap.get t cid).getD ∅).insert uni s)

theorem SeqTable.lookup_record (t : SeqTable) (cid cid' : Uuid) (uni u : UInt16)
    (s : TimedStampedSeqNo) :
    (t.record cid uni s).lookup cid' u =
      if cid' = cid ∧ u = uni then some s else t.lookup cid' u := by
  unfold SeqTable.record
  rw [SeqTable.lookup_insert, HashMap.get_insert]
  by_cases hc : cid' = cid
  · subst hc
    by_cases hu : u = uni
    · rw [if_pos rfl, if_pos hu, if_pos ⟨rfl, hu⟩]
    · rw [if_pos rfl, if_neg hu, if_neg fun h => hu h.2]
      unfold SeqTable.lookup
      cases HashMap.get t cid' <;> rfl
  · rw [if_neg hc, if_neg fun h => hc h.1]

/-- The table once the packet's source is in it. -/
def SeqTable.withSource (t : SeqTable) (cid : Uuid) : SeqTable :=
  if (HashMap.get t cid).isNone then HashMap.insert t cid ∅ else t

theorem addSource_run {sourceLimit : Option Nat} {cid : Uuid} {t : SeqTable}
    (hroom : t.HasRoom sourceLimit cid) :
    (addSource sourceLimit cid).run t = (.ok (), t.withSource cid) := by
  unfold addSource SeqTable.withSource
  rw [Method.run_bind_of_ok (Method.run_get t)]
  rcases hroom with h | h
  · have hn : ¬ (HashMap.get t cid).isNone = true := by
      rw [← Option.not_isSome, h]
      simp
    rw [if_neg hn, if_neg hn, Method.run_pure]
  · rw [h]
    split <;> rfl

theorem SeqTable.get_withSource (t : SeqTable) (cid : Uuid) :
    HashMap.get (t.withSource cid) cid = some ((HashMap.get t cid).getD ∅) := by
  unfold SeqTable.withSource
  cases hm : HashMap.get t cid with
  | none => simp
  | some src => simpa using hm

theorem expectedSeq_run {cid : Uuid} {sequenceNumber : UInt8} {uni : UInt16} {amb : Ambient}
    {t : SeqTable} :
    (expectedSeq cid sequenceNumber uni amb).run (t.withSource cid) =
      (.ok ((t.lookup cid uni).getD
        { sequenceNumber := sequenceNumber - 1, lastRecv := amb.stamp }), t.withSource cid) := by
  have hlookup : ((HashMap.get t cid).getD ∅).get uni = t.lookup cid uni := by
    unfold SeqTable.lookup
    cases HashMap.get t cid <;> rfl
  unfold expectedSeq
  rw [Method.run_bind_of_ok (Method.run_get _), SeqTable.get_withSource]
  simp only [hlookup]
  cases t.lookup cid uni <;> rfl

theorem storeSeq_run {cid : Uuid} {uni : UInt16} {s : TimedStampedSeqNo} {t : SeqTable} :
    (storeSeq cid uni s).run (t.withSource cid) = (.ok (), t.record cid uni s) := by
  unfold storeSeq SeqTable.record
  rw [Method.run_bind_of_ok (Method.run_get _), SeqTable.get_withSource]
  simp only [Method.run_set]
  unfold SeqTable.withSource
  split
  · exact congrArg _ (Finmap.insert_insert t)
  · rfl

/-- **A check judges a packet by what the swept table remembers of its stream**, and on acceptance
remembers the packet's number. -/
theorem checkSeqNumber_run {sourceLimit : Option Nat} {cid : Uuid} {sequenceNumber : UInt8}
    {uni : UInt16} {announceTimeout : Bool} {amb : Ambient} {t t' : SeqTable}
    (hsweep : (checkTimeouts e131NetworkDataLossTimeout announceTimeout amb).run t = (.ok (), t'))
    (hroom : t'.HasRoom sourceLimit cid) :
    (checkSeqNumber sourceLimit cid sequenceNumber uni announceTimeout amb).run t =
      (verdict (t'.lookup cid uni) sequenceNumber,
        if verdict (t'.lookup cid uni) sequenceNumber = .ok () then
          t'.record cid uni { sequenceNumber, lastRecv := amb.stamp }
        else t'.withSource cid) := by
  unfold checkSeqNumber
  rw [Method.run_bind_of_ok hsweep, Method.run_bind_of_ok (addSource_run hroom),
    Method.run_bind_of_ok expectedSeq_run]
  have haccept : ∀ s : TimedStampedSeqNo, ¬ discards sequenceNumber s.sequenceNumber →
      (do Method.throwIf (discards sequenceNumber s.sequenceNumber)
            (SacnError.outOfSequence sequenceNumber s.sequenceNumber
              (seqDiff sequenceNumber s.sequenceNumber))
          storeSeq cid uni { sequenceNumber, lastRecv := amb.stamp }).run (t'.withSource cid) =
        (.ok (), t'.record cid uni { sequenceNumber, lastRecv := amb.stamp }) := by
    intro s hs
    rw [Method.run_bind_of_ok (Method.run_throwIf_neg hs _ _), storeSeq_run]
  cases hl : t'.lookup cid uni with
  | none => exact haccept _ (not_discards_first sequenceNumber)
  | some s =>
    unfold verdict
    by_cases hd : discards sequenceNumber s.sequenceNumber
    · simp only [if_pos hd]
      exact Method.run_bind_of_err (Method.run_throwIf_pos hd _ _) _
    · simp only [if_neg hd]
      exact haccept s hd

/-- A rejected packet leaves every entry as the sweep left it. -/
theorem SeqTable.lookup_withSource (t : SeqTable) (cid c : Uuid) (u : UInt16) :
    (t.withSource cid).lookup c u = t.lookup c u := by
  unfold SeqTable.withSource
  split
  · rename_i h
    rw [SeqTable.lookup_insert]
    split
    · rename_i hc
      unfold SeqTable.lookup
      rw [hc, Option.isNone_iff_eq_none.mp h]
      rfl
    · rfl
  · rfl

/-! ### Room for a source -/

/-- Without the source, the table has fewer sources than the limit. -/
def SeqTable.Room (t : SeqTable) (sourceLimit : Option Nat) (cid : Uuid) : Prop :=
  sourceLimit.all ((HashMap.remove t cid).len < ·) = true

theorem SeqTable.Room.hasRoom {t : SeqTable} {sourceLimit : Option Nat} {cid : Uuid}
    (h : t.Room sourceLimit cid) : t.HasRoom sourceLimit cid := by
  cases hget : HashMap.get t cid with
  | some universes => exact .inl (by rw [hget]; rfl)
  | none =>
    have hsame : HashMap.remove t cid = t := by
      refine HashMap.ext fun k => ?_
      rw [HashMap.get_remove]
      split
      · rename_i hk
        rw [hk, hget]
      · rfl
    unfold Room at h
    rw [hsame] at h
    exact .inr h

/-- A table whose other sources are sources of a table with room has room. -/
theorem SeqTable.Room.mono {t t' : SeqTable} {sourceLimit : Option Nat} {cid : Uuid}
    (h : t.Room sourceLimit cid)
    (hsub : ∀ c, c ≠ cid → (HashMap.get t' c).isSome → (HashMap.get t c).isSome) :
    t'.Room sourceLimit cid := by
  have hle : (HashMap.remove t' cid).len ≤ (HashMap.remove t cid).len := by
    refine HashMap.len_le fun c => ?_
    rw [HashMap.get_remove, HashMap.get_remove]
    split
    · exact id
    · rename_i hc
      exact hsub c hc
  unfold Room at h ⊢
  cases sourceLimit with
  | none => rfl
  | some limit =>
    have hlt : (HashMap.remove t cid).len < limit := of_decide_eq_true h
    exact decide_eq_true (hle.trans_lt hlt)

theorem SeqTable.Room.sweep {t : SeqTable} {sourceLimit : Option Nat} {cid : Uuid}
    (h : t.Room sourceLimit cid) (timeout : Nat) (now : Uuid → UInt16 → Nat) :
    (t.sweep timeout now).Room sourceLimit cid := by
  exact h.mono fun c _ hc => SeqTable.isSome_of_sweep hc

theorem SeqTable.Room.record {t : SeqTable} {sourceLimit : Option Nat} {cid : Uuid}
    (h : t.Room sourceLimit cid) (uni : UInt16) (s : TimedStampedSeqNo) :
    (t.record cid uni s).Room sourceLimit cid := by
  refine h.mono fun c hc hsome => ?_
  unfold SeqTable.record at hsome
  rwa [HashMap.get_insert, if_neg hc] at hsome

/-- **A packet that is not discarded is accepted**, when timeouts are not announced and there is
room for its source. -/
theorem checkSeqNumber_accepted {sourceLimit : Option Nat} {cid : Uuid} {sequenceNumber : UInt8}
    {uni : UInt16} {amb : Ambient} {t : SeqTable}
    (haccept : ∀ s, t.lookup cid uni = some s → ¬ discards sequenceNumber s.sequenceNumber)
    (hroom : t.Room sourceLimit cid) :
    (checkSeqNumber sourceLimit cid sequenceNumber uni false amb).run t =
      (.ok (), (t.sweep e131NetworkDataLossTimeout amb.sweep).record cid uni
        { sequenceNumber, lastRecv := amb.stamp }) := by
  have hverdict : verdict ((t.sweep e131NetworkDataLossTimeout amb.sweep).lookup cid uni)
      sequenceNumber = .ok () := by
    rw [SeqTable.lookup_sweep]
    cases hs : (t.lookup cid uni).filter fun s =>
        !timedOut e131NetworkDataLossTimeout s (amb.sweep cid uni) with
    | none => rfl
    | some s => exact if_neg (haccept s (Option.filter_eq_some_iff.mp hs).1)
  rw [checkSeqNumber_run (checkTimeouts_silent _ amb t) (hroom.sweep _ _).hasRoom, hverdict,
    if_pos rfl]

/-- The first packet of a stream. -/
theorem checkSeqNumber_first {sourceLimit : Option Nat} {cid : Uuid} {sequenceNumber : UInt8}
    {uni : UInt16} {amb : Ambient} {t : SeqTable} (hnew : t.lookup cid uni = none)
    (hroom : t.Room sourceLimit cid) :
    (checkSeqNumber sourceLimit cid sequenceNumber uni false amb).run t =
      (.ok (), (t.sweep e131NetworkDataLossTimeout amb.sweep).record cid uni
        { sequenceNumber, lastRecv := amb.stamp }) := by
  refine checkSeqNumber_accepted (fun s hs => ?_) hroom
  rw [hnew] at hs
  exact absurd hs (by simp)

/-! ## `remove_source_universe_seq` -/

/-- `remove_source_universe_seq`. -/
def removeSourceUniverseSeq (srcCid : Uuid) (uni : UInt16) : Method SeqTable SacnError Unit := do
  let t ← Method.get
  match HashMap.get t srcCid with
  | none => Method.throw (.sourceNotFound srcCid)
  | some universes =>
    match universes.get uni with
    | none => Method.throw (.universeNotFound uni)
    | some _ =>
      let universes := universes.remove uni
      Method.set (if universes.isEmpty then HashMap.remove t srcCid
        else HashMap.insert t srcCid universes)

/-! ## `SequenceNumbering` -/

/-- `SequenceNumbering`: one table for each packet type that is numbered. -/
structure SequenceNumbering where
  dataSequences : SeqTable
  syncSequences : SeqTable

namespace SequenceNumbering

/-- `SequenceNumbering::new`. -/
def new : SequenceNumbering := { dataSequences := ∅, syncSequences := ∅ }

/-- A method of `data_sequences`. -/
def onData {α : Type} (x : Method SeqTable SacnError α) : Method SequenceNumbering SacnError α :=
  Method.onField dataSequences (fun n t => { n with dataSequences := t }) x

/-- A method of `sync_sequences`. -/
def onSync {α : Type} (x : Method SeqTable SacnError α) : Method SequenceNumbering SacnError α :=
  Method.onField syncSequences (fun n t => { n with syncSequences := t }) x

/-- `SequenceNumbering::check_timeouts`. -/
def checkTimeouts (announceTimeout : Bool) (data sync : Ambient) :
    Method SequenceNumbering SacnError Unit := do
  onData (Sacn.checkTimeouts e131NetworkDataLossTimeout announceTimeout data)
  onSync (Sacn.checkTimeouts e131NetworkDataLossTimeout announceTimeout sync)

/-- `SequenceNumbering::check_data_seq_number`. -/
def checkDataSeqNumber (sourceLimit : Option Nat) (cid : Uuid) (sequenceNumber : UInt8)
    (uni : UInt16) (announceTimeout : Bool) (amb : Ambient) :
    Method SequenceNumbering SacnError Unit :=
  onData (checkSeqNumber sourceLimit cid sequenceNumber uni announceTimeout amb)

/-- `SequenceNumbering::check_sync_seq_number`. -/
def checkSyncSeqNumber (sourceLimit : Option Nat) (cid : Uuid) (sequenceNumber : UInt8)
    (syncUni : UInt16) (announceTimeout : Bool) (amb : Ambient) :
    Method SequenceNumbering SacnError Unit :=
  onSync (checkSeqNumber sourceLimit cid sequenceNumber syncUni announceTimeout amb)

/-- `SequenceNumbering::remove_seq_numbers`: the sync table is not reached when the data table does
not have the entry. -/
def removeSeqNumbers (srcCid : Uuid) (uni : UInt16) : Method SequenceNumbering SacnError Unit := do
  onData (removeSourceUniverseSeq srcCid uni)
  onSync (removeSourceUniverseSeq srcCid uni)

/-- `SequenceNumbering::clear`. -/
def clear : Method SequenceNumbering SacnError Unit :=
  Method.set { dataSequences := ∅, syncSequences := ∅ }

end SequenceNumbering

end Sacn
