import Sacn.Receive.Sequence

/-!
# Streams are numbered independently

A stream is a packet type, a source and a universe. `streamStep` is the automaton of one stream
alone, stated without tables: it remembers the number and time of the last accepted packet, forgets
it once it is `E131_NETWORK_DATA_LOSS_TIMEOUT` old, and rejects a packet whose signed distance to
the remembered number lies in `(-20, 0]`.

* `remembered_checkCall`: what one check, of any stream, does to what is remembered of a stream.
* **`verdicts_eq_automaton`**: in every interleaving of checks with a non-decreasing clock, the
  verdicts on each stream's packets are those of its automaton run on these packets alone.
-/

namespace Sacn

open Rust

/-- A call of `check_data_seq_number` or `check_sync_seq_number`. -/
structure SeqCall where
  stream : Stream
  sequenceNumber : UInt8
  amb : Ambient

/-! ## The automaton of one stream -/

/-- The signed 8-bit difference of two sequence numbers. -/
def signedDiff (a b : UInt8) : Int := Int.bmod ((a.toNat : Int) - b.toNat) 256

/-- One packet of the stream, when the stream's entry is looked at at `now` and the packet's number
would be stored at `stamp`: whether it is accepted, and what is remembered after it. -/
def streamStep (remembered : Option TimedStampedSeqNo) (sequenceNumber : UInt8)
    (now stamp : Nat) : Bool × Option TimedStampedSeqNo :=
  match remembered.filter fun s => now - s.lastRecv < e131NetworkDataLossTimeout with
  | none => (true, some { sequenceNumber, lastRecv := stamp })
  | some s =>
    if -20 < signedDiff sequenceNumber s.sequenceNumber ∧
        signedDiff sequenceNumber s.sequenceNumber ≤ 0 then (false, some s)
    else (true, some { sequenceNumber, lastRecv := stamp })

/-- The automaton's decisions on the packets of its stream. -/
def streamRun : Option TimedStampedSeqNo → List SeqCall → List Bool
  | _, [] => []
  | remembered, c :: calls =>
    let next := streamStep remembered c.sequenceNumber
      (c.amb.sweep c.stream.cid c.stream.uni) c.amb.stamp
    next.1 :: streamRun next.2 calls

/-! ## The code's run -/

/-- One call, without a source limit and without announcing timeouts. -/
def checkCall (c : SeqCall) : Method SequenceNumbering SacnError Unit :=
  match c.stream.kind with
  | .data => SequenceNumbering.checkDataSeqNumber none c.stream.cid c.sequenceNumber c.stream.uni
      false c.amb
  | .sync => SequenceNumbering.checkSyncSeqNumber none c.stream.cid c.sequenceNumber c.stream.uni
      false c.amb

/-- How each call of a run ends. -/
def verdicts : SequenceNumbering → List SeqCall → List (Outcome SacnError Unit)
  | _, [] => []
  | n, c :: calls => ((checkCall c).run n).1 :: verdicts ((checkCall c).run n).2 calls

/-- What is numbered after a run. -/
def afterCalls : SequenceNumbering → List SeqCall → SequenceNumbering
  | n, [] => n
  | n, c :: calls => afterCalls ((checkCall c).run n).2 calls

/-- The calls on one stream. -/
def onStream (k : Stream) (calls : List SeqCall) : List SeqCall :=
  calls.filter fun c => c.stream = k

theorem onStream_cons_of_eq {k : Stream} {c : SeqCall} (h : c.stream = k) (calls : List SeqCall) :
    onStream k (c :: calls) = c :: onStream k calls := by
  unfold onStream
  rw [List.filter_cons, if_pos (decide_eq_true h)]

theorem onStream_cons_of_ne {k : Stream} {c : SeqCall} (h : c.stream ≠ k) (calls : List SeqCall) :
    onStream k (c :: calls) = onStream k calls := by
  unfold onStream
  rw [List.filter_cons, if_neg (by simpa using h)]

/-- `Ok` accepts and `OutOfSequence` rejects; nothing else is a decision. -/
def decision : Outcome SacnError Unit → Option Bool
  | .ok () => some true
  | .err (.outOfSequence _ _ _) => some false
  | _ => none

/-- The clock does not go back: a call reads it to sweep, then to store, before the next call. -/
structure ClockRuns (calls : List SeqCall) : Prop where
  sweep_le_stamp : ∀ c ∈ calls, ∀ cid u, c.amb.sweep cid u ≤ c.amb.stamp
  stamp_le_sweep : calls.Pairwise fun c d => ∀ cid u, c.amb.stamp ≤ d.amb.sweep cid u

/-- The table a stream is numbered in. -/
def SequenceNumbering.table (n : SequenceNumbering) : PacketKind → SeqTable
  | .data => n.dataSequences
  | .sync => n.syncSequences

/-- What is remembered of a stream. -/
def SequenceNumbering.remembered (n : SequenceNumbering) (k : Stream) :
    Option TimedStampedSeqNo :=
  (n.table k.kind).lookup k.cid k.uni

/-! ## One call -/

/-- The wrapping subtraction, read as `i8`, is the signed difference. -/
theorem seqDiff_eq_signedDiff (a b : UInt8) : seqDiff a b = signedDiff a b := by
  have hsub : (a - b).toNat = (2 ^ 8 - b.toNat + a.toNat) % 2 ^ 8 := UInt8.toNat_sub a b
  have ha := a.toNat_lt
  have hb := b.toNat_lt
  have hint : seqDiff a b = Int.bmod (a - b).toNat (2 ^ 8) :=
    BitVec.toInt_eq_toNat_bmod (a - b).toBitVec
  rw [hint, hsub, signedDiff]
  simp only [Int.bmod]
  omega

theorem discards_iff {a b : UInt8} :
    discards a b ↔ -20 < signedDiff a b ∧ signedDiff a b ≤ 0 := by
  unfold discards
  rw [seqDiff_eq_signedDiff]
  exact and_comm

/-- What the sweep looks for. -/
theorem not_timedOut (s : TimedStampedSeqNo) (now : Nat) :
    (!timedOut e131NetworkDataLossTimeout s now) =
      decide (now - s.lastRecv < e131NetworkDataLossTimeout) := by
  unfold timedOut elapsed
  rw [← decide_not]
  congr 1
  exact propext not_le

/-- The entry that is still remembered at `now`. -/
def fresh (remembered : Option TimedStampedSeqNo) (now : Nat) : Option TimedStampedSeqNo :=
  remembered.filter fun s => now - s.lastRecv < e131NetworkDataLossTimeout

theorem lookup_sweep_fresh (t : SeqTable) (now : Uuid → UInt16 → Nat) (cid : Uuid)
    (u : UInt16) :
    (t.sweep e131NetworkDataLossTimeout now).lookup cid u = fresh (t.lookup cid u) (now cid u) := by
  rw [SeqTable.lookup_sweep]
  simp only [not_timedOut]
  rfl

/-- What was fresh at an earlier reading decides what is fresh now. -/
theorem fresh_fresh {remembered : Option TimedStampedSeqNo} {now now' : Nat}
    (h : now ≤ now') : fresh (fresh remembered now) now' = fresh remembered now' := by
  cases remembered with
  | none => rfl
  | some s =>
    unfold fresh
    by_cases hs : now - s.lastRecv < e131NetworkDataLossTimeout
    · rw [Option.filter_some_pos (by simpa using hs)]
    · have hs' : ¬ now' - s.lastRecv < e131NetworkDataLossTimeout := by omega
      rw [Option.filter_some_neg (by simpa using hs), Option.filter_some_neg (by simpa using hs')]
      rfl

theorem streamStep_eq (remembered : Option TimedStampedSeqNo) (sequenceNumber : UInt8)
    (now stamp : Nat) :
    decision (verdict (fresh remembered now) sequenceNumber) =
        some (streamStep remembered sequenceNumber now stamp).1 ∧
      (streamStep remembered sequenceNumber now stamp).2 =
        if verdict (fresh remembered now) sequenceNumber = .ok () then
          some { sequenceNumber, lastRecv := stamp }
        else fresh remembered now := by
  unfold streamStep fresh
  cases remembered.filter fun s => now - s.lastRecv < e131NetworkDataLossTimeout with
  | none => exact ⟨rfl, rfl⟩
  | some s =>
    by_cases hd : discards sequenceNumber s.sequenceNumber
    · have hv : verdict (some s) sequenceNumber = .err (.outOfSequence sequenceNumber
          s.sequenceNumber (seqDiff sequenceNumber s.sequenceNumber)) := if_pos hd
      rw [hv, if_neg (by simp)]
      simp only [if_pos (discards_iff.mp hd), decision, and_self]
    · have hv : verdict (some s) sequenceNumber = .ok () := if_neg hd
      rw [hv, if_pos rfl]
      simp only [if_neg fun h => hd (discards_iff.mpr h), decision, and_self]

/-- The table a check works on after its sweep. -/
theorem checkSeqNumber_silent (cid : Uuid) (sequenceNumber : UInt8) (uni : UInt16)
    (amb : Ambient) (t : SeqTable) :
    ((checkSeqNumber none cid sequenceNumber uni false amb).run t).1 =
        verdict (fresh (t.lookup cid uni) (amb.sweep cid uni)) sequenceNumber ∧
      ∀ c u, ((checkSeqNumber none cid sequenceNumber uni false amb).run t).2.lookup c u =
        if (c = cid ∧ u = uni) ∧
            verdict (fresh (t.lookup cid uni) (amb.sweep cid uni)) sequenceNumber = .ok () then
          some { sequenceNumber, lastRecv := amb.stamp }
        else fresh (t.lookup c u) (amb.sweep c u) := by
  have hrun : (checkSeqNumber none cid sequenceNumber uni false amb).run t = _ :=
    checkSeqNumber_run (checkTimeouts_silent e131NetworkDataLossTimeout amb t) (.inr rfl)
  rw [hrun, lookup_sweep_fresh]
  refine ⟨rfl, fun c u => ?_⟩
  simp only
  split
  · rename_i hok
    rw [SeqTable.lookup_record, lookup_sweep_fresh]
    simp only [hok, and_true]
  · rename_i hno
    rw [SeqTable.lookup_withSource, lookup_sweep_fresh, if_neg fun h => hno h.2]

/-- **One check**: its verdict is about its own stream, and what is remembered of every stream of
its packet type is swept. -/
theorem remembered_checkCall (n : SequenceNumbering) (c : SeqCall) :
    ((checkCall c).run n).1 =
        verdict (fresh (n.remembered c.stream) (c.amb.sweep c.stream.cid c.stream.uni))
          c.sequenceNumber ∧
      ∀ k, ((checkCall c).run n).2.remembered k =
        if k = c.stream ∧ ((checkCall c).run n).1 = .ok () then
          some { sequenceNumber := c.sequenceNumber, lastRecv := c.amb.stamp }
        else if k.kind = c.stream.kind then fresh (n.remembered k) (c.amb.sweep k.cid k.uni)
        else n.remembered k := by
  obtain ⟨⟨kind, cid, uni⟩, seq, amb⟩ := c
  have hstream : ∀ kind' cid' uni', (⟨kind', cid', uni'⟩ : Stream) = ⟨kind, cid, uni⟩ ↔
      kind' = kind ∧ cid' = cid ∧ uni' = uni := fun _ _ _ => Stream.mk.injEq .. ▸ Iff.rfl
  cases kind with
  | data =>
    obtain ⟨hv, hl⟩ := checkSeqNumber_silent cid seq uni amb n.dataSequences
    refine ⟨hv, ?_⟩
    rintro ⟨kind', cid', uni'⟩
    cases kind' with
    | data =>
      have h := hl cid' uni'
      rw [← hv] at h
      simp only [hstream, true_and, if_true]
      exact h
    | sync => simp only [hstream, reduceCtorEq, false_and, if_false]; rfl
  | sync =>
    obtain ⟨hv, hl⟩ := checkSeqNumber_silent cid seq uni amb n.syncSequences
    refine ⟨hv, ?_⟩
    rintro ⟨kind', cid', uni'⟩
    cases kind' with
    | data => simp only [hstream, reduceCtorEq, false_and, if_false]; rfl
    | sync =>
      have h := hl cid' uni'
      rw [← hv] at h
      simp only [hstream, true_and, if_true]
      exact h

/-! ## Whole runs -/

/-- The tables and the automaton remember the same of a stream, as far as the calls to come can
tell. -/
def Agrees (k : Stream) (n : SequenceNumbering) (remembered : Option TimedStampedSeqNo)
    (calls : List SeqCall) : Prop :=
  ∀ c ∈ calls, fresh (n.remembered k) (c.amb.sweep k.cid k.uni) =
    fresh remembered (c.amb.sweep k.cid k.uni)

/-- A call of the stream is decided as the automaton decides it. -/
theorem Agrees.own {k : Stream} {n : SequenceNumbering} {remembered : Option TimedStampedSeqNo}
    {c : SeqCall} {calls : List SeqCall} (h : Agrees k n remembered (c :: calls))
    (hk : c.stream = k) :
    decision ((checkCall c).run n).1 =
        some (streamStep remembered c.sequenceNumber (c.amb.sweep k.cid k.uni) c.amb.stamp).1 ∧
      Agrees k ((checkCall c).run n).2
        (streamStep remembered c.sequenceNumber (c.amb.sweep k.cid k.uni) c.amb.stamp).2 calls := by
  subst hk
  obtain ⟨hv, hr⟩ := remembered_checkCall n c
  obtain ⟨hdec, hnext⟩ := streamStep_eq remembered c.sequenceNumber
    (c.amb.sweep c.stream.cid c.stream.uni) c.amb.stamp
  have hc := h c List.mem_cons_self
  rw [hc] at hv
  refine ⟨by rw [hv, hdec], fun d _ => ?_⟩
  rw [hr, hnext, hv]
  simp only [true_and, if_true, hc]

/-- A call of another stream makes no difference. -/
theorem Agrees.other {k : Stream} {n : SequenceNumbering} {remembered : Option TimedStampedSeqNo}
    {c : SeqCall} {calls : List SeqCall} (h : Agrees k n remembered (c :: calls))
    (hclock : ∀ d ∈ calls, c.amb.sweep k.cid k.uni ≤ d.amb.sweep k.cid k.uni)
    (hk : c.stream ≠ k) : Agrees k ((checkCall c).run n).2 remembered calls := by
  intro d hd
  rw [(remembered_checkCall n c).2 k, if_neg fun hc => hk hc.1.symm]
  split
  · rw [fresh_fresh (hclock d hd)]
    exact h d (List.mem_cons_of_mem c hd)
  · exact h d (List.mem_cons_of_mem c hd)

theorem ClockRuns.tail {c : SeqCall} {calls : List SeqCall} (h : ClockRuns (c :: calls)) :
    ClockRuns calls :=
  ⟨fun d hd => h.sweep_le_stamp d (List.mem_cons_of_mem c hd),
    (List.pairwise_cons.mp h.stamp_le_sweep).2⟩

theorem ClockRuns.le {c : SeqCall} {calls : List SeqCall} (h : ClockRuns (c :: calls))
    (cid : Uuid) (u : UInt16) : ∀ d ∈ calls, c.amb.sweep cid u ≤ d.amb.sweep cid u := by
  intro d hd
  exact le_trans (h.sweep_le_stamp c List.mem_cons_self cid u)
    ((List.pairwise_cons.mp h.stamp_le_sweep).1 d hd cid u)

/-- The decisions of a run on the calls of one stream. -/
def decisionsOf (k : Stream) (n : SequenceNumbering) (calls : List SeqCall) :
    List (Option Bool) :=
  ((calls.zip (verdicts n calls)).filter fun p => p.1.stream = k).map fun p => decision p.2

theorem decisionsOf_cons (k : Stream) (n : SequenceNumbering) (c : SeqCall)
    (calls : List SeqCall) :
    decisionsOf k n (c :: calls) =
      (if c.stream = k then [decision ((checkCall c).run n).1] else []) ++
        decisionsOf k ((checkCall c).run n).2 calls := by
  unfold decisionsOf
  rw [verdicts, List.zip_cons_cons, List.filter_cons]
  by_cases hk : c.stream = k
  · rw [if_pos (decide_eq_true hk), if_pos hk]
    rfl
  · rw [if_neg (by simpa using hk), if_neg hk]
    rfl

theorem decisionsOf_of_agrees {k : Stream} {calls : List SeqCall} (hclock : ClockRuns calls) :
    ∀ {n : SequenceNumbering} {remembered : Option TimedStampedSeqNo},
      Agrees k n remembered calls →
      decisionsOf k n calls = (streamRun remembered (onStream k calls)).map some := by
  induction calls with
  | nil => intro n remembered _; rfl
  | cons c calls ih =>
    intro n remembered h
    have hle := hclock.le k.cid k.uni
    rw [decisionsOf_cons]
    by_cases hk : c.stream = k
    · obtain ⟨hdec, hagrees⟩ := h.own hk
      rw [if_pos hk, onStream_cons_of_eq hk, ih hclock.tail hagrees, hdec, streamRun, List.map_cons,
        hk, List.singleton_append]
    · rw [if_neg hk, onStream_cons_of_ne hk, ih hclock.tail (h.other hle hk), List.nil_append]

/-- **Streams are numbered independently.** In every interleaving of checks with a non-decreasing
clock, the decisions on each stream are those of the stream's own automaton. -/
theorem verdicts_eq_automaton (n : SequenceNumbering) {calls : List SeqCall}
    (hclock : ClockRuns calls) (k : Stream) :
    decisionsOf k n calls =
      (streamRun (n.remembered k) (onStream k calls)).map some :=
  decisionsOf_of_agrees hclock fun _ _ => rfl

/-- A call by one source at the clock reading `now`. -/
def sampleCall (kind : PacketKind) (uni : UInt16) (sequenceNumber : UInt8) (now : Nat) :
    SeqCall where
  stream := { kind, cid := .repeated 1, uni }
  sequenceNumber
  amb := { sweep := fun _ _ => now, order := { srcs := [], unis := fun _ => [] }, stamp := now }

/-- Two universes and the sync address of one source: a repeated number is rejected on its own
stream, and accepted there again once it is forgotten. -/
theorem sampleCalls_decisions :
    decisionsOf (sampleCall .data 1 7 0).stream .new
      [sampleCall .data 1 7 0, sampleCall .data 2 7 0, sampleCall .data 1 7 0,
        sampleCall .sync 1 7 0, sampleCall .data 1 7 3000000000] =
      [some true, some false, some true] := by
  have hclock : ClockRuns [sampleCall .data 1 7 0, sampleCall .data 2 7 0,
      sampleCall .data 1 7 0, sampleCall .sync 1 7 0, sampleCall .data 1 7 3000000000] :=
    ⟨by simp [sampleCall], by simp [sampleCall]⟩
  rw [verdicts_eq_automaton .new hclock]
  decide

end Sacn
