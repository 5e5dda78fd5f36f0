import Sacn.Receive.Stream
import Sacn.Source.Datagrams

/-!
# Sequence numbers end to end

The datagrams of a stream that a sender hands to its socket are numbered consecutively modulo 256
(`numbers_after`); the receiver rejects a packet whose signed distance to the last accepted one lies
in `(-20, 0]`. A packet that is `d` places after the last accepted one has distance `d` for
`d < 128` and `d - 256` from there on, so up to 236 places ahead it is accepted, and up to 19 places
behind it is rejected.

* `not_discards_of_follows`, `discards_of_late`: the window, over packet positions.
* **`sender_receiver_numbering`**: over whole runs of both parties, datagrams whose numbers are
  checked in order with at most 235 missing in between are all accepted, and late or repeated ones
  are rejected.
-/

namespace Sacn

open Rust

/-- In the order of sending, packet `j` comes after packet `i`, with at most 235 in between. -/
def Follows (i j : Nat) : Prop := i < j ∧ j - i - 1 ≤ 235

instance (i j : Nat) : Decidable (Follows i j) := inferInstanceAs (Decidable (_ ∧ _))

/-- The checks of a stream are, in order, checks of the numbers at `picked`. -/
structure InOrder (k : Stream) (numbers : List UInt8) (picked : List Nat)
    (checks : List SeqCall) : Prop where
  follows : picked.IsChain Follows
  checked : List.Forall₂ (fun i c => numbers[i]? = some (SeqCall.sequenceNumber c)) picked
    (onStream k checks)

/-! ## The window -/

theorem signedDiff_add (s : UInt8) (i j : Nat) :
    signedDiff (s + UInt8.ofNat i) (s + UInt8.ofNat j) = Int.bmod ((i : Int) - j) 256 := by
  have hnat : ∀ n, (s + UInt8.ofNat n).toNat = (s.toNat + n) % 256 := by
    intro n
    rw [UInt8.toNat_add, UInt8.toNat_ofNat']
    exact Nat.add_mod_mod s.toNat n 256
  unfold signedDiff
  rw [hnat, hnat]
  simp only [Int.bmod]
  omega

/-- The next packets are not out of order. -/
theorem not_discards_of_follows {s : UInt8} {i j : Nat} (h : Follows i j) :
    ¬ discards (s + UInt8.ofNat j) (s + UInt8.ofNat i) := by
  obtain ⟨hlt, hgap⟩ := h
  rw [discards_iff, signedDiff_add]
  simp only [Int.bmod]
  omega

/-- The last 20 packets are out of order. -/
theorem discards_of_late {s : UInt8} {m j : Nat} (hj : j ≤ 19) (hm : j ≤ m) :
    discards (s + UInt8.ofNat (m - j)) (s + UInt8.ofNat m) := by
  rw [discards_iff, signedDiff_add]
  simp only [Int.bmod]
  omega

/-! ## The receiver's side -/

theorem verdict_fresh_ok {remembered : Option TimedStampedSeqNo} {sequenceNumber : UInt8} {now : Nat}
    (h : ∀ t, remembered = some t → ¬ discards sequenceNumber t.sequenceNumber) :
    verdict (fresh remembered now) sequenceNumber = .ok () := by
  cases hf : fresh remembered now with
  | none => rfl
  | some t => exact if_neg (h t (Option.filter_eq_some_iff.mp hf).1)

/-- Packets in order are all accepted, when the last one remembered is in order too. -/
theorem decisionsOf_inOrder {k : Stream} {s : UInt8} {checks : List SeqCall} :
    ∀ {n : SequenceNumbering} {picked : List Nat}, picked.IsChain Follows →
      List.Forall₂ (fun i (c : SeqCall) => c.sequenceNumber = s + UInt8.ofNat i) picked
        (onStream k checks) →
      (∀ t, n.remembered k = some t →
        ∃ m, t.sequenceNumber = s + UInt8.ofNat m ∧ ∀ i ∈ picked.head?, Follows m i) →
      ∀ d ∈ decisionsOf k n checks, d = some true := by
  induction checks with
  | nil => intro n picked _ _ _ d hd; exact absurd hd (by simp [decisionsOf, verdicts])
  | cons c checks ih =>
    intro n picked hchain hnumbers hlast d hd
    obtain ⟨hverdict, hnext⟩ := remembered_checkCall n c
    rw [decisionsOf_cons] at hd
    by_cases hk : c.stream = k
    · rw [onStream_cons_of_eq hk] at hnumbers
      obtain ⟨i, picked, hi, hrest, rfl⟩ := List.forall₂_cons_right_iff.mp hnumbers
      have hok : ((checkCall c).run n).1 = .ok () := by
        rw [hverdict, hk]
        refine verdict_fresh_ok fun t ht => ?_
        obtain ⟨m, hm, hfollows⟩ := hlast t ht
        rw [hm, hi]
        exact not_discards_of_follows (hfollows i rfl)
      rw [if_pos hk, hok] at hd
      rcases List.mem_cons.mp hd with rfl | hd
      · rfl
      · refine ih hchain.tail hrest (fun t ht => ⟨i, ?_, hchain.rel_head?⟩) d hd
        rw [hnext, if_pos ⟨hk.symm, hok⟩] at ht
        rw [← Option.some.inj ht]
        exact hi
    · rw [onStream_cons_of_ne hk] at hnumbers
      rw [if_neg hk, List.nil_append] at hd
      refine ih hchain hnumbers (fun t ht => hlast t ?_) d hd
      rw [hnext, if_neg fun h => hk h.1.symm] at ht
      split at ht
      · exact (Option.filter_eq_some_iff.mp ht).1
      · exact ht

/-- What an accepted check leaves behind. -/
def SeqCall.entry (c : SeqCall) : TimedStampedSeqNo :=
  { sequenceNumber := c.sequenceNumber, lastRecv := c.amb.stamp }

/-- The last accepted packet is what is remembered, as far as a later look can tell. -/
theorem remembered_afterCalls {k : Stream} {now : Nat} {checks : List SeqCall} :
    ∀ {n : SequenceNumbering}, (∀ d ∈ decisionsOf k n checks, d = some true) →
      (∀ c ∈ checks, c.amb.sweep k.cid k.uni ≤ now) →
      fresh ((afterCalls n checks).remembered k) now =
        fresh (((onStream k checks).getLast?.map SeqCall.entry).or (n.remembered k)) now := by
  induction checks with
  | nil => intro n _ _; rfl
  | cons c checks ih =>
    intro n hdec hclock
    obtain ⟨hverdict, hnext⟩ := remembered_checkCall n c
    rw [decisionsOf_cons] at hdec
    unfold afterCalls
    rw [ih (fun d hd => hdec d (List.mem_append_right _ hd))
      fun d hd => hclock d (List.mem_cons_of_mem c hd), hnext]
    by_cases hk : c.stream = k
    · have hok : ((checkCall c).run n).1 = .ok () := by
        have h := hdec _ (List.mem_append_left _ (by rw [if_pos hk]; exact List.mem_singleton_self _))
        rcases hr : ((checkCall c).run n).1 with _ | e | _
        · rfl
        · rw [hr] at h
          cases e <;> simp [decision] at h
        · rw [hr] at h
          simp [decision] at h
      rw [if_pos ⟨hk.symm, hok⟩, onStream_cons_of_eq hk, List.getLast?_cons]
      cases (onStream k checks).getLast? <;> rfl
    · rw [if_neg fun h => hk h.1.symm, onStream_cons_of_ne hk]
      cases (onStream k checks).getLast? with
      | some d => rfl
      | none =>
        simp only [Option.map_none, Option.none_or]
        split
        · exact fresh_fresh (hclock c List.mem_cons_self)
        · rfl

/-- Lists related element by element have related last elements. -/
theorem forall₂_getLast {α β : Type} {r : α → β → Prop} {as : List α} {bs : List β} {a : α} {b : β}
    (h : List.Forall₂ r as bs) (ha : a ∈ as.getLast?) (hb : b ∈ bs.getLast?) : r a b := by
  rw [List.getLast?_eq_head?_reverse] at ha hb
  have hrev := List.forall₂_reverse_iff.mpr h
  generalize as.reverse = as' at ha hrev
  generalize bs.reverse = bs' at hb hrev
  cases hrev with
  | nil => exact absurd ha (by simp)
  | cons hr _ =>
    obtain rfl := Option.some.inj ha
    obtain rfl := Option.some.inj hb
    exact hr

/-! ## Both sides -/

/-- A receiver's checks of a stream, when the numbers come in order: they all accept, and then each
of the last 20 numbers up to the last accepted one is rejected while that one is younger than the
timeout. -/
structure FitTogether (k : Stream) (numbers : List UInt8) (n : SequenceNumbering)
    (picked : List Nat) (checks : List SeqCall) : Prop where
  accepted : ∀ d ∈ decisionsOf k n checks, d = some true
  late : ∀ m ∈ picked.getLast?, ∀ last ∈ (onStream k checks).getLast?, ∀ (late : SeqCall) (j : Nat),
    j ≤ 19 → j ≤ m → late.stream = k → numbers[m - j]? = some late.sequenceNumber →
    (∀ c ∈ checks, c.amb.sweep k.cid k.uni ≤ late.amb.sweep k.cid k.uni) →
    late.amb.sweep k.cid k.uni - last.amb.stamp < e131NetworkDataLossTimeout →
    ∃ seq diff, ((checkCall late).run (afterCalls n checks)).1 =
      .err (.outOfSequence late.sequenceNumber seq diff)

/-- Consecutive numbers fit, from whatever number on. -/
theorem fitTogether_numbersFrom {k : Stream} {s : UInt8} {count : Nat} {n : SequenceNumbering}
    {picked : List Nat} {checks : List SeqCall} (hnew : n.remembered k = none)
    (h : InOrder k (numbersFrom s count) picked checks) :
    FitTogether k (numbersFrom s count) n picked checks := by
  have hnumber : ∀ {i : Nat} {number : UInt8}, (numbersFrom s count)[i]? = some number →
      number = s + UInt8.ofNat i := by
    intro i number hi
    unfold numbersFrom at hi
    rw [List.getElem?_map, Option.map_eq_some_iff] at hi
    obtain ⟨i', hi', rfl⟩ := hi
    obtain ⟨hlt, rfl⟩ := List.getElem?_eq_some_iff.mp hi'
    rw [List.getElem_range]
  have hnumbers := h.checked.imp fun i c hc => hnumber hc
  have haccept : ∀ d ∈ decisionsOf k n checks, d = some true := by
    refine decisionsOf_inOrder h.follows hnumbers fun t ht => ?_
    rw [hnew] at ht
    exact absurd ht (by simp)
  refine ⟨haccept, ?_⟩
  intro m hm last hlast late j hj hjm hstream hlate hclock hyoung
  -- the last check of the stream is of the number at `m`
  have hlastSeq : last.sequenceNumber = s + UInt8.ofNat m :=
    forall₂_getLast (r := fun i c => SeqCall.sequenceNumber c = s + UInt8.ofNat i)
      hnumbers hm hlast
  have hfresh : fresh ((afterCalls n checks).remembered k) (late.amb.sweep k.cid k.uni) =
      some last.entry := by
    rw [remembered_afterCalls haccept hclock, Option.mem_def.mp hlast]
    exact Option.filter_some_pos (decide_eq_true hyoung)
  rw [(remembered_checkCall (afterCalls n checks) late).1, hstream, hfresh]
  refine ⟨last.sequenceNumber, _, if_pos ?_⟩
  rw [hnumber hlate]
  show discards _ last.sequenceNumber
  rw [hlastSeq]
  exact discards_of_late hj hjm

/-- **Sender and receiver numbering fit together.** Over any run of a source that does not terminate
the stream, one datagram of the stream is handed to the socket for each successful call. Over any run
of a receiver that remembers nothing of the stream at the start, the numbers of these datagrams,
checked in order with at most 235 missing between two, are all accepted; then each of the last 20 up
to the last accepted one is rejected while that one is younger than the timeout. -/
theorem sender_receiver_numbering (kind : PacketKind) (uni : UInt16) (src : SacnSourceInternal)
    {calls : List SourceCall} (hterm : ∀ c ∈ calls, ¬ c.Terminates ⟨kind, src.cid, uni⟩) :
    ∃ datagrams, (src.after calls).socket.sent = src.socket.sent ++ datagrams ∧
      (numbersOn kind uni datagrams).length =
        ((sentBy src calls).filter (·.isOn ⟨kind, src.cid, uni⟩)).length ∧
      ∀ (n : SequenceNumbering) (picked : List Nat) (checks : List SeqCall),
        n.remembered ⟨kind, src.cid, uni⟩ = none →
        InOrder ⟨kind, src.cid, uni⟩ (numbersOn kind uni datagrams) picked checks →
        FitTogether ⟨kind, src.cid, uni⟩ (numbersOn kind uni datagrams) n picked checks := by
  obtain ⟨datagrams, hsent, hnumbers⟩ :=
    @numbers_after src.socket.sent ⟨kind, src.cid, uni⟩ calls hterm src [] rfl
      ⟨[], (List.append_nil _).symm, rfl⟩
  rw [List.nil_append] at hnumbers
  refine ⟨datagrams, hsent, ?_, fun n picked checks hnew h => ?_⟩
  · rw [hnumbers]
    unfold numbersFrom
    rw [List.length_map, List.length_range]
  · rw [hnumbers] at h ⊢
    exact fitTogether_numbersFrom hnew h

/-- A source that sends twice on its universe. -/
def twiceCalls : List SourceCall :=
  [.registerUniverse 1, .sendUniverse 1 [0, 255] 100 none 0, .sendUniverse 1 [0, 128] 100 none 0]

/-- Two packets of one universe, both accepted; then the first of them again, one second later. -/
theorem sampleSource_numbering :
    (∀ d ∈ decisionsOf ⟨.data, sampleSource.cid, 1⟩ .new
        [sampleCall .data 1 0 0, sampleCall .data 1 1 0], d = some true) ∧
      ∃ last diff, ((checkCall (sampleCall .data 1 0 1000000000)).run
          (afterCalls .new [sampleCall .data 1 0 0, sampleCall .data 1 1 0])).1 =
        .err (.outOfSequence 0 last diff) := by
  obtain ⟨datagrams, hsent, -, hfit⟩ := @sender_receiver_numbering .data 1 sampleSource twiceCalls
    (by simp [twiceCalls, SourceCall.Terminates])
  have hnumbers : numbersOn .data 1 datagrams = [0, 1] := by
    rw [← List.nil_append datagrams]
    exact (congrArg (numbersOn .data 1) hsent.symm).trans (by decide +kernel)
  rw [hnumbers] at hfit
  have h := hfit .new [0, 1] [sampleCall .data 1 0 0, sampleCall .data 1 1 0] rfl
    ⟨by decide, .cons rfl (.cons rfl .nil)⟩
  exact ⟨h.accepted, h.late 1 rfl (sampleCall .data 1 1 0) rfl (sampleCall .data 1 0 1000000000) 1
    (by decide) (by decide) rfl rfl (by decide) (by decide)⟩

end Sacn
