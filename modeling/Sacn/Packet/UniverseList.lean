import Sacn.Packet.Confined
import Sacn.Packet.Panic
import Sacn.Rust.Loop

/-!
# The two loops over a universe list (`packet.rs`)

`parse_universe_list` reads a list in a `while` loop on a cursor, a vector and the universe read
last; `pack` checks one in a `for` loop over neighbours. `parseUniverseWords` and `checkUniverses`
are these loops as recursions.

* `parseUniverseListWhile_eq`, `checkUniversesFor_eq`: the loops compute the recursions.
* **`universeList_loops`**: the first loop ends, reads no byte behind the list and accepts exactly
  the ascending lists; the second accepts the lists whose bytes the first accepts.
-/

namespace Sacn

open Rust Rust.Outcome

/-! ## The loop of the parser -/

/-- The variables of the loop. -/
structure UniverseScan where
  universes : List UInt16
  i : Nat
  lastUniverse : Int

/-- The body of the loop. -/
def scanUniverse (buf : List UInt8) (s : UniverseScan) : Outcome SacnError UniverseScan := do
  let u ← readU16In buf s.i (s.i + e131UniverseFieldLength)
  if s.lastUniverse < u.toNat then
    return { universes := s.universes ++ [u]
             i := s.i + e131UniverseFieldLength
             lastUniverse := u.toNat }
  else
    .err (parseErr (.parseInvalidUniverseOrder
      s!"Universe {u} is out of order, discovery packet universe list must be in accending order!"))

/-- `parse_universe_list`, its loop as it stands. -/
def parseUniverseListWhile (fuel : Nat) (buf : List UInt8) (length : Nat) :
    Option (Outcome SacnError (List UInt16)) :=
  -- `Vec::with_capacity(length)`
  if isizeMax < length * e131UniverseFieldLength then some .panic
  else if buf.length < length * e131UniverseFieldLength then
    some (.err (parseErr (.parseInsufficientData
      s!"The given buffer of length {buf.length} bytes cannot be parsed into the given number of universes {length}")))
  else
    (whileLoop (fun s => s.i < length * e131UniverseFieldLength) (scanUniverse buf) fuel
      { universes := [], i := 0, lastUniverse := -1 }).map (· >>= fun s => .ok s.universes)

/-- What the loop and the statement behind it make of a state with `m` universes to go. -/
def scanFrom (buf : List UInt8) (m : Nat) (s : UniverseScan) :
    Outcome SacnError (List UInt16) := do
  let us ← parseUniverseWords buf s.i s.lastUniverse m
  return s.universes ++ us

theorem scanFrom_zero (buf : List UInt8) (s : UniverseScan) :
    scanFrom buf 0 s = .ok s.universes := by
  unfold scanFrom
  rw [parseUniverseWords, ok_bind, List.append_nil, pure_eq]

/-- One turn. -/
theorem scanFrom_succ (buf : List UInt8) (m : Nat) (s : UniverseScan) :
    scanFrom buf (m + 1) s = scanUniverse buf s >>= scanFrom buf m := by
  unfold scanUniverse scanFrom
  rw [parseUniverseWords, bind_assoc, bind_assoc]
  congr 1
  funext u
  split
  · rw [pure_eq, ok_bind, bind_assoc]
    congr 1
    funext us
    rw [pure_eq, ok_bind, List.append_assoc, List.singleton_append]
  · rfl

theorem scanUniverse_i {buf : List UInt8} {s s' : UniverseScan} (h : scanUniverse buf s = .ok s') :
    s'.i = s.i + 2 := by
  unfold scanUniverse at h
  obtain ⟨u, -, h⟩ := bind_eq_ok.mp h
  split at h
  · obtain rfl := ok.inj h
    rfl
  · cases h

/-- The number of universes to go. -/
def UniverseScan.remaining (n : Nat) (s : UniverseScan) : Nat := (2 * n - s.i) / 2

/-- **The loop computes the recursion**, in one turn for each universe. -/
theorem whileLoop_scan {fuel n : Nat} (hfuel : n < fuel) (buf : List UInt8) :
    (whileLoop (fun s => s.i < n * 2) (scanUniverse buf) fuel
      { universes := [], i := 0, lastUniverse := -1 }).map (· >>= fun s => .ok s.universes) =
      some (parseUniverseWords buf 0 (-1) n) := by
  have hstart : scanFrom buf n { universes := [], i := 0, lastUniverse := -1 } =
      parseUniverseWords buf 0 (-1) n := by
    unfold scanFrom
    simp only [List.nil_append]
    exact bind_pure _
  -- the cursor is even, so the test fails exactly when no universe is left
  refine (whileLoop_eq (I := fun s => s.i + 2 * s.remaining n = 2 * n)
    (m := UniverseScan.remaining n) (R := fun s => scanFrom buf (s.remaining n) s)
    (fun s hs hcond => ?_) (fun s hs hcond => ?_) (fun s s' hs hcond hbody => ?_)
    (by simp [UniverseScan.remaining]) (by simp [UniverseScan.remaining]; omega)).trans ?_
  · have hzero : s.remaining n = 0 := by
      have hge := of_decide_eq_false hcond
      omega
    rw [hzero, scanFrom_zero]
  · obtain ⟨m, hm⟩ : ∃ m, s.remaining n = m + 1 := by
      have hlt := of_decide_eq_true hcond
      exact ⟨s.remaining n - 1, by omega⟩
    rw [hm, scanFrom_succ]
    cases hbody : scanUniverse buf s with
    | ok s' =>
      have hi := scanUniverse_i hbody
      have hm' : s'.remaining n = m := by
        unfold UniverseScan.remaining at hm ⊢
        omega
      rw [ok_bind, ok_bind, hm']
    | err e => rfl
    | panic => rfl
  · have hlt := of_decide_eq_true hcond
    have hi := scanUniverse_i hbody
    unfold UniverseScan.remaining at hs ⊢
    omega
  · rw [← hstart]
    simp [UniverseScan.remaining]

theorem parseUniverseListWhile_eq {fuel n : Nat} (hfuel : n < fuel) (hn : 2 * n ≤ isizeMax)
    (buf : List UInt8) : parseUniverseListWhile fuel buf n = some (parseUniverseList buf n) := by
  have hloop := whileLoop_scan hfuel buf
  have hfits : ¬ isizeMax < n * e131UniverseFieldLength := by
    rw [e131UniverseFieldLength]
    omega
  unfold parseUniverseListWhile parseUniverseList throwIf
  rw [if_neg hfits]
  by_cases hshort : buf.length < n * e131UniverseFieldLength
  · rw [if_pos hshort, if_pos hshort]
    rfl
  · rw [if_neg hshort, if_neg hshort, ok_bind]
    exact hloop

/-- Bytes behind the last universe make no difference. -/
theorem parseUniverseWords_append {w r : List UInt8} : ∀ {n i : Nat} {last : Int},
    i + 2 * n ≤ w.length → parseUniverseWords (w ++ r) i last n = parseUniverseWords w i last n
  | 0, i, last, _ => rfl
  | n + 1, i, last, hlen => by
    have hread : (readU16In (w ++ r) i (i + e131UniverseFieldLength) : Outcome SacnError _) =
        readU16In w i (i + e131UniverseFieldLength) := by
      rw [e131UniverseFieldLength, readU16In_ok rfl (by rw [List.length_append]; omega),
        readU16In_ok rfl (by omega), u16At_append_left (by omega)]
    have hrest : ∀ last', parseUniverseWords (w ++ r) (i + e131UniverseFieldLength) last' n =
        parseUniverseWords w (i + e131UniverseFieldLength) last' n := fun last' =>
      parseUniverseWords_append (by rw [e131UniverseFieldLength]; omega)
    rw [parseUniverseWords, parseUniverseWords, hread]
    simp only [hrest]

theorem parseUniverseList_take {buf : List UInt8} {n : Nat} (h : 2 * n ≤ buf.length) :
    parseUniverseList (buf.take (2 * n)) n = parseUniverseList buf n := by
  have hlength : (buf.take (2 * n)).length = 2 * n := List.length_take_of_le h
  have hwords : parseUniverseWords (buf.take (2 * n) ++ buf.drop (2 * n)) 0 (-1) n =
      parseUniverseWords (buf.take (2 * n)) 0 (-1) n := parseUniverseWords_append (by omega)
  rw [List.take_append_drop] at hwords
  have hfits : ¬ buf.length < n * e131UniverseFieldLength := by
    rw [e131UniverseFieldLength]
    omega
  have hfits' : ¬ (buf.take (2 * n)).length < n * e131UniverseFieldLength := by
    rw [hlength, e131UniverseFieldLength]
    omega
  unfold parseUniverseList
  rw [throwIf_neg hfits, throwIf_neg hfits', ok_bind, ok_bind, hwords]

/-! ## The loop of the packer -/

/-- The body of the loop. -/
def checkUniverseAt (us : List UInt16) (i : Nat) : Outcome SacnError Unit := do
  let u ← index us i
  let before ← index us (i - 1)
  throwIf (u = before) (.sacnParsePackError (.packInvalidData "Universes are not unique"))
  throwIf (u ≤ before) (.sacnParsePackError (.packInvalidData "Universes are not sorted"))

/-- The check of `UniverseDiscoveryPacketUniverseDiscoveryLayer::pack`, its loop as it stands. -/
def checkUniversesFor (us : List UInt16) : Outcome SacnError Unit :=
  forM (List.range' 1 (us.length - 1)) (checkUniverseAt us)

/-- The turns of a list are those of its tail, one position on. -/
theorem checkUniverseAt_cons (u : UInt16) (us : List UInt16) : ∀ n i : Nat,
    forM (List.range' (i + 2) n) (checkUniverseAt (u :: us)) =
      forM (List.range' (i + 1) n) (checkUniverseAt us)
  | 0, _ => rfl
  | n + 1, i => by
    have hturn : checkUniverseAt (u :: us) (i + 2) = checkUniverseAt us (i + 1) := rfl
    rw [List.range'_succ, List.range'_succ, List.forM_cons, List.forM_cons, hturn,
      checkUniverseAt_cons u us n (i + 1)]

theorem checkUniversesFor_eq (us : List UInt16) : checkUniversesFor us = checkUniverses us := by
  induction us with
  | nil => rfl
  | cons u us ih =>
    cases us with
    | nil => rfl
    | cons v us =>
      have hrest : forM (List.range' 2 us.length) (checkUniverseAt (u :: v :: us)) =
          checkUniverses (v :: us) := by
        rw [← ih]
        exact checkUniverseAt_cons u (v :: us) us.length 0
      have hturn : checkUniverseAt (u :: v :: us) 1 = (do
          throwIf (v = u) (.sacnParsePackError (.packInvalidData "Universes are not unique"))
          throwIf (v ≤ u) (.sacnParsePackError (.packInvalidData "Universes are not sorted"))) :=
        rfl
      unfold checkUniversesFor checkUniverses
      rw [List.length_cons, List.length_cons, Nat.add_sub_cancel, List.range'_succ,
        List.forM_cons, hrest, hturn, bind_assoc]

/-! ## Both loops -/

/-- What `parse_universe_list` does with a buffer and a count: its loop ends, reads nothing behind
the first `2 * n` bytes, and accepts them iff their words ascend strictly. -/
structure ListLoop (fuel : Nat) (buf : List UInt8) (n : Nat) : Prop where
  terminates : ∃ outcome, parseUniverseListWhile fuel buf n = some outcome
  reads : 2 * n ≤ buf.length →
    parseUniverseListWhile fuel (buf.take (2 * n)) n = parseUniverseListWhile fuel buf n
  no_panic : 2 * n ≤ isizeMax → parseUniverseListWhile fuel buf n ≠ some .panic
  accepts : ∀ us, parseUniverseListWhile fuel buf n = some (.ok us) ↔
    2 * n ≤ buf.length ∧ us = wordsAt buf 0 n ∧ us.Pairwise (· < ·)

theorem listLoop_holds {fuel n : Nat} (hfuel : n < fuel) {buf : List UInt8}
    (hbuf : buf.length ≤ isizeMax) : ListLoop fuel buf n := by
  by_cases hn : 2 * n ≤ isizeMax
  · have hbuf' := parseUniverseListWhile_eq hfuel hn buf
    refine ⟨⟨_, hbuf'⟩, fun hlen => ?_, fun _ hpanic => ?_, fun us => ?_⟩
    · rw [hbuf', parseUniverseListWhile_eq hfuel hn, parseUniverseList_take hlen]
    · rw [hbuf'] at hpanic
      exact parseUniverseList_ne_panic (Option.some.inj hpanic)
    · rw [hbuf', Option.some.injEq, parseUniverseList_eq_ok]
  · -- no slice has that many bytes
    have hpanic : ∀ b : List UInt8, parseUniverseListWhile fuel b n = some .panic := fun b => by
      unfold parseUniverseListWhile
      exact if_pos (by rw [e131UniverseFieldLength]; omega)
    refine ⟨⟨_, hpanic buf⟩, fun hlen => absurd (hlen.trans hbuf) hn, fun h => absurd h hn,
      fun us => ?_⟩
    rw [hpanic]
    constructor
    · intro h
      cases h
    · rintro ⟨hlen, -⟩
      exact absurd (hlen.trans hbuf) hn

theorem length_flatMap_beBytes (us : List UInt16) :
    (us.flatMap fun u => beBytes 2 u.toNat).length = 2 * us.length := by
  simp [Nat.mul_comm]

/-- **The two loops agree on order**: the first one does as `ListLoop` says for every slice and every
count, in one turn for each universe at most, and the check in `pack` succeeds on a list of at most
512 universes iff `parse_universe_list` accepts its bytes. -/
theorem universeList_loops :
    (∀ (buf : List UInt8) (n fuel : Nat), buf.length ≤ isizeMax → n < fuel →
      ListLoop fuel buf n) ∧
    ∀ (us : List UInt16) (fuel : Nat), us.length ≤ 512 → us.length < fuel →
      (checkUniversesFor us = .ok () ↔
        ∃ vs, parseUniverseListWhile fuel (us.flatMap fun u => beBytes 2 u.toNat) us.length =
          some (.ok vs)) ∧
      ∀ (d : UniverseDiscoveryPacketUniverseDiscoveryLayer) (buf : List UInt8),
        d.universes = us → d.len ≤ buf.length →
          ((∃ out, d.pack buf = .ok out) ↔ checkUniversesFor us = .ok ()) := by
  refine ⟨fun buf n fuel hbuf hfuel => listLoop_holds hfuel hbuf, fun us fuel hus hfuel => ?_⟩
  have hlength := length_flatMap_beBytes us
  have hfits : (us.flatMap fun u => beBytes 2 u.toNat).length ≤ isizeMax := by
    rw [hlength, isizeMax]
    omega
  have hloop := listLoop_holds hfuel hfits
  refine ⟨?_, ?_⟩
  · rw [checkUniversesFor_eq, checkUniverses_eq_ok]
    constructor
    · intro hs
      exact ⟨us, (hloop.accepts us).mpr ⟨hlength.ge, (wordsAt_flatMap us).symm, hs⟩⟩
    · rintro ⟨vs, hvs⟩
      obtain ⟨-, hwords, hs⟩ := (hloop.accepts vs).mp hvs
      rw [wordsAt_flatMap] at hwords
      exact hwords ▸ hs
  · rintro d buf rfl hlen
    rw [checkUniversesFor_eq]
    constructor
    · rintro ⟨out, hout⟩
      rcases checkUniverses_cases d.universes with hok | ⟨e, he⟩
      · exact hok
      · rw [d.pack_unsorted hus he hlen] at hout
        cases hout
    · intro hok
      exact ⟨_, d.pack_eq hus (checkUniverses_eq_ok.mp hok) hlen⟩

/-- A list in order, and its bytes with one more behind them. -/
theorem pairList_loops :
    ListLoop 3 [0, 1, 0, 2, 9] 2 ∧
      parseUniverseListWhile 3 [0, 1, 0, 2, 9] 2 = some (.ok [1, 2]) ∧
      checkUniversesFor [1, 2] = .ok () ∧
      ∃ vs, parseUniverseListWhile 3 [0, 1, 0, 2] 2 = some (.ok vs) := by
  have hloops := universeList_loops
  have hchecked : checkUniversesFor [1, 2] = .ok () := by decide
  exact ⟨hloops.1 [0, 1, 0, 2, 9] 2 3 (by decide) (by decide), by decide, hchecked,
    (hloops.2 [1, 2] 3 (by decide) (by decide)).1.mp hchecked⟩

end Sacn
