import Sacn.Receive.Sequence

/-!
# The announcing sweep (`check_timeouts` with `announce_timeout = true`)

An announcing call looks for one entry that has timed out, removes it and returns
`UniverseTimeout` for it; it is called again until it returns `Ok`. The search walks the sources in
the map's order and stops at a source at whose end nothing has been found yet, so a source without
an expired entry hides those behind it.

`AnnounceCalls` is the run of calls at one instant, each with an order of its own.

* `checkTimeouts_announce_ok`, `checkTimeouts_announce_err`: what one call can do.
* `announces_of_oneSided`, `not_announces_of_empty`, `not_announces_of_mixed`: the three cases.
* **`announcesExactly_iff`**: the announcing calls agree with the silent sweep under every order
  iff the table is `OneSided`: no source is empty, and no source has an expired entry while another
  has a live one.
* `twoSources_not_announced`: the smallest table they disagree on.
-/

namespace Sacn

open Rust

/-- `order` walks the table: each source once, and each universe of a source once. -/
structure IterOrder.Valid (order : IterOrder) (t : SeqTable) : Prop where
  srcs : HashMap.IsOrder order.srcs t
  unis : ∀ cid universes, HashMap.get t cid = some universes →
    HashMap.IsOrder (order.unis cid) universes

/-- Every table has an order. -/
theorem IterOrder.exists_valid (t : SeqTable) : ∃ order : IterOrder, order.Valid t := by
  obtain ⟨srcs, hsrcs⟩ := HashMap.exists_isOrder t
  have hunis : ∀ cid, ∃ l, HashMap.IsOrder l ((HashMap.get t cid).getD ∅) :=
    fun cid => HashMap.exists_isOrder _
  choose unis hunis using hunis
  refine ⟨⟨srcs, unis⟩, hsrcs, fun cid universes hm => ?_⟩
  have h := hunis cid
  rw [hm] at h
  exact h

/-- No source has an empty universe map. -/
def NoEmptySource (t : SeqTable) : Prop :=
  ∀ cid universes, HashMap.get t cid = some universes → universes.isEmpty = false

/-- The silent sweep leaves no source empty. -/
theorem SeqTable.noEmptySource_sweep (t : SeqTable) (timeout : Nat)
    (now : Uuid → UInt16 → Nat) : NoEmptySource (t.sweep timeout now) := by
  intro cid universes hm
  rw [SeqTable.get_sweep, Option.filter_eq_some_iff] at hm
  simpa using hm.2

section Announce

variable {timeout : Nat} {now : Nat}

/-- The clock stands at `now`. -/
def ambientAt (now : Nat) (order : IterOrder) : Ambient :=
  { sweep := fun _ _ => now, order, stamp := now }

/-- `check_timeouts` is called at the instant `now` until it returns `Ok`, the `i`-th call walking
the table in its own order: the timeouts announced, and the table left. -/
inductive AnnounceCalls (timeout : Nat) (now : Nat)
    (orders : Nat → SeqTable → IterOrder) :
    Nat → SeqTable → List (Uuid × UInt16) → SeqTable → Prop where
  | done {i : Nat} {t t' : SeqTable}
      (h : (checkTimeouts timeout true (ambientAt now (orders i t))).run t = (.ok (), t')) :
      AnnounceCalls timeout now orders i t [] t'
  | call {i : Nat} {t t' t'' : SeqTable} {cid : Uuid} {u : UInt16} {errs : List (Uuid × UInt16)}
      (h : (checkTimeouts timeout true (ambientAt now (orders i t))).run t =
        (.err (.universeTimeout cid u), t'))
      (rest : AnnounceCalls timeout now orders (i + 1) t' errs t'') :
      AnnounceCalls timeout now orders i t ((cid, u) :: errs) t''

/-- The entry of `u` at `cid` has timed out. -/
def Expired (timeout : Nat) (now : Nat) (t : SeqTable) (cid : Uuid) (u : UInt16) : Prop :=
  ∃ s, t.lookup cid u = some s ∧ timedOut timeout s now = true

/-- The entry of `u` at `cid` has not timed out. -/
def Live (timeout : Nat) (now : Nat) (t : SeqTable) (cid : Uuid) (u : UInt16) : Prop :=
  ∃ s, t.lookup cid u = some s ∧ timedOut timeout s now = false

/-- Under every order, the announcing calls end, announce each expired entry exactly once and
nothing else, and leave the table the silent sweep leaves: the table without the expired entries
and without the sources left empty. -/
def AnnouncesExactly (timeout : Nat) (now : Nat) (t : SeqTable) : Prop :=
  ∀ orders : Nat → SeqTable → IterOrder, (∀ i t, (orders i t).Valid t) →
    ∃ errs t', AnnounceCalls timeout now orders 0 t errs t' ∧ errs.Nodup ∧
      (∀ cid u, (cid, u) ∈ errs ↔ Expired timeout now t cid u) ∧
      (∀ amb : Ambient, amb.sweep = (fun _ _ => now) →
        (checkTimeouts timeout false amb).run t = (.ok (), t')) ∧
      (∀ cid u, t'.lookup cid u =
        (t.lookup cid u).filter fun s => !timedOut timeout s now) ∧ NoEmptySource t'

/-- No source is empty, and expired entries of one source do not stand next to live ones of
another. -/
structure OneSided (timeout : Nat) (now : Nat) (t : SeqTable) : Prop where
  noEmpty : NoEmptySource t
  apart : ∀ a b u v, a ≠ b → Live timeout now t a u → ¬ Expired timeout now t b v

/-! ## The search -/

theorem lookup_of_get {t : SeqTable} {cid : Uuid} {universes : HashMap UInt16 TimedStampedSeqNo}
    (h : HashMap.get t cid = some universes) (u : UInt16) :
    t.lookup cid u = universes.get u := by
  unfold SeqTable.lookup
  rw [h]
  rfl

theorem findTimedOutUni_eq_some {universes : HashMap UInt16 TimedStampedSeqNo}
    {read : UInt16 → Nat} {order : List UInt16} {u : UInt16}
    (h : findTimedOutUni timeout universes read order = some u) :
    ∃ s, universes.get u = some s ∧ timedOut timeout s (read u) = true := by
  have hfound := List.find?_some h
  cases hg : universes.get u with
  | none =>
    rw [hg] at hfound
    exact absurd hfound (by simp)
  | some s =>
    rw [hg] at hfound
    exact ⟨s, rfl, hfound⟩

theorem findTimedOutUni_isSome {universes : HashMap UInt16 TimedStampedSeqNo}
    {read : UInt16 → Nat} {order : List UInt16} {u : UInt16} {s : TimedStampedSeqNo}
    (horder : HashMap.IsOrder order universes) (hg : universes.get u = some s)
    (hs : timedOut timeout s (read u) = true) :
    ∃ v, findTimedOutUni timeout universes read order = some v := by
  have hmem : u ∈ order := (horder.mem u).mpr (by rw [hg]; rfl)
  refine Option.isSome_iff_exists.mp (List.find?_isSome.mpr ⟨u, hmem, ?_⟩)
  rw [hg]
  exact hs

/-- What the inner search says about one source. -/
def foundAt (timeout : Nat) (now : Nat) (t : SeqTable) (order : IterOrder) (cid : Uuid) :
    Option UInt16 :=
  (HashMap.get t cid).bind fun universes =>
    findTimedOutUni timeout universes (fun _ => now) (order.unis cid)

theorem foundAt_eq_some {t : SeqTable} {order : IterOrder} {cid : Uuid} {u : UInt16}
    (h : foundAt timeout now t order cid = some u) : Expired timeout now t cid u := by
  obtain ⟨universes, hm, hu⟩ := Option.bind_eq_some_iff.mp h
  obtain ⟨s, hg, hs⟩ := findTimedOutUni_eq_some hu
  exact ⟨s, by rw [lookup_of_get hm, hg], hs⟩

theorem foundAt_isSome {t : SeqTable} {order : IterOrder} {cid : Uuid} {u : UInt16}
    (horder : order.Valid t) (h : Expired timeout now t cid u) :
    ∃ v, foundAt timeout now t order cid = some v := by
  obtain ⟨s, hl, hs⟩ := h
  obtain ⟨universes, hm, hg⟩ := Option.bind_eq_some_iff.mp hl
  obtain ⟨v, hv⟩ : ∃ v, findTimedOutUni timeout universes (fun _ => now) (order.unis cid) =
    some v := findTimedOutUni_isSome (horder.unis cid universes hm) hg hs
  exact ⟨v, Option.bind_eq_some_iff.mpr ⟨universes, hm, hv⟩⟩

theorem findTimedOut_cons {t : SeqTable} {order : IterOrder} {cid : Uuid} {srcs : List Uuid}
    {found : Option (Uuid × UInt16)} :
    findTimedOut timeout t (ambientAt now order) (cid :: srcs) found =
      match foundAt timeout now t order cid with
      | some u => findTimedOut timeout t (ambientAt now order) srcs (some (cid, u))
      | none => if found.isNone then none
          else findTimedOut timeout t (ambientAt now order) srcs found := by
  have hfound : ((HashMap.get t cid).bind fun universes =>
      findTimedOutUni timeout universes ((ambientAt now order).sweep cid)
        ((ambientAt now order).order.unis cid)) = foundAt timeout now t order cid := rfl
  rw [findTimedOut, hfound]
  cases foundAt timeout now t order cid with
  | some u => rfl
  | none => cases found <;> rfl

/-- The search only finds expired entries. -/
theorem findTimedOut_expired {t : SeqTable} {order : IterOrder} {cid : Uuid} {u : UInt16} :
    ∀ {srcs : List Uuid} {found : Option (Uuid × UInt16)},
      (∀ c v, found = some (c, v) → Expired timeout now t c v) →
      findTimedOut timeout t (ambientAt now order) srcs found = some (cid, u) →
      Expired timeout now t cid u
  | [], _, hfound, h => hfound cid u h
  | c :: srcs, found, hfound, h => by
    rw [findTimedOut_cons] at h
    cases hc : foundAt timeout now t order c with
    | some v =>
      rw [hc] at h
      refine findTimedOut_expired (fun c' v' he => ?_) h
      cases he
      exact foundAt_eq_some hc
    | none =>
      rw [hc] at h
      cases found with
      | none => exact absurd h (by simp)
      | some p => exact findTimedOut_expired hfound h

/-- Once something is found the search finds something. -/
theorem findTimedOut_some {t : SeqTable} {amb : Ambient} :
    ∀ {srcs : List Uuid} {p : Uuid × UInt16}, ∃ q, findTimedOut timeout t amb srcs (some p) = some q
  | [], p => ⟨p, rfl⟩
  | cid :: srcs, p => by
    rw [findTimedOut]
    split
    · exact findTimedOut_some
    · exact findTimedOut_some

/-- A first source with nothing expired ends the search. -/
theorem findTimedOut_hidden {t : SeqTable} {order : IterOrder} {cid : Uuid} {srcs : List Uuid}
    (h : ∀ u, ¬ Expired timeout now t cid u) :
    findTimedOut timeout t (ambientAt now order) (cid :: srcs) none = none := by
  rw [findTimedOut_cons]
  cases hc : foundAt timeout now t order cid with
  | some v => exact absurd (foundAt_eq_some hc) (h v)
  | none => rfl

/-- A last source with something expired is what a successful search finds. -/
theorem findTimedOut_last {t : SeqTable} {order : IterOrder} {a cid : Uuid} {u v : UInt16}
    (horder : order.Valid t) (ha : Expired timeout now t a v) :
    ∀ {pre : List Uuid} {found : Option (Uuid × UInt16)},
      findTimedOut timeout t (ambientAt now order) (pre ++ [a]) found = some (cid, u) → cid = a
  | [], found, h => by
    obtain ⟨w, hw⟩ := foundAt_isSome horder ha
    rw [List.nil_append, findTimedOut_cons, hw] at h
    exact (Prod.mk.inj (Option.some.inj h)).1.symm
  | c :: pre, found, h => by
    rw [List.cons_append, findTimedOut_cons] at h
    cases hc : foundAt timeout now t order c with
    | some w =>
      rw [hc] at h
      exact findTimedOut_last horder ha h
    | none =>
      rw [hc] at h
      cases found with
      | none => exact absurd h (by simp)
      | some p => exact findTimedOut_last horder ha h

/-! ## One call -/

/-- The table without an entry, and without its source if that leaves it empty. -/
def SeqTable.removeEntry (t : SeqTable) (cid : Uuid) (u : UInt16) : SeqTable :=
  match HashMap.get t cid with
  | some universes =>
    if (universes.remove u).isEmpty then HashMap.remove t cid
    else HashMap.insert t cid (universes.remove u)
  | none => t

theorem SeqTable.lookup_removeEntry (t : SeqTable) (cid c : Uuid) (u v : UInt16) :
    (t.removeEntry cid u).lookup c v = if c = cid ∧ v = u then none else t.lookup c v := by
  unfold SeqTable.removeEntry
  cases hm : HashMap.get t cid with
  | none =>
    have hlookup : c = cid ∧ v = u → t.lookup c v = none := by
      rintro ⟨rfl, -⟩
      rw [SeqTable.lookup, hm]
      rfl
    by_cases h : c = cid ∧ v = u
    · rw [if_pos h]
      exact hlookup h
    · rw [if_neg h]
  | some universes =>
    have hget : (universes.remove u).get v = if v = u then none else universes.get v :=
      HashMap.get_remove _ _ _
    by_cases hc : c = cid
    · subst hc
      have hrest : (if c = c ∧ v = u then none else t.lookup c v) = (universes.remove u).get v := by
        rw [hget, lookup_of_get hm]
        simp
      rw [hrest]
      simp only
      split
      · rename_i he
        rw [HashMap.isEmpty_iff.mp he v, SeqTable.lookup, HashMap.get_remove, if_pos rfl]
        rfl
      · rw [SeqTable.lookup_insert, if_pos rfl]
    · rw [if_neg fun h => hc h.1]
      simp only
      split
      · rw [SeqTable.lookup, HashMap.get_remove, if_neg hc]
        rfl
      · rw [SeqTable.lookup_insert, if_neg hc]

theorem noEmptySource_removeEntry {t : SeqTable} (h : NoEmptySource t) (cid : Uuid) (u : UInt16) :
    NoEmptySource (t.removeEntry cid u) := by
  intro c universes hm
  unfold SeqTable.removeEntry at hm
  cases hg : HashMap.get t cid with
  | none =>
    rw [hg] at hm
    exact h c universes hm
  | some m =>
    rw [hg] at hm
    simp only at hm
    split at hm
    · rw [HashMap.get_remove] at hm
      split at hm
      · exact absurd hm (by simp)
      · exact h c universes hm
    · rename_i he
      rw [HashMap.get_insert] at hm
      split at hm
      · rw [← Option.some.inj hm]
        simpa using he
      · exact h c universes hm

/-- The search finds sources of the table. -/
theorem findTimedOut_source {t : SeqTable} {amb : Ambient} {cid : Uuid} {u : UInt16} :
    ∀ {srcs : List Uuid} {found : Option (Uuid × UInt16)},
      (∀ c v, found = some (c, v) → (HashMap.get t c).isSome) →
      findTimedOut timeout t amb srcs found = some (cid, u) → (HashMap.get t cid).isSome
  | [], _, hfound, h => hfound cid u h
  | c :: srcs, found, hfound, h => by
    rw [findTimedOut] at h
    split at h
    · rename_i v hv
      obtain ⟨universes, hm, -⟩ := Option.bind_eq_some_iff.mp hv
      refine findTimedOut_source (fun c' v' he => ?_) h
      cases he
      rw [hm]
      rfl
    · split at h
      · exact hfound cid u h
      · exact findTimedOut_source hfound h

/-- A call that finds nothing returns `Ok` and changes nothing. -/
theorem checkTimeouts_announce_ok {t : SeqTable} {amb : Ambient}
    (h : findTimedOut timeout t amb amb.order.srcs none = none) :
    (checkTimeouts timeout true amb).run t = (.ok (), t) := by
  unfold checkTimeouts
  rw [Method.run_bind_of_ok (Method.run_get t), if_pos rfl, h]
  rfl

/-- A call that finds an entry removes it and announces it. -/
theorem checkTimeouts_announce_err {t : SeqTable} {amb : Ambient} {cid : Uuid} {u : UInt16}
    (h : findTimedOut timeout t amb amb.order.srcs none = some (cid, u)) :
    (checkTimeouts timeout true amb).run t =
      (.err (.universeTimeout cid u), t.removeEntry cid u) := by
  obtain ⟨universes, hm⟩ := Option.isSome_iff_exists.mp
    (findTimedOut_source (fun _ _ he => absurd he (by simp)) h)
  unfold checkTimeouts SeqTable.removeEntry
  rw [Method.run_bind_of_ok (Method.run_get t), if_pos rfl, h]
  simp only [hm]
  rfl

/-- **How the search for a timeout ends**: with `Ok`, or, announced, with the entry it took out. -/
theorem checkTimeouts_cases (timeout : Nat) (announceTimeout : Bool) (amb : Ambient)
    (t : SeqTable) : (∃ t', (checkTimeouts timeout announceTimeout amb).run t = (.ok (), t')) ∨
      announceTimeout = true ∧ ∃ cid u, (checkTimeouts timeout announceTimeout amb).run t =
        (.err (.universeTimeout cid u), t.removeEntry cid u) := by
  cases announceTimeout with
  | false => exact .inl ⟨_, checkTimeouts_silent timeout amb t⟩
  | true =>
    cases hf : findTimedOut timeout t amb amb.order.srcs none with
    | none => exact .inl ⟨t, checkTimeouts_announce_ok hf⟩
    | some p => exact .inr ⟨rfl, p.1, p.2, checkTimeouts_announce_err hf⟩

/-- Both tables are searched, the second if nothing was found in the first. -/
theorem SequenceNumbering.checkTimeouts_cases (announceTimeout : Bool) (data sync : Ambient)
    (n : SequenceNumbering) :
    (∃ n', (SequenceNumbering.checkTimeouts announceTimeout data sync).run n = (.ok (), n')) ∨
      announceTimeout = true ∧ ∃ cid u n',
        (SequenceNumbering.checkTimeouts announceTimeout data sync).run n =
          (.err (.universeTimeout cid u), n') := by
  unfold SequenceNumbering.checkTimeouts onData onSync
  rw [Method.run_bind, Method.run_onField]
  rcases Sacn.checkTimeouts_cases e131NetworkDataLossTimeout announceTimeout data n.dataSequences with
    ⟨t, hdata⟩ | ⟨hannounce, cid, u, hdata⟩
  · rw [hdata]
    simp only [Method.run_onField]
    rcases Sacn.checkTimeouts_cases e131NetworkDataLossTimeout announceTimeout sync
      n.syncSequences with ⟨t', hsync⟩ | ⟨hannounce, cid, u, hsync⟩
    · rw [hsync]
      exact .inl ⟨_, rfl⟩
    · rw [hsync]
      exact .inr ⟨hannounce, cid, u, _, rfl⟩
  · rw [hdata]
    exact .inr ⟨hannounce, cid, u, _, rfl⟩

/-- What the calls of a run can be. -/
theorem announce_cases {order : IterOrder} {t : SeqTable} :
    ((checkTimeouts timeout true (ambientAt now order)).run t = (.ok (), t) ∧
      findTimedOut timeout t (ambientAt now order) order.srcs none = none) ∨
    ∃ cid u, (checkTimeouts timeout true (ambientAt now order)).run t =
        (.err (.universeTimeout cid u), t.removeEntry cid u) ∧
      findTimedOut timeout t (ambientAt now order) order.srcs none = some (cid, u) ∧
      Expired timeout now t cid u := by
  cases hf : findTimedOut timeout t (ambientAt now order) order.srcs none with
  | none => exact .inl ⟨checkTimeouts_announce_ok hf, rfl⟩
  | some p =>
    obtain ⟨cid, u⟩ := p
    exact .inr ⟨cid, u, checkTimeouts_announce_err hf, rfl,
      findTimedOut_expired (fun _ _ he => absurd he (by simp)) hf⟩

theorem expired_removeEntry {t : SeqTable} {cid c : Uuid} {u v : UInt16} :
    Expired timeout now (t.removeEntry cid u) c v ↔
      Expired timeout now t c v ∧ ¬ (c = cid ∧ v = u) := by
  unfold Expired
  rw [SeqTable.lookup_removeEntry]
  split
  · rename_i h
    simp [h]
  · rename_i h
    simp [h]

theorem live_removeEntry {t : SeqTable} {cid c : Uuid} {u v : UInt16} :
    Live timeout now (t.removeEntry cid u) c v ↔
      Live timeout now t c v ∧ ¬ (c = cid ∧ v = u) := by
  unfold Live
  rw [SeqTable.lookup_removeEntry]
  split
  · rename_i h
    simp [h]
  · rename_i h
    simp [h]

/-- An entry is expired or live. -/
theorem expired_or_live {t : SeqTable} {cid : Uuid} {u : UInt16} {s : TimedStampedSeqNo}
    (h : t.lookup cid u = some s) : Expired timeout now t cid u ∨ Live timeout now t cid u := by
  cases hs : timedOut timeout s now with
  | true => exact .inl ⟨s, h, hs⟩
  | false => exact .inr ⟨s, h, hs⟩

theorem not_expired_of_live {t : SeqTable} {cid : Uuid} {u : UInt16}
    (h : Live timeout now t cid u) : ¬ Expired timeout now t cid u := by
  rintro ⟨s, hl, hs⟩
  obtain ⟨s', hl', hs'⟩ := h
  rw [hl] at hl'
  cases hl'
  rw [hs] at hs'
  exact absurd hs' (by simp)

theorem OneSided.removeEntry {t : SeqTable} (h : OneSided timeout now t) (cid : Uuid)
    (u : UInt16) : OneSided timeout now (t.removeEntry cid u) := by
  refine ⟨noEmptySource_removeEntry h.noEmpty cid u, fun a b v w hab hlive hexp => ?_⟩
  exact h.apart a b v w hab (live_removeEntry.mp hlive).1 (expired_removeEntry.mp hexp).1

/-! ## The table a run leaves -/

/-- Tables without empty sources are equal when their entries are. -/
theorem SeqTable.ext_of_noEmpty {t t' : SeqTable} (h : NoEmptySource t) (h' : NoEmptySource t')
    (hl : ∀ cid u, t.lookup cid u = t'.lookup cid u) : t = t' := by
  have hnone : ∀ {r r' : SeqTable}, NoEmptySource r' → (∀ cid u, r.lookup cid u = r'.lookup cid u) →
      ∀ cid, HashMap.get r cid = none → HashMap.get r' cid = none := by
    intro r r' hr' heq cid hg
    cases hg' : HashMap.get r' cid with
    | none => rfl
    | some m =>
      obtain ⟨u, hu⟩ := HashMap.isEmpty_eq_false.mp (hr' cid m hg')
      have hlook := heq cid u
      rw [lookup_of_get hg', SeqTable.lookup, hg, Option.bind_none] at hlook
      rw [← hlook] at hu
      exact absurd hu (by simp)
  refine HashMap.ext fun cid => ?_
  cases hg : HashMap.get t cid with
  | none => exact (hnone h' hl cid hg).symm
  | some m =>
    cases hg' : HashMap.get t' cid with
    | none =>
      rw [hnone h (fun c u => (hl c u).symm) cid hg'] at hg
      exact absurd hg (by simp)
    | some m' =>
      congr 1
      refine HashMap.ext fun u => ?_
      rw [← lookup_of_get hg, ← lookup_of_get hg', hl]

/-- A table without expired entries is left as it is by the silent sweep. -/
theorem sweep_of_not_expired {t : SeqTable} (h : NoEmptySource t)
    (hexp : ∀ cid u, ¬ Expired timeout now t cid u) : t.sweep timeout (fun _ _ => now) = t := by
  refine SeqTable.ext_of_noEmpty (t.noEmptySource_sweep _ _) h fun cid u => ?_
  rw [SeqTable.lookup_sweep]
  cases hl : t.lookup cid u with
  | none => rfl
  | some s =>
    cases hs : timedOut timeout s now with
    | true => exact absurd ⟨s, hl, hs⟩ (hexp cid u)
    | false => rw [Option.filter_some_pos (by simp [hs])]

/-- Removing an expired entry first makes no difference to the silent sweep. -/
theorem sweep_removeEntry {t : SeqTable} {cid : Uuid} {u : UInt16}
    (hexp : Expired timeout now t cid u) :
    (t.removeEntry cid u).sweep timeout (fun _ _ => now) = t.sweep timeout fun _ _ => now := by
  refine SeqTable.ext_of_noEmpty (SeqTable.noEmptySource_sweep _ _ _) (t.noEmptySource_sweep _ _) fun c v => ?_
  rw [SeqTable.lookup_sweep, SeqTable.lookup_sweep, SeqTable.lookup_removeEntry]
  split
  · rename_i h
    obtain ⟨rfl, rfl⟩ := h
    obtain ⟨s, hl, hs⟩ := hexp
    rw [hl, Option.filter_some_neg (by simp [hs])]
    rfl
  · rfl

/-! ## The expired entries are finitely many -/

/-- The expired entries of a table. -/
def expiredSet (timeout : Nat) (now : Nat) (t : SeqTable) : Finset (Uuid × UInt16) :=
  (Finmap.keys t).biUnion fun cid =>
    ((((HashMap.get t cid).getD ∅).retain fun _ s => timedOut timeout s now).keys).image
      fun u => (cid, u)

theorem mem_expiredSet {t : SeqTable} {cid : Uuid} {u : UInt16} :
    (cid, u) ∈ expiredSet timeout now t ↔ Expired timeout now t cid u := by
  unfold expiredSet
  simp only [Finset.mem_biUnion, Finset.mem_image, Prod.mk.injEq, HashMap.mem_keys,
    HashMap.get_retain, Option.isSome_iff_exists, Option.filter_eq_some_iff]
  constructor
  · rintro ⟨c, ⟨universes, hm⟩, v, ⟨s, hg, hs⟩, rfl, rfl⟩
    rw [hm] at hg
    exact ⟨s, by rw [lookup_of_get hm]; exact hg, hs⟩
  · rintro ⟨s, hl, hs⟩
    obtain ⟨universes, hm, hg⟩ := Option.bind_eq_some_iff.mp hl
    exact ⟨cid, ⟨universes, hm⟩, u, ⟨s, by rw [hm]; exact hg, hs⟩, rfl, rfl⟩

theorem card_expiredSet_removeEntry {t : SeqTable} {cid : Uuid} {u : UInt16}
    (hexp : Expired timeout now t cid u) :
    (expiredSet timeout now (t.removeEntry cid u)).card < (expiredSet timeout now t).card := by
  refine Finset.card_lt_card ⟨?_, fun hsub => ?_⟩
  · rintro ⟨c, v⟩ h
    exact mem_expiredSet.mpr (expired_removeEntry.mp (mem_expiredSet.mp h)).1
  · have h := mem_expiredSet.mp (hsub (mem_expiredSet.mpr hexp))
    exact (expired_removeEntry.mp h).2 ⟨rfl, rfl⟩

/-! ## When the calls agree with the silent sweep -/

/-- In a one-sided table with an expired entry, the first source of any order has one. -/
theorem OneSided.found {t : SeqTable} {order : IterOrder} (h : OneSided timeout now t)
    (horder : order.Valid t) {cid : Uuid} {u : UInt16} (hexp : Expired timeout now t cid u) :
    findTimedOut timeout t (ambientAt now order) order.srcs none ≠ none := by
  obtain ⟨s, hl, -⟩ := id hexp
  obtain ⟨universes, hm, -⟩ := Option.bind_eq_some_iff.mp hl
  have hmem : cid ∈ order.srcs := (horder.srcs.mem cid).mpr (by rw [hm]; rfl)
  obtain ⟨first, rest, hsrcs⟩ := List.exists_cons_of_ne_nil (List.ne_nil_of_mem hmem)
  obtain ⟨m, hfirst⟩ := Option.isSome_iff_exists.mp
    ((horder.srcs.mem first).mp (by rw [hsrcs]; exact List.mem_cons_self))
  obtain ⟨v, hv⟩ := HashMap.isEmpty_eq_false.mp (h.noEmpty first m hfirst)
  obtain ⟨s', hs'⟩ := Option.isSome_iff_exists.mp hv
  have hexpired : ∃ w, Expired timeout now t first w := by
    rcases expired_or_live (lookup_of_get hfirst v ▸ hs') with he | hlive
    · exact ⟨v, he⟩
    · by_cases hc : first = cid
      · exact ⟨u, hc ▸ hexp⟩
      · exact absurd hexp (h.apart first cid v u hc hlive)
  obtain ⟨w, hw⟩ := hexpired
  obtain ⟨x, hx⟩ := foundAt_isSome horder hw
  obtain ⟨q, hq⟩ := @findTimedOut_some timeout t (ambientAt now order) rest (first, x)
  rw [hsrcs, findTimedOut_cons, hx]
  simp only [hq, ne_eq, reduceCtorEq, not_false_eq_true]

/-- **A one-sided table is announced exactly**, whatever the orders. -/
theorem announces_of_oneSided {orders : Nat → SeqTable → IterOrder}
    (horders : ∀ i t, (orders i t).Valid t) (n : Nat) :
    ∀ (i : Nat) (t : SeqTable), (expiredSet timeout now t).card = n → OneSided timeout now t →
      ∃ errs, AnnounceCalls timeout now orders i t errs (t.sweep timeout fun _ _ => now) ∧
        errs.Nodup ∧ ∀ cid u, (cid, u) ∈ errs ↔ Expired timeout now t cid u := by
  induction n using Nat.strong_induction_on with
  | _ n ih =>
    intro i t hcard h
    rcases @announce_cases timeout now (orders i t) t with ⟨hrun, hnone⟩ | ⟨cid, u, hrun, -, hexp⟩
    · have hno : ∀ cid u, ¬ Expired timeout now t cid u :=
        fun cid u he => h.found (horders i t) he hnone
      rw [sweep_of_not_expired h.noEmpty hno]
      exact ⟨[], .done hrun, List.nodup_nil, fun cid u => by simpa using hno cid u⟩
    · have hlt := card_expiredSet_removeEntry hexp
      obtain ⟨errs, hcalls, hnodup, hmem⟩ :=
        ih _ (hcard ▸ hlt) (i + 1) (t.removeEntry cid u) rfl (h.removeEntry cid u)
      rw [sweep_removeEntry hexp] at hcalls
      refine ⟨(cid, u) :: errs, .call hrun hcalls, List.nodup_cons.mpr ⟨fun hm => ?_, hnodup⟩, ?_⟩
      · exact (expired_removeEntry.mp ((hmem cid u).mp hm)).2 ⟨rfl, rfl⟩
      · intro c v
        rw [List.mem_cons, Prod.mk.injEq, hmem, expired_removeEntry]
        constructor
        · rintro (⟨rfl, rfl⟩ | ⟨he, -⟩)
          · exact hexp
          · exact he
        · intro he
          by_cases heq : c = cid ∧ v = u
          · exact .inl heq
          · exact .inr ⟨he, heq⟩

/-- **The rule for the calls**: what the removal of an announced entry keeps, the calls keep. -/
theorem announceCalls_keep {P : SeqTable → Prop} {orders : Nat → SeqTable → IterOrder} {i : Nat}
    {t t' : SeqTable} {errs : List (Uuid × UInt16)}
    (hcalls : AnnounceCalls timeout now orders i t errs t')
    (hstep : ∀ i t c u, P t →
      findTimedOut timeout t (ambientAt now (orders i t)) (orders i t).srcs none = some (c, u) →
      Expired timeout now t c u → P (t.removeEntry c u))
    (h : P t) : P t' := by
  induction hcalls with
  | @done i t t' hdone =>
    rcases @announce_cases timeout now (orders i t) t with ⟨hrun, -⟩ | ⟨_, _, hrun, -, -⟩
    · rw [hrun] at hdone
      rw [← (Prod.mk.inj hdone).2]
      exact h
    · rw [hrun] at hdone
      exact absurd (Prod.mk.inj hdone).1 (by simp)
  | @call i t t₁ t' c u errs hcall rest ih =>
    rcases @announce_cases timeout now (orders i t) t with ⟨hrun, -⟩ | ⟨c', u', hrun, hfind, hexp⟩
    · rw [hrun] at hcall
      exact absurd (Prod.mk.inj hcall).1 (by simp)
    · rw [hrun] at hcall
      rw [← (Prod.mk.inj hcall).2] at ih
      exact ih (hstep i t c' u' h hfind hexp)

/-- The calls never remove an empty source. -/
theorem announceCalls_keep_empty {orders : Nat → SeqTable → IterOrder} {i : Nat}
    {t t' : SeqTable} {errs : List (Uuid × UInt16)} {cid : Uuid}
    {universes : HashMap UInt16 TimedStampedSeqNo} (hempty : universes.isEmpty = true)
    (hcalls : AnnounceCalls timeout now orders i t errs t')
    (hm : HashMap.get t cid = some universes) : HashMap.get t' cid = some universes := by
  refine announceCalls_keep (P := fun t => HashMap.get t cid = some universes) hcalls ?_ hm
  rintro i t c u hm - ⟨s, hl, -⟩
  have hc : cid ≠ c := by
    rintro rfl
    rw [lookup_of_get hm, HashMap.isEmpty_iff.mp hempty] at hl
    exact absurd hl (by simp)
  unfold SeqTable.removeEntry
  cases hg : HashMap.get t c with
  | none => exact hm
  | some m =>
    simp only
    split
    · rw [HashMap.get_remove, if_neg hc, hm]
    · rw [HashMap.get_insert, if_neg hc, hm]

theorem not_announces_of_empty {t : SeqTable} {cid : Uuid}
    {universes : HashMap UInt16 TimedStampedSeqNo} (hm : HashMap.get t cid = some universes)
    (hempty : universes.isEmpty = true) : ¬ AnnouncesExactly timeout now t := by
  intro h
  choose order horder using IterOrder.exists_valid
  obtain ⟨errs, t', hcalls, -, -, -, -, hno⟩ := h (fun _ t => order t) fun _ t => horder t
  have hkept := announceCalls_keep_empty hempty hcalls hm
  rw [hno cid universes hkept] at hempty
  exact absurd hempty (by simp)

/-- An order that walks `a` first while nothing of it has expired, and last otherwise. -/
theorem exists_hiding_order (timeout : Nat) (now : Nat) (a : Uuid) (t : SeqTable) :
    ∃ order : IterOrder, order.Valid t ∧
      ((HashMap.get t a).isSome → (∀ u, ¬ Expired timeout now t a u) →
        ∃ rest, order.srcs = a :: rest) ∧
      ∀ u, Expired timeout now t a u → ∃ pre, order.srcs = pre ++ [a] := by
  obtain ⟨order, hvalid⟩ := IterOrder.exists_valid t
  have hnodup : (order.srcs.erase a).Nodup := hvalid.srcs.nodup.erase a
  have hmem : ∀ k, k ∈ order.srcs.erase a ↔ k ≠ a ∧ (HashMap.get t k).isSome := by
    intro k
    rw [hvalid.srcs.nodup.mem_erase_iff, hvalid.srcs.mem]
  by_cases ha : (HashMap.get t a).isSome
  · by_cases hexp : ∃ u, Expired timeout now t a u
    · refine ⟨⟨order.srcs.erase a ++ [a], order.unis⟩, ⟨⟨?_, fun k => ?_⟩, hvalid.unis⟩,
        fun _ hno => absurd hexp (not_exists.mpr hno), fun _ _ => ⟨_, rfl⟩⟩
      · refine List.nodup_append.mpr ⟨hnodup, List.nodup_singleton a, ?_⟩
        intro x hx y hy
        rw [List.mem_singleton.mp hy]
        exact ((hmem x).mp hx).1
      · rw [List.mem_append, hmem, List.mem_singleton]
        by_cases hk : k = a
        · simp [hk, ha]
        · simp [hk]
    · refine ⟨⟨a :: order.srcs.erase a, order.unis⟩, ⟨⟨?_, fun k => ?_⟩, hvalid.unis⟩,
        fun _ _ => ⟨_, rfl⟩, fun u hu => absurd ⟨u, hu⟩ hexp⟩
      · exact List.nodup_cons.mpr ⟨fun h => ((hmem a).mp h).1 rfl, hnodup⟩
      · rw [List.mem_cons, hmem]
        by_cases hk : k = a
        · simp [hk, ha]
        · simp [hk]
  · refine ⟨order, hvalid, fun h => absurd h ha, fun u hu => ?_⟩
    obtain ⟨s, hl, -⟩ := hu
    obtain ⟨m, hm, -⟩ := Option.bind_eq_some_iff.mp hl
    rw [hm] at ha
    exact absurd rfl ha

/-- Under the hiding orders of `a`, the expired entry of another source is never announced. -/
theorem announceCalls_hide {orders : Nat → SeqTable → IterOrder} {a b : Uuid} {u v : UInt16}
    (hab : a ≠ b) (hvalid : ∀ i t, (orders i t).Valid t)
    (hfirst : ∀ i t, (HashMap.get t a).isSome → (∀ u, ¬ Expired timeout now t a u) →
      ∃ rest, (orders i t).srcs = a :: rest)
    (hlast : ∀ i t u, Expired timeout now t a u → ∃ pre, (orders i t).srcs = pre ++ [a])
    {i : Nat} {t t' : SeqTable} {errs : List (Uuid × UInt16)}
    (hcalls : AnnounceCalls timeout now orders i t errs t') (hlive : Live timeout now t a u)
    (hexp : Expired timeout now t b v) : Expired timeout now t' b v := by
  refine (announceCalls_keep (P := fun t => Live timeout now t a u ∧ Expired timeout now t b v)
    hcalls ?_ ⟨hlive, hexp⟩).2
  rintro i t c w ⟨hlive, hexp⟩ hfind hexp'
  -- whatever a call finds is an entry of `a`
  have hc : c = a := by
    by_cases ha : ∃ x, Expired timeout now t a x
    · obtain ⟨x, hx⟩ := ha
      obtain ⟨pre, hpre⟩ := hlast i t x hx
      rw [hpre] at hfind
      exact findTimedOut_last (hvalid i t) hx hfind
    · obtain ⟨s, hl, -⟩ := hlive
      obtain ⟨m, hm, -⟩ := Option.bind_eq_some_iff.mp hl
      have hno : ∀ x, ¬ Expired timeout now t a x := fun x hx => ha ⟨x, hx⟩
      obtain ⟨post, hpost⟩ := hfirst i t (by rw [hm]; rfl) hno
      rw [hpost, findTimedOut_hidden hno] at hfind
      exact absurd hfind (by simp)
  refine ⟨live_removeEntry.mpr ⟨hlive, ?_⟩, expired_removeEntry.mpr ⟨hexp, ?_⟩⟩
  · rintro ⟨-, rfl⟩
    rw [hc] at hexp'
    exact not_expired_of_live hlive hexp'
  · rintro ⟨rfl, -⟩
    exact hab hc.symm

theorem not_announces_of_mixed {t : SeqTable} {a b : Uuid} {u v : UInt16} (hab : a ≠ b)
    (hlive : Live timeout now t a u) (hexp : Expired timeout now t b v) :
    ¬ AnnouncesExactly timeout now t := by
  intro h
  choose order hvalid hfirst hlast using exists_hiding_order timeout now a
  obtain ⟨errs, t', hcalls, -, -, -, hl, -⟩ := h (fun _ t => order t) fun _ t => hvalid t
  obtain ⟨s, hs, hs'⟩ := announceCalls_hide hab (fun _ t => hvalid t) (fun _ t => hfirst t)
    (fun _ t => hlast t) hcalls hlive hexp
  rw [hl, Option.filter_eq_some_iff, hs'] at hs
  exact absurd hs.2 (by simp)

/-- **The announcing calls agree with the silent sweep**, under every order, on exactly the
one-sided tables. -/
theorem announcesExactly_iff (timeout : Nat) (now : Nat) (t : SeqTable) :
    AnnouncesExactly timeout now t ↔ OneSided timeout now t := by
  constructor
  · intro h
    refine ⟨fun cid universes hm => ?_, fun a b u v hab hlive hexp => ?_⟩
    · by_contra hempty
      exact not_announces_of_empty hm (by simpa using hempty) h
    · exact not_announces_of_mixed hab hlive hexp h
  · intro h orders horders
    obtain ⟨errs, hcalls, hnodup, hmem⟩ := announces_of_oneSided horders _ 0 t rfl h
    refine ⟨errs, _, hcalls, hnodup, hmem, fun amb hamb => ?_, fun cid u => ?_,
      t.noEmptySource_sweep _ _⟩
    · rw [checkTimeouts_silent, hamb]
    · exact SeqTable.lookup_sweep t timeout _ cid u

end Announce

/-! ## Two sources -/

/-- Two sources: one heard from just now, and one silent for 3 s. -/
def twoSources : SeqTable :=
  HashMap.insert (HashMap.insert ∅ (.repeated 1)
      (HashMap.insert ∅ 1 { sequenceNumber := 0, lastRecv := 3000000000 }))
    (.repeated 2) (HashMap.insert ∅ 1 { sequenceNumber := 0, lastRecv := 0 })

theorem twoSources_not_announced :
    ¬ ∀ (timeout : Nat) (now : Nat) (t : SeqTable), AnnouncesExactly timeout now t := by
  intro h
  have hab : Uuid.repeated 1 ≠ .repeated 2 := by decide
  have hlive : Live e131NetworkDataLossTimeout 3000000000 twoSources (.repeated 1) 1 :=
    ⟨⟨0, 3000000000⟩, by decide, by decide⟩
  have hexp : Expired e131NetworkDataLossTimeout 3000000000 twoSources (.repeated 2) 1 :=
    ⟨⟨0, 0⟩, by decide, by decide⟩
  exact not_announces_of_mixed hab hlive hexp (h _ _ _)

end Sacn
