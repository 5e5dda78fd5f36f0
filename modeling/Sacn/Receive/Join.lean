import Sacn.Receive.Unaffected

/-!
# Joins and leaves that fail (`receive.rs`)

`listen_universes` puts a universe into the list before it joins the group of the universe, and
`mute_universe` takes it out before it leaves the group. Each of the calls to the operating system
may fail.

* `NewJoinsSucceed`: every join that a call of `listen_universes` is to make succeeds.
* **`failed_join_keeps_list_iff`**: an error of either method leaves the set of universes as it was
  exactly when no join or leave that is made fails.
-/

namespace Sacn

open Rust SacnReceiver

theorem SacnReceiver.Reachable.listens {allowed : ReceiverCall → Prop} {r : SacnReceiver}
    (h : r.Reachable allowed) : r.Listens := by
  induction h with
  | new ip sourceLimit socket r h => exact listens_of_created ⟨ip, socket, h⟩
  | step r c _ _ ih => exact (c.listens_next ih).1

/-! ## The joins of a call -/

/-- The universes of `universes` that are not listened to, each once, in the order they are met. -/
def newUniverses (listened : List UInt16) : List UInt16 → List UInt16
  | [] => []
  | u :: us =>
    if listened.contains u then newUniverses listened us
    else u :: newUniverses (u :: listened) us

theorem newUniverses_listed {listened : List UInt16} {u : UInt16} (h : u ∈ listened)
    (us : List UInt16) : newUniverses listened (u :: us) = newUniverses listened us :=
  if_pos (List.contains_iff_mem.mpr h)

theorem newUniverses_new {listened : List UInt16} {u : UInt16} (h : u ∉ listened)
    (us : List UInt16) :
    newUniverses listened (u :: us) = u :: newUniverses (u :: listened) us :=
  if_neg fun hu => h (List.contains_iff_mem.mp hu)

theorem newUniverses_congr {us : List UInt16} :
    ∀ {listened listened' : List UInt16}, (∀ u, u ∈ listened ↔ u ∈ listened') →
      newUniverses listened us = newUniverses listened' us := by
  induction us with
  | nil => exact fun _ => rfl
  | cons u us ih =>
    intro listened listened' h
    by_cases hu : u ∈ listened
    · rw [newUniverses_listed hu, newUniverses_listed ((h u).mp hu), ih h]
    · rw [newUniverses_new hu, newUniverses_new fun hu' => hu ((h u).mpr hu')]
      exact congrArg _ (ih fun v => by rw [List.mem_cons, List.mem_cons, h v])

/-- The socket joins the group of each new universe, in turn. -/
def SacnReceiver.NewJoinsSucceed (r : SacnReceiver) (universes : List UInt16) : Prop :=
  r.receiver.isMulticastEnabled = true →
    ∀ i uni group, (newUniverses r.universes universes)[i]? = some uni →
      r.receiver.multicastAddr uni = .ok group →
        r.receiver.socket.results (r.receiver.socket.calls + i) group = none

/-- The socket leaves the group of the universe. -/
def SacnReceiver.LeaveSucceeds (r : SacnReceiver) (uni : UInt16) : Prop :=
  ∀ group, r.receiver.multicastAddr uni = .ok group →
    r.receiver.socket.results r.receiver.socket.calls group = none

section Loop

variable {r : SacnReceiver} {uni : UInt16} {us : List UInt16}

theorem newJoinsSucceed_listed (h : uni ∈ r.universes) :
    r.NewJoinsSucceed (uni :: us) ↔ r.NewJoinsSucceed us := by
  unfold SacnReceiver.NewJoinsSucceed
  rw [newUniverses_listed h]

/-- The list after a new universe, as far as the next ones are concerned. -/
theorem newUniverses_after (h : uni ∉ r.universes) (i : Nat) :
    newUniverses r.universes (uni :: us) = uni :: newUniverses (r.listed i uni).universes us := by
  rw [newUniverses_new h]
  refine congrArg _ (newUniverses_congr fun u => ?_)
  rw [List.mem_cons]
  exact mem_vecInsert.symm

theorem newJoinsSucceed_new (h : uni ∉ r.universes) (i : Nat)
    (hon : r.receiver.isMulticastEnabled = true) {group : SocketAddr}
    (hgroup : r.receiver.multicastAddr uni = .ok group) :
    r.NewJoinsSucceed (uni :: us) ↔
      r.receiver.socket.results r.receiver.socket.calls group = none ∧
        (r.listed i uni).called.NewJoinsSucceed us := by
  unfold SacnReceiver.NewJoinsSucceed
  rw [newUniverses_after h i]
  constructor
  · intro hall
    refine ⟨hall hon 0 uni group rfl hgroup, fun _ k v g hv hg => ?_⟩
    have hk := hall hon (k + 1) v g hv hg
    rw [show r.receiver.socket.calls + (k + 1) = r.receiver.socket.calls + 1 + k by omega] at hk
    exact hk
  · rintro ⟨hfirst, hrest⟩ - k v g hv hg
    cases k with
    | zero =>
      obtain rfl := Option.some.inj hv
      obtain rfl := Outcome.ok.inj (hgroup.symm.trans hg)
      exact hfirst
    | succ k =>
      have hk := hrest hon k v g hv hg
      rw [show r.receiver.socket.calls + (k + 1) = r.receiver.socket.calls + 1 + k by omega]
      exact hk

/-- **The second loop of `listen_universes`** ends with an error iff a join fails, and then a
universe is in the list that was not. -/
theorem forM_listenUniverse_outcome :
    ∀ {r : SacnReceiver}, r.Listens → (∀ u ∈ us, UniverseInRange u) →
      ((us.forM listenUniverse).run r).2.Listens ∧
      (∀ u ∈ r.universes, u ∈ ((us.forM listenUniverse).run r).2.universes) ∧
      (((us.forM listenUniverse).run r).1 = .ok () ∧ r.NewJoinsSucceed us ∨
        (∃ e, ((us.forM listenUniverse).run r).1 = .err e) ∧ ¬ r.NewJoinsSucceed us ∧
          ∃ u, u ∉ r.universes ∧ u ∈ ((us.forM listenUniverse).run r).2.universes) := by
  induction us with
  | nil =>
    intro r hr _
    refine ⟨hr, fun _ hu => hu, .inl ⟨rfl, fun _ i uni _ hi => ?_⟩⟩
    exact absurd hi (by simp [newUniverses])
  | cons uni us ih =>
    intro r hr hlegal
    obtain ⟨huni, hlegal⟩ := List.forall_mem_cons.mp hlegal
    have hlistens := listens_listenUniverse huni r hr
    have hloop : ((uni :: us).forM listenUniverse).run r =
        (listenUniverse uni >>= fun _ => us.forM listenUniverse).run r := rfl
    rw [hloop]
    rcases listenUniverse_cases r huni with ⟨⟨i, hsearch⟩, hrun⟩ | ⟨i, hsearch, hnew⟩
    · rw [Method.run_bind_of_ok hrun,
        newJoinsSucceed_listed (List.mem_of_getElem? (binarySearch_ok hsearch))]
      exact ih hr hlegal
    have hnot := notMem_of_binarySearch hr.ascending hsearch
    have hmem : ∀ u, u ∈ (r.listed i uni).universes ↔ u = uni ∨ u ∈ r.universes :=
      fun u => mem_vecInsert
    rcases hnew with ⟨hoff, hrun⟩ | ⟨hon, group, hgroup, ⟨hjoins, hrun⟩ | ⟨kind, msg, hfails, hrun⟩⟩
    · -- multicast is disabled: no join is made, in this turn or in any other
      rw [hrun] at hlistens
      rw [Method.run_bind_of_ok hrun]
      obtain ⟨hend, hmore, hok | ⟨-, hnone, -⟩⟩ := ih hlistens hlegal
      · exact ⟨hend, fun u hu => hmore u ((hmem u).mpr (.inr hu)),
          .inl ⟨hok.1, fun hon => absurd (hoff.symm.trans hon) (by simp)⟩⟩
      · exact absurd (fun hon => absurd (hoff.symm.trans hon) (by simp)) hnone
    · rw [hrun] at hlistens
      rw [Method.run_bind_of_ok hrun, newJoinsSucceed_new hnot i hon hgroup]
      obtain ⟨hend, hmore, hok | ⟨herr, hnone, u, hu, hu'⟩⟩ := ih hlistens hlegal
      · exact ⟨hend, fun u hu => hmore u ((hmem u).mpr (.inr hu)), .inl ⟨hok.1, hjoins, hok.2⟩⟩
      · refine ⟨hend, fun u hu => hmore u ((hmem u).mpr (.inr hu)),
          .inr ⟨herr, fun h => hnone h.2, u, fun hold => hu ((hmem u).mpr (.inr hold)), hu'⟩⟩
    · rw [hrun] at hlistens
      rw [Method.run_bind_of_err hrun, newJoinsSucceed_new hnot i hon hgroup]
      refine ⟨hlistens, fun u hu => (hmem u).mpr (.inr hu),
        .inr ⟨⟨_, rfl⟩, fun h => ?_, uni, hnot, (hmem uni).mpr (.inl rfl)⟩⟩
      rw [h.1] at hfails
      exact absurd hfails (by simp)

end Loop

/-! ## Errors -/

/-- **When `listen_universes` fails** for a universe that is not legal, it has changed nothing. -/
theorem listenUniverses_illegal {universes : List UInt16} {r : SacnReceiver}
    (h : ∃ u ∈ universes, ¬ UniverseInRange u) : ((listenUniverses universes).run r).2 = r := by
  rcases listenUniverses_cases universes r with hsame | ⟨hlegal, -⟩
  · exact hsame
  · obtain ⟨u, hu, hnot⟩ := h
    exact absurd (hlegal u hu) hnot

theorem listenUniverses_legal {universes : List UInt16} (h : ∀ u ∈ universes, UniverseInRange u)
    (r : SacnReceiver) :
    (listenUniverses universes).run r = (universes.forM listenUniverse).run r := by
  unfold listenUniverses
  exact Method.run_bind_of_ok ((Method.run_forM_lift_eq_ok (u := ())).mpr
    ⟨fun u hu => isUniverseInRange_eq_ok.mpr (h u hu), rfl⟩) _

/-- How `mute_universe` ends. -/
theorem muteUniverse_outcome {r : SacnReceiver} (hr : r.Listens) (uni : UInt16) :
    (uni ∉ r.universes ∧ ((muteUniverse uni).run r).2 = r) ∨
      uni ∈ r.universes ∧ (((muteUniverse uni).run r).1 = .ok () ∧ r.LeaveSucceeds uni ∨
        (∃ e, ((muteUniverse uni).run r).1 = .err e) ∧ ¬ r.LeaveSucceeds uni) := by
  rcases muteUniverse_cases hr uni with ⟨hnot, e, hrun⟩ | ⟨hmem, i, -, hrun⟩
  · exact .inl ⟨hnot, congrArg Prod.snd hrun⟩
  · refine .inr ⟨hmem, ?_⟩
    rw [hrun]
    unfold onReceiver
    rw [Method.run_onField]
    obtain ⟨group, hgroup, ⟨hleaves, hrun⟩ | ⟨kind, msg, hfails, hrun⟩⟩ := groupCall_cases
      (x := SacnNetworkReceiver.muteMulticastUniverse uni) r.receiver (hr.legal uni hmem) rfl
    · refine .inl ⟨congrArg Prod.fst hrun, fun g hg => ?_⟩
      obtain rfl := Outcome.ok.inj (hgroup.symm.trans hg)
      exact hleaves
    · refine .inr ⟨⟨_, congrArg Prod.fst hrun⟩, fun hleaves => ?_⟩
      rw [hleaves group hgroup] at hfails
      exact absurd hfails (by simp)

/-- The method changes no universe that is listened to when it ends with an error. -/
def KeepsListOnError (x : Method SacnReceiver SacnError Unit) (r : SacnReceiver) : Prop :=
  ∀ e, (x.run r).1 = .err e → ∀ u, (x.run r).2.isListening u = r.isListening u

/-- **An error of `listen_universes` or `mute_universe` leaves the list as it was** exactly when it
is not a failed join or leave: a universe that cannot be joined is listened to all the same, and
one that cannot be left is listened to no more. -/
theorem failed_join_keeps_list_iff {allowed : ReceiverCall → Prop} {r : SacnReceiver}
    (hr : r.Reachable allowed) (universes : List UInt16) (uni : UInt16) :
    (KeepsListOnError (listenUniverses universes) r ↔
      (∃ u ∈ universes, ¬ UniverseInRange u) ∨ r.NewJoinsSucceed universes) ∧
    (KeepsListOnError (muteUniverse uni) r ↔
      r.isListening uni = false ∨ r.LeaveSucceeds uni) := by
  have hlistens := hr.listens
  constructor
  · by_cases hlegal : ∀ u ∈ universes, UniverseInRange u
    · have hnone : ¬ ∃ u ∈ universes, ¬ UniverseInRange u :=
        fun ⟨u, hu, hnot⟩ => hnot (hlegal u hu)
      unfold KeepsListOnError
      rw [listenUniverses_legal hlegal, or_iff_right hnone]
      obtain ⟨-, -, ⟨hok, hjoins⟩ | ⟨⟨e, herr⟩, hfails, u, hu, hu'⟩⟩ :=
        forM_listenUniverse_outcome hlistens hlegal
      · exact iff_of_true (fun e he => absurd (hok.symm.trans he) (by simp)) hjoins
      · refine iff_of_false (fun hkeeps => hu ?_) hfails
        have hsame := hkeeps e herr u
        rw [isListening, List.contains_iff_mem.mpr hu'] at hsame
        exact List.contains_iff_mem.mp hsame.symm
    · have hsome : ∃ u ∈ universes, ¬ UniverseInRange u := by
        simpa only [not_forall, exists_prop] using hlegal
      exact iff_of_true (fun _ _ u => by rw [listenUniverses_illegal hsome]) (.inl hsome)
  · unfold KeepsListOnError
    have hmuted := (universes_muteUniverse hlistens uni).2 uni
    rcases muteUniverse_outcome hlistens uni with ⟨hnot, hsame⟩ |
      ⟨hmem, ⟨hok, hleaves⟩ | ⟨⟨e, herr⟩, hfails⟩⟩
    · refine iff_of_true (fun _ _ u => by rw [hsame]) (.inl ?_)
      simpa [isListening] using hnot
    · exact iff_of_true (fun e he => absurd (hok.symm.trans he) (by simp)) (.inr hleaves)
    · have hlisten : r.isListening uni = true := List.contains_iff_mem.mpr hmem
      refine iff_of_false (fun hkeeps => ?_) (by simp [hlisten, hfails])
      exact (hmuted.mp (List.contains_iff_mem.mp ((hkeeps e herr uni).trans hlisten))).2 rfl

/-- A receiver whose socket joins the discovery universe and fails in every later call. -/
def flakyReceiver : SacnReceiver :=
  ((listenUniverses [e131DiscoveryUniverse]).run
    (bound { ip := .v4 0 0 0 0, port := acnSdtMulticastPort } none
      { results := fun n _ => if n = 0 then none else some .other, calls := 0 })).2

theorem flakyReceiver_reachable : flakyReceiver.Reachable fun _ => True :=
  .new { ip := .v4 0 0 0 0, port := acnSdtMulticastPort } none
    { results := fun n _ => if n = 0 then none else some .other, calls := 0 } _
    (withIp_eq_ok.mpr ⟨by simp, rfl⟩)

theorem flakyReceiver_keeps_list_iff :
    (KeepsListOnError (listenUniverses [1]) flakyReceiver ↔
      (∃ u ∈ [1], ¬ UniverseInRange u) ∨ flakyReceiver.NewJoinsSucceed [1]) ∧
    (KeepsListOnError (muteUniverse e131DiscoveryUniverse) flakyReceiver ↔
      flakyReceiver.isListening e131DiscoveryUniverse = false ∨
        flakyReceiver.LeaveSucceeds e131DiscoveryUniverse) :=
  failed_join_keeps_list_iff flakyReceiver_reachable [1] e131DiscoveryUniverse

/-- The join of universe 1 fails and it is listened to; asked again, the receiver makes no call of
the socket and reports success. The discovery universe cannot be left and is gone. -/
theorem failed_join_changes_list :
    ((listenUniverses [1]).run flakyReceiver).1 = .err (.io .other "Failed to join IPv4 multicast") ∧
    flakyReceiver.isListening 1 = false ∧
    ((listenUniverses [1]).run flakyReceiver).2.isListening 1 = true ∧
    (listenUniverses [1]).run ((listenUniverses [1]).run flakyReceiver).2 =
      (.ok (), ((listenUniverses [1]).run flakyReceiver).2) ∧
    ((muteUniverse e131DiscoveryUniverse).run flakyReceiver).1 =
      .err (.io .other "Failed to leave IPv4 multicast") ∧
    flakyReceiver.isListening e131DiscoveryUniverse = true ∧
    ((muteUniverse e131DiscoveryUniverse).run flakyReceiver).2.isListening
      e131DiscoveryUniverse = false ∧
    ¬ (∀ r : SacnReceiver, r.Reachable (fun _ => True) →
      (∀ universes, KeepsListOnError (listenUniverses universes) r) ∧
        ∀ uni, KeepsListOnError (muteUniverse uni) r) := by
  have herr : ((listenUniverses [1]).run flakyReceiver).1 =
      .err (.io .other "Failed to join IPv4 multicast") := by decide
  have hbefore : flakyReceiver.isListening 1 = false := by decide
  have hafter : ((listenUniverses [1]).run flakyReceiver).2.isListening 1 = true := by decide
  refine ⟨herr, hbefore, hafter, rfl, by decide, by decide, by decide, fun h => ?_⟩
  have hsame := (h flakyReceiver flakyReceiver_reachable).1 [1] _ herr 1
  rw [hafter, hbefore] at hsame
  exact absurd hsame (by simp)

end Sacn
