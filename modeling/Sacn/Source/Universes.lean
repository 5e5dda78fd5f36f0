import Sacn.Source.Numbering

/-!
# The registered universes (`source.rs`)

The states a source reaches by its methods, and its list of universes in them. The list is changed
by `register_universe` and `deregister_universe` alone, so what these two keep holds of it in every
state. `register_universes` registers one universe after the other and stops at the first illegal
one, with those before it registered.

* `Maintained`: a property of the list that the two methods keep.
* **`Reachable.ascending`, `Reachable.legal`**: in every state of a source its universes are
  strictly ascending, and each is in range.
* **`register_all_or_nothing_iff`**: when a call of `register_universes` registers all or nothing.
-/

namespace Sacn

open Rust Rust.Outcome

namespace SacnSourceInternal

/-! ## The states of a source -/

/-- The states a new source reaches by its methods, however each call ends. -/
inductive Reachable : SacnSourceInternal → Prop where
  | new (name : String) (cid : Uuid) (ip : SocketAddr) (socket : Socket) :
      Reachable (withCidIp name cid ip socket)
  | call (src : SacnSourceInternal) (c : SourceCall) (h : Reachable src) :
      Reachable (c.method.run src).2
  | registerUniverses (src : SacnSourceInternal) (universes : List UInt16) (h : Reachable src) :
      Reachable ((registerUniverses universes).run src).2
  | send (src : SacnSourceInternal) (universes : List UInt16) (data : List UInt8)
      (priority : Option UInt8) (dstIp : Option SocketAddr) (sync : Option UInt16)
      (h : Reachable src) : Reachable ((send universes data priority dstIp sync).run src).2
  | terminate (src : SacnSourceInternal) (startCode : UInt8) (h : Reachable src) :
      Reachable ((terminate startCode).run src).2
  | setCid (src : SacnSourceInternal) (cid : Uuid) (h : Reachable src) :
      Reachable { src with cid }

/-- The registered universes are kept strictly ascending, so that a binary search finds them. -/
def Ascending (src : SacnSourceInternal) : Prop := src.universes.Pairwise (· < ·)

/-- Each registered universe is in range. -/
def Legal (src : SacnSourceInternal) : Prop := ∀ u ∈ src.universes, UniverseInRange u

section Keeps

variable {τ : Type} {f : SacnSourceInternal → τ}

theorem keeps_sendUniverse {uni : UInt16} {data : List UInt8} {priority : UInt8}
    {dstIp : Option SocketAddr} {syncAddress : UInt16}
    (hsocket : ∀ s socket, f { s with socket } = f s)
    (hnumbers : ∀ s dataSequences, f { s with dataSequences } = f s) :
    Method.Keeps f (sendUniverse uni data priority dstIp syncAddress) := fun src =>
  (sendUniverse_ends src uni data priority dstIp syncAddress).keeps hsocket fun s => hnumbers s _

theorem keeps_sendSyncPacket {uni : UInt16} {dstIp : Option SocketAddr}
    (hsocket : ∀ s socket, f { s with socket } = f s)
    (hnumbers : ∀ s syncSequences, f { s with syncSequences } = f s) :
    Method.Keeps f (sendSyncPacket uni dstIp) := fun src =>
  (sendSyncPacket_ends src uni dstIp).keeps hsocket fun s => hnumbers s _

theorem keeps_send {universes : List UInt16} {data : List UInt8} {priority : Option UInt8}
    {dstIp : Option SocketAddr} {sync : Option UInt16}
    (hsocket : ∀ s socket, f { s with socket } = f s)
    (hnumbers : ∀ s dataSequences, f { s with dataSequences } = f s) :
    Method.Keeps f (send universes data priority dstIp sync) :=
  .bind .get fun _ => .bind (.throwIf _ _) fun _ => .bind (.throwIf _ _) fun _ =>
    .bind (.forM fun _ _ => .lift _) fun _ => .bind (.forM_option fun _ _ => .lift _) fun _ =>
    .bind (.throwIf _ _) fun _ => .forM fun _ _ =>
    .bind (.lift _) fun _ => keeps_sendUniverse hsocket hnumbers

end Keeps

/-- `set_name` keeps what every name that fits its field keeps. -/
theorem preserves_setName {P : SacnSourceInternal → Prop} {name : String}
    (h : (strBytes name).length ≤ e131SourceNameFieldLength → ∀ s, P s → P { s with name }) :
    Method.Preserves P (setName name) := by
  intro src hsrc
  unfold setName
  by_cases hlong : (strBytes name).length > e131SourceNameFieldLength
  · rw [Method.run_bind_of_err (Method.run_throwIf_pos hlong _ src)]
    exact hsrc
  · rw [Method.run_bind_of_ok (Method.run_throwIf_neg hlong _ src)]
    exact h (Nat.not_lt.mp hlong) src hsrc

/-! ## Properties of the list -/

/-- A property of the list of universes that the two methods that change it keep. -/
structure Maintained (P : List UInt16 → Prop) : Prop where
  register : ∀ uni, Method.Preserves (fun src => P src.universes) (registerUniverse uni)
  deregister : ∀ uni, Method.Preserves (fun src => P src.universes) (deregisterUniverse uni)

namespace Maintained

variable {P : List UInt16 → Prop}

/-- A method that does not change the list. -/
theorem of_keeps {α : Type} {x : Method SacnSourceInternal SacnError α}
    (h : Method.Keeps universes x) : Method.Preserves (fun src => P src.universes) x :=
  .of_keeps h fun s s' hs hP => by
    rw [hs]
    exact hP

theorem terminateStream (h : Maintained P) (uni : UInt16) (startCode : UInt8) :
    Method.Preserves (fun src => P src.universes) (terminateStream uni startCode) :=
  .bind (.forM fun _ _ => of_keeps
      (keeps_sendTerminateStreamPkt (fun _ _ => rfl) (fun _ => rfl) fun _ _ => rfl))
    fun _ => h.deregister uni

theorem call (h : Maintained P) (c : SourceCall) :
    Method.Preserves (fun src => P src.universes) c.method := by
  cases c with
  | registerUniverse uni => exact h.register uni
  | deregisterUniverse uni => exact h.deregister uni
  | sendUniverse uni data priority dstIp syncAddress =>
    exact of_keeps (keeps_sendUniverse (fun _ _ => rfl) fun _ _ => rfl)
  | sendSyncPacket uni dstIp => exact of_keeps (keeps_sendSyncPacket (fun _ _ => rfl) fun _ _ => rfl)
  | terminateStream uni startCode => exact h.terminateStream uni startCode
  | sendUniverseDiscovery => exact of_keeps (keeps_sendUniverseDiscovery fun _ _ => rfl)
  | setName name => exact of_keeps (.bind (.throwIf _ _) fun _ => .modify fun _ => rfl)
  | setPreviewMode previewMode => exact of_keeps (.modify fun _ => rfl)

end Maintained

/-- **What the two methods keep holds in every state**, if it holds of the empty list. -/
theorem Reachable.maintained {P : List UInt16 → Prop} (hP : Maintained P) (hnil : P [])
    {src : SacnSourceInternal} (h : src.Reachable) : P src.universes := by
  induction h with
  | new name cid ip socket => exact hnil
  | call src c _ ih => exact hP.call c src ih
  | registerUniverses src universes _ ih =>
    exact Method.Preserves.forM (P := fun src => P src.universes) (fun uni _ => hP.register uni)
      src ih
  | send src universes data priority dstIp sync _ ih =>
    exact Maintained.of_keeps (P := P) (keeps_send (fun _ _ => rfl) fun _ _ => rfl) src ih
  | terminate src startCode _ ih =>
    have hterminate : Method.Preserves (fun src => P src.universes)
        (SacnSourceInternal.terminate startCode) :=
      .bind (.modify fun s hs => hs) fun _ => .get_bind fun s hs =>
        Method.Preserves.forM (P := fun src => P src.universes)
          (fun uni _ => hP.terminateStream uni startCode) s hs
    exact hterminate src ih
  | setCid src cid _ ih => exact ih

/-! ## The list is a sorted set of legal universes -/

theorem run_inRange {uni : UInt16} (h : UniverseInRange uni) (src : SacnSourceInternal) :
    (Method.lift (isUniverseInRange uni) : Method SacnSourceInternal SacnError Unit).run src =
      (.ok (), src) := by
  rw [Method.run_lift, isUniverseInRange_eq_ok.mpr h]

/-- **`register_universe`** of a legal universe. -/
theorem registerUniverse_run {uni : UInt16} (h : UniverseInRange uni) (src : SacnSourceInternal) :
    (registerUniverse uni).run src =
      (.ok (), { src with universes := insertSorted src.universes uni }) := by
  unfold registerUniverse
  rw [Method.run_bind_of_ok (run_inRange h src), Method.run_modify]
  refine congrArg (Prod.mk _) ?_
  split
  · rename_i hempty
    rw [List.isEmpty_iff.mp hempty]
    rfl
  · unfold insertSorted
    cases binarySearch src.universes uni with
    | ok i => rfl
    | error i => rfl

/-- An illegal universe is refused. -/
theorem registerUniverse_illegal {uni : UInt16} (h : ¬ UniverseInRange uni)
    (src : SacnSourceInternal) :
    (registerUniverse uni).run src = (.err (.illegalUniverse uni), src) := by
  have hcheck : (Method.lift (isUniverseInRange uni) :
      Method SacnSourceInternal SacnError Unit).run src = (.err (.illegalUniverse uni), src) := by
    rw [Method.run_lift]
    exact congrArg (·, src) (if_pos h)
  exact Method.run_bind_of_err hcheck _

theorem maintained_ascending : Maintained fun us => us.Pairwise (· < ·) where
  register uni src hs := by
    by_cases h : UniverseInRange uni
    · rw [registerUniverse_run h]
      exact pairwise_insertSorted hs uni
    · rw [registerUniverse_illegal h]
      exact hs
  deregister uni := by
    refine .bind (.lift _) fun _ => .get_bind fun s hs => ?_
    split
    · exact hs
    · rename_i i hi
      exact pairwise_eraseIdx hs i

theorem maintained_legal : Maintained fun us => ∀ u ∈ us, UniverseInRange u where
  register uni src hs := by
    by_cases h : UniverseInRange uni
    · rw [registerUniverse_run h]
      intro u hu
      rcases mem_insertSorted.mp hu with rfl | hu
      · exact h
      · exact hs u hu
    · rw [registerUniverse_illegal h]
      exact hs
  deregister uni := by
    refine .bind (.lift _) fun _ => .get_bind fun s hs => ?_
    split
    · exact hs
    · exact fun u hu => hs u (List.mem_of_mem_eraseIdx hu)

/-- **In every state of a source its universes are strictly ascending.** -/
theorem Reachable.ascending {src : SacnSourceInternal} (h : src.Reachable) : src.Ascending :=
  h.maintained maintained_ascending .nil

/-- **In every state of a source its universes are in range.** -/
theorem Reachable.legal {src : SacnSourceInternal} (h : src.Reachable) : src.Legal :=
  h.maintained maintained_legal fun _ hu => absurd hu List.not_mem_nil

/-- A page count fits into a byte. -/
theorem Ascending.pages_lt {src : SacnSourceInternal} (h : src.Ascending) :
    src.universes.length / 512 + 1 < 256 := by
  have hnodup : (src.universes.map UInt16.toNat).Nodup :=
    List.pairwise_map.mpr (h.imp fun hlt => (UInt16.lt_iff_toNat_lt.mp hlt).ne)
  have hsubset : src.universes.map UInt16.toNat ⊆ List.range 65536 := by
    intro n hn
    obtain ⟨u, -, rfl⟩ := List.mem_map.mp hn
    exact List.mem_range.mpr u.toNat_lt
  have hle := (List.subperm_of_subset hnodup hsubset).length_le
  rw [List.length_map, List.length_range] at hle
  omega

/-! ## Registering many universes -/

theorem registerUniverses_legal {universes : List UInt16} :
    ∀ src : SacnSourceInternal, (∀ u ∈ universes, UniverseInRange u) →
      (registerUniverses universes).run src =
        (.ok (), { src with universes := universes.foldl insertSorted src.universes }) := by
  induction universes with
  | nil => exact fun _ _ => rfl
  | cons u us ih =>
    intro src h
    obtain ⟨hu, hus⟩ := List.forall_mem_cons.mp h
    exact (Method.run_bind_of_ok (registerUniverse_run hu src) _).trans (ih _ hus)

/-- The universes before the first illegal one are registered. -/
theorem registerUniverses_illegal {before : List UInt16} {u : UInt16} {after : List UInt16}
    (hu : ¬ UniverseInRange u) :
    ∀ src : SacnSourceInternal, (∀ v ∈ before, UniverseInRange v) →
      (registerUniverses (before ++ u :: after)).run src =
        (.err (.illegalUniverse u),
          { src with universes := before.foldl insertSorted src.universes }) := by
  induction before with
  | nil =>
    intro src _
    exact Method.run_bind_of_err (registerUniverse_illegal hu src) _
  | cons v vs ih =>
    intro src h
    obtain ⟨hv, hvs⟩ := List.forall_mem_cons.mp h
    exact (Method.run_bind_of_ok (registerUniverse_run hv src) _).trans (ih _ hvs)

/-- A call of `register_universes` succeeds with every universe of the list registered, and those
that were, or it refuses an illegal one and leaves the registered universes as they were. -/
def RegistersAllOrNothing (src : SacnSourceInternal) (universes : List UInt16) : Prop :=
  match (registerUniverses universes).run src with
  | (.ok (), s) => (∀ u ∈ universes, u ∈ s.universes) ∧ ∀ u ∈ src.universes, u ∈ s.universes
  | (.err (.illegalUniverse _), s) => s.universes = src.universes
  | _ => False

/-- **`register_universes` registers all or nothing** exactly when no universe of the list is
illegal, or every one before the first illegal one is registered already. -/
theorem register_all_or_nothing_iff {src : SacnSourceInternal} (h : src.Reachable)
    (universes : List UInt16) :
    src.RegistersAllOrNothing universes ↔ (∀ u ∈ universes, UniverseInRange u) ∨
      ∀ u ∈ universes.takeWhile (UniverseInRange ·), u ∈ src.universes := by
  unfold RegistersAllOrNothing
  by_cases hlegal : ∀ u ∈ universes, UniverseInRange u
  · rw [registerUniverses_legal src hlegal]
    refine iff_of_true ⟨fun u hu => ?_, fun u hu => ?_⟩ (.inl hlegal)
    · exact mem_foldl_insertSorted.mpr (.inl hu)
    · exact mem_foldl_insertSorted.mpr (.inr hu)
  · rw [or_iff_right hlegal]
    -- the list up to its first illegal universe, and from there on
    have hsplit := List.takeWhile_append_dropWhile (p := (UniverseInRange ·)) (l := universes)
    have hbefore : ∀ v ∈ universes.takeWhile (UniverseInRange ·), UniverseInRange v :=
      fun v hv => of_decide_eq_true (List.all_eq_true.mp List.all_takeWhile v hv)
    cases hrest : universes.dropWhile (UniverseInRange ·) with
    | nil =>
      rw [hrest, List.append_nil] at hsplit
      rw [hsplit] at hbefore
      exact absurd hbefore hlegal
    | cons u after =>
      have hu : ¬ UniverseInRange u := by
        have hhead := List.head?_dropWhile_not (UniverseInRange ·) universes
        rw [hrest] at hhead
        simpa using hhead
      rw [hrest] at hsplit
      have hrun : (registerUniverses universes).run src = _ :=
        hsplit ▸ registerUniverses_illegal hu src hbefore
      rw [hrun]
      exact foldl_insertSorted_eq_self h.ascending

/-- Universe 1 is registered, universe 0 is refused. -/
theorem registered_partly :
    (registerUniverses [1, 0]).run sampleSource =
      (.err (.illegalUniverse 0), { sampleSource with universes := [1] }) ∧
    ¬ ∀ src : SacnSourceInternal, src.Reachable → ∀ universes, src.RegistersAllOrNothing universes := by
  refine ⟨rfl, fun h => ?_⟩
  have hsame : [1] = sampleSource.universes := h sampleSource (.new _ _ _ _) [1, 0]
  exact absurd hsame (by decide)

theorem sampleSource_registers :
    sampleSource.RegistersAllOrNothing [2, 1] ∧
      (sampleSource.RegistersAllOrNothing [2, 1] ↔ (∀ u ∈ [2, 1], UniverseInRange u) ∨
        ∀ u ∈ [2, 1].takeWhile (UniverseInRange ·), u ∈ sampleSource.universes) := by
  have hnew : sampleSource.Reachable := .new _ _ _ _
  have hiff := register_all_or_nothing_iff hnew [2, 1]
  have hlegal : ∀ u ∈ ([2, 1] : List UInt16), UniverseInRange u :=
    List.forall_mem_cons.mpr ⟨.inr ⟨by decide, by decide⟩,
      List.forall_mem_singleton.mpr (.inr ⟨by decide, by decide⟩)⟩
  exact ⟨hiff.mpr (.inl hlegal), hiff⟩

end SacnSourceInternal

end Sacn
