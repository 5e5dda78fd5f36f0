import Sacn.Packet.RoundTrip
import Sacn.Receive.History

/-!
# Which universes a receiver listens to, and why (`receive.rs`)

The list of universes is extended by `listen_universes`, which an application calls and which
`handle_data_packet` calls for the sync address of a packet it accepts, and cut by `mute_universe`.
Data of every universe in it is received.

The history of a run is kept with the receiver each call was made on.

* `SacnReceiver.Listens`: the list is ascending and legal, so muting a universe takes it out.
* `mem_universes_next`: how a universe can come to be in the list.
* **`delivered_from_listened`**: a frame is made of data packets that were accepted while their
  universe was in the list, because the application had asked for it or an accepted packet had named
  it as its sync address, and it had not been muted since.
* `namedUniverse_delivered`: a universe the application never asked for, and one it has muted.
-/

namespace Sacn

open Rust SacnReceiver

/-! ## The list -/

/-- The list of universes is ascending, and each can be muted. -/
structure SacnReceiver.Listens (r : SacnReceiver) : Prop where
  ascending : r.universes.Pairwise (· < ·)
  legal : ∀ u ∈ r.universes, UniverseInRange u

theorem universes_listenUniverse (uni : UInt16) (r : SacnReceiver) :
    ((listenUniverse uni).run r).2.universes = insertSorted r.universes uni := by
  unfold listenUniverse insertSorted
  rw [Method.run_bind_of_ok (Method.run_get r)]
  cases binarySearch r.universes uni with
  | ok i => rfl
  | error i =>
    simp only
    rw [Method.run_bind_of_ok (Method.run_modify _ r)]
    split
    · rfl
    · rfl

theorem mem_universes_listenUniverse {uni u : UInt16} {r : SacnReceiver}
    (h : u ∈ ((listenUniverse uni).run r).2.universes) : u = uni ∨ u ∈ r.universes := by
  rw [universes_listenUniverse] at h
  exact mem_insertSorted.mp h

/-- One turn of the second loop of `listen_universes`. -/
theorem listens_listenUniverse {uni : UInt16} (huni : UniverseInRange uni) :
    Method.Preserves SacnReceiver.Listens (listenUniverse uni) := by
  intro r hr
  constructor
  · rw [universes_listenUniverse]
    exact pairwise_insertSorted hr.ascending uni
  · intro u hu
    rcases mem_universes_listenUniverse hu with rfl | hold
    · exact huni
    · exact hr.legal u hold

/-- `listen_universes` changes nothing before every universe is found legal. -/
theorem listenUniverses_cases (universes : List UInt16) (r : SacnReceiver) :
    ((listenUniverses universes).run r).2 = r ∨ (∀ u ∈ universes, UniverseInRange u) ∧
      ((listenUniverses universes).run r).2 = ((universes.forM listenUniverse).run r).2 := by
  have hkeeps : Method.Keeps id (universes.forM fun u =>
      (Method.lift (isUniverseInRange u) : Method SacnReceiver SacnError Unit)) :=
    .forM fun u _ => .lift _
  have hsame := hkeeps r
  unfold listenUniverses
  rw [Method.run_bind]
  rcases hchecks : (universes.forM fun u => (Method.lift (isUniverseInRange u) :
      Method SacnReceiver SacnError Unit)).run r with ⟨_ | _ | _, s⟩
  · rw [hchecks] at hsame
    obtain rfl : s = r := hsame
    have hlegal := (Method.run_forM_lift_eq_ok.mp hchecks).1
    exact .inr ⟨fun u hu => isUniverseInRange_eq_ok.mp (hlegal u hu), rfl⟩
  all_goals
    rw [hchecks] at hsame
    exact .inl hsame

theorem listens_listenUniverses (universes : List UInt16) :
    Method.Preserves SacnReceiver.Listens (listenUniverses universes) := by
  intro r hr
  rcases listenUniverses_cases universes r with hsame | ⟨hlegal, hloop⟩
  · rw [hsame]
    exact hr
  · rw [hloop]
    exact Method.Preserves.forM (fun u hu => listens_listenUniverse (hlegal u hu)) r hr

theorem mem_universes_listenUniverses {universes : List UInt16} {u : UInt16} {r : SacnReceiver}
    (h : u ∈ ((listenUniverses universes).run r).2.universes) : u ∈ universes ∨ u ∈ r.universes := by
  rcases listenUniverses_cases universes r with hsame | ⟨-, hloop⟩
  · rw [hsame] at h
    exact .inr h
  · rw [hloop] at h
    refine Method.Preserves.forM (P := fun s => u ∈ s.universes → u ∈ universes ∨ u ∈ r.universes)
      (fun v hv s hs hu => ?_) r .inr h
    rcases mem_universes_listenUniverse hu with rfl | hold
    · exact .inl hv
    · exact hs hold

/-- `mute_universe` refuses a universe that is not in the list, and takes one out that is, before it
leaves the group. -/
theorem muteUniverse_cases {r : SacnReceiver} (hr : r.Listens) (uni : UInt16) :
    (uni ∉ r.universes ∧ ∃ e, (muteUniverse uni).run r = (.err e, r)) ∨
      uni ∈ r.universes ∧ ∃ i, binarySearch r.universes uni = .ok i ∧
        (muteUniverse uni).run r =
          (onReceiver (SacnNetworkReceiver.muteMulticastUniverse uni)).run
            { r with universes := r.universes.eraseIdx i } := by
  unfold muteUniverse
  by_cases hlegal : UniverseInRange uni
  · have hcheck : (Method.lift (isUniverseInRange uni) : Method SacnReceiver SacnError Unit).run r =
        (.ok (), r) := by
      rw [Method.run_lift, isUniverseInRange_eq_ok.mpr hlegal]
    rw [Method.run_bind_of_ok hcheck, Method.run_bind_of_ok (Method.run_get r)]
    cases hsearch : binarySearch r.universes uni with
    | error i => exact .inl ⟨notMem_of_binarySearch hr.ascending hsearch, _, rfl⟩
    | ok i =>
      refine .inr ⟨List.mem_of_getElem? (binarySearch_ok hsearch), i, rfl, ?_⟩
      exact Method.run_bind_of_ok (Method.run_modify _ r) _
  · have hcheck : (Method.lift (isUniverseInRange uni) : Method SacnReceiver SacnError Unit).run r =
        (.err (.illegalUniverse uni), r) := by
      rw [Method.run_lift, isUniverseInRange]
      exact congrArg (·, r) (if_pos hlegal)
    exact .inl ⟨fun hmem => hlegal (hr.legal uni hmem), _, Method.run_bind_of_err hcheck _⟩

/-- **`mute_universe`** takes the universe out of the list, and no other. -/
theorem universes_muteUniverse {r : SacnReceiver} (hr : r.Listens) (uni : UInt16) :
    ((muteUniverse uni).run r).2.Listens ∧
      ∀ u, u ∈ ((muteUniverse uni).run r).2.universes ↔ u ∈ r.universes ∧ u ≠ uni := by
  rcases muteUniverse_cases hr uni with ⟨hnot, e, hrun⟩ | ⟨-, i, hsearch, hrun⟩
  · rw [hrun]
    refine ⟨hr, fun u => ⟨fun hu => ⟨hu, ?_⟩, And.left⟩⟩
    rintro rfl
    exact hnot hu
  · rw [hrun]
    have hmem := fun u => @mem_eraseIdx _ _ _ hr.ascending uni u i hsearch
    exact ⟨⟨pairwise_eraseIdx hr.ascending i, fun u hu => hr.legal u ((hmem u).mp hu).1⟩, hmem⟩

/-! ## Accepted data packets -/

/-- The receiver accepts the data packet: it is not filtered out, and its number passes the check. -/
structure DataPacketFramingLayer.AcceptedBy (pkt : DataPacketFramingLayer) (r : SacnReceiver)
    (cid : Uuid) (amb : Ambient) : Prop where
  plain : (pkt.previewData && !r.processPreviewData) = false ∧ pkt.streamTerminated = false
  listening : r.isListening pkt.uni = true
  checked : ((SequenceNumbering.checkDataSeqNumber r.sourceLimit cid pkt.sequenceNumber pkt.uni
    r.announceTimeout amb).run r.sequences).1 = .ok ()

/-- The call accepts a data packet of the universe and makes the frame of it: the packet's own
frame, or what the merge function gives for the frame that is held and it. -/
def Makes (r : SacnReceiver) (c : ReceiverCall) (d : DMXData) : Prop :=
  ∃ cid pkt amb recvTimestamp, c = .handleDataPacket cid pkt amb recvTimestamp ∧
    pkt.AcceptedBy r cid amb ∧ pkt.uni = d.uni ∧
    (d = dmxData cid pkt recvTimestamp ∨ ∃ existing, r.waitingData.get pkt.uni = some existing ∧
      r.mergeFunc existing (dmxData cid pkt recvTimestamp) = .ok d)

/-- The merge function gives a frame of the universe of both frames. -/
def KeepsUniverse (merge : MergeFn) : Prop :=
  ∀ i n d, i.uni = n.uni → merge i n = .ok d → d.uni = n.uni

theorem Provided.keepsUniverse {merge : MergeFn} (h : Provided merge) : KeepsUniverse merge :=
  fun _ _ _ huni hmerge => (h.keeps_address hmerge huni).1

/-- The frames that are returned or held afterwards were held before, or have the property. -/
def OldOr (P : DMXData → Prop) (m : HashMap UInt16 DMXData) (frames : List DMXData)
    (m' : HashMap UInt16 DMXData) : Prop :=
  (∀ d ∈ frames, (∃ u, m.get u = some d) ∨ P d) ∧
    ∀ u d, m'.get u = some d → m.get u = some d ∨ (P d ∧ d.uni = u)

theorem OldOr.nothing {P : DMXData → Prop} (m : HashMap UInt16 DMXData) : OldOr P m [] m :=
  ⟨fun _ hd => absurd hd (by simp), fun _ _ hd => .inl hd⟩

theorem storeWaitingData_oldOr {P : DMXData → Prop} {r : SacnReceiver} {data : DMXData}
    (hdata : P data) (hmerged : ∀ existing d, r.waitingData.get data.uni = some existing →
      r.mergeFunc existing data = .ok d → P d ∧ d.uni = data.uni) :
    HeldStep (OldOr P) (do storeWaitingData data; return none) r := by
  refine heldStep_storeWaitingData ⟨fun _ hd => absurd hd (by simp), fun u d hd => ?_⟩
  by_cases hu : u = data.uni
  · subst hu
    rw [storeWaitingData_run] at hd
    cases hget : r.waitingData.get data.uni with
    | none =>
      rw [hget] at hd
      obtain rfl : data = d := Option.some.inj ((HashMap.get_insert_self _ _ _).symm.trans hd)
      exact .inr ⟨hdata, rfl⟩
    | some existing =>
      rw [hget] at hd
      have hcleared : (clearWaitingData data.uni r).waitingData.get data.uni = none :=
        (HashMap.get_remove _ _ _).trans (if_pos rfl)
      simp only at hd
      cases hmerge : r.mergeFunc existing data with
      | ok merged =>
        rw [hmerge] at hd
        obtain rfl : merged = d := Option.some.inj ((HashMap.get_insert_self _ _ _).symm.trans hd)
        exact .inr (hmerged existing merged hget hmerge)
      | err e =>
        rw [hmerge] at hd
        exact absurd (hcleared.symm.trans hd) (by simp)
      | panic =>
        rw [hmerge] at hd
        exact absurd (hcleared.symm.trans hd) (by simp)
  · exact .inl ((get_storeWaitingData_of_ne hu).symm.trans hd)

section Frames

variable {r : SacnReceiver} (hkeyed : ∀ u d, r.waitingData.get u = some d → d.uni = u)
include hkeyed

theorem acceptDataPacket_oldOr (hmerge : KeepsUniverse r.mergeFunc) {cid : Uuid}
    {pkt : DataPacketFramingLayer} {amb : Ambient}
    (hplain : (pkt.previewData && !r.processPreviewData) = false ∧ pkt.streamTerminated = false)
    (hlisten : r.isListening pkt.uni = true) (recvTimestamp : Nat) :
    HeldStep (OldOr (Makes r (.handleDataPacket cid pkt amb recvTimestamp)))
      (acceptDataPacket cid pkt amb recvTimestamp) r := by
  refine HeldStep.bind OldOr.nothing .get fun _ _ hget _ => ?_
  obtain ⟨hread, rfl⟩ := Prod.mk.inj hget
  obtain rfl := Outcome.ok.inj hread
  refine HeldStep.bind OldOr.nothing (fun _ => rfl) fun _ t hcheck ht => ?_
  have haccepted : pkt.AcceptedBy r cid amb := ⟨hplain, hlisten, congrArg Prod.fst hcheck⟩
  have hmakes : Makes r (.handleDataPacket cid pkt amb recvTimestamp)
      (dmxData cid pkt recvTimestamp) :=
    ⟨cid, pkt, amb, recvTimestamp, rfl, haccepted, rfl, .inl rfl⟩
  split
  · refine ⟨List.forall_mem_singleton.mpr (.inr hmakes), fun u d hd => .inl ?_⟩
    have hcleared : (t.waitingData.remove pkt.uni).get u = some d := hd
    rw [HashMap.get_remove] at hcleared
    split at hcleared
    · exact absurd hcleared (by simp)
    · exact hcleared
  · refine HeldStep.bind OldOr.nothing (keeps_listenUniverses _ (fun _ _ => rfl) fun _ _ => rfl)
      fun _ w _ hw => ?_
    obtain ⟨hheld, hfunc⟩ := Prod.mk.inj (hw.trans ht)
    refine storeWaitingData_oldOr hmakes fun existing d hexisting hmerged => ?_
    rw [hheld] at hexisting
    rw [hfunc] at hmerged
    have huni := hmerge existing _ d (hkeyed _ _ hexisting) hmerged
    exact ⟨⟨cid, pkt, amb, recvTimestamp, rfl, haccepted, huni.symm,
      .inr ⟨existing, hexisting, hmerged⟩⟩, huni⟩

/-- What a data packet returns and leaves held was held before, or is made of it. -/
theorem handleDataPacket_oldOr (hmerge : KeepsUniverse r.mergeFunc) (cid : Uuid)
    (pkt : DataPacketFramingLayer) (amb : Ambient) (recvTimestamp : Nat) :
    HeldStep (OldOr (Makes r (.handleDataPacket cid pkt amb recvTimestamp)))
      (handleDataPacket cid pkt amb recvTimestamp) r := by
  refine HeldStep.bind OldOr.nothing .get fun _ _ hget _ => ?_
  obtain ⟨hread, rfl⟩ := Prod.mk.inj hget
  obtain rfl := Outcome.ok.inj hread
  split
  · exact OldOr.nothing _
  · rename_i hpreview
    split
    · exact HeldStep.bind OldOr.nothing (.modify (terminateStream_keeps (fun _ _ => rfl) (fun _ _ => rfl) cid pkt.uni))
        fun _ t _ ht => HeldStep.bind OldOr.nothing (.throwIf _ _) fun _ _ _ _ => OldOr.nothing _
    · rename_i hterminated
      split
      · exact OldOr.nothing _
      · rename_i hlisten
        exact acceptDataPacket_oldOr hkeyed hmerge
          ⟨Bool.eq_false_iff.mpr hpreview, Bool.eq_false_iff.mpr hterminated⟩
          (by simpa using hlisten) recvTimestamp

omit hkeyed in
theorem handleSyncPacket_oldOr {P : DMXData → Prop} (cid : Uuid)
    (pkt : SynchronizationPacketFramingLayer) (amb : Ambient) {order : List UInt16}
    (now : UInt16 → Nat) (horder : HashMap.IsOrder order r.waitingData) :
    HeldStep (OldOr P) (handleSyncPacket cid pkt amb order now) r := by
  refine HeldStep.bind OldOr.nothing .get fun _ s _ hs => ?_
  split
  · exact OldOr.nothing _
  · refine HeldStep.bind OldOr.nothing (fun _ => rfl) fun _ t _ ht => ?_
    rw [← (Prod.mk.inj (ht.trans hs)).1] at horder
    unfold HeldStep
    rw [Method.run_bind_of_ok (rtrvWaitingData_run horder)]
    show OldOr P _ (framesOf (.ok (released _))) _
    rw [framesOf_released]
    refine ⟨fun d hd => .inl ?_, fun u d hd => .inl ?_⟩
    · obtain ⟨k, -, hk⟩ := List.mem_filterMap.mp hd
      exact ⟨k, (youngFrame_eq_some.mp hk).1⟩
    · have hget : HashMap.get ((keysOf t pkt.synchronizationAddress order).foldl HashMap.remove
          t.waitingData) u = some d := hd
      rw [get_foldl_remove] at hget
      split at hget
      · exact absurd hget (by simp)
      · exact hget

end Frames

/-! ## Runs -/

/-- The calls of a run: the parser's packets, held frames walked in some order, and merge functions
that keep the universe. -/
structure ListenStep (r : SacnReceiver) (c : ReceiverCall) : Prop where
  packet : ∀ cid pkt amb recvTimestamp, c = .handleDataPacket cid pkt amb recvTimestamp →
    pkt.InDomain
  order : ∀ cid pkt amb order now, c = .handleSyncPacket cid pkt amb order now →
    HashMap.IsOrder order r.waitingData
  merge : ∀ mergeFunc, c = .setMergeFn mergeFunc → KeepsUniverse mergeFunc

/-- **Every call** returns and leaves held what was held before, or what it makes of its packet. -/
theorem ReceiverCall.oldOr {r : SacnReceiver} {c : ReceiverCall}
    (hkeyed : ∀ u d, r.waitingData.get u = some d → d.uni = u)
    (hmerge : KeepsUniverse r.mergeFunc) (hc : ListenStep r c) :
    OldOr (Makes r c) r.waitingData (framesOf (c.ended r)) (c.next r).waitingData := by
  by_cases hdata : ∃ cid pkt amb recvTimestamp, c = .handleDataPacket cid pkt amb recvTimestamp
  · obtain ⟨cid, pkt, amb, recvTimestamp, rfl⟩ := hdata
    exact handleDataPacket_oldOr hkeyed hmerge cid pkt amb recvTimestamp
  · by_cases hsync : ∃ cid pkt amb order now, c = .handleSyncPacket cid pkt amb order now
    · obtain ⟨cid, pkt, amb, order, now, rfl⟩ := hsync
      exact handleSyncPacket_oldOr cid pkt amb now (hc.order _ _ _ _ _ rfl)
    · obtain ⟨hframes, hheld⟩ := ReceiverCall.held_of_noPacket hdata hsync
      refine ⟨fun d hd => ?_, fun u d hd => .inl (hheld u d hd)⟩
      rw [hframes] at hd
      exact absurd hd (by simp)

/-- A call with the receiver it was made on. -/
abbrev ListenEvent : Type := ReceiverCall × SacnReceiver

/-- The runs of a new receiver, with the receiver each call was made on. -/
abbrev ListenRun : List ListenEvent → SacnReceiver → Prop :=
  Run (fun r c => (r, c.next r)) (fun r => ∃ sourceLimit, CreatedWith sourceLimit r) ListenStep

/-- The application passes the universe to `listen_universes`. -/
def AskedFor (u : UInt16) (e : ListenEvent) : Prop :=
  ∃ universes, e.1 = .listenUniverses universes ∧ u ∈ universes

/-- An accepted data packet names the universe as its sync address. -/
def NamedBy (u : UInt16) (e : ListenEvent) : Prop :=
  ∃ cid pkt amb recvTimestamp, e.1 = .handleDataPacket cid pkt amb recvTimestamp ∧
    pkt.AcceptedBy e.2 cid amb ∧ pkt.synchronizationAddress = u ∧ u ≠ e131NoSyncAddr

/-- The application mutes the universe. -/
def Muted (u : UInt16) (e : ListenEvent) : Prop := e.1 = .muteUniverse u

/-- The universe has been asked for, or named by an accepted packet, and not been muted since. -/
def ListenedTo (log : List ListenEvent) (u : UInt16) : Prop :=
  Since log (fun e => AskedFor u e ∨ NamedBy u e) (Muted u)

/-- A call of the history made the frame, of a universe that was listened to then. -/
def ReceivedIn (log : List ListenEvent) (d : DMXData) : Prop :=
  ∃ before c r after, log = before ++ (c, r) :: after ∧ Makes r c d ∧ ListenedTo before d.uni

/-! ### What calls do to the list -/

theorem mem_universes_acceptDataPacket {r : SacnReceiver} {cid : Uuid}
    {pkt : DataPacketFramingLayer} {amb : Ambient} {recvTimestamp : Nat} {u : UInt16}
    (hplain : (pkt.previewData && !r.processPreviewData) = false ∧ pkt.streamTerminated = false)
    (hlisten : r.isListening pkt.uni = true)
    (h : u ∈ ((acceptDataPacket cid pkt amb recvTimestamp).run r).2.universes) :
    u ∈ r.universes ∨ NamedBy u (.handleDataPacket cid pkt amb recvTimestamp, r) := by
  unfold acceptDataPacket at h
  rw [Method.run_bind_of_ok (Method.run_get r), Method.run_bind] at h
  have hkeeps : ((onSequences (SequenceNumbering.checkDataSeqNumber r.sourceLimit cid
      pkt.sequenceNumber pkt.uni r.announceTimeout amb)).run r).2.universes = r.universes := rfl
  rcases hcheck : (onSequences (SequenceNumbering.checkDataSeqNumber r.sourceLimit cid
    pkt.sequenceNumber pkt.uni r.announceTimeout amb)).run r with ⟨_ | _ | _, s⟩
  · rw [hcheck] at h hkeeps
    simp only at h hkeeps
    split at h
    · exact .inl (hkeeps ▸ h)
    · rename_i hsync
      have hrest : ∀ _ : Unit, Method.Keeps SacnReceiver.universes (do
          storeWaitingData (dmxData cid pkt recvTimestamp)
          return (none : Option (List DMXData))) := fun _ =>
        .bind (keeps_storeWaitingData _ fun _ _ => rfl) fun _ => .pure _
      rw [Method.Keeps.run_bind hrest] at h
      rcases mem_universes_listenUniverses h with hnamed | hold
      · obtain rfl := List.mem_singleton.mp hnamed
        exact .inr ⟨cid, pkt, amb, recvTimestamp, rfl,
          ⟨hplain, hlisten, congrArg Prod.fst hcheck⟩, rfl, hsync⟩
      · exact .inl (hkeeps ▸ hold)
  all_goals
    rw [hcheck] at h hkeeps
    exact .inl (hkeeps ▸ h)

theorem mem_universes_handleDataPacket {r : SacnReceiver} {cid : Uuid}
    {pkt : DataPacketFramingLayer} {amb : Ambient} {recvTimestamp : Nat} {u : UInt16}
    (h : u ∈ ((handleDataPacket cid pkt amb recvTimestamp).run r).2.universes) :
    u ∈ r.universes ∨ NamedBy u (.handleDataPacket cid pkt amb recvTimestamp, r) := by
  unfold handleDataPacket at h
  rw [Method.run_bind_of_ok (Method.run_get r)] at h
  split at h
  · exact .inl h
  · rename_i hpreview
    split at h
    · have hkeeps : Method.Keeps SacnReceiver.universes (do
          Method.modify (terminateStream cid pkt.uni)
          Method.throwIf (r.announceStreamTermination = true)
            (SacnError.universeTerminated cid pkt.uni)
          return (none : Option (List DMXData))) :=
        .bind (.modify (terminateStream_keeps (fun _ _ => rfl) (fun _ _ => rfl) cid pkt.uni))
          fun _ => .bind (.throwIf _ _) fun _ => .pure _
      exact .inl (hkeeps r ▸ h)
    · rename_i hterminated
      split at h
      · exact .inl h
      · rename_i hlisten
        exact mem_universes_acceptDataPacket
          ⟨Bool.eq_false_iff.mpr hpreview, Bool.eq_false_iff.mpr hterminated⟩
          (by simpa using hlisten) h

theorem listens_handleDataPacket (cid : Uuid) (pkt : DataPacketFramingLayer) (amb : Ambient)
    (recvTimestamp : Nat) :
    Method.Preserves SacnReceiver.Listens (handleDataPacket cid pkt amb recvTimestamp) := by
  have hkeeps : ∀ {α : Type} {x : Method SacnReceiver SacnError α},
      Method.Keeps SacnReceiver.universes x → Method.Preserves SacnReceiver.Listens x :=
    fun h => .of_keeps h fun _ _ hs hr => ⟨hs ▸ hr.ascending, hs ▸ hr.legal⟩
  refine preserves_handleDataPacket (fun _ => ?_) ?_
  · exact hkeeps (.modify (terminateStream_keeps (fun _ _ => rfl) (fun _ _ => rfl) cid pkt.uni))
  · exact preserves_acceptDataPacket (fun _ _ => hkeeps (keeps_onSequences _ fun _ _ => rfl))
      (fun _ hs => ⟨hs.ascending, hs.legal⟩) (listens_listenUniverses _)
      fun _ => hkeeps (keeps_storeWaitingData _ fun _ _ => rfl)

/-- **How a call changes the list**: it stays ascending and legal, and a universe in it was there
before and is not muted, or is asked for or named. -/
theorem ReceiverCall.listens_next {r : SacnReceiver} (hr : r.Listens) (c : ReceiverCall) :
    (c.next r).Listens ∧ ∀ u ∈ (c.next r).universes,
      (AskedFor u (c, r) ∨ NamedBy u (c, r)) ∨ (u ∈ r.universes ∧ ¬ Muted u (c, r)) := by
  have hother : ∀ {s : SacnReceiver}, s.universes = r.universes → (∀ u, c ≠ .muteUniverse u) →
      s.Listens ∧ ∀ u ∈ s.universes,
        (AskedFor u (c, r) ∨ NamedBy u (c, r)) ∨ (u ∈ r.universes ∧ ¬ Muted u (c, r)) :=
    fun hs hmute => ⟨⟨hs ▸ hr.ascending, hs ▸ hr.legal⟩,
      fun u hu => .inr ⟨hs ▸ hu, hmute u⟩⟩
  cases c with
  | listenUniverses universes =>
    refine ⟨listens_listenUniverses universes r hr, fun u hu => ?_⟩
    rcases mem_universes_listenUniverses hu with hasked | hold
    · exact .inl (.inl ⟨universes, rfl, hasked⟩)
    · exact .inr ⟨hold, by rintro ⟨⟩⟩
  | muteUniverse uni =>
    obtain ⟨hlistens, hmem⟩ := universes_muteUniverse hr uni
    refine ⟨hlistens, fun u hu => ?_⟩
    obtain ⟨hold, hne⟩ := (hmem u).mp hu
    refine .inr ⟨hold, ?_⟩
    rintro ⟨⟩
    exact hne rfl
  | handleDataPacket cid pkt amb recvTimestamp =>
    refine ⟨listens_handleDataPacket cid pkt amb recvTimestamp r hr, fun u hu => ?_⟩
    rcases mem_universes_handleDataPacket hu with hold | hnamed
    · exact .inr ⟨hold, by rintro ⟨⟩⟩
    · exact .inl (.inr hnamed)
  | handleSyncPacket cid pkt amb order now =>
    exact hother (keeps_handleSyncPacket cid pkt amb order now (fun _ _ => rfl) (fun _ _ => rfl) r)
      (by simp)
  | handleUniverseDiscoveryPacket cid pkt now =>
    exact hother (handleUniverseDiscoveryPacket_keeps (fun _ _ => rfl) (fun _ _ => rfl) cid pkt now r)
      (by simp)
  | checkTimeouts data sync => exact hother (keeps_onSequences _ (fun _ _ => rfl) r) (by simp)
  | checkWaitingDataTimeouts now => exact hother rfl (by simp)
  | clearWaitingData uni => exact hother rfl (by simp)
  | clearAllWaitingData => exact hother rfl (by simp)
  | removeExpiredSources now => exact hother rfl (by simp)
  | resetSources => exact hother rfl (by simp)
  | setMergeFn merge => exact hother rfl (by simp)
  | setMulticastEnabled val => exact hother rfl (by simp)
  | setFlags _ _ _ _ => exact hother rfl (by simp)

/-! ### The invariant -/

/-- The list is accounted for by the history, and so are the held frames. -/
structure Accounted (log : List ListenEvent) (r : SacnReceiver) : Prop where
  listens : r.Listens
  universes : ∀ u ∈ r.universes, u = e131DiscoveryUniverse ∨ ListenedTo log u
  keyed : ∀ u d, r.waitingData.get u = some d → d.uni = u
  merge : KeepsUniverse r.mergeFunc
  held : ∀ u d, r.waitingData.get u = some d → ReceivedIn log d

theorem ReceivedIn.append {log : List ListenEvent} {d : DMXData} (h : ReceivedIn log d)
    (later : List ListenEvent) : ReceivedIn (log ++ later) d := by
  obtain ⟨before, c, r, after, rfl, hmakes, hlistened⟩ := h
  exact ⟨before, c, r, after ++ later, by simp, hmakes, hlistened⟩

variable {log : List ListenEvent} {r : SacnReceiver} {c : ReceiverCall}

/-- A frame made now is of a universe that is listened to now. -/
theorem Accounted.makes (h : Accounted log r) (hc : ListenStep r c) {d : DMXData}
    (hmakes : Makes r c d) : ReceivedIn (log ++ [(c, r)]) d := by
  refine ⟨log, c, r, [], rfl, hmakes, ?_⟩
  obtain ⟨cid, pkt, amb, recvTimestamp, rfl, haccepted, huni, -⟩ := hmakes
  have hmem : pkt.uni ∈ r.universes := List.contains_iff_mem.mp haccepted.listening
  rcases h.universes pkt.uni hmem with hdiscovery | hlistened
  · have hlegal := (hc.packet _ _ _ _ rfl).uni_range.2
    rw [hdiscovery] at hlegal
    exact absurd hlegal (by decide)
  · exact huni ▸ hlistened

/-- A call leaves every frame under its own universe, and a merge function that keeps it there. -/
theorem keyed_next (hkeyed : ∀ u d, r.waitingData.get u = some d → d.uni = u)
    (hmerge : KeepsUniverse r.mergeFunc) (hc : ListenStep r c) :
    (∀ u d, (c.next r).waitingData.get u = some d → d.uni = u) ∧
      KeepsUniverse (c.next r).mergeFunc := by
  refine ⟨fun u d hd => ?_, ?_⟩
  · rcases (ReceiverCall.oldOr hkeyed hmerge hc).2 u d hd with hold | ⟨-, huni⟩
    · exact hkeyed u d hold
    · exact huni
  · by_cases hset : ∃ mergeFunc, c = .setMergeFn mergeFunc
    · obtain ⟨mergeFunc, rfl⟩ := hset
      exact hc.merge mergeFunc rfl
    · have hsame : (c.next r).mergeFunc = r.mergeFunc :=
        ReceiverCall.keeps (f := SacnReceiver.mergeFunc) (fun _ _ => rfl) (fun _ _ => rfl)
          (fun _ _ => rfl) (fun _ _ => rfl) (fun _ _ => rfl) (fun _ _ => rfl)
          (fun mergeFunc heq => absurd ⟨mergeFunc, heq⟩ hset) fun _ _ _ _ _ => rfl
      rw [hsame]
      exact hmerge

theorem Accounted.next (h : Accounted log r) (hc : ListenStep r c) :
    Accounted (log ++ [(c, r)]) (c.next r) := by
  obtain ⟨hlistens, huniverses⟩ := c.listens_next h.listens
  obtain ⟨hkeyed, hmerge⟩ := keyed_next h.keyed h.merge hc
  refine ⟨hlistens, fun u hu => ?_, hkeyed, hmerge, fun u d hd => ?_⟩
  · rcases huniverses u hu with hnew | ⟨hold, hmuted⟩
    · exact .inr (since_snoc.mpr (.inl hnew))
    · exact (h.universes u hold).imp id fun hlistened => since_snoc.mpr (.inr ⟨hlistened, hmuted⟩)
  · rcases (ReceiverCall.oldOr h.keyed h.merge hc).2 u d hd with hold | ⟨hmakes, -⟩
    · exact (h.held u d hold).append _
    · exact h.makes hc hmakes

theorem listens_of_created {sourceLimit : Option Nat} (h : CreatedWith sourceLimit r) :
    r.Listens := by
  obtain ⟨ip, socket, hnew⟩ := h
  have hempty : (bound ip sourceLimit socket).Listens :=
    ⟨.nil, fun u hu => absurd hu (by simp [bound])⟩
  have hlistens := listens_listenUniverses [e131DiscoveryUniverse] _ hempty
  rw [(withIp_eq_ok.mp hnew).2] at hlistens
  exact hlistens

theorem accounted_of_created {sourceLimit : Option Nat} (h : CreatedWith sourceLimit r) :
    Accounted [] r := by
  obtain ⟨ip, socket, hnew⟩ := h
  have hheld : r.held = (bound ip sourceLimit socket).held :=
    withIp_keeps hnew (fun _ _ => rfl) fun _ _ => rfl
  obtain ⟨hwaiting, hmerge⟩ := Prod.mk.inj hheld
  have hnone : ∀ u, r.waitingData.get u = none := fun u => by
    rw [hwaiting]
    exact HashMap.get_empty u
  have hlisten := (withIp_eq_ok.mp hnew).2
  refine ⟨listens_of_created ⟨ip, socket, hnew⟩, fun u hu => .inl ?_, fun u d hd => ?_, ?_,
    fun u d hd => ?_⟩
  · rcases @mem_universes_listenUniverses [e131DiscoveryUniverse] u (bound ip sourceLimit socket)
      (by rw [hlisten]; exact hu) with hmem | hmem
    · exact List.mem_singleton.mp hmem
    · exact absurd hmem (by simp [bound])
  · rw [hnone] at hd
    exact absurd hd (by simp)
  · rw [hmerge]
    exact Provided.keepsUniverse (.inl rfl)
  · rw [hnone] at hd
    exact absurd hd (by simp)

theorem ListenRun.accounted (h : ListenRun log r) : Accounted log r :=
  h.invariant (fun _ hnew => by
    obtain ⟨sourceLimit, hcreated⟩ := hnew
    exact accounted_of_created hcreated) fun _ _ _ hc hs => hs.next hc

/-- **A receiver only returns data of universes it was listening to when the data came**, and it was
listening because the application had asked for the universe, or a data packet it had accepted had
named the universe as its sync address, and the universe had not been muted since. -/
theorem delivered_from_listened (h : ListenRun log r) (hc : ListenStep r c) :
    ∀ d ∈ framesOf (c.ended r), ReceivedIn (log ++ [(c, r)]) d := by
  intro d hd
  have haccounted := h.accounted
  rcases (ReceiverCall.oldOr haccounted.keyed haccounted.merge hc).1 d hd with ⟨u, hheld⟩ | hmakes
  · exact (haccounted.held u d hheld).append _
  · exact haccounted.makes hc hmakes

/-! ## A universe named by a packet -/

/-- A first packet of universe 7, not synchronised. -/
def namedPkt : DataPacketFramingLayer := { samplePkt with uni := 7, synchronizationAddress := 0 }

theorem samplePkt_inDomain : samplePkt.InDomain :=
  ⟨⟨by decide, by decide⟩, by decide, by decide, by decide, by decide⟩

theorem namedPkt_inDomain : namedPkt.InDomain :=
  ⟨⟨by decide, by decide⟩, by decide, by decide, by decide, by decide⟩

theorem newReceiver_listenRun : ListenRun [] newReceiver := .nil ⟨none, newReceiver_created⟩

theorem listenStep_listen (r : SacnReceiver) (universes : List UInt16) :
    ListenStep r (.listenUniverses universes) :=
  ⟨by rintro _ _ _ _ ⟨⟩, by rintro _ _ _ _ _ ⟨⟩, by rintro _ ⟨⟩⟩

theorem listenStep_data (r : SacnReceiver) (cid : Uuid) {pkt : DataPacketFramingLayer}
    (h : pkt.InDomain) : ListenStep r (.handleDataPacket cid pkt stillAmbient 0) :=
  ⟨by rintro _ _ _ _ ⟨⟩; exact h, by rintro _ _ _ _ _ ⟨⟩, by rintro _ ⟨⟩⟩

/-- The application asks for universe 1, a frame of it is held, and the application mutes it; the
sync packet for universe 7 then releases the frame. -/
theorem mutedUniverse_released :
    ∃ (log : List ListenEvent) (r : SacnReceiver) (c : ReceiverCall),
      ListenRun log r ∧ ListenStep r c ∧ dmxData (.repeated 1) samplePkt 0 ∈ framesOf (c.ended r) ∧
      (∃ e ∈ log, AskedFor 1 e) ∧ ¬ ListenedTo log 1 := by
  have hlisten := newReceiver_listenRun.snoc _ (listenStep_listen newReceiver [1])
  have hdata := hlisten.snoc _ (listenStep_data _ (.repeated 1) samplePkt_inDomain)
  have hmute := hdata.snoc (.muteUniverse 1)
    ⟨by rintro _ _ _ _ ⟨⟩, by rintro _ _ _ _ _ ⟨⟩, by rintro _ ⟨⟩⟩
  have hsync : ListenStep ((ReceiverCall.muteUniverse 1).next holdingReceiver)
      (.handleSyncPacket (.repeated 1) { sequenceNumber := 0, synchronizationAddress := 7 }
        stillAmbient [1] fun _ => 0) :=
    ⟨by rintro _ _ _ _ ⟨⟩, by rintro _ _ _ _ _ ⟨⟩; exact holdingReceiver_isOrder,
      by rintro _ ⟨⟩⟩
  refine ⟨_, _, _, hmute, hsync, by decide +kernel,
    ⟨_, List.mem_cons_self, [1], rfl, List.mem_singleton_self 1⟩, fun h => ?_⟩
  rcases since_snoc.mp h with (⟨_, ⟨⟩, -⟩ | ⟨_, _, _, _, ⟨⟩, -⟩) | ⟨-, hnot⟩
  exact hnot rfl

/-- The receiver asked for universe 1 only; a packet of universe 1 names universe 7, and a packet of
universe 7 is delivered. Nor does it help to mute a universe. -/
theorem namedUniverse_delivered :
    (¬ ∀ (log : List ListenEvent) (r : SacnReceiver) (c : ReceiverCall),
      ListenRun log r → ListenStep r c → ∀ d ∈ framesOf (c.ended r),
        Since log (AskedFor d.uni) (Muted d.uni)) ∧
    ∃ (log : List ListenEvent) (r : SacnReceiver) (c : ReceiverCall),
      ListenRun log r ∧ ListenStep r c ∧ ∃ d ∈ framesOf (c.ended r),
        (∃ e ∈ log, AskedFor d.uni e) ∧ ¬ ListenedTo log d.uni := by
  obtain ⟨log, r, c, hrun, hstep, hframe, hasked, hmuted⟩ := mutedUniverse_released
  refine ⟨fun h => ?_, log, r, c, hrun, hstep, _, hframe, hasked, hmuted⟩
  have hlisten := newReceiver_listenRun.snoc _ (listenStep_listen newReceiver [1])
  have hdata := hlisten.snoc _ (listenStep_data _ (.repeated 1) samplePkt_inDomain)
  obtain ⟨before, e, after, hlog, hasked, -⟩ := h _ _ _ hdata
    (listenStep_data _ (.repeated 2) namedPkt_inDomain) (dmxData (.repeated 2) namedPkt 0)
    (by decide +kernel)
  obtain ⟨universes, he, hmem⟩ := hasked
  have hin : e ∈ before ++ e :: after := by simp
  rw [← hlog] at hin
  simp only [List.nil_append, List.cons_append, List.mem_cons, List.not_mem_nil, or_false] at hin
  rcases hin with rfl | rfl
  · obtain rfl := ReceiverCall.listenUniverses.inj he
    exact absurd hmem (by decide)
  · exact absurd he (by simp)

/-- Of the packet's frame, the history tells why it was received. -/
theorem samplePkt_delivered :
    ∃ (log : List ListenEvent) (r : SacnReceiver), ListenRun log r ∧
      ReceivedIn log (dmxData (.repeated 2) namedPkt 0) := by
  have hlisten := newReceiver_listenRun.snoc _ (listenStep_listen newReceiver [7])
  have hstep := listenStep_data ((ReceiverCall.listenUniverses [7]).next newReceiver) (.repeated 2)
    namedPkt_inDomain
  exact ⟨_, _, hlisten.snoc _ hstep, delivered_from_listened hlisten hstep _ (by decide +kernel)⟩

end Sacn
