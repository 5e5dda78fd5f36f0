import Sacn.Source.Pages
import Sacn.Source.Shutdown

/-!
# Panics of a source (`source.rs`)

The calls of a source index the data and the list of universes, and `unwrap` what the packer
returns. In a run none of this panics: the name fits its field, the parts and the pages are slices
in range and no longer than a packet holds, and an allowed universe has a multicast address.

* `UserCall.returns`: every call ends, on a source whose name fits and whose list is sorted.
* **`source_never_panics`**: no call of a run panics, whatever its arguments and the socket.
-/

namespace Sacn

open Rust Rust.Outcome SacnSourceInternal

namespace SacnSourceInternal

variable {src : SacnSourceInternal}

/-- The call ends, with `Ok` or an error. -/
def Returns (x : Method SacnSourceInternal SacnError Unit) (src : SacnSourceInternal) : Prop :=
  x.Ends src (fun _ _ => True) (fun _ _ => True)

theorem isUniverseInRange_ne_panic (uni : UInt16) : isUniverseInRange uni ≠ .panic := by
  unfold isUniverseInRange throwIf
  split <;> simp

theorem universeAllowed_mem {uni : UInt16} (h : src.universeAllowed uni = .ok ()) :
    uni ∈ src.universes := by
  obtain ⟨_, -, hmem⟩ := bind_eq_ok.mp h
  exact not_not.mp (throwIf_eq_ok.mp hmem)

theorem registerUniverse_returns (uni : UInt16) : Returns (registerUniverse uni) src := by
  by_cases h : UniverseInRange uni
  · exact .returns (registerUniverse_run h src) trivial
  · exact .of_err (registerUniverse_illegal h src) trivial

theorem deregisterUniverse_returns (uni : UInt16) : Returns (deregisterUniverse uni) src := by
  refine .lift_bind (isUniverseInRange_ne_panic uni) (fun _ _ => trivial) fun _ _ => .get_bind ?_
  split
  · exact trivial
  · exact trivial

/-- A name that fits goes into every termination packet. -/
theorem sendTerminateStreamPkt_returns (hname : src.NameFits) (uni : UInt16) (startCode : UInt8) :
    (sendTerminateStreamPkt uni none startCode).Ends src (fun _ s => s.NameFits)
      (fun _ _ => True) := by
  cases hallowed : src.universeAllowed uni with
  | ok _ =>
    exact sendTerminateStreamPkt_only_io hname (universeAllowed_ok hallowed)
      (universeAllowed_mem hallowed) (fun _ _ _ _ => hname) fun _ _ _ => trivial
  | err e =>
    have hrun : (sendTerminateStreamPkt uni none startCode).run src = (.err e, src) := by
      unfold sendTerminateStreamPkt
      rw [Method.run_bind_of_ok (Method.run_get src), hallowed]
      rfl
    exact .of_err hrun trivial
  | panic => exact absurd hallowed (universeAllowed_ne_panic uni)

theorem terminateStream_returns (hname : src.NameFits) (uni : UInt16) (startCode : UInt8) :
    Returns (terminateStream uni startCode) src :=
  .bind (R := fun _ _ => True)
    ((Method.Ends.forM (P := fun (_ : List Nat) s => s.NameFits)
      (fun _ _ _ hs => sendTerminateStreamPkt_returns hs uni startCode) hname).imp
        fun _ _ _ => trivial)
    fun _ _ _ => deregisterUniverse_returns uni

theorem sendSyncPacket_returns (uni : UInt16) (dstIp : Option SocketAddr) :
    Returns (sendSyncPacket uni dstIp) src := by
  refine .get_bind (.lift_bind (universeAllowed_ne_panic uni) (fun _ _ => trivial)
    fun _ hallowed => ?_)
  obtain ⟨dst, hdst⟩ := multicastAddr_ok src (universeAllowed_ok hallowed)
  have hip : ∃ ip, dstIp.elim (src.multicastAddr uni) .ok = .ok ip := by
    cases dstIp with
    | none => exact ⟨dst, hdst⟩
    | some ip => exact ⟨ip, rfl⟩
  obtain ⟨ip, hip⟩ := hip
  have hpack := AcnRootLayerProtocol.packAlloc_ok (p := src.syncPacket uni) trivial
  refine .lift_ok_bind hip ?_
  generalize (src.syncPacket uni).packAlloc = packed at hpack
  extract_lets sequence
  exact .lift_ok_bind hpack (sendToOr_bind (fun _ => trivial) fun _ _ _ => trivial)

theorem sendUniverseDiscovery_returns (hname : src.NameFits) (hascending : src.Ascending) :
    Returns sendUniverseDiscovery src :=
  (src.sendUniverseDiscovery_only_io hname hascending).mono (fun _ _ _ => trivial)
    fun _ _ _ => trivial

end SacnSourceInternal

/-- **Every call ends**, on a source whose name fits and whose list is sorted. -/
theorem UserCall.returns {src : SacnSourceInternal} (hname : src.NameFits)
    (hascending : src.Ascending) (c : UserCall) : Returns c.method src := by
  cases c with
  | sends c =>
    cases c with
    | send universes data priority dstIp sync =>
      exact (send_ends hname universes data priority dstIp sync).mono (fun _ _ _ => trivial)
        fun _ _ _ => trivial
    | sendSyncPacket uni dstIp => exact sendSyncPacket_returns uni dstIp
    | terminateStream uni startCode => exact terminateStream_returns hname uni startCode
  | registerUniverse uni => exact registerUniverse_returns uni
  | registerUniverses universes =>
    exact (Method.Ends.forM (P := fun (_ : List UInt16) _ => True)
      (fun uni _ _ _ => registerUniverse_returns uni) trivial)
  | setName name => exact .throwIf_bind (fun _ => trivial) fun _ => trivial
  | setCid cid => exact trivial
  | setPreviewMode previewMode => exact trivial
  | sendUniverseDiscovery => exact sendUniverseDiscovery_returns hname hascending

/-- **A source never panics**: no call of a run does, whatever its arguments and whatever the socket
returns. -/
theorem source_never_panics {allowed : SacnSourceInternal → UserCall → Prop}
    {log : List (UserCall × Outcome SacnError Unit)} {src : SacnSourceInternal}
    (h : SourceRun allowed log src) : ∀ e ∈ log, e.2 ≠ .panic := by
  intro e he
  obtain ⟨pre, post, rfl⟩ := List.append_of_mem he
  obtain ⟨s, hs, -, hended⟩ := Run.split h
  have hreturns := UserCall.returns (SourceRun.nameFits hs) (SourceRun.reachable hs).ascending e.1
  rw [hended]
  exact hreturns.ne_panic

theorem cutOffSource_never_panics : ∃ log : List (UserCall × Outcome SacnError Unit),
    log.map Prod.fst = [.registerUniverses [1, 2], .sendUniverseDiscovery,
      .sends (.terminateStream 2 0)] ∧ ∀ e ∈ log, e.2 ≠ .panic := by
  have hcreated : SacnSource.Created cutOffSource :=
    ⟨"Stage", .repeated 1, sampleSource.addr, _, rfl⟩
  obtain ⟨log, src, hcalls, hrun⟩ : ∃ log src, log.map Prod.fst =
      [UserCall.registerUniverses [1, 2], .sendUniverseDiscovery, .sends (.terminateStream 2 0)] ∧
        SourceRun (fun _ _ => True) log src :=
    ⟨_, _, rfl, (((Run.nil hcreated).snoc (.registerUniverses [1, 2]) trivial).snoc
      .sendUniverseDiscovery trivial).snoc (.sends (.terminateStream 2 0)) trivial⟩
  exact ⟨log, hcalls, source_never_panics hrun⟩

end Sacn
