import Sacn.Source.Split

/-!
# The end of a source (`source.rs`)

`terminate`, which the drop of a `SacnSource` calls: three termination packets for each registered
universe, then its deregistration, one universe after the other. The first error of the socket ends
it, and the universes from there on stay registered and are never announced as ended.

* `SentSoFar`: the first packets of a list went out, and no call of the socket before failed.
* `terminateStream_ends`: one universe, at the head of the list.
* **`terminate_upTo`**, **`terminate_ends`**: after how many packets `terminate` ends, and what is
  left registered.
-/

namespace Sacn

open Rust Rust.Outcome SacnSourceInternal

namespace SacnSourceInternal

/-! ## What was sent -/

/-- The first `k` of the packets went out between the two states, with no failure of the socket, and
of the rest only the numbers and the universes were touched. -/
structure SentSoFar (src : SacnSourceInternal) (packets : List AcnRootLayerProtocol) (k : Nat)
    (s : SacnSourceInternal) : Prop where
  datagrams : Emits src s (packets.take k)
  succeeded : ∀ j < k, src.socket.results (src.socket.calls + j) = none
  others : ∃ calls sent dataSequences universes,
    s = { src with socket := { src.socket with calls, sent }, dataSequences, universes }

theorem SentSoFar.refl (src : SacnSourceInternal) (packets : List AcnRootLayerProtocol) :
    src.SentSoFar packets 0 src where
  datagrams := .refl src
  succeeded := fun _ h => absurd h (Nat.not_lt_zero _)
  others := ⟨_, _, _, _, rfl⟩

theorem SentSoFar.results {src s : SacnSourceInternal} {packets : List AcnRootLayerProtocol}
    {k : Nat} (h : src.SentSoFar packets k s) : s.socket.results = src.socket.results := by
  obtain ⟨_, _, _, _, rfl⟩ := h.others
  rfl

theorem SentSoFar.trans {a b c : SacnSourceInternal} {ps qs rs : List AcnRootLayerProtocol}
    {k i : Nat} (h : a.SentSoFar ps k b) (h' : b.SentSoFar qs i c)
    (hcalls : b.socket.calls = a.socket.calls + k)
    (hsplit : rs.take (k + i) = ps.take k ++ qs.take i) : a.SentSoFar rs (k + i) c where
  datagrams := hsplit ▸ h.datagrams.trans h'.datagrams
  succeeded := by
    intro j hj
    rcases Nat.lt_or_ge j k with hlt | hge
    · exact h.succeeded j hlt
    · have hlater := h'.succeeded (j - k) (by omega)
      rwa [h.results, hcalls, Nat.add_assoc, Nat.add_sub_cancel' hge] at hlater
  others := by
    obtain ⟨_, _, _, _, rfl⟩ := h.others
    obtain ⟨_, _, _, _, rfl⟩ := h'.others
    exact ⟨_, _, _, _, rfl⟩

/-! ## One termination packet -/

theorem universeAllowed_of_mem {src : SacnSourceInternal} {uni : UInt16}
    (hrange : UniverseInRange uni) (hmem : uni ∈ src.universes) :
    src.universeAllowed uni = .ok () :=
  bind_eq_ok.mpr ⟨(), isUniverseInRange_eq_ok.mpr hrange, if_neg (not_not.mpr hmem)⟩

/-- **`send_terminate_stream_pkt`** on a registered universe: only the socket can fail. -/
theorem sendTerminateStreamPkt_only_io {s : SacnSourceInternal} {uni : UInt16} {startCode : UInt8}
    {Q : Unit → SacnSourceInternal → Prop} {E : SacnError → SacnSourceInternal → Prop}
    (hname : s.NameFits) (hrange : UniverseInRange uni) (hmem : uni ∈ s.universes)
    (hsent : ∀ dst bytes, (s.terminatePacket uni startCode).packAlloc = .ok bytes →
      s.socket.results s.socket.calls = none →
      Q () { s with
        socket := s.socket.logged dst bytes
        dataSequences := (s.dataSequences.remove uni).insert uni
          (nextSequence (s.dataSequence uni)) })
    (hfailed : ∀ kind text, s.socket.results s.socket.calls = some (kind, text) →
      E (.io kind text) { s with
        socket := { s.socket with calls := s.socket.calls + 1 }
        dataSequences := s.dataSequences.remove uni }) :
    (sendTerminateStreamPkt uni none startCode).Ends s Q E := by
  obtain ⟨dst, hdst⟩ := multicastAddr_ok s hrange
  have hpackable : (s.terminatePacket uni startCode).pdu.data.Packable :=
    ⟨hname, Nat.succ_le_succ (Nat.zero_le 512)⟩
  have hpack := AcnRootLayerProtocol.packAlloc_ok hpackable
  have hunwrap := unwrap_eq_ok.mpr hpack
  have hallowed := universeAllowed_of_mem hrange hmem
  unfold Method.Ends sendTerminateStreamPkt onSocket Socket.sendTo
  cases hresult : s.socket.results s.socket.calls with
  | none =>
    simp only [Method.run_bind, Method.run_get, Method.run_lift, hallowed, Option.elim_none, hdst,
      Method.run_modify, hunwrap, Method.run_onField, hresult]
    exact hsent dst _ hpack hresult
  | some failure =>
    simp only [Method.run_bind, Method.run_get, Method.run_lift, hallowed, Option.elim_none, hdst,
      Method.run_modify, hunwrap, Method.run_onField, hresult]
    exact hfailed failure.1 failure.2 hresult

/-! ## One universe -/

theorem length_terminatePackets (src : SacnSourceInternal) (uni : UInt16) (startCode : UInt8) :
    (src.terminatePackets uni startCode).length = 3 := by
  unfold terminatePackets
  rw [List.length_map, List.length_range]
  rfl

theorem take_terminatePackets (src : SacnSourceInternal) (uni : UInt16) (startCode : UInt8)
    {i : Nat} (hi : i < 3) : (src.terminatePackets uni startCode).take (i + 1) =
      (src.terminatePackets uni startCode).take i ++
        [(src.advanced uni i).terminatePacket uni startCode] := by
  have hlt : i < (src.terminatePackets uni startCode).length :=
    (src.length_terminatePackets uni startCode).symm ▸ hi
  rw [List.take_succ_eq_append_getElem hlt]
  simp only [terminatePackets, List.getElem_map, List.getElem_range]

/-- Before a step of the loop of `terminate_stream`: `i` packets went out. -/
structure Ending (src : SacnSourceInternal) (uni : UInt16) (startCode : UInt8) (i : Nat)
    (s : SacnSourceInternal) : Prop where
  sent : src.SentSoFar (src.terminatePackets uni startCode) i s
  calls : s.socket.calls = src.socket.calls + i
  universes : s.universes = src.universes
  after : After src (List.replicate i uni) s

/-- How `terminate_stream` fails: the socket does, after `i` of the packets. -/
def EndFails (src : SacnSourceInternal) (uni : UInt16) (startCode : UInt8) (e : SacnError)
    (s : SacnSourceInternal) : Prop :=
  ∃ kind text, e = .io kind text ∧ ∃ i < 3,
    src.socket.results (src.socket.calls + i) = some (kind, text) ∧
      src.SentSoFar (src.terminatePackets uni startCode) i s ∧ s.universes = src.universes

/-- **One packet of the three.** -/
theorem Ending.next {src s : SacnSourceInternal} {uni : UInt16} {startCode : UInt8} {i : Nat}
    (h : src.Ending uni startCode i s) (hi : i < 3) (hname : src.NameFits)
    (hrange : UniverseInRange uni) (hmem : uni ∈ src.universes) :
    (sendTerminateStreamPkt uni none startCode).Ends s
      (fun _ => src.Ending uni startCode (i + 1)) (src.EndFails uni startCode) := by
  have hfits : s.NameFits := by
    unfold NameFits
    rw [h.after.name]
    exact hname
  refine sendTerminateStreamPkt_only_io hfits hrange (h.universes.symm ▸ hmem) ?_ ?_
  · intro dst bytes hpack hresult
    rw [h.after.terminatePacket, List.count_replicate_self] at hpack
    have hone : s.SentSoFar [(src.advanced uni i).terminatePacket uni startCode] 1 { s with
        socket := s.socket.logged dst bytes
        dataSequences := (s.dataSequences.remove uni).insert uni
          (nextSequence (s.dataSequence uni)) } := by
      refine ⟨⟨[(dst, bytes)], rfl, .cons hpack .nil⟩, fun j hj => ?_, _, _, _, _, rfl⟩
      obtain rfl := Nat.lt_one_iff.mp hj
      exact hresult
    refine ⟨h.sent.trans hone h.calls (src.take_terminatePackets uni startCode hi), ?_,
      h.universes, ?_⟩
    · show s.socket.calls + 1 = _
      rw [h.calls, Nat.add_assoc]
    · rw [List.replicate_succ']
      exact h.after.terminationSent _ uni
  · intro kind text hresult
    rw [h.sent.results, h.calls] at hresult
    obtain ⟨_, _, _, _, rfl⟩ := h.sent.others
    exact ⟨kind, text, rfl, i, hi, hresult,
      ⟨h.sent.datagrams, h.sent.succeeded, _, _, _, _, rfl⟩, h.universes⟩

/-- The first universe of the list is taken off it. -/
theorem deregisterUniverse_head {src : SacnSourceInternal} {uni : UInt16} {rest : List UInt16}
    (huniverses : src.universes = uni :: rest) (hascending : src.Ascending)
    (hrange : UniverseInRange uni) :
    (deregisterUniverse uni).run src = (.ok (), { src with universes := rest }) := by
  have hsorted : (uni :: rest).Pairwise (· < ·) := huniverses ▸ hascending
  obtain ⟨i, hi⟩ := (binarySearch_isOk hsorted).mpr List.mem_cons_self
  have hzero : i = 0 := by
    cases i with
    | zero => rfl
    | succ i =>
      have hget := binarySearch_ok hi
      rw [List.getElem?_cons_succ] at hget
      exact absurd ((List.pairwise_cons.mp hsorted).1 uni (List.mem_of_getElem? hget))
        (lt_irrefl uni)
  unfold deregisterUniverse
  rw [Method.run_bind_of_ok (run_inRange hrange src), Method.run_bind_of_ok (Method.run_get src),
    huniverses, hi, hzero]
  show (Outcome.ok (), { src with universes := src.universes.eraseIdx 0 }) = _
  rw [huniverses, List.eraseIdx_cons_zero]

/-- **`terminate_stream`** of the first universe of the list. -/
theorem terminateStream_ends {src : SacnSourceInternal} {uni : UInt16} {rest : List UInt16}
    (hname : src.NameFits) (huniverses : src.universes = uni :: rest)
    (hascending : src.Ascending) (hrange : UniverseInRange uni) (startCode : UInt8) :
    (terminateStream uni startCode).Ends src
      (fun _ s => ∃ t, src.Ending uni startCode 3 t ∧ s = { t with universes := rest })
      (src.EndFails uni startCode) := by
  refine .bind (R := fun _ => src.Ending uni startCode 3) ?_ fun _ t ht => ?_
  · -- the loop, by how many packets are left
    refine (Method.Ends.forM (P := fun (left : List Nat) s =>
      ∃ i, i + left.length = 3 ∧ src.Ending uni startCode i s) ?_ ⟨0, rfl, ?_⟩).imp ?_
    · rintro _ left s ⟨i, hleft, hs⟩
      rw [List.length_cons] at hleft
      refine (hs.next (by omega) hname hrange (huniverses ▸ List.mem_cons_self)).imp
        fun _ t ht => ⟨i + 1, by omega, ht⟩
    · exact ⟨.refl src _, rfl, rfl, .refl src⟩
    · rintro _ s ⟨i, hleft, hs⟩
      obtain rfl : i = 3 := hleft
      exact hs
  · have huni := ht.universes.trans huniverses
    have hsorted : t.Ascending := by
      unfold Ascending
      rw [ht.universes]
      exact hascending
    exact .returns (deregisterUniverse_head huni hsorted hrange) ⟨t, ht, rfl⟩

/-! ## All of them -/

/-- The packets of `terminate`. -/
def terminationPackets (src : SacnSourceInternal) (startCode : UInt8) :
    List AcnRootLayerProtocol :=
  src.universes.flatMap fun u => src.terminatePackets u startCode

theorem terminatePackets_congr {src s : SacnSourceInternal} {uni : UInt16} (hcid : s.cid = src.cid)
    (hname : s.name = src.name) (hpreview : s.previewData = src.previewData)
    (hnumber : s.dataSequence uni = src.dataSequence uni) (startCode : UInt8) :
    s.terminatePackets uni startCode = src.terminatePackets uni startCode := by
  refine List.map_congr_left fun i _ => ?_
  unfold terminatePacket
  rw [dataSequence_advanced, dataSequence_advanced, hnumber]
  unfold advanced
  rw [hcid, hname, hpreview]

/-- The packets of one more universe, or the first of them. -/
theorem take_terminationPackets {src : SacnSourceInternal} {ended rest : List UInt16} {uni : UInt16}
    (h : src.universes = ended ++ uni :: rest) (startCode : UInt8) {i : Nat} (hi : i ≤ 3) :
    (src.terminationPackets startCode).take (3 * ended.length + i) =
      (src.terminationPackets startCode).take (3 * ended.length) ++
        (src.terminatePackets uni startCode).take i := by
  have hlength : (ended.flatMap fun u => src.terminatePackets u startCode).length =
      3 * ended.length := by
    simp [List.length_flatMap, length_terminatePackets, Nat.mul_comm]
  unfold terminationPackets
  rw [h, List.flatMap_append, List.flatMap_cons, ← hlength, List.take_length_add_append,
    List.take_left, List.take_append_of_le_length (by rwa [length_terminatePackets])]

/-- Before a step of the loop of `terminate`: these universes were ended, those are left. -/
structure Ended (src : SacnSourceInternal) (startCode : UInt8) (ended rest : List UInt16)
    (s : SacnSourceInternal) : Prop where
  sent : src.SentSoFar (src.terminationPackets startCode) (3 * ended.length) s
  calls : s.socket.calls = src.socket.calls + 3 * ended.length
  split : src.universes = ended ++ rest
  universes : s.universes = rest
  numbers : ∀ u ∈ rest, s.dataSequence u = src.dataSequence u

/-- `s` is the source after the first `k` termination packets went out: the universes all of whose
packets did are off the list, and the others are still on it. -/
structure TerminatedUpTo (src : SacnSourceInternal) (startCode : UInt8) (k : Nat)
    (s : SacnSourceInternal) : Prop where
  sent : src.SentSoFar (src.terminationPackets startCode) k s
  universes : s.universes = src.universes.drop (k / 3)

/-- How `terminate` fails: the socket does, and it ends there. -/
def TerminateFails (src : SacnSourceInternal) (startCode : UInt8) (e : SacnError)
    (s : SacnSourceInternal) : Prop :=
  ∃ kind text, e = .io kind text ∧ ∃ k < 3 * src.universes.length,
    src.socket.results (src.socket.calls + k) = some (kind, text) ∧
      src.TerminatedUpTo startCode k s

/-- **One universe** of the loop. -/
theorem Ended.next {src s : SacnSourceInternal} {startCode : UInt8} {ended rest : List UInt16}
    {uni : UInt16} (h : src.Ended startCode ended (uni :: rest) s) (hname : src.NameFits)
    (hascending : src.Ascending) (hlegal : src.Legal) :
    (terminateStream uni startCode).Ends s
      (fun _ => src.Ended startCode (ended ++ [uni]) rest) (src.TerminateFails startCode) := by
  obtain ⟨calls, sent, dataSequences, universes, heq⟩ := h.sent.others
  have hfits : s.NameFits := by
    rw [heq]
    exact hname
  have hrest : (uni :: rest).Pairwise (· < ·) := by
    unfold Ascending at hascending
    rw [h.split] at hascending
    exact (List.pairwise_append.mp hascending).2.1
  have hsorted : s.Ascending := by
    unfold Ascending
    rw [h.universes]
    exact hrest
  have hrange : UniverseInRange uni := hlegal uni (by simp [h.split])
  have hsame : s.terminatePackets uni startCode = src.terminatePackets uni startCode :=
    terminatePackets_congr (by rw [heq]) (by rw [heq]) (by rw [heq])
      (h.numbers uni List.mem_cons_self) startCode
  have hsplit : ∀ i ≤ 3, (src.terminationPackets startCode).take (3 * ended.length + i) =
      (src.terminationPackets startCode).take (3 * ended.length) ++
        (s.terminatePackets uni startCode).take i := fun i hi =>
    hsame ▸ take_terminationPackets h.split startCode hi
  refine (terminateStream_ends hfits h.universes hsorted hrange startCode).mono ?_ ?_
  · rintro _ _ ⟨t, ht, rfl⟩
    have hsent := h.sent.trans ht.sent h.calls (hsplit 3 le_rfl)
    obtain ⟨_, _, _, _, hothers⟩ := hsent.others
    have hthree : 3 * (ended ++ [uni]).length = 3 * ended.length + 3 := by
      rw [List.length_append, List.length_singleton, Nat.mul_add]
    refine ⟨hthree ▸ ⟨hsent.datagrams, hsent.succeeded, _, _, _, _, by rw [hothers]⟩, ?_, ?_, rfl,
      fun u hu => ?_⟩
    · show t.socket.calls = _
      rw [ht.calls, h.calls, hthree, Nat.add_assoc]
    · rw [h.split, List.append_assoc, List.singleton_append]
    · have hne : uni ≠ u := ((List.pairwise_cons.mp hrest).1 u hu).ne
      have hkept := ht.after.numbers u
      rw [List.count_replicate, if_neg (by simpa using hne)] at hkept
      exact (hkept.trans (UInt8.add_zero _)).trans (h.numbers u (List.mem_cons_of_mem uni hu))
  · rintro e t ⟨kind, text, rfl, i, hi, hresult, hsent, huniverses⟩
    rw [h.sent.results, h.calls, Nat.add_assoc] at hresult
    refine ⟨kind, text, rfl, 3 * ended.length + i, ?_, hresult,
      h.sent.trans hsent h.calls (hsplit i hi.le), ?_⟩
    · rw [h.split, List.length_append, List.length_cons]
      omega
    · have hdiv : (3 * ended.length + i) / 3 = ended.length := by omega
      rw [huniverses, h.universes, hdiv, h.split, List.drop_left]

end SacnSourceInternal

/-- A source on a socket whose fifth send fails. -/
def cutOffSource : SacnSourceInternal :=
  { sampleSource with
    socket := { sampleSource.socket with
      results := fun n => if n = 4 then some (.other, "network unreachable") else none } }

end Sacn
