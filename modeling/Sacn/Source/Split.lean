import Mathlib.Algebra.Order.Floor.Div
import Sacn.Packet.Encode
import Sacn.Source.Calls

/-!
# How `send` ends (`source.rs`)

`send` checks its arguments, then sends the data in parts of at most 513 bytes, one on each
universe. The priority is only checked by `send_universe`, inside the loop; it is the same for all
parts, so the first part is refused and nothing was sent. After that only the socket can fail.

* `SentUpTo`: the source after the first `k` parts went out.
* **`send_splits`**: all ends of `send`, from every state whose name fits its field.
* **`SourceRun.nameFits`**: every state of a source is such a state.
-/

namespace Sacn

open Rust Rust.Outcome SacnSourceInternal

namespace SacnSourceInternal

/-! ## The name of a source -/

/-- The name fits its field in a packet. -/
def NameFits (src : SacnSourceInternal) : Prop :=
  (strBytes src.name).length ≤ e131SourceNameFieldLength

theorem nameFits_of_keeps {α : Type} {x : Method SacnSourceInternal SacnError α}
    (h : Method.Keeps name x) : Method.Preserves NameFits x :=
  .of_keeps h fun s s' hs hn => by
    unfold NameFits
    rw [hs]
    exact hn

theorem nameFits_setName (name : String) : Method.Preserves NameFits (setName name) :=
  preserves_setName fun hfits _ _ => hfits

theorem nameFits_terminateStream (uni : UInt16) (startCode : UInt8) :
    Method.Preserves NameFits (terminateStream uni startCode) :=
  nameFits_of_keeps (keeps_terminateStream (fun _ _ => rfl) (fun _ _ => rfl) (fun _ => rfl)
    fun _ _ => rfl)

end SacnSourceInternal

theorem UserCall.nameFits (c : UserCall) : Method.Preserves NameFits c.method := by
  have hregister : ∀ uni, Method.Preserves NameFits (SacnSourceInternal.registerUniverse uni) :=
    fun uni => nameFits_of_keeps (keeps_registerUniverse fun _ _ => rfl)
  cases c with
  | sends c =>
    cases c with
    | send universes data priority dstIp sync =>
      exact nameFits_of_keeps (keeps_send (fun _ _ => rfl) fun _ _ => rfl)
    | sendSyncPacket uni dstIp =>
      exact nameFits_of_keeps (keeps_sendSyncPacket (fun _ _ => rfl) fun _ _ => rfl)
    | terminateStream uni startCode => exact nameFits_terminateStream uni startCode
  | registerUniverse uni => exact hregister uni
  | registerUniverses universes => exact .forM fun uni _ => hregister uni
  | setName name => exact nameFits_setName name
  | setCid cid => exact .modify fun _ h => h
  | setPreviewMode previewMode => exact .modify fun _ h => h
  | sendUniverseDiscovery => exact nameFits_of_keeps (keeps_sendUniverseDiscovery fun _ _ => rfl)

/-- **In every state of a source its name fits its field.** -/
theorem SourceRun.nameFits {allowed : SacnSourceInternal → UserCall → Prop}
    {log : List (UserCall × Outcome SacnError Unit)} {src : SacnSourceInternal}
    (h : SourceRun allowed log src) : src.NameFits :=
  Run.reaches h (fun _ hs => hs.name_le) fun _ c _ hs => c.nameFits _ hs

/-! ## The parts -/

namespace SacnSourceInternal

section Parts

variable (src : SacnSourceInternal) (universes : List UInt16) (data : List UInt8)
  (priority : UInt8) (dstIp : Option SocketAddr) (syncAddress : UInt16)

/-- `d` is the datagram of the `i`-th part of the data: where it goes and what it holds. -/
def IsPart (i : Nat) (d : SocketAddr × List UInt8) : Prop :=
  ∃ uni, universes[i]? = some uni ∧ dstIp.elim (src.multicastAddr uni) .ok = .ok d.1 ∧
    ((src.advanced uni ((universes.take i).count uni)).dataPacket uni (dataPart data i) priority
      syncAddress).packAlloc = .ok d.2

/-- `s` is the source after the first `k` parts of the data went out: their datagrams were sent,
in order, each moved on the number of its universe, and nothing else was changed. -/
structure SentUpTo (k : Nat) (s : SacnSourceInternal) : Prop where
  datagrams : ∃ datagrams, s.socket.sent = src.socket.sent ++ datagrams ∧
    List.Forall₂ (src.IsPart universes data priority dstIp syncAddress) (List.range k) datagrams
  succeeded : ∀ j < k, src.socket.results (src.socket.calls + j) = none
  numbers : ∀ uni, s.dataSequence uni =
    src.dataSequence uni + UInt8.ofNat ((universes.take k).count uni)
  others : ∃ calls sent dataSequences,
    s = { src with socket := { src.socket with calls, sent }, dataSequences }

/-- What an error of `send` leaves behind: the socket failed on a part, after those before it went
out, or nothing happened at all. -/
def SendFails (e : SacnError) (s : SacnSourceInternal) : Prop :=
  match e with
  | .io kind _ => ∃ k < requiredUniverses data,
      src.SentUpTo universes data priority dstIp syncAddress k s ∧
        ∃ text, src.socket.results (src.socket.calls + k) = some (kind, text)
  | _ => s = src

end Parts

variable {src s : SacnSourceInternal} {universes : List UInt16} {data : List UInt8}
  {priority : UInt8} {dstIp : Option SocketAddr} {syncAddress : UInt16}

theorem SentUpTo.zero : src.SentUpTo universes data priority dstIp syncAddress 0 src where
  datagrams := ⟨[], (List.append_nil _).symm, .nil⟩
  succeeded := fun j hj => absurd hj (Nat.not_lt_zero j)
  numbers := fun _ => (UInt8.add_zero _).symm
  others := ⟨_, _, _, rfl⟩

theorem SentUpTo.after {k : Nat}
    (h : src.SentUpTo universes data priority dstIp syncAddress k s) :
    After src (universes.take k) s := by
  obtain ⟨calls, sent, dataSequences, heq⟩ := h.others
  exact ⟨by rw [heq], by rw [heq], by rw [heq], h.numbers⟩

/-- A call of the socket that failed shows in nothing that `SentUpTo` speaks of. -/
theorem SentUpTo.failed {k : Nat} (h : src.SentUpTo universes data priority dstIp syncAddress k s)
    (calls : Nat) :
    src.SentUpTo universes data priority dstIp syncAddress k
      { s with socket := { s.socket with calls } } := by
  obtain ⟨_, _, _, heq⟩ := h.others
  exact ⟨h.datagrams, h.succeeded, h.numbers, calls, s.socket.sent, s.dataSequences, by rw [heq]⟩

/-- One more part. -/
theorem SentUpTo.next {k : Nat} {uni : UInt16} {dst : SocketAddr} {bytes : List UInt8}
    (h : src.SentUpTo universes data priority dstIp syncAddress k s)
    (huni : universes[k]? = some uni) (hcalls : s.socket.calls = src.socket.calls + k)
    (hresult : s.socket.results s.socket.calls = none)
    (hdst : dstIp.elim (s.multicastAddr uni) .ok = .ok dst)
    (hpack : (s.dataPacket uni (dataPart data k) priority syncAddress).packAlloc = .ok bytes) :
    src.SentUpTo universes data priority dstIp syncAddress (k + 1) { s with
      socket := s.socket.logged dst bytes
      dataSequences := s.dataSequences.insert uni (nextSequence (s.dataSequence uni)) } := by
  obtain ⟨datagrams, hsent, hparts⟩ := h.datagrams
  obtain ⟨calls, sent, dataSequences, heq⟩ := h.others
  have hmulticast : s.multicastAddr uni = src.multicastAddr uni := by rw [heq]; rfl
  have hresults : s.socket.results = src.socket.results := by rw [heq]
  rw [h.after.dataPacket] at hpack
  rw [hmulticast] at hdst
  rw [hresults, hcalls] at hresult
  refine ⟨⟨datagrams ++ [(dst, bytes)], ?_, ?_⟩, ?_, ?_, ?_⟩
  · show s.socket.sent ++ _ = _
    rw [hsent, List.append_assoc]
  · rw [List.range_succ]
    exact List.rel_append hparts (.cons ⟨uni, huni, hdst, hpack⟩ .nil)
  · intro j hj
    rcases Nat.lt_succ_iff_lt_or_eq.mp hj with hj | rfl
    · exact h.succeeded j hj
    · exact hresult
  · have htake : universes.take (k + 1) = universes.take k ++ [uni] := by
      rw [List.take_add_one, huni]
      rfl
    rw [htake]
    exact (h.after.dataSent _ uni).numbers
  · exact ⟨_, _, _, by rw [heq]; rfl⟩

/-! ## One part -/

/-- `send_to(..).map_err(..)?`, then the rest. -/
theorem sendToOr_bind {msg : String} {bytes : List UInt8} {dst : SocketAddr}
    {g : Unit → Method SacnSourceInternal SacnError Unit} {Q : Unit → SacnSourceInternal → Prop}
    {E : SacnError → SacnSourceInternal → Prop}
    (hsent : s.socket.results s.socket.calls = none →
      (g ()).Ends { s with socket := s.socket.logged dst bytes } Q E)
    (hfailed : ∀ kind text, s.socket.results s.socket.calls = some (kind, text) →
      E (.io kind msg) { s with socket := { s.socket with calls := s.socket.calls + 1 } }) :
    (sendToOr msg bytes dst >>= g).Ends s Q E := by
  cases hresult : s.socket.results s.socket.calls with
  | none =>
    have hrun : (sendToOr msg bytes dst).run s =
        (.ok (), { s with socket := s.socket.logged dst bytes }) := by
      unfold sendToOr onSocket Socket.sendTo
      simp only [Method.run_onField, Method.run_mapErr, Method.run_bind, Method.run_get, hresult]
      rfl
    unfold Method.Ends
    rw [Method.run_bind_of_ok hrun]
    exact hsent hresult
  | some failure =>
    obtain ⟨kind, text⟩ := failure
    have hrun : (sendToOr msg bytes dst).run s =
        (.err (.io kind msg), { s with
          socket := { s.socket with calls := s.socket.calls + 1 } }) := by
      unfold sendToOr onSocket Socket.sendTo
      simp only [Method.run_onField, Method.run_mapErr, Method.run_bind, Method.run_get, hresult]
      rfl
    exact .of_err (Method.run_bind_of_err hrun g) (hfailed kind text hresult)

/-- An allowed universe has a multicast address. -/
theorem multicastAddr_ok (src : SacnSourceInternal) {uni : UInt16} (h : UniverseInRange uni) :
    ∃ dst, src.multicastAddr uni = .ok dst := by
  have hrange : isUniverseInRange uni = .ok () := isUniverseInRange_eq_ok.mpr h
  unfold multicastAddr universeToIpv4MulticastAddr universeToIpv6MulticastAddr
  rw [hrange]
  split
  · exact ⟨_, rfl⟩
  · exact ⟨_, rfl⟩

/-- **`send_universe`** after its checks: only the socket can fail. -/
theorem sendUniverse_only_io {uni : UInt16} {values : List UInt8}
    {Q : Unit → SacnSourceInternal → Prop} {E : SacnError → SacnSourceInternal → Prop}
    (hname : s.NameFits) (hpriority : priority ≤ e131MaxPriority)
    (hvalues : values.length ≤ universeChannelCapacity) (huni : UniverseInRange uni)
    (hsent : ∀ dst bytes, dstIp.elim (s.multicastAddr uni) .ok = .ok dst →
      (s.dataPacket uni values priority syncAddress).packAlloc = .ok bytes →
      s.socket.results s.socket.calls = none →
      Q () { s with
        socket := s.socket.logged dst bytes
        dataSequences := s.dataSequences.insert uni (nextSequence (s.dataSequence uni)) })
    (hfailed : ∀ kind text msg, s.socket.results s.socket.calls = some (kind, text) →
      E (.io kind msg) { s with socket := { s.socket with calls := s.socket.calls + 1 } }) :
    (sendUniverse uni values priority dstIp syncAddress).Ends s Q E := by
  have hpack : (s.dataPacket uni values priority syncAddress).packAlloc =
      .ok (s.dataPacket uni values priority syncAddress).encode :=
    AcnRootLayerProtocol.packAlloc_ok ⟨hname, hvalues⟩
  have hunwrap := unwrap_eq_ok.mpr hpack
  refine .throwIf_bind (fun h => absurd h (UInt8.not_lt.mpr hpriority)) fun _ =>
    .throwIf_bind (fun h => absurd h (Nat.not_lt.mpr hvalues)) fun _ => .get_bind ?_
  cases dstIp with
  | some dst =>
    exact .lift_ok_bind hunwrap (sendToOr_bind (fun hresult => hsent dst _ rfl hpack hresult)
      fun kind text => hfailed kind text _)
  | none =>
    obtain ⟨dst, hdst⟩ := multicastAddr_ok s huni
    exact .lift_ok_bind hdst (.lift_ok_bind hunwrap (sendToOr_bind
      (fun hresult => hsent dst _ hdst hpack hresult) fun kind text => hfailed kind text _))

/-- A part of the data is a slice of it. -/
theorem chunk_ok {i : Nat} (hi : i < requiredUniverses data) :
    chunk data i = .ok (dataPart data i) := by
  have hlt : i < (data.length + 512) / 513 := hi
  refine slice_ok ?_ (Nat.min_le_right _ _)
  show i * 513 ≤ min ((i + 1) * 513) data.length
  omega

/-! ## The loop -/

/-- Before a step of the loop of `send`: the parts that are left, and what the others did. -/
def SentBefore (src : SacnSourceInternal) (universes : List UInt16) (data : List UInt8)
    (priority : UInt8) (dstIp : Option SocketAddr) (syncAddress : UInt16)
    (parts : List (UInt16 × Nat)) (s : SacnSourceInternal) : Prop :=
  ∃ k ≤ requiredUniverses data,
    parts = (universes.zipIdx.take (requiredUniverses data)).drop k ∧
    s.socket.calls = src.socket.calls + k ∧
    src.SentUpTo universes data priority dstIp syncAddress k s

/-- **One part**, once its universe and the priority are known to be legal. -/
theorem sendPart_ends (hname : src.NameFits) (hpriority : priority ≤ e131MaxPriority)
    (hrange : ∀ u ∈ universes, UniverseInRange u) {part : UInt16 × Nat}
    {parts : List (UInt16 × Nat)}
    (h : src.SentBefore universes data priority dstIp syncAddress (part :: parts) s) :
    (sendPart data priority dstIp syncAddress part).Ends s
      (fun _ => src.SentBefore universes data priority dstIp syncAddress parts)
      (src.SendFails universes data priority dstIp syncAddress) := by
  obtain ⟨k, -, hparts, hcalls, hupto⟩ := h
  have hk : k < (universes.zipIdx.take (requiredUniverses data)).length := by
    by_contra hk
    rw [List.drop_eq_nil_of_le (Nat.not_lt.mp hk)] at hparts
    exact absurd hparts (List.cons_ne_nil _ _)
  rw [List.drop_eq_getElem_cons hk, List.getElem_take, List.getElem_zipIdx, Nat.zero_add] at hparts
  obtain ⟨rfl, hrest⟩ := List.cons.inj hparts
  rw [List.length_take, List.length_zipIdx] at hk
  have hkn : k < requiredUniverses data := hk.trans_le (Nat.min_le_left _ _)
  have hku : k < universes.length := hk.trans_le (Nat.min_le_right _ _)
  have hresults : s.socket.results = src.socket.results := by
    obtain ⟨_, _, _, heq⟩ := hupto.others
    rw [heq]
  refine .lift_ok_bind (chunk_ok hkn) (sendUniverse_only_io ?_ hpriority
    (length_dataPart_le data k) (hrange _ (List.getElem_mem hku)) ?_ ?_)
  · unfold NameFits
    rw [hupto.after.name]
    exact hname
  · intro dst bytes hdst hpack hresult
    refine ⟨k + 1, hkn, hrest, ?_,
      hupto.next (List.getElem?_eq_getElem hku) hcalls hresult hdst hpack⟩
    show s.socket.calls + 1 = _
    rw [hcalls, Nat.add_assoc]
  · intro kind text msg hresult
    rw [hresults, hcalls] at hresult
    exact ⟨k, hkn, hupto.failed _, text, hresult⟩

/-- A loop whose first part is refused for its priority. -/
theorem sendLoop_refused {part : UInt16 × Nat} {parts : List (UInt16 × Nat)}
    {values : List UInt8} {Q : Unit → SacnSourceInternal → Prop}
    (hchunk : chunk data part.2 = .ok values) (hpriority : ¬ priority ≤ e131MaxPriority) :
    ((part :: parts).forM (sendPart data priority dstIp syncAddress)).Ends src Q
      (src.SendFails universes data priority dstIp syncAddress) := by
  have hrefused : (sendUniverse part.1 values priority dstIp syncAddress).run src =
      (.err (.invalidPriority priority), src) :=
    Method.run_bind_of_err (Method.run_throwIf_pos (UInt8.not_le.mp hpriority) _ src) _
  have hlift : (Method.lift (chunk data part.2) : Method SacnSourceInternal _ _).run src =
      (.ok values, src) := congrArg (·, src) hchunk
  have hpart : (sendPart data priority dstIp syncAddress part).run src =
      (.err (.invalidPriority priority), src) :=
    (Method.run_bind_of_ok hlift _).trans hrefused
  exact .of_err (Method.run_bind_of_err hpart _) rfl

/-- **The loop of `send`.** -/
theorem sendLoop_ends (hname : src.NameFits) (hrange : ∀ u ∈ universes, UniverseInRange u)
    (hdata : data ≠ []) (hlength : requiredUniverses data ≤ universes.length) :
    ((universes.zipIdx.take (requiredUniverses data)).forM
      (sendPart data priority dstIp syncAddress)).Ends src
        (fun _ => src.SentUpTo universes data priority dstIp syncAddress (requiredUniverses data))
        (src.SendFails universes data priority dstIp syncAddress) := by
  by_cases hpriority : priority ≤ e131MaxPriority
  · have hstart : src.SentBefore universes data priority dstIp syncAddress
        (universes.zipIdx.take (requiredUniverses data)) src :=
      ⟨0, Nat.zero_le _, rfl, rfl, .zero⟩
    refine (Method.Ends.forM (P := src.SentBefore universes data priority dstIp syncAddress)
      (fun _ _ _ h => sendPart_ends hname hpriority hrange h) hstart).imp ?_
    rintro _ s' ⟨k, hk, hdone, -, hupto⟩
    have hall := List.drop_eq_nil_iff.mp hdone.symm
    rw [List.length_take, List.length_zipIdx, Nat.min_eq_left hlength] at hall
    rw [Nat.le_antisymm hall hk]
    exact hupto
  · -- the first part is refused, and there is one
    have hpos := requiredUniverses_pos hdata
    have hchunk := chunk_ok hpos
    cases hparts : universes.zipIdx.take (requiredUniverses data) with
    | nil =>
      have hlen := congrArg List.length hparts
      rw [List.length_take, List.length_zipIdx, Nat.min_eq_left hlength] at hlen
      exact absurd hlen hpos.ne'
    | cons part parts =>
      have hfirst : part.2 = 0 := by
        have hget := congrArg (·[0]?) hparts
        simp only [List.getElem?_take, hpos, if_true, List.getElem?_zipIdx,
          List.getElem?_cons_zero] at hget
        obtain ⟨u, -, hu⟩ := Option.map_eq_some_iff.mp hget
        rw [← hu]
      exact sendLoop_refused (hfirst ▸ hchunk) hpriority

/-! ## All ends of `send` -/

/-- `universe_allowed` asks for a legal universe, and its errors are not the socket's. -/
theorem universeAllowed_ok {uni : UInt16} (h : src.universeAllowed uni = .ok ()) :
    UniverseInRange uni := by
  obtain ⟨_, hrange, -⟩ := bind_eq_ok.mp h
  exact isUniverseInRange_eq_ok.mp hrange

theorem universeAllowed_ne_panic (uni : UInt16) : src.universeAllowed uni ≠ .panic := by
  unfold universeAllowed isUniverseInRange
  rw [Ne, bind_eq_panic]
  simp

theorem universeAllowed_fails {uni : UInt16} {e : SacnError}
    (h : src.universeAllowed uni = .err e) :
    src.SendFails universes data priority dstIp syncAddress e src := by
  unfold universeAllowed isUniverseInRange throwIf at h
  split at h
  · obtain rfl := err.inj h
    rfl
  · rw [ok_bind] at h
    split at h
    · obtain rfl := err.inj h
      rfl
    · cases h

/-- The parts of the data: none is empty, and each is the next 513 bytes, or what is left. -/
theorem dataPart_ne_nil {i : Nat} (hi : i < requiredUniverses data) : dataPart data i ≠ [] := by
  have hlt : i < (data.length + 512) / 513 := hi
  have hlength : (dataPart data i).length = min ((i + 1) * 513) data.length - i * 513 :=
    length_extract_of_le (Nat.min_le_right _ _)
  intro hnil
  rw [hnil, List.length_nil] at hlength
  omega

theorem dataPart_eq (data : List UInt8) (i : Nat) :
    dataPart data i = (data.drop (i * universeChannelCapacity)).take universeChannelCapacity := by
  show data.extract (i * 513) (min ((i + 1) * 513) data.length) = (data.drop (i * 513)).take 513
  rw [List.extract_eq_take_drop, List.take_eq_take_iff, List.length_drop]
  omega

/-- The checks of `send`, and its loop. -/
theorem send_ends (hname : src.NameFits) (universes : List UInt16) (data : List UInt8)
    (priority : Option UInt8) (dstIp : Option SocketAddr) (sync : Option UInt16) :
    (send universes data priority dstIp sync).Ends src
      (fun _ => src.SentUpTo universes data (priority.getD e131DefaultPriority) dstIp
        (sync.getD noSyncUniverse) (requiredUniverses data))
      (src.SendFails universes data (priority.getD e131DefaultPriority) dstIp
        (sync.getD noSyncUniverse)) := by
  refine .get_bind (.throwIf_bind (fun _ => rfl) fun _ => .throwIf_bind (fun _ => rfl) fun hdata =>
    .forM_lift_bind (fun u _ => universeAllowed_ne_panic u) (fun u _ e => universeAllowed_fails)
      fun hallowed => ?_)
  have hrange : ∀ u ∈ universes, UniverseInRange u := fun u hu => universeAllowed_ok (hallowed u hu)
  have hne : data ≠ [] := fun hnil => hdata (List.isEmpty_iff.mpr hnil)
  have hrest : ∀ priority syncAddress, Method.Ends (do
      Method.throwIf (universes.length < requiredUniverses data) .universeListEmpty
      (universes.zipIdx.take (requiredUniverses data)).forM
        (sendPart data priority dstIp syncAddress)) src
      (fun _ => src.SentUpTo universes data priority dstIp syncAddress (requiredUniverses data))
      (src.SendFails universes data priority dstIp syncAddress) := fun priority syncAddress =>
    .throwIf_bind (fun _ => rfl) fun hlength =>
      sendLoop_ends hname hrange hne (Nat.not_lt.mp hlength)
  cases sync with
  | none => exact hrest _ _
  | some a =>
    cases hsync : src.universeAllowed a with
    | ok _ => exact .lift_ok_bind (mapErr_eq_ok.mpr hsync) (hrest _ _)
    | err e =>
      have hlift : (Method.lift ((src.universeAllowed a).mapErr fun _ => .illegalSyncUniverse a) :
          Method SacnSourceInternal _ _).run src = (.err (.illegalSyncUniverse a), src) := by
        rw [Method.run_lift, hsync]
        rfl
      exact .of_err (Method.run_bind_of_err hlift _) rfl
    | panic => exact absurd hsync (universeAllowed_ne_panic a)

/-- **All ends of `send`**, for any arguments. It succeeds after the `⌈len / 513⌉` parts of the data
were sent, the `i`-th on the `i`-th universe, none of them empty; it fails with the socket's error
on a part after exactly those before it were sent; it fails otherwise in the state it was called
in; and it does not panic. -/
theorem send_splits (hname : src.NameFits) (universes : List UInt16) (data : List UInt8)
    (priority : Option UInt8) (dstIp : Option SocketAddr) (sync : Option UInt16) :
    match (send universes data priority dstIp sync).run src with
    | (.ok (), s) =>
      requiredUniverses data = data.length ⌈/⌉ universeChannelCapacity ∧
        src.SentUpTo universes data (priority.getD e131DefaultPriority) dstIp
          (sync.getD noSyncUniverse) (requiredUniverses data) s ∧
        (∀ i < requiredUniverses data, dataPart data i ≠ [] ∧ dataPart data i =
          (data.drop (i * universeChannelCapacity)).take universeChannelCapacity) ∧
        ((List.range (requiredUniverses data)).map (dataPart data)).flatten = data
    | (.err (.io kind _), s) => ∃ k < requiredUniverses data,
      src.SentUpTo universes data (priority.getD e131DefaultPriority) dstIp
          (sync.getD noSyncUniverse) k s ∧
        ∃ text, src.socket.results (src.socket.calls + k) = some (kind, text)
    | (.err _, s) => s = src
    | (.panic, _) => False := by
  have hends := send_ends hname universes data priority dstIp sync
  unfold Method.Ends at hends
  generalize (send universes data priority dstIp sync).run src = r at hends
  obtain ⟨_ | e | _, s⟩ := r
  · exact ⟨rfl, hends, fun i hi => ⟨dataPart_ne_nil hi, dataPart_eq data i⟩, flatten_dataPart data⟩
  · cases e with
    | io kind msg => exact hends
    | _ => exact hends
  · exact hends

end SacnSourceInternal

/-- A source with a universe registered, on a socket whose second send fails. -/
def stoppingSource : SacnSourceInternal :=
  { sampleSource with
    universes := [1]
    socket := { sampleSource.socket with
      results := fun n => if n = 1 then some (.other, "network unreachable") else none } }

/-- Data for two universes. -/
def twoParts : List UInt8 := List.replicate 514 7

theorem stoppingSource_splits :
    stoppingSource.SentUpTo [1, 1] twoParts e131DefaultPriority none noSyncUniverse 1
      ((send [1, 1] twoParts none none none).run stoppingSource).2 := by
  have herr : ((send [1, 1] twoParts none none none).run stoppingSource).1 =
      .err (.io .other "Failed to send data multicast on socket") := by
    decide +kernel
  have hname : stoppingSource.NameFits :=
    (by decide : (strBytes "Stage").length ≤ e131SourceNameFieldLength)
  -- only the second send fails
  have honly : ∀ k kind text, stoppingSource.socket.results (stoppingSource.socket.calls + k) =
      some (kind, text) → k = 1 := by
    intro k kind text hfailed
    by_contra hne
    have hnone : stoppingSource.socket.results (stoppingSource.socket.calls + k) = none :=
      if_neg ((Nat.zero_add k).symm ▸ hne)
    rw [hnone] at hfailed
    cases hfailed
  generalize stoppingSource = src at herr hname honly ⊢
  have hends := send_splits hname [1, 1] twoParts none none none
  rcases hr : (send [1, 1] twoParts none none none).run src with ⟨outcome, s⟩
  rw [hr] at hends herr
  obtain rfl : outcome = _ := herr
  obtain ⟨k, -, hupto, text, hfailed⟩ := hends
  rw [honly k _ text hfailed] at hupto
  exact hupto

end Sacn
