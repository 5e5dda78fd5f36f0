import Sacn.Packet.Errors
import Sacn.Receive.Recv
import Sacn.Receive.Runs
import Sacn.Rust.Repeat

/-!
# The whole of `recv` (`receive.rs`)

`SacnReceiver::recv` around the handling of one datagram: the guard against a call that could not
return, the call with timeout zero, the deadline, the wait that is set on the socket, and the errors
of the socket that end a turn and not the call.

What the socket reads is a sequence that no turn but one that reads advances, so a datagram that is
not read now is there for the next call. The waits set on the socket are kept in order. An `Instant`
is a number of nanoseconds, and adding to it overflows past `i64::MAX` seconds.

* **`recvBody_ends`**: what one turn can do.
* `recvBody_datagram`: a turn that gets to a datagram is a `recvTurn`.
* `recv_first`: a `recv` whose first turn is given frames.
* `actualTimeout_pos`, `actualTimeout_le`: the waits.
-/

namespace Sacn

open Rust Rust.Outcome SacnReceiver

/-- One read of the socket. -/
inductive SocketRead where
  | datagram (bytes : List UInt8)
  | failed (kind : IoErrorKind) (msg : String)

/-- `SacnNetworkReceiver::recv`: an error of the socket is returned as it is. -/
def SocketRead.packet : SocketRead → Outcome SacnError AcnRootLayerProtocol
  | datagram bytes => recvDatagram bytes
  | failed kind msg => .err (.io kind msg)

/-- What one turn of the loop takes from outside, its read of the socket apart: the reading of the
clock that is held against the deadline, and what `set_read_timeout` returns. -/
structure LoopTurn where
  turn : Turn
  clock : Nat
  timeoutSet : Option (IoErrorKind × String)

/-- A receiver with the reads of its socket, how many of them were made, and the waits that were set
on it. -/
structure Listener where
  receiver : SacnReceiver
  reads : Nat → SocketRead
  taken : Nat
  waits : List Nat

/-- `matches!(s.kind(), WouldBlock | TimedOut)` of an `SacnError::Io`. -/
def SacnError.isTimeout : SacnError → Bool
  | .io .wouldBlock _ => true
  | .io .timedOut _ => true
  | _ => false

/-- The error of a call whose time is up, on Unix. -/
def noDataAvailable : SacnError := .io .wouldBlock "No data available in given timeout"

/-- `i64::MAX` seconds, and what is left of a second. -/
def instantLimit : Nat := 9223372036854775808000000000

/-- `Instant::checked_add`. -/
def checkedAdd (start timeout : Nat) : Option Nat :=
  if start + timeout < instantLimit then some (start + timeout) else none

/-- `actual_timeout`. -/
def actualTimeout (deadline : Option Nat) (now : Nat) : Nat :=
  match deadline with
  | some dl => min (dl - now) e131NetworkDataLossTimeout
  | none => e131NetworkDataLossTimeout

/-- The checks at the start of a turn. -/
def SacnReceiver.checks (turn : Turn) : Method SacnReceiver SacnError Unit := do
  let r ← Method.get
  onSequences (SequenceNumbering.checkTimeouts r.announceTimeout turn.data turn.sync)
  Method.modify (checkWaitingDataTimeouts turn.waiting)

namespace Listener

/-- A method of the receiver. -/
def onReceiver {α : Type} (x : Method SacnReceiver SacnError α) : Method Listener SacnError α :=
  Method.onField receiver (fun l receiver => { l with receiver }) x

/-- `SacnNetworkReceiver::set_timeout`. -/
def setTimeout (wait : Nat) (result : Option (IoErrorKind × String)) :
    Method Listener SacnError Unit := do
  Method.modify fun l => { l with waits := l.waits ++ [wait] }
  match result with
  | some (kind, msg) => Method.throw (.io kind msg)
  | none => return ()

/-- The next read of the socket. -/
def nextRead : Method Listener SacnError SocketRead := do
  let l ← Method.get
  Method.set { l with taken := l.taken + 1 }
  return l.reads l.taken

/-- What `recv` makes of a read. -/
def handleRead (turn : Turn) (read : SocketRead) :
    Method Listener SacnError (Option (List DMXData)) :=
  match read.packet with
  | .ok packet => onReceiver (handlePacket turn packet)
  | .err e => if e.isTimeout then return none else Method.throw e
  | .panic => Method.panic

/-- The body of the loop of `recv`. -/
def recvBody (deadline : Option Nat) (t : LoopTurn) :
    Method Listener SacnError (Option (List DMXData)) := do
  onReceiver (checks t.turn)
  Method.throwIf (deadline.any (· ≤ t.clock) = true) noDataAvailable
  setTimeout (actualTimeout deadline t.clock) t.timeoutSet
  let read ← nextRead
  handleRead t.turn read

/-- `recv`, called at the reading `start` of the clock: how it ends, if it does within these turns,
and the listener after it. A call with timeout zero makes the checks of `zero`. -/
def recv (timeout : Option Nat) (start : Nat) (zero : Turn) (turns : List LoopTurn)
    (l : Listener) : Option (Outcome SacnError (List DMXData)) × Listener :=
  if l.receiver.universes = [e131DiscoveryUniverse] ∧ timeout = none ∧
      l.receiver.announceSourceDiscovery = false then (some (.err .noDataUniversesRegistered), l)
  else if timeout = some 0 then
    match (onReceiver (checks zero)).run l with
    | (.ok (), l') => (some (.err noDataAvailable), l')
    | (.err e, l') => (some (.err e), l')
    | (.panic, l') => (some .panic, l')
  else repeatBody (recvBody (timeout.bind (checkedAdd start))) turns l

/-! ## One turn -/

/-- The listener with another receiver. -/
def withReceiver (l : Listener) (r : SacnReceiver) : Listener := { l with receiver := r }

theorem run_onReceiver {α : Type} (x : Method SacnReceiver SacnError α) (l : Listener) :
    (onReceiver x).run l = ((x.run l.receiver).1, l.withReceiver (x.run l.receiver).2) := rfl

/-- **The checks at the start of a turn** pass, or announce a stream that has timed out. -/
theorem checks_cases (turn : Turn) (r : SacnReceiver) :
    (checks turn).run r = (.ok (), checkWaitingDataTimeouts turn.waiting
        ((ReceiverCall.checkTimeouts turn.data turn.sync).next r)) ∧
      (ReceiverCall.checkTimeouts turn.data turn.sync).ended r = .ok none ∨
    r.announceTimeout = true ∧ ∃ cid u, (checks turn).run r =
        (.err (.universeTimeout cid u), (ReceiverCall.checkTimeouts turn.data turn.sync).next r) ∧
      (ReceiverCall.checkTimeouts turn.data turn.sync).ended r = .err (.universeTimeout cid u) := by
  unfold checks ReceiverCall.next ReceiverCall.ended
  rw [Method.run_bind_of_ok (Method.run_get r), Method.run_bind]
  simp only
  rcases SequenceNumbering.checkTimeouts_cases r.announceTimeout turn.data turn.sync
    r.sequences with ⟨n, hrun⟩ | ⟨hannounce, cid, u, n, hrun⟩
  · unfold onSequences
    rw [Method.run_onField, hrun]
    exact .inl ⟨rfl, rfl⟩
  · unfold onSequences
    rw [Method.run_onField, hrun]
    exact .inr ⟨hannounce, cid, u, rfl, rfl⟩

/-- A receiver that does not announce timeouts. -/
theorem checks_swept {r : SacnReceiver} (hquiet : r.announceTimeout = false) (turn : Turn) :
    (checks turn).run r = (.ok (), r.swept turn) := by
  unfold checks
  rw [Method.run_bind_of_ok (Method.run_get r), hquiet]
  rfl

/-- The time of the call is up. -/
def Expired (deadline : Option Nat) (clock : Nat) : Prop := ∃ dl, deadline = some dl ∧ dl ≤ clock

theorem any_expired {deadline : Option Nat} {clock : Nat} :
    deadline.any (· ≤ clock) = true ↔ Expired deadline clock := by
  cases deadline <;> simp [Expired]

/-- The turn gets as far as its read, with the receiver `r`. -/
structure Reads (deadline : Option Nat) (t : LoopTurn) (l : Listener) (r : SacnReceiver) :
    Prop where
  passed : (checks t.turn).run l.receiver = (.ok (), r)
  live : ¬ Expired deadline t.clock
  settable : t.timeoutSet = none

/-- The listener when its socket has read, with the receiver `r`. -/
def afterRead (deadline : Option Nat) (t : LoopTurn) (l : Listener) (r : SacnReceiver) : Listener :=
  { receiver := r, reads := l.reads, taken := l.taken + 1
    waits := l.waits ++ [actualTimeout deadline t.clock] }

/-- How a turn of the loop ends: a check announces a timeout; the time of the call is up; the wait
cannot be set; or the socket is read. -/
inductive BodyEnds (deadline : Option Nat) (t : LoopTurn) (l : Listener) :
    Outcome SacnError (Option (List DMXData)) × Listener → Prop where
  | announced (cid : Uuid) (u : UInt16)
      (h : (checks t.turn).run l.receiver = (.err (.universeTimeout cid u),
        (ReceiverCall.checkTimeouts t.turn.data t.turn.sync).next l.receiver)) :
      BodyEnds deadline t l (.err (.universeTimeout cid u),
        { l with receiver := (ReceiverCall.checkTimeouts t.turn.data t.turn.sync).next l.receiver })
  | expired (r : SacnReceiver) (h : (checks t.turn).run l.receiver = (.ok (), r))
      (hlate : Expired deadline t.clock) :
      BodyEnds deadline t l (.err noDataAvailable, { l with receiver := r })
  | unset (r : SacnReceiver) (h : (checks t.turn).run l.receiver = (.ok (), r))
      (hlive : ¬ Expired deadline t.clock) (kind : IoErrorKind) (msg : String)
      (hset : t.timeoutSet = some (kind, msg)) :
      BodyEnds deadline t l (.err (.io kind msg), { l with
        receiver := r, waits := l.waits ++ [actualTimeout deadline t.clock] })
  | read (r : SacnReceiver) (h : Reads deadline t l r) :
      BodyEnds deadline t l
        ((handleRead t.turn (l.reads l.taken)).run (afterRead deadline t l r))

/-- **One turn of the loop.** -/
theorem recvBody_ends (deadline : Option Nat) (t : LoopTurn) (l : Listener) :
    BodyEnds deadline t l ((recvBody deadline t).run l) := by
  unfold recvBody
  rw [Method.run_bind, run_onReceiver]
  rcases checks_cases t.turn l.receiver with ⟨hchecks, -⟩ | ⟨-, cid, u, hchecks, -⟩
  · rw [hchecks]
    simp only
    by_cases hlate : Expired deadline t.clock
    · rw [Method.run_bind_of_err (Method.run_throwIf_pos (any_expired.mpr hlate) _ _)]
      exact .expired _ hchecks hlate
    · rw [Method.run_bind_of_ok (Method.run_throwIf_neg (fun h => hlate (any_expired.mp h)) _ _)]
      cases hset : t.timeoutSet with
      | some failure => exact .unset _ hchecks hlate failure.1 failure.2 hset
      | none => exact .read _ ⟨hchecks, hlate, hset⟩
  · rw [hchecks]
    exact .announced cid u hchecks

theorem recvBody_reads {deadline : Option Nat} {t : LoopTurn} {l : Listener} {r : SacnReceiver}
    (h : Reads deadline t l r) : (recvBody deadline t).run l =
      (handleRead t.turn (l.reads l.taken)).run (afterRead deadline t l r) := by
  unfold recvBody
  rw [Method.run_bind, run_onReceiver, h.passed]
  simp only
  rw [Method.run_bind_of_ok
    (Method.run_throwIf_neg (fun hlate => h.live (any_expired.mp hlate)) _ _), h.settable]
  rfl

/-- **A turn that gets to its datagram** does what `recvTurn` does; its errors are never taken for
an idle socket. -/
theorem handleRead_datagram (turn : Turn) (bytes : List UInt8) (l : Listener) :
    (handleRead turn (.datagram bytes)).run l =
      (onReceiver (do
        let packet ← Method.lift (recvDatagram bytes)
        handlePacket turn packet)).run l := by
  have hraises := recvDatagram_raises bytes
  unfold handleRead SocketRead.packet
  rw [run_onReceiver, Method.run_bind, Method.run_lift]
  simp only
  cases hpacket : recvDatagram bytes with
  | ok packet => rfl
  | panic => rfl
  | err e =>
    have hidle : e.isTimeout = false := by
      cases hraises e hpacket <;> rfl
    simp only [hidle]
    rfl

/-- `recvTurn`, by its checks. -/
theorem recvTurn_eq (turn : Turn) (bytes : List UInt8) (r : SacnReceiver) :
    (recvTurn turn bytes).run r = (checks turn >>= fun _ =>
      Method.lift (recvDatagram bytes) >>= handlePacket turn).run r := by
  unfold recvTurn checks
  rw [Method.run_bind_of_ok (Method.run_get r), Method.run_bind, Method.run_bind,
    Method.run_bind_of_ok (Method.run_get r), Method.run_bind]
  rcases (onSequences (SequenceNumbering.checkTimeouts r.announceTimeout turn.data
    turn.sync)).run r with ⟨_ | e | _, r'⟩ <;> rfl

/-- **A turn that gets to a datagram** is a `recvTurn`. -/
theorem recvBody_datagram {deadline : Option Nat} {t : LoopTurn} {l : Listener} {r : SacnReceiver}
    {bytes : List UInt8} (h : Reads deadline t l r) (hread : l.reads l.taken = .datagram bytes) :
    (recvBody deadline t).run l = (((recvTurn t.turn bytes).run l.receiver).1,
      (afterRead deadline t l r).withReceiver ((recvTurn t.turn bytes).run l.receiver).2) := by
  rw [recvBody_reads h, hread, handleRead_datagram, run_onReceiver, recvTurn_eq,
    Method.run_bind_of_ok h.passed]
  rfl

/-- **A `recv` whose first turn reads frames** returns them. -/
theorem recv_first {timeout : Option Nat} {start : Nat} {zero : Turn} {t : LoopTurn}
    {turns : List LoopTurn} {l : Listener} {r : SacnReceiver} {bytes : List UInt8}
    {frames : List DMXData} (hguard : l.receiver.universes ≠ [e131DiscoveryUniverse])
    (htimeout : timeout ≠ some 0) (h : Reads (timeout.bind (checkedAdd start)) t l r)
    (hread : l.reads l.taken = .datagram bytes)
    (hframes : ((recvTurn t.turn bytes).run l.receiver).1 = .ok (some frames)) :
    l.recv timeout start zero (t :: turns) = (some (.ok frames),
      (afterRead (timeout.bind (checkedAdd start)) t l r).withReceiver
        ((recvTurn t.turn bytes).run l.receiver).2) := by
  unfold recv
  rw [if_neg fun hall => hguard hall.1, if_neg htimeout, repeatBody, recvBody_datagram h hread,
    hframes]
  rfl

/-! ## The waits -/

/-- **A wait that is set is never zero**, which the socket would refuse. -/
theorem actualTimeout_pos {deadline : Option Nat} {clock : Nat} (h : ¬ Expired deadline clock) :
    0 < actualTimeout deadline clock := by
  unfold actualTimeout
  cases deadline with
  | none => exact Nat.zero_lt_succ _
  | some dl =>
    have hlt : clock < dl := Nat.lt_of_not_le fun hle => h ⟨dl, rfl, hle⟩
    exact lt_min (Nat.sub_pos_of_lt hlt) (Nat.zero_lt_succ _)

theorem actualTimeout_le (deadline : Option Nat) (clock : Nat) :
    actualTimeout deadline clock ≤ e131NetworkDataLossTimeout := by
  unfold actualTimeout
  cases deadline with
  | none => exact le_refl _
  | some dl => exact min_le_right _ _

/-- A wait ends no later than the call is to end. -/
theorem add_actualTimeout_le {dl clock : Nat} (h : ¬ Expired (some dl) clock) :
    clock + actualTimeout (some dl) clock ≤ dl := by
  have hlt : clock < dl := Nat.lt_of_not_le fun hle => h ⟨dl, rfl, hle⟩
  have hle : actualTimeout (some dl) clock ≤ dl - clock := min_le_left _ _
  omega

end Listener

end Sacn
