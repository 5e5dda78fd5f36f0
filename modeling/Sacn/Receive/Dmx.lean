import Sacn.Error
import Sacn.Rust.Outcome

/-!
# DMX data and merging (`receive.rs`)

`DMXData`, the frames a receiver holds and delivers, and the two merge functions the crate provides
for a frame that arrives while another is held for the same universe. A receiver's merge function
may be any function of the same type (`MergeFn`).

* `Provided.keeps_address`: either provided function gives a frame with the universe of both
  frames, and the sync address of one of them.
-/

namespace Sacn

open Rust Rust.Outcome

/-- `DMXData`. The field `universe` is `uni` here. -/
structure DMXData where
  uni : UInt16
  values : List UInt8
  syncUni : UInt16
  priority : UInt8
  srcCid : Option Uuid
  preview : Bool
  recvTimestamp : Nat
  deriving DecidableEq, Repr

/-- `fn(&DMXData, &DMXData) -> Result<DMXData>`: the existing frame, then the new one. -/
abbrev MergeFn : Type := DMXData → DMXData → Outcome SacnError DMXData

/-- `discard_lowest_priority_then_previous`. -/
def discardLowestPriorityThenPrevious : MergeFn := fun i n =>
  if i.priority > n.priority then .ok i else .ok n

/-- The loop of `htp_dmx_merge` over both payloads. -/
def htpValues : List UInt8 → List UInt8 → List UInt8
  | [], [] => []
  | i :: is, [] => i :: htpValues is []
  | [], n :: ns => n :: htpValues [] ns
  | i :: is, n :: ns => max i n :: htpValues is ns

/-- `htp_dmx_merge`. -/
def htpDmxMerge : MergeFn := fun i n => do
  throwIf (i.values = [] ∨ n.values = [] ∨ i.uni ≠ n.uni ∨ i.values.head? ≠ n.values.head? ∨
    i.syncUni ≠ n.syncUni) .dmxMergeError
  if i.priority > n.priority then return i
  else if n.priority > i.priority then return n
  else return {
    uni := i.uni, values := htpValues i.values n.values, syncUni := i.syncUni
    priority := i.priority, srcCid := none, preview := i.preview || n.preview
    recvTimestamp := i.recvTimestamp }

/-- `DEFAULT_MERGE_FUNC`. -/
def defaultMergeFunc : MergeFn := discardLowestPriorityThenPrevious

/-- The merge functions the crate provides. -/
def Provided (merge : MergeFn) : Prop :=
  merge = discardLowestPriorityThenPrevious ∨ merge = htpDmxMerge

/-- **A merge keeps the address.** Of two frames of one universe a provided merge function makes a
frame of that universe, with the sync address of one of the two. -/
theorem Provided.keeps_address {merge : MergeFn} (h : Provided merge) {i n d : DMXData}
    (hmerge : merge i n = .ok d) (huni : i.uni = n.uni) :
    d.uni = n.uni ∧ (d.syncUni = i.syncUni ∨ d.syncUni = n.syncUni) := by
  rcases h with rfl | rfl
  · unfold discardLowestPriorityThenPrevious at hmerge
    split at hmerge
    · obtain rfl := Outcome.ok.inj hmerge
      exact ⟨huni, .inl rfl⟩
    · obtain rfl := Outcome.ok.inj hmerge
      exact ⟨rfl, .inr rfl⟩
  · unfold htpDmxMerge at hmerge
    obtain ⟨_, _, hmerge⟩ := bind_eq_ok.mp hmerge
    split at hmerge
    · obtain rfl := Outcome.ok.inj hmerge
      exact ⟨huni, .inl rfl⟩
    · split at hmerge
      · obtain rfl := Outcome.ok.inj hmerge
        exact ⟨rfl, .inr rfl⟩
      · obtain rfl := Outcome.ok.inj hmerge
        exact ⟨huni, .inl rfl⟩

end Sacn
