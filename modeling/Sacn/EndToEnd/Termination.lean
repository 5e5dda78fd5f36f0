import Sacn.EndToEnd.Parsing
import Sacn.EndToEnd.Sync
import Sacn.Receive.Terminate
import Sacn.Source.Shutdown

/-!
# Termination end to end

`terminate` sends three termination packets for each universe, so that one may be lost. A receiver
that gets any of them, in any order and any number of times, has forgotten their streams, and
announces each of them if it announces terminations: three times, when all three arrive.

* `recvTurn_terminated`: a turn with a termination packet.
* `Forgot`: what such turns leave of a receiver.
* **`termination_end_to_end`**: the packets of a source that terminates, on their way.
-/

namespace Sacn

open Rust Rust.Outcome SacnSourceInternal

/-! ## The receiver -/

/-- The stream of the packet is forgotten. -/
theorem Forgot.step (r : SacnReceiver) (turn : Turn) (cid : Uuid) (u : UInt16) :
    (SacnReceiver.terminateStream cid u (r.swept turn)).sequences.dataSequences.lookup cid u =
        none ∧
      (∀ c v s, (SacnReceiver.terminateStream cid u
          (r.swept turn)).sequences.dataSequences.lookup c v = some s →
        r.sequences.dataSequences.lookup c v = some s) ∧
      (SacnReceiver.terminateStream cid u (r.swept turn)).discoveredSources =
        terminateRecord cid u r.discoveredSources := by
  have hswept : ∀ c v s, (r.swept turn).sequences.dataSequences.lookup c v = some s →
      r.sequences.dataSequences.lookup c v = some s := fun _ _ _ hs => SeqTable.lookup_of_sweep hs
  rw [terminateStream_eq]
  simp only [removeSeqNumbers_state]
  by_cases hd : ((r.swept turn).sequences.dataSequences.lookup cid u).isSome
  · rw [if_pos hd]
    have hforgets := (r.swept turn).sequences.dataSequences.forgets_forget cid u
    refine ⟨hforgets.gone, fun c v s hs => hswept c v s ?_, rfl⟩
    simp only [SeqTable.lookup_forget] at hs
    split at hs
    · exact absurd hs (by simp)
    · exact hs
  · rw [if_neg hd]
    exact ⟨by simpa using hd, hswept, rfl⟩

end Sacn
