import Sacn.Packet.Confined
import Sacn.Receive.Join
import Sacn.Source.Emission

/-!
# The universe lists of both parties

A source and a receiver each keep their universes in a vector that is searched by bisection when it
is changed, and from end to end when it is only looked at. The two searches agree because the vector
is strictly ascending in every state, and so the encoder of universe discovery packets accepts every
page that is cut from it.

* `SortedUniverses`: what is true of such a vector.
* **`universe_lists_sorted`**: it is true in every state of a source and in every state of a
  receiver, whatever calls led there and however they ended.
-/

namespace Sacn

open Rust Rust.Outcome

/-- A vector of universes that is strictly ascending, with each of them in range, and in which both
searches find the same universes. -/
structure SortedUniverses (us : List UInt16) : Prop where
  ascending : us.Pairwise (· < ·)
  legal : ∀ u ∈ us, isUniverseInRange u = .ok ()
  search : ∀ u, us.contains u = true ↔ ∃ i, binarySearch us u = .ok i

theorem sortedUniverses_of {us : List UInt16} (hascending : us.Pairwise (· < ·))
    (hlegal : ∀ u ∈ us, UniverseInRange u) : SortedUniverses us where
  ascending := hascending
  legal u hu := isUniverseInRange_eq_ok.mpr (hlegal u hu)
  search u := by rw [List.contains_iff_mem, binarySearch_isOk hascending]

/-- `universe_allowed` looks for the universe in the list. -/
theorem SacnSourceInternal.universeAllowed_iff {src : SacnSourceInternal} (h : src.Legal)
    {uni : UInt16} : src.universeAllowed uni = .ok () ↔ uni ∈ src.universes := by
  unfold universeAllowed
  rw [bind_eq_ok]
  simp only [isUniverseInRange_eq_ok, throwIf_eq_ok, not_not]
  exact ⟨fun ⟨_, _, hmem⟩ => hmem, fun hmem => ⟨(), h uni hmem, hmem⟩⟩

/-- The encoder of a page of strictly ascending universes finds fault with the buffer only. -/
theorem UniverseDiscoveryPacketUniverseDiscoveryLayer.pack_not_invalid
    {d : UniverseDiscoveryPacketUniverseDiscoveryLayer} (hle : d.universes.length ≤ 512)
    (hascending : d.universes.Pairwise (· < ·)) (buf : List UInt8) (msg : String) :
    d.pack buf ≠ .err (.sacnParsePackError (.packInvalidData msg)) := by
  by_cases hlen : d.len ≤ buf.length
  · rw [d.pack_eq hle hascending hlen]
    simp
  · have hshort : d.pack buf = .err (.sacnParsePackError (.packBufferInsufficient
        "UniverseDiscoveryPacketUniverseDiscoveryLayer pack buffer insufficient")) := by
      unfold pack
      rw [throwIf_neg (by simpa using hle), ok_bind]
      unfold throwIf
      rw [if_pos (Nat.not_le.mp hlen), err_bind]
    rw [hshort]
    simp

/-- **The universe lists stay sorted sets.** In every state of a source, and in every state of a
receiver, the list is strictly ascending, each universe in it is in range, and a search from end to
end finds a universe iff the bisection does; and the encoder of universe discovery packets refuses
no page of a source's list for its universes. -/
theorem universe_lists_sorted :
    (∀ src : SacnSourceInternal, src.Reachable →
      SortedUniverses src.universes ∧
      (∀ u, src.universeAllowed u = .ok () ↔ ∃ i, binarySearch src.universes u = .ok i) ∧
      ∀ p universes, src.pageUniverses p = .ok universes →
        checkUniverses universes = .ok () ∧
        ∀ page lastPage buf msg,
          UniverseDiscoveryPacketUniverseDiscoveryLayer.pack { page, lastPage, universes } buf ≠
            .err (.sacnParsePackError (.packInvalidData msg))) ∧
    ∀ (allowed : ReceiverCall → Prop) (r : SacnReceiver), r.Reachable allowed →
      SortedUniverses r.universes ∧
      ∀ u, r.isListening u = true ↔ ∃ i, binarySearch r.universes u = .ok i := by
  refine ⟨fun src hsrc => ?_, fun allowed r hr => ?_⟩
  · have hsorted := sortedUniverses_of hsrc.ascending hsrc.legal
    refine ⟨hsorted, fun u => ?_, fun p universes hpage => ?_⟩
    · rw [SacnSourceInternal.universeAllowed_iff hsrc.legal, binarySearch_isOk hsrc.ascending]
    · obtain ⟨-, rfl⟩ := slice_eq_ok.mp hpage
      have hascending := hsrc.ascending.pagePart p
      exact ⟨checkUniverses_eq_ok.mpr hascending, fun page lastPage =>
        UniverseDiscoveryPacketUniverseDiscoveryLayer.pack_not_invalid (src.length_pagePart_le p)
          hascending⟩
  · have hlistens := hr.listens
    have hsorted := sortedUniverses_of hlistens.ascending hlistens.legal
    exact ⟨hsorted, hsorted.search⟩

/-- A source that registered two universes out of order, and a receiver whose joins fail. -/
theorem sampleLists_sorted :
    SortedUniverses ((SacnSourceInternal.registerUniverses [300, 1]).run sampleSource).2.universes ∧
      SortedUniverses flakyReceiver.universes :=
  ⟨(universe_lists_sorted.1 _ (.registerUniverses sampleSource [300, 1] (.new _ _ _ _))).1,
    (universe_lists_sorted.2 _ _ flakyReceiver_reachable).1⟩

end Sacn
