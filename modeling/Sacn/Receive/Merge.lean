import Sacn.Receive.Waiting
import Sacn.Rust.Fold

/-!
# Merging frames (`receive.rs`)

What `htp_dmx_merge` makes of any number of frames that arrive one after the other, and what
`store_waiting_data` leaves behind when a merge fails.

* `HtpMerged`: the frame that HTP merging the frames is meant to give, without an order of arrival.
* **`htp_dmx_merge_any_order`**: every order of folding gives it, up to its time stamp, or every
  order fails.
* **`same_merge_rules_iff`**: on which frames the two merge functions follow the same rules.
* **`failed_merge_keeps_waiting_iff`**: when an error of the merge costs the frame that was held.
-/

namespace Sacn

open Rust Rust.Outcome SacnReceiver

/-! ## Frames that go together -/

/-- The frames that `htp_dmx_merge` does not refuse to merge. -/
structure Compatible (i n : DMXData) : Prop where
  existing : i.values ≠ []
  new : n.values ≠ []
  uni : i.uni = n.uni
  startCode : i.values.head? = n.values.head?
  syncUni : i.syncUni = n.syncUni

theorem compatible_iff {i n : DMXData} : Compatible i n ↔
    ¬ (i.values = [] ∨ n.values = [] ∨ i.uni ≠ n.uni ∨ i.values.head? ≠ n.values.head? ∨
      i.syncUni ≠ n.syncUni) := by
  simp only [not_or, not_not]
  exact ⟨fun h => ⟨h.existing, h.new, h.uni, h.startCode, h.syncUni⟩,
    fun ⟨hi, hn, huni, hstart, hsync⟩ => ⟨hi, hn, huni, hstart, hsync⟩⟩

instance (i n : DMXData) : Decidable (Compatible i n) := decidable_of_iff _ compatible_iff.symm

/-- Two frames of one priority, merged. -/
def htpBoth (i n : DMXData) : DMXData :=
  { uni := i.uni, values := htpValues i.values n.values, syncUni := i.syncUni
    priority := i.priority, srcCid := none, preview := i.preview || n.preview
    recvTimestamp := i.recvTimestamp }

/-- **`htp_dmx_merge`**, by its cases. -/
theorem htpDmxMerge_eq (i n : DMXData) : htpDmxMerge i n =
    if Compatible i n then
      if i.priority > n.priority then .ok i
      else if n.priority > i.priority then .ok n
      else .ok (htpBoth i n)
    else .err .dmxMergeError := by
  unfold htpDmxMerge
  by_cases h : Compatible i n
  · rw [if_pos h, throwIf_neg (compatible_iff.mp h), ok_bind]
    rfl
  · have hrefused : throwIf (i.values = [] ∨ n.values = [] ∨ i.uni ≠ n.uni ∨
        i.values.head? ≠ n.values.head? ∨ i.syncUni ≠ n.syncUni) SacnError.dmxMergeError =
          .err .dmxMergeError := if_pos (not_not.mp fun hn => h (compatible_iff.mpr hn))
    rw [if_neg h, hrefused, err_bind]

/-! ## The two payloads -/

theorem getElem?_htpValues (is ns : List UInt8) (k : Nat) :
    (htpValues is ns)[k]? = Option.merge max is[k]? ns[k]? := by
  induction is, ns using htpValues.induct generalizing k with
  | case1 => simp [htpValues]
  | case2 i is ih =>
    unfold htpValues
    cases k with
    | zero => rfl
    | succ k => exact ih k
  | case3 n ns ih =>
    unfold htpValues
    cases k with
    | zero => rfl
    | succ k => exact ih k
  | case4 i is n ns ih =>
    unfold htpValues
    cases k with
    | zero => rfl
    | succ k => exact ih k

theorem length_htpValues (is ns : List UInt8) :
    (htpValues is ns).length = max is.length ns.length := by
  induction is, ns using htpValues.induct with
  | case1 => simp [htpValues]
  | case2 i is ih => simpa [htpValues] using ih
  | case3 n ns ih => simpa [htpValues] using ih
  | case4 i is n ns ih => simp [htpValues, ih]

theorem head?_htpValues {is ns : List UInt8} (h : is.head? = ns.head?) :
    (htpValues is ns).head? = is.head? := by
  rw [List.head?_eq_getElem?, List.head?_eq_getElem?] at *
  rw [getElem?_htpValues, ← h]
  cases is[0]? with
  | none => rfl
  | some v => exact congrArg some (by grind)

/-! ## Frames of one priority -/

/-- What HTP merging frames of one priority gives. -/
structure HtpLevel (top : List DMXData) (r : DMXData) : Prop where
  longest : Largest (fun n => ∃ d ∈ top, d.values.length = n) r.values.length
  slots : ∀ (k : Nat) (v : UInt8), r.values[k]? = some v → Largest (fun w => ∃ d ∈ top, d.values[k]? = some w) v
  preview : r.preview = top.any fun d => d.preview
  single : ∀ d, top = [d] → r.srcCid = d.srcCid
  several : top.length ≠ 1 → r.srcCid = none

namespace HtpLevel

theorem singleton (d : DMXData) : HtpLevel [d] d where
  longest := ⟨⟨d, List.mem_singleton.mpr rfl, rfl⟩, by simp⟩
  slots k v hv := ⟨⟨d, List.mem_singleton.mpr rfl, hv⟩, by simp [hv]⟩
  preview := by simp
  single e he := by rw [List.singleton_inj.mp he]
  several h := absurd rfl h

theorem perm {top top' : List DMXData} {r : DMXData} (h : HtpLevel top r) (hp : top.Perm top') :
    HtpLevel top' r where
  longest := h.longest.congr fun n => by simp only [hp.mem_iff]
  slots k v hv := (h.slots k v hv).congr fun w => by simp only [hp.mem_iff]
  preview := by
    rw [h.preview, Bool.eq_iff_iff, List.any_eq_true, List.any_eq_true]
    simp only [hp.mem_iff]
  single d hd := h.single d (List.perm_singleton.mp (hd ▸ hp))
  several hlen := h.several (hp.length_eq ▸ hlen)

/-- One more frame of the priority. -/
theorem snoc {top : List DMXData} {r : DMXData} (h : HtpLevel top r) (n : DMXData) :
    HtpLevel (top ++ [n]) (htpBoth r n) where
  longest := by
    have hboth := h.longest.or (singleton n).longest
    rw [← length_htpValues] at hboth
    exact hboth.congr fun w => by simp only [List.mem_append, or_and_right, exists_or]
  slots k v hv := by
    have hsplit : ∀ w, (∃ d ∈ top ++ [n], d.values[k]? = some w) ↔
        (∃ d ∈ top, d.values[k]? = some w) ∨ ∃ d ∈ [n], d.values[k]? = some w := by
      simp only [List.mem_append, or_and_right, exists_or, forall_const]
    -- a slot that the merged frame so far does not have, none of its frames has
    have hbeyond : r.values[k]? = none → ∀ w, ¬ ∃ d ∈ top, d.values[k]? = some w := by
      rintro hr w ⟨d, hd, hw⟩
      have hlen := h.longest.2 _ ⟨d, hd, rfl⟩
      have hk := List.getElem?_eq_none_iff.mp hr
      rw [List.getElem?_eq_none (Nat.le_trans hlen hk)] at hw
      exact absurd hw (by simp)
    refine Largest.congr (fun w => (hsplit w).symm) ?_
    change (htpValues r.values n.values)[k]? = some v at hv
    rw [getElem?_htpValues] at hv
    cases hr : r.values[k]? with
    | none =>
      rw [hr, Option.merge_none_left] at hv
      exact ((singleton n).slots k v hv).congr fun w => by simp [hbeyond hr w]
    | some a =>
      cases hn : n.values[k]? with
      | none =>
        rw [hr, hn, Option.merge_none_right] at hv
        exact (h.slots k v (hr.trans hv)).congr fun w => by simp [hn]
      | some b =>
        rw [hr, hn, Option.merge_some_some] at hv
        rw [← Option.some.inj hv]
        exact (h.slots k a hr).or ((singleton n).slots k b hn)
  preview := by
    rw [List.any_append, ← h.preview]
    simp [htpBoth]
  single d hd := by
    obtain ⟨rfl, -⟩ := List.append_eq_singleton_iff.mp hd |>.resolve_right fun hn => by simp at hn
    exact absurd h.longest.1 (by simp)
  several _ := rfl

end HtpLevel

/-! ## Any frames -/

/-- The frames of one priority. -/
def withPriority (p : UInt8) (frames : List DMXData) : List DMXData :=
  frames.filter fun d => d.priority = p

/-- What HTP merging any frames gives: the merge of those with the highest priority. -/
structure HtpMerged (frames : List DMXData) (r : DMXData) : Prop where
  address : ∀ d ∈ frames, d.uni = r.uni ∧ d.syncUni = r.syncUni ∧ d.values.head? = r.values.head?
  priority : Largest (fun p => ∃ d ∈ frames, d.priority = p) r.priority
  level : HtpLevel (withPriority r.priority frames) r

namespace HtpMerged

variable {frames : List DMXData} {r n : DMXData}

theorem singleton (d : DMXData) : HtpMerged [d] d where
  address e he := by
    rw [List.mem_singleton.mp he]
    exact ⟨rfl, rfl, rfl⟩
  priority := ⟨⟨d, List.mem_singleton.mpr rfl, rfl⟩, by
    rintro w ⟨e, he, rfl⟩
    rw [List.mem_singleton.mp he]
    exact Std.le_refl _⟩
  level := by
    have htop : withPriority d.priority [d] = [d] := by simp [withPriority]
    rw [htop]
    exact .singleton d

/-- The order of the frames is no part of it. -/
theorem perm {frames' : List DMXData} (h : HtpMerged frames r) (hp : frames.Perm frames') :
    HtpMerged frames' r where
  address d hd := h.address d (hp.mem_iff.mpr hd)
  priority := h.priority.congr fun w => by simp only [hp.mem_iff]
  level := h.level.perm (hp.filter _)

/-- It says everything about the frame but its time stamp. -/
theorem unique {r' : DMXData} (h : HtpMerged frames r) (h' : HtpMerged frames r') :
    r' = { r with recvTimestamp := r'.recvTimestamp } := by
  obtain ⟨⟨d, hd, -⟩, -⟩ := h.priority
  obtain ⟨huni, hsync, -⟩ := h.address d hd
  obtain ⟨huni', hsync', -⟩ := h'.address d hd
  have hpriority : r'.priority = r.priority := h'.priority.unique h.priority
  have hl := h.level
  have hl' := h'.level
  rw [hpriority] at hl'
  have hvalues : r'.values = r.values := by
    have hlen : r'.values.length = r.values.length := hl'.longest.unique hl.longest
    refine List.ext_getElem? fun k => ?_
    by_cases hk : k < r.values.length
    · have hv := List.getElem?_eq_getElem hk
      have hv' := List.getElem?_eq_getElem (hlen.symm ▸ hk : k < r'.values.length)
      rw [hv, hv']
      exact congrArg some ((hl'.slots k _ hv').unique (hl.slots k _ hv))
    · rw [List.getElem?_eq_none (by omega), List.getElem?_eq_none (by omega)]
  have hcid : r'.srcCid = r.srcCid := by
    by_cases hone : (withPriority r.priority frames).length = 1
    · obtain ⟨e, he⟩ := List.length_eq_one_iff.mp hone
      rw [hl'.single e he, hl.single e he]
    · rw [hl'.several hone, hl.several hone]
  have hpreview : r'.preview = r.preview := hl'.preview.trans hl.preview.symm
  rcases r with ⟨_, _, _, _, _, _, _⟩
  rcases r' with ⟨_, _, _, _, _, _, _⟩
  simp only at *
  rw [hvalues, hpriority, hcid, hpreview, ← huni, ← huni', ← hsync, ← hsync']

/-- The merge so far is compatible with whatever its frames are. -/
theorem compatible_iff (h : HtpMerged frames r) :
    (∀ d ∈ frames, Compatible d n) ↔ Compatible r n := by
  have hempty : ∀ d ∈ frames, d.values = [] ↔ r.values = [] := fun d hd => by
    rw [← List.head?_eq_none_iff, ← List.head?_eq_none_iff, (h.address d hd).2.2]
  constructor
  · intro hall
    obtain ⟨⟨d, hd, -⟩, -⟩ := h.priority
    obtain ⟨huni, hsync, hstart⟩ := h.address d hd
    have hd' := hall d hd
    exact ⟨fun hr => hd'.existing ((hempty d hd).mpr hr), hd'.new, huni ▸ hd'.uni,
      hstart ▸ hd'.startCode, hsync ▸ hd'.syncUni⟩
  · intro hr d hd
    obtain ⟨huni, hsync, hstart⟩ := h.address d hd
    exact ⟨fun he => hr.existing ((hempty d hd).mp he), hr.new, huni ▸ hr.uni,
      hstart ▸ hr.startCode, hsync ▸ hr.syncUni⟩

/-- What all the frames have in common, with one more that has it too. -/
theorem address_snoc (h : HtpMerged frames r) (hn : Compatible r n) {r' : DMXData}
    (huni : r'.uni = r.uni) (hsync : r'.syncUni = r.syncUni)
    (hstart : r'.values.head? = r.values.head?) : ∀ d ∈ frames ++ [n],
      d.uni = r'.uni ∧ d.syncUni = r'.syncUni ∧ d.values.head? = r'.values.head? := by
  intro d hd
  rw [huni, hsync, hstart]
  rcases List.mem_append.mp hd with hd | hd
  · exact h.address d hd
  · rw [List.mem_singleton.mp hd]
    exact ⟨hn.uni.symm, hn.syncUni.symm, hn.startCode.symm⟩

/-- **One more frame**: `htp_dmx_merge` takes it into the merge so far. -/
theorem snoc (h : HtpMerged frames r) (hn : Compatible r n) :
    ∃ r', htpDmxMerge r n = .ok r' ∧ HtpMerged (frames ++ [n]) r' := by
  have hpriorities : ∀ p, (∃ d ∈ frames ++ [n], d.priority = p) ↔
      (∃ d ∈ frames, d.priority = p) ∨ n.priority = p := by
    simp [or_and_right, exists_or]
  have htop : ∀ p, withPriority p (frames ++ [n]) =
      withPriority p frames ++ if n.priority = p then [n] else [] := by
    intro p
    unfold withPriority
    rw [List.filter_append, List.filter_singleton]
    by_cases hp : n.priority = p <;> simp [hp]
  rw [htpDmxMerge_eq, if_pos hn]
  by_cases hlow : r.priority > n.priority
  · -- the new frame is outranked
    refine ⟨r, if_pos hlow, h.address_snoc hn rfl rfl rfl, ⟨?_, ?_⟩, ?_⟩
    · exact (hpriorities _).mpr (.inl h.priority.1)
    · intro w hw
      rcases (hpriorities w).mp hw with hw | rfl
      · exact h.priority.2 w hw
      · exact Std.le_of_lt hlow
    · have hne : ¬ n.priority = r.priority := fun he => Std.lt_irrefl (he ▸ hlow)
      rw [htop, if_neg hne, List.append_nil]
      exact h.level
  rw [if_neg hlow]
  by_cases hhigh : n.priority > r.priority
  · -- the new frame outranks all others
    have hnone : withPriority n.priority frames = [] := by
      refine List.filter_eq_nil_iff.mpr fun d hd hp => ?_
      have hle := h.priority.2 _ ⟨d, hd, rfl⟩
      rw [of_decide_eq_true hp] at hle
      exact Std.not_le.mpr hhigh hle
    refine ⟨n, if_pos hhigh, h.address_snoc hn hn.uni.symm hn.syncUni.symm hn.startCode.symm,
      ⟨(hpriorities _).mpr (.inr rfl), ?_⟩, ?_⟩
    · intro w hw
      rcases (hpriorities w).mp hw with hw | rfl
      · exact Std.le_trans (h.priority.2 w hw) (Std.le_of_lt hhigh)
      · exact Std.le_refl _
    · rw [htop, if_pos rfl, hnone]
      exact .singleton n
  · -- the two are merged
    have heq : n.priority = r.priority :=
      Std.le_antisymm (Std.not_lt.mp hhigh) (Std.not_lt.mp hlow)
    refine ⟨htpBoth r n, if_neg hhigh,
      h.address_snoc hn rfl rfl (head?_htpValues hn.startCode), ⟨?_, ?_⟩, ?_⟩
    · exact (hpriorities _).mpr (.inr heq)
    · intro w hw
      rcases (hpriorities w).mp hw with hw | rfl
      · exact h.priority.2 w hw
      · exact Std.le_of_eq heq
    · have htop' := htop r.priority
      rw [if_pos heq] at htop'
      show HtpLevel (withPriority r.priority (frames ++ [n])) _
      rw [htop']
      exact h.level.snoc n

end HtpMerged

/-- **Folding `htp_dmx_merge`** over frames in the order they arrive. -/
theorem foldlM_htpDmxMerge (first : DMXData) (rest : List DMXData) :
    ((first :: rest).Pairwise Compatible ∧
        ∃ r, rest.foldlM htpDmxMerge first = .ok r ∧ HtpMerged (first :: rest) r) ∨
      (¬ (first :: rest).Pairwise Compatible ∧
        rest.foldlM htpDmxMerge first = .err .dmxMergeError) := by
  refine foldlM_cases (D := HtpMerged) (C := Compatible) (fun l b a hb ha => ?_)
    (fun l b a hb ha => ?_) (l := [first]) (.singleton first) (List.pairwise_singleton _ _)
  · exact hb.snoc (hb.compatible_iff.mp ha)
  · rw [htpDmxMerge_eq, if_neg fun hn => ha (hb.compatible_iff.mpr hn)]

/-- **HTP merging does not depend on the order of arrival.** Whatever the order in which the frames
are folded: if every two of them go together, the fold gives the frame that `HtpMerged` describes,
with some time stamp; if two do not, it fails. -/
theorem htp_dmx_merge_any_order (frames : List DMXData) :
    (frames ≠ [] → frames.Pairwise Compatible → ∃ r, HtpMerged frames r ∧
      ∀ first rest, (first :: rest).Perm frames →
        ∃ t, rest.foldlM htpDmxMerge first = .ok { r with recvTimestamp := t }) ∧
    (¬ frames.Pairwise Compatible → ∀ first rest, (first :: rest).Perm frames →
      rest.foldlM htpDmxMerge first = .err .dmxMergeError) := by
  have hsymm : ∀ {x y : DMXData}, Compatible x y → Compatible y x := fun h =>
    ⟨h.new, h.existing, h.uni.symm, h.startCode.symm, h.syncUni.symm⟩
  refine ⟨fun hne hpair => ?_, fun hpair first rest hperm => ?_⟩
  · obtain ⟨d, ds, rfl⟩ := List.exists_cons_of_ne_nil hne
    rcases foldlM_htpDmxMerge d ds with ⟨-, r, -, hr⟩ | ⟨hnot, -⟩
    · refine ⟨r, hr, fun first rest hperm => ?_⟩
      rcases foldlM_htpDmxMerge first rest with ⟨-, r', hfold, hr'⟩ | ⟨hnot, -⟩
      · exact ⟨r'.recvTimestamp, hfold.trans (congrArg Outcome.ok (hr.unique (hr'.perm hperm)))⟩
      · exact absurd (hperm.symm.pairwise hpair hsymm) hnot
    · exact absurd hpair hnot
  · rcases foldlM_htpDmxMerge first rest with ⟨hpair', -⟩ | ⟨-, hfold⟩
    · exact absurd (hperm.pairwise hpair' hsymm) hpair
    · exact hfold

/-- A frame of universe 1 that waits for sync address 7. -/
def sampleFrame (priority : UInt8) (values : List UInt8) : DMXData :=
  { uni := 1, values, syncUni := 7, priority, srcCid := some (.repeated 1), preview := false
    recvTimestamp := 0 }

/-- Two frames of the same priority and one of a lower one. -/
theorem htp_dmx_merge_any_order_three :
    ∃ r, HtpMerged [sampleFrame 100 [0, 9], sampleFrame 50 [0, 255], sampleFrame 100 [0, 3, 4]] r ∧
      ∃ t, [sampleFrame 100 [0, 9], sampleFrame 50 [0, 255]].foldlM htpDmxMerge
        (sampleFrame 100 [0, 3, 4]) = .ok { r with recvTimestamp := t } := by
  obtain ⟨r, hr, hfold⟩ := (htp_dmx_merge_any_order
    [sampleFrame 100 [0, 9], sampleFrame 50 [0, 255], sampleFrame 100 [0, 3, 4]]).1 (by decide)
      (by decide)
  exact ⟨r, hr, hfold _ _ (by decide)⟩

/-! ## The two merge functions -/

/-- The rules that both merge functions document: frames that do not go together are refused, others
are taken, and of two priorities the frame with the higher one is kept. -/
structure SameMergeRules (i n : DMXData) : Prop where
  refused : ¬ Compatible i n → discardLowestPriorityThenPrevious i n = .err .dmxMergeError ∧
    htpDmxMerge i n = .err .dmxMergeError
  taken : Compatible i n → (∃ d, discardLowestPriorityThenPrevious i n = .ok d) ∧
    ∃ d, htpDmxMerge i n = .ok d
  higher : Compatible i n → ∀ d,
    (d = i ∧ n.priority < i.priority ∨ d = n ∧ i.priority < n.priority) →
      discardLowestPriorityThenPrevious i n = .ok d ∧ htpDmxMerge i n = .ok d

/-- **The two merge functions follow the same rules** on exactly the frames that go together: the
default one never looks whether they do. -/
theorem same_merge_rules_iff (i n : DMXData) : SameMergeRules i n ↔ Compatible i n := by
  constructor
  · intro h
    by_contra hn
    have hrefused := (h.refused hn).1
    unfold discardLowestPriorityThenPrevious at hrefused
    split at hrefused
    · exact absurd hrefused (by simp)
    · exact absurd hrefused (by simp)
  · intro h
    refine ⟨absurd h, fun _ => ⟨?_, ?_⟩, fun _ d hd => ?_⟩
    · unfold discardLowestPriorityThenPrevious
      split
      · exact ⟨i, rfl⟩
      · exact ⟨n, rfl⟩
    · obtain ⟨r, hr, -⟩ := (HtpMerged.singleton i).snoc h
      exact ⟨r, hr⟩
    · rw [htpDmxMerge_eq, if_pos h]
      unfold discardLowestPriorityThenPrevious
      rcases hd with ⟨rfl, hhigh⟩ | ⟨rfl, hhigh⟩
      · rw [if_pos hhigh, if_pos hhigh]
        exact ⟨rfl, rfl⟩
      · have hlow := Std.not_lt.mpr (Std.le_of_lt hhigh)
        rw [if_neg hlow, if_neg hlow, if_pos hhigh]
        exact ⟨rfl, rfl⟩

/-- A frame of universe 1 that waits for sync address 8. -/
def otherAddress : DMXData := { sampleFrame 100 [0, 2] with syncUni := 8 }

/-- The default function drops a frame for one that waits for another sync address. -/
theorem merged_across_addresses :
    discardLowestPriorityThenPrevious (sampleFrame 100 [0, 1]) otherAddress = .ok otherAddress ∧
    htpDmxMerge (sampleFrame 100 [0, 1]) otherAddress = .err .dmxMergeError ∧
    ¬ ∀ i n : DMXData, SameMergeRules i n := by
  have hdefault : discardLowestPriorityThenPrevious (sampleFrame 100 [0, 1]) otherAddress =
      .ok otherAddress := rfl
  refine ⟨hdefault, rfl, fun h => ?_⟩
  have hrefused := ((h (sampleFrame 100 [0, 1]) otherAddress).refused (by decide)).1
  rw [hdefault] at hrefused
  exact absurd hrefused (by simp)

/-! ## A merge that fails -/

/-- **`store_waiting_data` loses the held frame when the merge fails.** An error of the call leaves
the held frames as they were iff there is no frame for the new one to be merged with, or the merge
function takes the two; the default one takes any two, and `htp_dmx_merge` those that are
`Compatible`. -/
theorem failed_merge_keeps_waiting_iff (r : SacnReceiver) (data : DMXData) :
    ((∀ e, ((storeWaitingData data).run r).1 = .err e →
        ((storeWaitingData data).run r).2.waitingData = r.waitingData) ↔
      ∀ existing, r.waitingData.get data.uni = some existing →
        ∀ e, r.mergeFunc existing data ≠ .err e) ∧
    (∀ existing e, defaultMergeFunc existing data ≠ .err e) ∧
    (∀ existing, (∀ e, htpDmxMerge existing data ≠ .err e) ↔ Compatible existing data) := by
  refine ⟨?_, fun existing e => ?_, fun existing => ?_⟩
  · rw [storeWaitingData_run]
    cases hget : r.waitingData.get data.uni with
    | none => simp
    | some existing =>
      simp only [Option.some.injEq, forall_eq']
      cases hmerge : r.mergeFunc existing data with
      | ok merged => simp
      | panic => simp
      | err e =>
        refine iff_of_false (fun h => ?_) (fun h => h e rfl)
        have hsame : r.waitingData.remove data.uni = r.waitingData := h e rfl
        have hgone := HashMap.get_remove r.waitingData data.uni data.uni
        rw [hsame, if_pos rfl, hget] at hgone
        exact absurd hgone (by simp)
  · unfold defaultMergeFunc discardLowestPriorityThenPrevious
    split <;> simp
  · rw [htpDmxMerge_eq]
    by_cases h : Compatible existing data
    · rw [if_pos h]
      refine iff_of_true (fun e => ?_) h
      split
      · simp
      · split <;> simp
    · rw [if_neg h]
      exact iff_of_false (fun hno => hno _ rfl) h

/-- It holds a frame of universe 1, and merges with `htp_dmx_merge`. -/
def htpReceiver : SacnReceiver := (ReceiverCall.setMergeFn htpDmxMerge).next holdingReceiver

/-- A frame with another start code takes the held one with it. -/
theorem failed_merge_loses_frame :
    htpReceiver.Reachable (fun _ => True) ∧
    htpReceiver.waitingData.get 1 = some (dmxData (.repeated 1) samplePkt 0) ∧
    ((storeWaitingData (sampleFrame 100 [1, 5])).run htpReceiver).1 = .err .dmxMergeError ∧
    ((storeWaitingData (sampleFrame 100 [1, 5])).run htpReceiver).2.waitingData.get 1 = none ∧
    ¬ ∀ r data e, ((storeWaitingData data).run r).1 = .err e →
      ((storeWaitingData data).run r).2.waitingData = r.waitingData := by
  have hheld : htpReceiver.waitingData.get 1 = some (dmxData (.repeated 1) samplePkt 0) := rfl
  have herr : ((storeWaitingData (sampleFrame 100 [1, 5])).run htpReceiver).1 =
      .err .dmxMergeError := rfl
  have hlost : ((storeWaitingData (sampleFrame 100 [1, 5])).run htpReceiver).2.waitingData.get 1 =
      none := rfl
  refine ⟨.step _ _ (.step _ _ (.step _ _ (newReceiver_reachable _) trivial) trivial) trivial, hheld,
    herr, hlost, fun h => ?_⟩
  rw [h _ _ _ herr, hheld] at hlost
  exact absurd hlost (by simp)

end Sacn
