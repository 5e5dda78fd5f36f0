import Sacn.EndToEnd.Advertise

/-!
# Forgotten between two advertisements (`source.rs`, `receive.rs`)

`E131_UNIVERSE_DISCOVERY_INTERVAL` is ten seconds, `UNIVERSE_DISCOVERY_SOURCE_TIMEOUT` is the data
loss timeout of 2.5 s. A receiver that is asked for its sources between the two has forgotten a
source that has missed nothing.

* `Remembers`: the receiver has heard of the source when it got the last page of its last
  advertisement, or has forgotten it since.
* **`staysDiscovered_iff`**: a source stays discovered exactly in the runs in which the receiver is
  only asked within 2.5 s of an advertisement.
* `forgotten_between_advertisements`: a run in which it is asked later.
-/

namespace Sacn

open Rust Rust.Outcome SacnSourceInternal SacnReceiver

/-! ## Calls of the receiver -/

theorem heard_terminateStream (cid c : Uuid) (uni : UInt16) (r : SacnReceiver) :
    ((SacnReceiver.terminateStream c uni r).view cid).pending = (r.view cid).pending ∧
      (SacnReceiver.terminateStream c uni r).heard cid = r.heard cid := by
  unfold SacnReceiver.terminateStream
  split
  · rename_i index _
    exact ⟨rfl, KeyedVec.map_lookup_modify (g := DiscoveredSacnSource.lastUpdated)
      (f := DiscoveredSacnSource.terminateUniverse uni) (fun _ => rfl) (fun _ => rfl)
      r.discoveredSources index cid⟩
  · exact ⟨rfl, rfl⟩

/-- A call that is no discovery packet of the source and drops no record. -/
theorem ReceiverCall.keeps_record {cid : Uuid} {r : SacnReceiver} {c : ReceiverCall}
    (hr : r.Discovering) (hdiscovery : c.discovery cid = none)
    (hexpired : ∀ now, c ≠ .removeExpiredSources now) (hreset : c ≠ .resetSources) :
    ((c.next r).view cid).pending = (r.view cid).pending ∧ (c.next r).heard cid = r.heard cid := by
  refine records_next (P := fun s => (s.view cid).pending = (r.view cid).pending ∧
    s.heard cid = r.heard cid) (fun hsources hs => ?_) (fun c uni s hs => ?_)
    (fun c' pkt now heq => ?_) (fun now heq => absurd heq (hexpired now))
    (fun heq => absurd heq hreset) ⟨rfl, rfl⟩
  · unfold heard at hs ⊢
    rw [view_of_sources hsources cid]
    exact hs
  · obtain ⟨hpending, hheard⟩ := heard_terminateStream cid c uni s
    exact ⟨hpending.trans hs.1, hheard.trans hs.2⟩
  · subst heq
    have hne : ¬ c' = cid := fun h => by
      have hown : (handleUniverseDiscoveryPacket c' pkt now).discovery cid = some (pkt, now) :=
        if_pos h
      rw [hdiscovery] at hown
      exact absurd hown (by simp)
    have hview := ((view_handle hr.distinct c' pkt now).2.2 cid).trans (if_neg (Ne.symm hne))
    unfold heard
    rw [hview]
    exact ⟨rfl, rfl⟩

section Query

variable {r : SacnReceiver} (now : Nat) (cid : Uuid)

/-- The record is not too old. -/
def DiscoveredSacnSource.fresh (src : DiscoveredSacnSource) : Bool :=
  elapsed src.lastUpdated now < universeDiscoverySourceTimeout

/-- A query drops the records that are too old. -/
theorem view_getDiscoveredSources (hr : r.Discovering) :
    (getDiscoveredSources now r).2.view cid =
      { pending := (r.view cid).pending.filter (·.fresh now)
        found := (r.view cid).found.filter (·.fresh now) } := by
  have hpending := KeyedVec.lookup_filter hr.distinct.partially (·.fresh now) cid
  have hfound := KeyedVec.lookup_filter hr.distinct.discovered (·.fresh now) cid
  exact congrArg₂ SourceView.mk hpending hfound

theorem heard_getDiscoveredSources (hr : r.Discovering) (t : Nat) :
    (getDiscoveredSources now r).2.heard cid = some t ↔
      r.heard cid = some t ∧ elapsed t now < universeDiscoverySourceTimeout := by
  unfold heard
  rw [view_getDiscoveredSources now cid hr]
  cases (r.view cid).found with
  | none => simp
  | some src =>
    by_cases hfresh : src.fresh now = true
    · have hage : elapsed src.lastUpdated now < universeDiscoverySourceTimeout :=
        of_decide_eq_true hfresh
      simp only [Option.filter_some_pos hfresh, Option.map_some, Option.some.injEq]
      constructor
      · rintro rfl
        exact ⟨rfl, hage⟩
      · exact fun h => h.1
    · have hage : ¬ elapsed src.lastUpdated now < universeDiscoverySourceTimeout := fun h =>
        hfresh (decide_eq_true h)
      simp only [Option.filter_some_neg (Bool.not_eq_true _ ▸ hfresh), Option.map_some,
        Option.map_none, Option.some.injEq]
      constructor
      · rintro ⟨⟩
      · rintro ⟨rfl, h⟩
        exact absurd h hage

/-- It returns a record of the source if the receiver heard of it recently enough. -/
theorem answers_iff (hr : r.Discovering) :
    (∃ src ∈ (getDiscoveredSources now r).1, src.cid = cid) ↔
      ∃ t, r.heard cid = some t ∧ elapsed t now < universeDiscoverySourceTimeout := by
  have hfound : (∃ src ∈ (getDiscoveredSources now r).1, src.cid = cid) ↔
      ((getDiscoveredSources now r).2.view cid).found ≠ none := by
    show _ ↔ KeyedVec.lookup DiscoveredSacnSource.cid (getDiscoveredSources now r).1 cid ≠ none
    rw [ne_eq, KeyedVec.lookup_eq_none]
    push Not
    rfl
  have hheard : ((getDiscoveredSources now r).2.view cid).found ≠ none ↔
      ∃ t, (getDiscoveredSources now r).2.heard cid = some t := by
    unfold heard
    rw [← Option.isSome_iff_ne_none, ← Option.isSome_iff_exists, Option.isSome_map]
  rw [hfound, hheard]
  exact exists_congr fun t => heard_getDiscoveredSources now cid hr t

end Query

/-! ## The states of a run -/

/-- The invariant: the source and the receiver are states of their own runs, the thread is on time,
and what is on its way fits what the receiver holds. -/
structure DiscoveryNetwork.Sound (cid : Uuid) (w : DiscoveryNetwork) : Prop where
  source : ∃ log, SourceRun (fun _ _ => True) log w.source.toSacnSourceInternal
  sending : w.source.isSendingDiscovery = true
  time : w.polled ≤ w.clock ∧ w.clock ≤ w.polled + defaultPollPeriod
  discovering : w.receiver.Discovering
  flight : Flight cid w.polled w.inFlight (w.receiver.view cid).pending

/-- Whatever is pending survives a query made less than a second after an update. -/
theorem Flight.fresh {cid : Uuid} {since : Nat} {ds : List (List UInt8)}
    {pending : Option DiscoveredSacnSource} (h : Flight cid since ds pending) (now : Nat)
    (hnow : now ≤ since + defaultPollPeriod) : pending.filter (·.fresh now) = pending := by
  have hyoung := h.young
  have hperiod : defaultPollPeriod < universeDiscoverySourceTimeout := by decide
  cases pending with
  | none => rfl
  | some src =>
    have hsince := hyoung src rfl
    have hage : now - src.lastUpdated < universeDiscoverySourceTimeout := by omega
    exact Option.filter_some_pos (decide_eq_true hage)

namespace DiscoveryNetwork

variable {cid : Uuid} {w : DiscoveryNetwork}

theorem Start.sound (h : w.Start cid) : w.Sound cid := by
  refine ⟨h.source, h.sending, h.time, h.receiver.discovering, ?_⟩
  rw [h.unknown, h.empty]
  exact .nil

/-- An update. -/
theorem Sound.update (h : w.Sound cid) {now stamp : Nat}
    (hallowed : (DiscoveryEvent.performPeriodicUpdate now stamp).Allowed cid w) :
    ((DiscoveryEvent.performPeriodicUpdate now stamp).next w).Sound cid := by
  obtain ⟨-, -, -, hempty, hok⟩ := hallowed
  have hpending : (w.receiver.view cid).pending = none := (hempty ▸ h.flight).pending_of_nil
  obtain ⟨source, hupdate⟩ : ∃ source,
      (AdvertisingSource.performPeriodicUpdate now stamp).run w.source = (.ok (), source) :=
    ⟨_, Prod.ext hok rfl⟩
  simp only [DiscoveryEvent.next, hupdate]
  have htime : now ≤ now ∧ now ≤ now + defaultPollPeriod := ⟨le_rfl, Nat.le_add_right _ _⟩
  rcases AdvertisingSource.performPeriodicUpdate_cases h.sending hupdate with
    ⟨-, rfl⟩ | ⟨internal, hsend, rfl⟩
  · refine ⟨h.source, h.sending, htime, h.discovering, ?_⟩
    rw [List.drop_length, List.map_nil, hempty, hpending]
    exact .nil
  · obtain ⟨log, hrun⟩ := h.source
    have hnext := hrun.snoc .sendUniverseDiscovery trivial
    rw [show UserCall.sendUniverseDiscovery.method.run _ = _ from hsend] at hnext
    refine ⟨⟨_, hnext⟩, h.sending, htime, h.discovering, ?_⟩
    rw [hempty, hpending]
    exact .sent hrun.nameFits hrun.reachable.ascending hsend cid now

/-- **The invariant is kept by every event.** -/
theorem Sound.next (h : w.Sound cid) {e : DiscoveryEvent} (hallowed : e.Allowed cid w) :
    (e.next w).Sound cid := by
  have hclock := hallowed.1
  have hdeadline := hallowed.2.1
  have hproper := hallowed.2.2
  have htime : w.polled ≤ e.time ∧ e.time ≤ w.polled + defaultPollPeriod :=
    ⟨h.time.1.trans hclock, hdeadline⟩
  cases e with
  | performPeriodicUpdate now stamp => exact h.update hallowed
  | sourceCall c now =>
    obtain ⟨log, hrun⟩ := h.source
    exact ⟨⟨_, hrun.snoc c trivial⟩, h.sending, htime, h.discovering, h.flight⟩
  | deliver turn =>
    show (w.deliver turn).Sound cid
    unfold DiscoveryNetwork.deliver
    split
    · exact ⟨h.source, h.sending, htime, h.discovering, h.flight⟩
    · rename_i d rest hflight
      have hpage := Flight.deliver h.discovering htime.1 (hflight ▸ h.flight)
      exact ⟨h.source, h.sending, htime, hpage.discovering, hpage.flight⟩
  | receiverCall c now =>
    obtain ⟨hparsed, hdiscovery, hexpired, hreset⟩ := hproper
    refine ⟨h.source, h.sending, htime, c.discovering_next h.discovering hparsed, ?_⟩
    show Flight cid w.polled w.inFlight ((c.next w.receiver).view cid).pending
    by_cases hc : c = .resetSources
    · rw [hreset hc, hc]
      exact .nil
    · rw [(ReceiverCall.keeps_record h.discovering hdiscovery hexpired hc).1]
      exact h.flight
  | getDiscoveredSources now =>
    refine ⟨h.source, h.sending, htime, ?_, ?_⟩
    · exact ReceiverCall.discovering_next (c := .removeExpiredSources fun _ => now) h.discovering
        (by rintro _ _ _ ⟨⟩)
    · show Flight cid w.polled w.inFlight
        ((SacnReceiver.getDiscoveredSources now w.receiver).2.view cid).pending
      rw [view_getDiscoveredSources now cid h.discovering]
      show Flight cid w.polled w.inFlight ((w.receiver.view cid).pending.filter _)
      rw [h.flight.fresh now htime.2]
      exact h.flight

end DiscoveryNetwork

/-! ## Histories -/

/-- The receiver gets the last page of an advertisement of the source, at `t`. -/
def Completes (cid : Uuid) (t : Nat) (e : DiscoveryEntry) : Prop :=
  ∃ turn d, e.1 = .deliver turn ∧ turn.now = t ∧ e.2.inFlight = [d] ∧ LastPage cid d []

/-- The user of the receiver wipes its records. -/
def Resets (e : DiscoveryEntry) : Prop := ∃ now, e.1 = .receiverCall .resetSources now

/-- What the receiver knows of the source, in terms of the history: it has heard of it when it got
the last page of an advertisement, and it is the last advertisement unless that is too old. -/
structure Remembers (cid : Uuid) (log : List DiscoveryEntry) (w : DiscoveryNetwork) : Prop where
  past : ∀ t, Since log (Completes cid t) Resets → t ≤ w.clock
  heard : ∀ t, w.receiver.heard cid = some t → Since log (Completes cid t) Resets
  kept : ∀ t, Since log (Completes cid t) Resets →
    (∃ t', w.receiver.heard cid = some t' ∧ t ≤ t') ∨ t + universeDiscoverySourceTimeout ≤ w.clock

section Remembers

variable {cid : Uuid} {log : List DiscoveryEntry} {w w' : DiscoveryNetwork} {e : DiscoveryEntry}

/-- An event that is neither leaves the history as it was. -/
theorem since_quiet (log : List DiscoveryEntry) (hcompletes : ∀ t, ¬ Completes cid t e)
    (hresets : ¬ Resets e) (t : Nat) :
    Since (log ++ [e]) (Completes cid t) Resets ↔ Since log (Completes cid t) Resets := by
  rw [since_snoc]
  constructor
  · rintro (h | h)
    · exact absurd h (hcompletes t)
    · exact h.1
  · exact fun h => .inr ⟨h, hresets⟩

theorem Remembers.quiet (h : Remembers cid log w) (hcompletes : ∀ t, ¬ Completes cid t e)
    (hresets : ¬ Resets e) (hclock : w.clock ≤ w'.clock)
    (hheard : w'.receiver.heard cid = w.receiver.heard cid) : Remembers cid (log ++ [e]) w' := by
  have hsame := since_quiet log hcompletes hresets
  refine ⟨fun t ht => ?_, fun t ht => ?_, fun t ht => ?_⟩
  · exact (h.past t ((hsame t).mp ht)).trans hclock
  · exact (hsame t).mpr (h.heard t (hheard ▸ ht))
  · rw [hheard]
    exact (h.kept t ((hsame t).mp ht)).imp id fun hold => hold.trans hclock

/-- The last page of an advertisement. -/
theorem Remembers.completes (h : Remembers cid log w) {now : Nat}
    (hcompletes : ∀ t, Completes cid t e ↔ now = t) (hpast : w.clock ≤ now) (hclock : w'.clock = now)
    (hheard : w'.receiver.heard cid = some now) :
    Remembers cid (log ++ [e]) w' := by
  have hpast : ∀ t, Since (log ++ [e]) (Completes cid t) Resets → t ≤ now := by
    intro t ht
    rcases since_snoc.mp ht with hlast | ⟨hearlier, -⟩
    · exact ((hcompletes t).mp hlast).ge
    · exact (h.past t hearlier).trans hpast
  refine ⟨fun t ht => hclock ▸ hpast t ht, fun t ht => ?_,
    fun t ht => .inl ⟨now, hheard, hpast t ht⟩⟩
  exact since_snoc.mpr (.inl ((hcompletes t).mpr (Option.some.inj (hheard.symm.trans ht))))

/-- Wiped records. -/
theorem Remembers.reset (hcompletes : ∀ t, ¬ Completes cid t e) (hresets : Resets e)
    (hheard : w'.receiver.heard cid = none) : Remembers cid (log ++ [e]) w' := by
  have hnever : ∀ t, ¬ Since (log ++ [e]) (Completes cid t) Resets := by
    intro t ht
    rcases since_snoc.mp ht with hlast | ⟨-, hnot⟩
    · exact hcompletes t hlast
    · exact hnot hresets
  refine ⟨fun t ht => absurd ht (hnever t), fun t ht => ?_, fun t ht => absurd ht (hnever t)⟩
  rw [hheard] at ht
  exact absurd ht (by simp)

/-- A query drops what is too old. -/
theorem Remembers.query (h : Remembers cid log w) (hr : w.receiver.Discovering) {now : Nat}
    (hpast : w.clock ≤ now) (hcompletes : ∀ t, ¬ Completes cid t e) (hresets : ¬ Resets e) :
    Remembers cid (log ++ [e]) ((DiscoveryEvent.getDiscoveredSources now).next w) := by
  have hsame := since_quiet log hcompletes hresets
  have hheard := heard_getDiscoveredSources now cid hr
  refine ⟨fun t ht => ?_, fun t ht => ?_, fun t ht => ?_⟩
  · exact (h.past t ((hsame t).mp ht)).trans hpast
  · exact (hsame t).mpr (h.heard t ((hheard t).mp ht).1)
  · rcases h.kept t ((hsame t).mp ht) with ⟨t', ht', hle⟩ | hold
    · by_cases hage : now - t' < universeDiscoverySourceTimeout
      · exact .inl ⟨t', (hheard t').mpr ⟨ht', hage⟩, hle⟩
      · have hpos : 0 < universeDiscoverySourceTimeout := by decide
        refine .inr ?_
        show t + universeDiscoverySourceTimeout ≤ now
        omega
    · exact .inr (hold.trans hpast)

end Remembers

/-- The receipt of a page. -/
theorem Remembers.deliver {cid : Uuid} {log : List DiscoveryEntry} {w : DiscoveryNetwork}
    (h : Remembers cid log w) (hsound : w.Sound cid) {turn : Turn} (hpast : w.clock ≤ turn.now) :
    Remembers cid (log ++ [(.deliver turn, w)]) (w.deliver turn) := by
  have hresets : ¬ Resets (.deliver turn, w) := by
    rintro ⟨_, ⟨⟩⟩
  have hflight := hsound.flight
  unfold DiscoveryNetwork.deliver
  split
  · rename_i hempty
    refine h.quiet ?_ hresets hpast rfl
    rintro t ⟨_, d, _, _, hone, _⟩
    exact absurd (hempty.symm.trans hone) (by simp)
  · rename_i d rest hcons
    have hreceived :=
      Flight.deliver hsound.discovering (hsound.time.1.trans hpast) (hcons ▸ hflight)
    by_cases hend : LastPage cid d rest
    · refine h.completes (fun t => ?_) hpast rfl (hreceived.last hend)
      constructor
      · rintro ⟨_, _, ⟨⟩, ht, -⟩
        exact ht
      · exact fun ht => ⟨turn, d, rfl, ht, hend.1 ▸ hcons, rfl, hend.2⟩
    · refine h.quiet ?_ hresets hpast (hreceived.more hend)
      rintro t ⟨_, d', _, _, hone, hpage⟩
      obtain ⟨rfl, rfl⟩ := List.cons.inj (hcons.symm.trans hone)
      exact hend hpage

/-- **What the receiver knows, one event further.** -/
theorem Remembers.next {cid : Uuid} {log : List DiscoveryEntry} {w : DiscoveryNetwork}
    (h : Remembers cid log w) (hsound : w.Sound cid) {e : DiscoveryEvent}
    (hallowed : e.Allowed cid w) : Remembers cid (log ++ [(e, w)]) (e.next w) := by
  have hclock := hallowed.1
  have hproper := hallowed.2.2
  cases e with
  | performPeriodicUpdate now stamp =>
    exact h.quiet (by rintro _ ⟨_, _, ⟨⟩, _⟩) (by rintro ⟨_, ⟨⟩⟩) hclock rfl
  | sourceCall c now => exact h.quiet (by rintro _ ⟨_, _, ⟨⟩, _⟩) (by rintro ⟨_, ⟨⟩⟩) hclock rfl
  | deliver turn => exact h.deliver hsound hclock
  | receiverCall c now =>
    obtain ⟨-, hdiscovery, hexpired, -⟩ := hproper
    by_cases hc : c = .resetSources
    · subst hc
      exact .reset (by rintro _ ⟨_, _, ⟨⟩, _⟩) ⟨now, rfl⟩ rfl
    · refine h.quiet (by rintro _ ⟨_, _, ⟨⟩, _⟩) ?_ hclock
        (ReceiverCall.keeps_record hsound.discovering hdiscovery hexpired hc).2
      rintro ⟨_, ⟨⟩⟩
      exact hc rfl
  | getDiscoveredSources now =>
    exact h.query hsound.discovering hclock (by rintro _ ⟨_, _, ⟨⟩, _⟩) (by rintro ⟨_, ⟨⟩⟩)

theorem AdvertRun.remembers {cid : Uuid} {log : List DiscoveryEntry} {w : DiscoveryNetwork}
    (h : AdvertRun cid log w) : w.Sound cid ∧ Remembers cid log w := by
  refine h.invariant (P := fun log w => w.Sound cid ∧ Remembers cid log w) (fun w hstart => ?_)
    fun log w e he hw => ⟨hw.1.next he, hw.2.next hw.1 he⟩
  have hnothing : ∀ t, ¬ Since [] (Completes cid t) Resets := by
    rintro t ⟨pre, e, post, hnil, -⟩
    exact absurd hnil (by simp)
  refine ⟨hstart.sound, fun t ht => absurd ht (hnothing t), fun t ht => ?_,
    fun t ht => absurd ht (hnothing t)⟩
  unfold SacnReceiver.heard at ht
  rw [hstart.unknown] at ht
  exact absurd ht (by simp)

/-! ## Queries -/

/-- The receiver has a record of the source. -/
def SacnReceiver.Knows (cid : Uuid) (r : SacnReceiver) : Prop :=
  ∃ src ∈ r.discoveredSources, src.cid = cid

/-- A query of the history, made after `before`, at `now`, in the network `w`: the receiver has had a
record of the source, and its records have not been wiped since. -/
structure KnownQuery (cid : Uuid) (log before : List DiscoveryEntry) (now : Nat)
    (w : DiscoveryNetwork) : Prop where
  made : ∃ after, log = before ++ (.getDiscoveredSources now, w) :: after
  known : Since (before ++ [(.getDiscoveredSources now, w)])
    (fun e => e.2.receiver.Knows cid ∧ ¬ Resets e) Resets

/-- Once the source is discovered, every query returns a record of it. -/
def StaysDiscovered (cid : Uuid) (log : List DiscoveryEntry) : Prop :=
  ∀ before now w, KnownQuery cid log before now w →
    ∃ src ∈ (getDiscoveredSources now w.receiver).1, src.cid = cid

/-- Once the source is discovered, every query is made less than 2.5 s after the receiver got the last
page of an advertisement of it. -/
def AskedInTime (cid : Uuid) (log : List DiscoveryEntry) : Prop :=
  ∀ before now w, KnownQuery cid log before now w →
    Since before (fun e => ∃ t, Completes cid t e ∧
      elapsed t now < universeDiscoverySourceTimeout) Resets

/-- **One query**: it returns a record of the source iff it is made in time. -/
theorem AdvertRun.query_iff {cid : Uuid} {before after : List DiscoveryEntry} {now : Nat}
    {w w' : DiscoveryNetwork}
    (h : AdvertRun cid (before ++ (.getDiscoveredSources now, w) :: after) w') :
    (∃ src ∈ (getDiscoveredSources now w.receiver).1, src.cid = cid) ↔
      Since before (fun e => ∃ t, Completes cid t e ∧
        elapsed t now < universeDiscoverySourceTimeout) Resets := by
  obtain ⟨s, hrun, hallowed, heq⟩ := h.split
  obtain rfl : w = s := heq
  obtain ⟨hsound, hremembers⟩ := AdvertRun.remembers hrun
  have hclock : w.clock ≤ now := hallowed.1
  rw [answers_iff now cid hsound.discovering, since_exists]
  constructor
  · rintro ⟨t, hheard, hage⟩
    obtain ⟨pre, e, post, heq, hcompletes, hresets⟩ := hremembers.heard t hheard
    exact ⟨t, pre, e, post, heq, ⟨hcompletes, hage⟩, hresets⟩
  · rintro ⟨t, pre, e, post, heq, ⟨hcompletes, hage⟩, hresets⟩
    unfold elapsed at hage ⊢
    rcases hremembers.kept t ⟨pre, e, post, heq, hcompletes, hresets⟩ with
      ⟨t', hheard, hle⟩ | hold
    · exact ⟨t', hheard, by omega⟩
    · omega

/-- **When a source stays discovered**: in a run in which its update thread looks at least once a
second, every update succeeds and every page is delivered once, before the next update, each query
returns a record of it iff each query is made within 2.5 s of an advertisement. -/
theorem AdvertRun.staysDiscovered_iff {cid : Uuid} {log : List DiscoveryEntry}
    {w : DiscoveryNetwork} (h : AdvertRun cid log w) :
    StaysDiscovered cid log ↔ AskedInTime cid log := by
  constructor
  · intro hstays before now w hquery
    obtain ⟨after, rfl⟩ := hquery.made
    exact h.query_iff.mp (hstays before now w hquery)
  · intro hasked before now w hquery
    obtain ⟨after, rfl⟩ := hquery.made
    exact h.query_iff.mpr (hasked before now w hquery)

/-! ## A forgotten source -/

/-- A number of milliseconds. -/
def millis (n : Nat) : Nat := n * 1000000

/-- A source that last advertised ten seconds ago, and a new receiver. -/
def waitingNetwork : DiscoveryNetwork :=
  { source :=
      { sampleSource with lastDiscoveryAdvertTimestamp := 0, isSendingDiscovery := true }
    receiver := newReceiver
    inFlight := []
    clock := millis 10000
    polled := millis 10000 }

theorem waitingNetwork_start : waitingNetwork.Start sampleSource.cid :=
  ⟨⟨[], .nil ⟨"Stage", .repeated 1, _, _, rfl⟩⟩, rfl, by decide, by decide,
    newReceiver_reachable _, rfl, rfl⟩

/-- A turn at a time. -/
def turnAt (now : Nat) : Turn :=
  { data := stillAmbient, sync := stillAmbient, waiting := fun _ => now, check := stillAmbient, now
    order := [], release := fun _ => now }

/-- It advertises a second later. -/
def advertisingNetwork : DiscoveryNetwork :=
  (DiscoveryEvent.performPeriodicUpdate (millis 11000) (millis 11000)).next waitingNetwork

/-- The receiver gets the page at once. -/
def advertisedNetwork : DiscoveryNetwork :=
  (DiscoveryEvent.deliver (turnAt (millis 11000))).next advertisingNetwork

theorem AdvertRun.step {cid : Uuid} {log : List DiscoveryEntry} {w w' : DiscoveryNetwork}
    (h : AdvertRun cid log w) {e : DiscoveryEvent} (he : e.Allowed cid w) (hnext : w' = e.next w) :
    AdvertRun cid (log ++ [(e, w)]) w' := by
  subst hnext
  exact h.snoc e he

/-- The history up to a query that comes at once. -/
def advertisedLog : List DiscoveryEntry :=
  [(.performPeriodicUpdate (millis 11000) (millis 11000), waitingNetwork),
    (.deliver (turnAt (millis 11000)), advertisingNetwork),
    (.getDiscoveredSources (millis 11000), advertisedNetwork)]

/-- The network after the query. -/
def askedNetwork : DiscoveryNetwork :=
  (DiscoveryEvent.getDiscoveredSources (millis 11000)).next advertisedNetwork

theorem advertisedLog_run : AdvertRun sampleSource.cid advertisedLog askedNetwork := by
  have hstart : AdvertRun sampleSource.cid [] waitingNetwork := .nil waitingNetwork_start
  have hupdate : (DiscoveryEvent.performPeriodicUpdate (millis 11000) (millis 11000)).Allowed
      sampleSource.cid waitingNetwork := ⟨by decide, by decide, le_rfl, rfl, by decide +kernel⟩
  have hdeliver : (DiscoveryEvent.deliver (turnAt (millis 11000))).Allowed
      sampleSource.cid advertisingNetwork := ⟨by decide, by decide, trivial⟩
  have hask : (DiscoveryEvent.getDiscoveredSources (millis 11000)).Allowed
      sampleSource.cid advertisedNetwork := ⟨by decide +kernel, by decide +kernel, trivial⟩
  exact ((hstart.step hupdate rfl).step hdeliver rfl).step hask rfl

theorem advertisedLog_staysDiscovered :
    StaysDiscovered sampleSource.cid advertisedLog ↔ AskedInTime sampleSource.cid advertisedLog :=
  AdvertRun.staysDiscovered_iff advertisedLog_run

/-- Two updates later. -/
def polledNetwork : DiscoveryNetwork :=
  (DiscoveryEvent.performPeriodicUpdate (millis 12000) (millis 12000)).next askedNetwork

def laterNetwork : DiscoveryNetwork :=
  (DiscoveryEvent.performPeriodicUpdate (millis 13000) (millis 13000)).next polledNetwork

/-- The history up to there. -/
def laterLog : List DiscoveryEntry :=
  advertisedLog ++ [(.performPeriodicUpdate (millis 12000) (millis 12000), askedNetwork),
    (.performPeriodicUpdate (millis 13000) (millis 13000), polledNetwork)]

theorem laterLog_run : AdvertRun sampleSource.cid laterLog laterNetwork := by
  have hupdate : (DiscoveryEvent.performPeriodicUpdate (millis 12000) (millis 12000)).Allowed
      sampleSource.cid askedNetwork :=
    ⟨by decide +kernel, by decide +kernel, le_rfl, by decide +kernel, by decide +kernel⟩
  have hupdate' : (DiscoveryEvent.performPeriodicUpdate (millis 13000) (millis 13000)).Allowed
      sampleSource.cid polledNetwork :=
    ⟨by decide +kernel, by decide +kernel, le_rfl, by decide +kernel, by decide +kernel⟩
  exact (advertisedLog_run.step hupdate rfl).step hupdate' rfl

/-- Every page is delivered when it is sent. -/
def DeliveredAtOnce (log : List DiscoveryEntry) : Prop :=
  ∀ e ∈ log, ∀ turn, e.1 = .deliver turn → turn.now = e.2.polled

/-- The source advertises at 11 s and the receiver, asked at once, returns it; asked at 13.5 s, after
two more updates, it has forgotten it. The next advertisement is due after 21 s. -/
theorem forgotten_between_advertisements :
    ¬ ∀ cid log w, AdvertRun cid log w → DeliveredAtOnce log → StaysDiscovered cid log := by
  intro h
  have hask : (DiscoveryEvent.getDiscoveredSources (millis 13500)).Allowed
      sampleSource.cid laterNetwork := ⟨by decide +kernel, by decide +kernel, trivial⟩
  have hrun := laterLog_run.step hask rfl
  have hknows : advertisedNetwork.receiver.Knows sampleSource.cid := by
    unfold SacnReceiver.Knows
    decide +kernel
  have honce : DeliveredAtOnce
      (laterLog ++ [(.getDiscoveredSources (millis 13500), laterNetwork)]) := by
    simp only [DeliveredAtOnce, laterLog, advertisedLog, List.cons_append, List.nil_append,
      List.forall_mem_cons, List.not_mem_nil, false_implies, implies_true, and_true]
    refine ⟨?_, ?_, ?_, ?_, ?_, ?_⟩ <;> rintro turn ⟨⟩
    rfl
  have hknown : Since (laterLog ++ [(.getDiscoveredSources (millis 13500), laterNetwork)])
      (fun e => e.2.receiver.Knows sampleSource.cid ∧ ¬ Resets e) Resets := by
    refine ⟨laterLog.take 2, (.getDiscoveredSources (millis 11000), advertisedNetwork),
      [(.performPeriodicUpdate (millis 12000) (millis 12000), askedNetwork),
        (.performPeriodicUpdate (millis 13000) (millis 13000), polledNetwork),
        (.getDiscoveredSources (millis 13500), laterNetwork)], rfl,
      ⟨hknows, by rintro ⟨_, ⟨⟩⟩⟩, ?_⟩
    simp only [List.forall_mem_cons, List.not_mem_nil, false_implies, implies_true, and_true]
    refine ⟨?_, ?_, ?_⟩ <;> rintro ⟨_, ⟨⟩⟩
  obtain ⟨src, hsrc, -⟩ := h _ _ _ hrun honce laterLog (millis 13500) laterNetwork
    ⟨⟨[], rfl⟩, hknown⟩
  have hforgotten : (getDiscoveredSources (millis 13500) laterNetwork.receiver).1.length = 0 := by
    decide +kernel
  exact absurd (List.length_pos_of_mem hsrc) (by omega)

end Sacn
