import BlueRoute.Base.Debounce
import BlueRoute.Base.Runs
import BlueRoute.Core.TopologyLoss

open Fallible Ordered

namespace blueroute

namespace HubLossTracker

open Debounce

/-- How the three collections of the tracker hold the watch of one hub. -/
def Watched (self : HubLossTracker) (hub : NodeId) : Watch → Prop
  | .idle => hub ∉ self.seen_hubs ∧ self.missing_since[hub]? = none ∧ hub ∉ self.lost_hubs
  | .present => hub ∈ self.seen_hubs ∧ self.missing_since[hub]? = none ∧ hub ∉ self.lost_hubs
  | .missing since => hub ∈ self.seen_hubs ∧ self.missing_since[hub]? = some since ∧ hub ∉ self.lost_hubs
  | .lost => hub ∈ self.seen_hubs ∧ self.missing_since[hub]? = none ∧ hub ∈ self.lost_hubs

section Watched

variable {self : HubLossTracker} {hub : NodeId} {watch : Watch}

theorem Watched.mem_lost_iff (h : Watched self hub watch) : hub ∈ self.lost_hubs ↔ watch = .lost := by
  cases watch with
  | idle | present | missing since | lost => simp [h.2.2]

theorem Watched.mem_seen_iff (h : Watched self hub watch) : hub ∈ self.seen_hubs ↔ watch ≠ .idle := by
  cases watch with
  | idle | present | missing since | lost => simp [h.1]

/-- A watch depends on nothing but what the collections say about its hub. -/
theorem Watched.congr {next : HubLossTracker} (h : Watched self hub watch)
    (hseen : hub ∈ next.seen_hubs ↔ hub ∈ self.seen_hubs)
    (hmissing : next.missing_since[hub]? = self.missing_since[hub]?)
    (hlost : hub ∈ next.lost_hubs ↔ hub ∈ self.lost_hubs) : Watched next hub watch := by
  cases watch with
  | idle => exact ⟨hseen.not.mpr h.1, hmissing.trans h.2.1, hlost.not.mpr h.2.2⟩
  | present | missing since => exact ⟨hseen.mpr h.1, hmissing.trans h.2.1, hlost.not.mpr h.2.2⟩
  | lost => exact ⟨hseen.mpr h.1, hmissing.trans h.2.1, hlost.mpr h.2.2⟩

end Watched

/-- The tracker between two samples, as far as one hub is concerned. -/
structure Tracks (interval : Nat) (last_sample : Option Nat) (tracker : HubLossTracker) (hub : NodeId)
    (watch : Watch) : Prop where
  interval_eq : tracker.min_absence_ms = interval
  last_eq : tracker.last_sample_ms = last_sample
  watched : Watched tracker hub watch

section Tracks

variable {interval : Nat} {last_sample : Option Nat}

theorem note_active_self (self : HubLossTracker) (hub : NodeId) (watch : Watch)
    (h : Tracks interval last_sample self hub watch) :
    Tracks interval last_sample (self.note_active hub) hub .present :=
  ⟨h.interval_eq, h.last_eq, by simp [Watched, note_active]⟩

theorem note_active_other (self : HubLossTracker) (hub other : NodeId) (watch : Watch) (hne : hub ≠ other)
    (h : Tracks interval last_sample self hub watch) :
    Tracks interval last_sample (self.note_active other) hub watch := by
  refine ⟨h.interval_eq, h.last_eq, h.watched.congr ?_ ?_ ?_⟩
  · simp [note_active, hne]
  · rw [note_active, getElem?_erase_eq, if_neg hne.symm]
  · simp [note_active, hne]

theorem forget_hub_self (self : HubLossTracker) (hub : NodeId) (watch : Watch)
    (h : Tracks interval last_sample self hub watch) :
    Tracks interval last_sample (self.forget_hub hub) hub .idle :=
  ⟨h.interval_eq, h.last_eq, by simp [Watched, forget_hub]⟩

theorem forget_hub_other (self : HubLossTracker) (hub other : NodeId) (watch : Watch) (hne : hub ≠ other)
    (h : Tracks interval last_sample self hub watch) :
    Tracks interval last_sample (self.forget_hub other) hub watch := by
  refine ⟨h.interval_eq, h.last_eq, h.watched.congr ?_ ?_ ?_⟩
  · simp [forget_hub, hne]
  · rw [forget_hub, getElem?_erase_eq, if_neg hne.symm]
  · simp [forget_hub, hne]

/-- An absence is noted for tracked hubs only. -/
theorem note_absent_self (now_ms : Nat) (self : HubLossTracker) (hub : NodeId) (watch : Watch)
    (h : Tracks interval last_sample self hub watch ∧ watch ≠ .idle) :
    Tracks interval last_sample (self.note_absent now_ms hub) hub (step interval watch (.absent now_ms)) ∧
      step interval watch (.absent now_ms) ≠ .idle := by
  obtain ⟨⟨rfl, hlast, hwatched⟩, htracked⟩ := h
  cases watch with
  | idle => exact absurd rfl htracked
  | present =>
    obtain ⟨hseen, hmissing, hlost⟩ := hwatched
    rw [note_absent, if_neg hlost, hmissing]
    exact ⟨⟨rfl, hlast, hseen, by simp, hlost⟩, by simp [step]⟩
  | missing since =>
    obtain ⟨hseen, hmissing, hlost⟩ := hwatched
    rw [note_absent, if_neg hlost, hmissing, step]
    dsimp only
    split
    · exact ⟨⟨rfl, hlast, hseen, by simp, Finset.mem_insert_self _ _⟩, by simp⟩
    · exact ⟨⟨rfl, hlast, hseen, hmissing, hlost⟩, by simp⟩
  | lost =>
    obtain ⟨hseen, hmissing, hlost⟩ := hwatched
    rw [note_absent, if_pos hlost]
    exact ⟨⟨rfl, hlast, hseen, hmissing, hlost⟩, by simp [step]⟩

theorem note_absent_other (now_ms : Nat) (self : HubLossTracker) (hub other : NodeId) (watch : Watch)
    (hne : hub ≠ other) (h : Tracks interval last_sample self hub watch) :
    Tracks interval last_sample (self.note_absent now_ms other) hub watch := by
  unfold note_absent
  split
  · exact h
  · split
    · split
      · refine ⟨h.interval_eq, h.last_eq, h.watched.congr Iff.rfl ?_ ?_⟩
        · rw [getElem?_erase_eq, if_neg hne.symm]
        · simp [hne]
      · exact h
    · refine ⟨h.interval_eq, h.last_eq, h.watched.congr Iff.rfl ?_ Iff.rfl⟩
      rw [getElem?_insert_eq, if_neg hne.symm]

end Tracks

/-- What a sample says about one hub. -/
def sighting (hub : NodeId) (now_ms : Nat) (observed_links : Finset NapLink) : Sighting :=
  if ∃ link ∈ observed_links, link.hub = hub then .present
  else if ∃ link ∈ observed_links, link.client = hub then .withdrawn
  else .absent now_ms

variable {observed_links : Finset NapLink}

variable {self next : HubLossTracker} {now_ms : Nat} {lost : Finset NodeId}

/-- The three loops of an accepted sample take one step of the watch of each
hub. -/
theorem observe_tracks {interval : Nat} {last_sample : Option Nat}
    (h : self.observe now_ms observed_links = (.ok lost, next)) {hub : NodeId} {watch : Watch}
    (htracks : Tracks interval last_sample self hub watch) :
    Tracks interval (some now_ms) next hub (step interval watch (sighting hub now_ms observed_links)) := by
  unfold observe at h
  split at h
  · cases h
  rename_i active clients hcheck
  obtain ⟨-, hactive, hclients⟩ := check_sample_eq_ok hcheck
  cases h
  have hstart : Tracks interval (some now_ms) { self with last_sample_ms := some now_ms } hub watch :=
    ⟨htracks.interval_eq, rfl, htracks.watched⟩
  have hsighting : sighting hub now_ms observed_links =
      if hub ∈ active then .present else if hub ∈ clients then .withdrawn else .absent now_ms := by
    simp only [sighting, hactive, hclients]
  rw [hsighting]
  generalize hseen : (ascending active).foldl note_active { self with last_sample_ms := some now_ms } = seen
  by_cases hhosts : hub ∈ active
  · -- the later loops run over hubs that are not active
    rw [if_pos hhosts]
    have hpresent : Tracks interval (some now_ms) seen hub .present := by
      rw [← hseen]
      exact sweep_of_mem (Tracks interval (some now_ms)) (fun _ => .present) note_active_self note_active_other
        (ascending_nodup _)
        (mem_ascending.mpr hhosts) hstart
    refine sweep_of_notMem (note_absent_other now_ms) (by simp [hhosts]) ?_
    exact sweep_of_notMem forget_hub_other (by simp [hhosts]) hpresent
  · rw [if_neg hhosts]
    have hsame : Tracks interval (some now_ms) seen hub watch := by
      rw [← hseen]
      exact sweep_of_notMem note_active_other (by simpa using hhosts) hstart
    by_cases hjoins : hub ∈ clients
    · rw [if_pos hjoins]
      generalize hkept : ((ascending (seen.seen_hubs \ active)).filter (· ∈ clients)).foldl forget_hub seen = kept
      have hidle : Tracks interval (some now_ms) kept hub .idle := by
        rw [← hkept]
        by_cases htracked : hub ∈ seen.seen_hubs
        · exact sweep_of_mem (Tracks interval (some now_ms)) (fun _ => .idle) forget_hub_self
            forget_hub_other ((ascending_nodup _).filter _) (by simp [htracked, hhosts, hjoins]) hsame
        · have hnot : watch = .idle := not_not.mp (hsame.watched.mem_seen_iff.not.mp htracked)
          rw [hnot] at hsame
          exact sweep_of_notMem forget_hub_other (by simp [htracked]) hsame
      have hgone : hub ∉ kept.seen_hubs := hidle.watched.1
      exact sweep_of_notMem (note_absent_other now_ms) (by simp [hgone]) hidle
    · rw [if_neg hjoins]
      generalize hkept : ((ascending (seen.seen_hubs \ active)).filter (· ∈ clients)).foldl forget_hub seen = kept
      have hstill : Tracks interval (some now_ms) kept hub watch := by
        rw [← hkept]
        exact sweep_of_notMem forget_hub_other (by simp [hjoins]) hsame
      by_cases htracked : watch = .idle
      · have hgone : hub ∉ kept.seen_hubs := by
          rw [hstill.watched.mem_seen_iff, not_not]
          exact htracked
        subst htracked
        exact sweep_of_notMem (note_absent_other now_ms) (by simp [hgone]) hstill
      · have hin : hub ∈ kept.seen_hubs := hstill.watched.mem_seen_iff.mpr htracked
        refine (sweep_of_mem (fun s key view => Tracks interval (some now_ms) s key view ∧ view ≠ .idle)
          (fun view => step interval view (.absent now_ms)) (note_absent_self now_ms) ?_ (ascending_nodup _)
            (by simp [hin, hhosts]) ⟨hstill, htracked⟩).1
        exact fun s key other view hne hview => ⟨note_absent_other now_ms s key other view hne hview.1, hview.2⟩

theorem observe_cases {answer : Result (Finset NodeId)} (h : self.observe now_ms observed_links = (answer, next)) :
    (∃ error, answer = .error error ∧ next = self) ∨ answer = .ok next.lost_hubs := by
  unfold observe at h
  split at h
  · cases h
    exact .inl ⟨_, rfl, rfl⟩
  · cases h
    exact .inr rfl

theorem note_absent_last_sample (now_ms : Nat) (self : HubLossTracker) (hub : NodeId) :
    (self.note_absent now_ms hub).last_sample_ms = self.last_sample_ms := by
  unfold note_absent
  split
  · rfl
  · split
    · split
      · rfl
      · rfl
    · rfl

/-- An accepted sample is the last one, whatever the tracker held before. -/
theorem observe_sample (h : self.observe now_ms observed_links = (.ok lost, next)) :
    next.last_sample_ms = some now_ms := by
  have hfold : ∀ (update : HubLossTracker → NodeId → HubLossTracker),
      (∀ tracker hub, (update tracker hub).last_sample_ms = tracker.last_sample_ms) →
      ∀ (hubs : List NodeId) (tracker : HubLossTracker), (hubs.foldl update tracker).last_sample_ms =
        tracker.last_sample_ms := by
    intro update hupdate hubs
    induction hubs with
    | nil => exact fun _ => rfl
    | cons hub rest ih => exact fun tracker => (ih _).trans (hupdate tracker hub)
  unfold observe at h
  split at h
  · cases h
  · cases h
    rw [hfold _ (note_absent_last_sample now_ms), hfold forget_hub fun _ _ => rfl, hfold note_active fun _ _ => rfl]

theorem observe_later (h : self.observe now_ms observed_links = (.ok lost, next)) {previous : Nat}
    (hprevious : self.last_sample_ms = some previous) : previous < now_ms := by
  unfold observe at h
  split at h
  · cases h
  · rename_i active clients hcheck
    exact (check_sample_eq_ok hcheck).1 previous hprevious

end HubLossTracker

namespace topology_loss

open Debounce HubLossTracker Runs

/-- A call on a tracker, with its result. -/
inductive TrackerLabel where
  | observe (now_ms : Nat) (observed_links : Finset NapLink) (answer : Result (Finset NodeId))
  | forget_hub (hub : NodeId)

def TrackerStep (tracker : HubLossTracker) : TrackerLabel → HubLossTracker → Prop
  | .observe now_ms observed_links answer, next => tracker.observe now_ms observed_links = (answer, next)
  | .forget_hub hub, next => next = tracker.forget_hub hub

/-- The times of the accepted samples, in order. -/
def sample_times (history : List TrackerLabel) : List Nat :=
  history.filterMap fun
    | .observe now_ms _ (.ok _) => some now_ms
    | _ => none

/-- What a call tells about one hub. -/
def told (hub : NodeId) : TrackerLabel → Option Sighting
  | .observe now_ms observed_links (.ok _) => some (sighting hub now_ms observed_links)
  | .observe _ _ (.error _) => none
  | .forget_hub other => if other = hub then some .withdrawn else none

/-- A call that neither forgets a hub nor is an accepted sample in which it
takes part. -/
def Silent (hub : NodeId) (label : TrackerLabel) : Prop :=
  label ≠ .forget_hub hub ∧ ∀ now_ms observed_links lost, label = .observe now_ms observed_links (.ok lost) →
    ∀ link ∈ observed_links, link.hub ≠ hub ∧ link.client ≠ hub

/-- A hub of an accepted sample that no later one shows, hub or client, with
the first and some other of the later ones an interval apart. -/
def ConfirmedLoss (interval : Nat) (history : List TrackerLabel) (now_ms : Nat) (hub : NodeId) : Prop :=
  ∃ before after t0 links lost, history = before ++ .observe t0 links (.ok lost) :: after ∧
    (∃ link ∈ links, link.hub = hub) ∧ (∀ label ∈ after, Silent hub label) ∧
    ∃ t1 t2, (sample_times after).head? = some t1 ∧ t2 ∈ sample_times after ∧ t0 < t1 ∧ t1 < t2 ∧ t2 ≤ now_ms ∧
      interval ≤ t2 - t1

variable {hub : NodeId} {now_ms interval : Nat}

theorem sighting_eq_absent_iff {time : Nat} {observed_links : Finset NapLink} :
    sighting hub now_ms observed_links = .absent time ↔
      now_ms = time ∧ ∀ link ∈ observed_links, link.hub ≠ hub ∧ link.client ≠ hub := by
  unfold sighting
  split
  · rename_i hhosts
    obtain ⟨link, hlink, hhub⟩ := hhosts
    exact ⟨nofun, fun h => absurd hhub (h.2 link hlink).1⟩
  · rename_i hhosts
    split
    · rename_i hjoins
      obtain ⟨link, hlink, hclient⟩ := hjoins
      exact ⟨nofun, fun h => absurd hclient (h.2 link hlink).2⟩
    · rename_i hjoins
      rw [Sighting.absent.injEq]
      constructor
      · rintro rfl
        exact ⟨rfl, fun link hlink => ⟨fun hhub => hhosts ⟨link, hlink, hhub⟩,
          fun hclient => hjoins ⟨link, hlink, hclient⟩⟩⟩
      · exact fun h => h.1

/-- Calls that tell of nothing but absences are silent about the hub. -/
theorem told_absent_iff {after : List TrackerLabel} {times : List Nat} :
    after.filterMap (told hub) = times.map .absent ↔
      (∀ label ∈ after, Silent hub label) ∧ sample_times after = times := by
  induction after generalizing times with
  | nil => simp [sample_times, eq_comm]
  | cons label rest ih =>
    rw [List.forall_mem_cons, sample_times, List.filterMap_cons, List.filterMap_cons]
    cases label with
    | forget_hub other =>
      by_cases hsame : other = hub
      · subst hsame
        simp only [told, if_pos]
        constructor
        · cases times with
          | nil => exact nofun
          | cons time times => exact nofun
        · exact fun h => absurd rfl h.1.1.1
      · have hsilent : Silent hub (.forget_hub other) := ⟨by simpa using hsame, nofun⟩
        simp only [told, if_neg hsame, hsilent, true_and]
        exact ih
    | observe now_ms observed_links answer =>
      cases answer with
      | error error =>
        have hsilent : Silent hub (.observe now_ms observed_links (.error error)) := ⟨nofun, nofun⟩
        simp only [told, hsilent, true_and]
        exact ih
      | ok lost =>
        have hsilent : Silent hub (.observe now_ms observed_links (.ok lost)) ↔
            ∀ link ∈ observed_links, link.hub ≠ hub ∧ link.client ≠ hub := by
          constructor
          · exact fun h => h.2 now_ms observed_links lost rfl
          · refine fun h => ⟨nofun, fun _ _ _ hlabel => ?_⟩
            cases hlabel
            exact h
        simp only [told, hsilent]
        cases times with
        | nil => simp
        | cons time times =>
          rw [List.map_cons, List.cons.injEq, List.cons.injEq, sighting_eq_absent_iff, ih]
          exact ⟨fun ⟨⟨htime, hlinks⟩, hrest, htimes⟩ => ⟨⟨hlinks, hrest⟩, htime, htimes⟩,
            fun ⟨⟨hlinks, hrest⟩, htime, htimes⟩ => ⟨⟨htime, hlinks⟩, hrest, htimes⟩⟩

theorem told_eq_present {label : TrackerLabel} (h : told hub label = some .present) :
    ∃ now_ms observed_links lost, label = .observe now_ms observed_links (.ok lost) ∧
      ∃ link ∈ observed_links, link.hub = hub := by
  cases label with
  | forget_hub other =>
    simp only [told] at h
    split at h
    · cases h
    · cases h
  | observe now_ms observed_links answer =>
    cases answer with
    | error error => cases h
    | ok lost =>
      refine ⟨now_ms, observed_links, lost, rfl, ?_⟩
      simp only [told, sighting, Option.some.injEq] at h
      split at h
      · assumption
      · split at h
        · cases h
        · cases h

variable {history : List TrackerLabel}

/-- In a history with ascending samples, the watch of a hub ends in a loss
exactly when the loss is confirmed. -/
theorem run_told_iff (hsorted : (sample_times history).Pairwise (· < ·))
    (hlast : ∀ time ∈ sample_times history, time ≤ now_ms) :
    Debounce.run interval (history.filterMap (told hub)) = .lost ↔ ConfirmedLoss interval history now_ms hub := by
  rw [run_eq_lost_iff]
  constructor
  · rintro ⟨before, t1, rest, hhistory, t2, ht2, hlong⟩
    obtain ⟨first, later, rfl, -, hlater⟩ := List.filterMap_eq_append_iff.mp hhistory
    obtain ⟨skipped, label, after, rfl, -, hpresent, habsent⟩ := List.filterMap_eq_cons_iff.mp hlater
    obtain ⟨t0, links, lost, rfl, hhub⟩ := told_eq_present hpresent
    obtain ⟨hsilent, htimes⟩ := told_absent_iff.mp habsent
    have hin : t2 ∈ sample_times after := by
      rw [htimes]
      exact List.mem_cons_of_mem _ ht2
    have hsplit : sample_times (first ++ (skipped ++ .observe t0 links (.ok lost) :: after)) =
        sample_times (first ++ skipped) ++ t0 :: t1 :: rest := by
      rw [← htimes]
      simp [sample_times]
    rw [hsplit] at hsorted hlast
    have htail := (List.pairwise_append.mp hsorted).2.1
    rw [List.pairwise_cons, List.pairwise_cons] at htail
    refine ⟨first ++ skipped, after, t0, links, lost, (List.append_assoc ..).symm, hhub, hsilent, t1, t2, ?_, hin,
      htail.1 t1 List.mem_cons_self, htail.2.1 t2 ht2, hlast t2 ?_, hlong⟩
    · rw [htimes]
      rfl
    · exact List.mem_append_right _ (List.mem_cons_of_mem _ (List.mem_cons_of_mem _ ht2))
  · rintro ⟨before, after, t0, links, lost, rfl, hhub, hsilent, t1, t2, hfirst, ht2, -, hlt, -, hlong⟩
    obtain ⟨rest, htimes⟩ := List.head?_eq_some_iff.mp hfirst
    refine ⟨before.filterMap (told hub), t1, rest, ?_, t2, ?_, hlong⟩
    · rw [List.filterMap_append, List.filterMap_cons, told_absent_iff.mpr ⟨hsilent, htimes⟩]
      simp only [told, sighting, if_pos hhub]
    · rw [htimes] at ht2
      exact List.mem_of_ne_of_mem (Nat.ne_of_gt hlt) ht2

/-- What the calls so far have left in the tracker. -/
structure Remembers (interval : Nat) (history : List TrackerLabel) (tracker : HubLossTracker) : Prop where
  tracks : ∀ hub, Tracks interval (sample_times history).getLast? tracker hub
    (Debounce.run interval (history.filterMap (told hub)))
  sorted : (sample_times history).Pairwise (· < ·)

/-- An accepted sample is later than all samples before it. -/
theorem Remembers.sample_lt {tracker next : HubLossTracker} {observed_links : Finset NapLink} {lost : Finset NodeId}
    (h : Remembers interval history tracker) (hobserve : tracker.observe now_ms observed_links = (.ok lost, next))
    {time : Nat} (htime : time ∈ sample_times history) : time < now_ms := by
  obtain ⟨earlier, previous, hsplit⟩ := (List.eq_nil_or_concat _).resolve_left (List.ne_nil_of_mem htime)
  rw [List.concat_eq_append] at hsplit
  have hprevious : tracker.last_sample_ms = some previous := by
    rw [(h.tracks NodeId.zero).last_eq, hsplit, List.getLast?_concat]
  have hlt := observe_later hobserve hprevious
  have hsorted := h.sorted
  rw [hsplit] at htime hsorted
  obtain hin | heq := List.mem_append.mp htime
  · have hbelow := (List.pairwise_append.mp hsorted).2.2 time hin previous (List.mem_singleton_self _)
    omega
  · obtain rfl := List.mem_singleton.mp heq
    exact hlt

theorem Remembers.step {tracker next : HubLossTracker} {label : TrackerLabel}
    (h : Remembers interval history tracker) (hstep : TrackerStep tracker label next) :
    Remembers interval (history ++ [label]) next := by
  have htold : ∀ hub, Debounce.run interval ((history ++ [label]).filterMap (told hub)) =
      ([label].filterMap (told hub)).foldl (Debounce.step interval)
        (Debounce.run interval (history.filterMap (told hub))) := by
    intro hub
    rw [List.filterMap_append, run_append]
  cases label with
  | forget_hub forgotten =>
    cases hstep
    refine ⟨fun hub => ?_, by simpa [sample_times] using h.sorted⟩
    have htimes : sample_times (history ++ [.forget_hub forgotten]) = sample_times history := by simp [sample_times]
    rw [htold, htimes]
    by_cases hsame : forgotten = hub
    · subst hsame
      simp only [List.filterMap_cons, told, if_pos]
      exact forget_hub_self _ _ _ (h.tracks forgotten)
    · simp only [List.filterMap_cons, told, if_neg hsame]
      exact forget_hub_other _ _ _ _ (Ne.symm hsame) (h.tracks hub)
  | observe now_ms observed_links answer =>
    obtain ⟨error, rfl, rfl⟩ | rfl := observe_cases hstep
    · have htimes : sample_times (history ++ [.observe now_ms observed_links (.error error)]) =
        sample_times history := by
        simp [sample_times]
      refine ⟨fun hub => ?_, by rw [htimes]; exact h.sorted⟩
      rw [htold, htimes]
      exact h.tracks hub
    · have htimes : sample_times (history ++ [.observe now_ms observed_links (.ok next.lost_hubs)]) =
          sample_times history ++ [now_ms] := by
        simp [sample_times]
      refine ⟨fun hub => ?_, ?_⟩
      · rw [htold, htimes, List.getLast?_concat]
        exact observe_tracks hstep (h.tracks hub)
      · rw [htimes, List.pairwise_append]
        refine ⟨h.sorted, List.pairwise_singleton _ _, fun time htime last hlast => ?_⟩
        obtain rfl := List.mem_singleton.mp hlast
        exact h.sample_lt hstep htime

/-- After any calls on a new tracker, an accepted sample reports exactly the
confirmed losses of its history, and a rejected one changes nothing. -/
theorem hub_loss_tracker_runs {interval : Nat} {tracker state : HubLossTracker} {history : List TrackerLabel}
    (hnew : HubLossTracker.new interval = .ok tracker) (h : Run TrackerStep tracker history state)
    (now_ms : Nat) (observed_links : Finset NapLink) :
    (∀ lost next, state.observe now_ms observed_links = (.ok lost, next) → ∀ hub, hub ∈ lost ↔
        ConfirmedLoss interval (history ++ [.observe now_ms observed_links (.ok lost)]) now_ms hub) ∧
      ∀ error next, state.observe now_ms observed_links = (.error error, next) → next = state := by
  have hinit : Remembers interval [] tracker := by
    simp only [HubLossTracker.new, bind_eq_ok_iff, reject_if_eq_ok, Except.ok.injEq] at hnew
    obtain ⟨_, _, rfl⟩ := hnew
    exact ⟨fun hub => ⟨rfl, rfl, by simp, by simp, by simp⟩, List.Pairwise.nil⟩
  have hremembers : Remembers interval history state :=
    h.history (Remembers interval) hinit fun _ _ _ _ hbefore hstep => hbefore.step hstep
  refine ⟨fun lost next hobserve hub => ?_, fun error next hobserve => ?_⟩
  · obtain ⟨error, hanswer, -⟩ | hanswer := observe_cases hobserve
    · cases hanswer
    · cases hanswer
      have hafter : Remembers interval (history ++ [.observe now_ms observed_links (.ok next.lost_hubs)]) next :=
        hremembers.step hobserve
      rw [(hafter.tracks hub).watched.mem_lost_iff]
      refine run_told_iff hafter.sorted fun time htime => ?_
      simp only [sample_times, List.filterMap_append, List.mem_append, List.filterMap_cons, List.filterMap_nil,
        List.mem_singleton] at htime
      obtain hin | heq := htime
      · exact (hremembers.sample_lt hobserve hin).le
      · exact heq.le
  · obtain ⟨_, -, hsame⟩ | hanswer := observe_cases hobserve
    · exact hsame
    · cases hanswer

namespace sample

/-- A tracker that confirms a loss after five milliseconds. -/
def tracker : HubLossTracker where
  min_absence_ms := 5
  last_sample_ms := none
  seen_hubs := ∅
  missing_since := ∅
  lost_hubs := ∅

def star : Finset NapLink := { ⟨blueroute.sample.node 1, blueroute.sample.node 2⟩ }

def shown : HubLossTracker := (tracker.observe 1 star).2

def missed : HubLossTracker := (shown.observe 2 ∅).2

end sample

/-- A hub is seen once and missing from the two samples after it. -/
theorem hub_loss_tracker_runs_sample :
    ConfirmedLoss 5
      [.observe 1 sample.star (sample.tracker.observe 1 sample.star).1, .observe 2 ∅ (sample.shown.observe 2 ∅).1,
        .observe 8 ∅ (.ok { blueroute.sample.node 1 })] 8 (blueroute.sample.node 1) := by
  have hlost : sample.missed.observe 8 ∅ = (.ok { blueroute.sample.node 1 }, (sample.missed.observe 8 ∅).2) :=
    Prod.ext (by decide +kernel) rfl
  have hrun : Run TrackerStep sample.tracker
      [.observe 1 sample.star (sample.tracker.observe 1 sample.star).1, .observe 2 ∅ (sample.shown.observe 2 ∅).1]
      sample.missed := .cons rfl (.cons rfl .nil)
  exact ((hub_loss_tracker_runs (rfl : HubLossTracker.new 5 = .ok sample.tracker) hrun 8 ∅).1 _ _ hlost _).mp
    (Finset.mem_singleton_self _)

end topology_loss

end blueroute
