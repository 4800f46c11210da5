import BlueRoute.Core.TopologyPlan.Model

open Fallible Ordered

namespace blueroute

/-- Tracks hubs that were actually observed. -/
structure HubLossTracker where
  min_absence_ms : Nat
  last_sample_ms : Option Nat
  seen_hubs : Finset NodeId
  missing_since : Map NodeId Nat
  lost_hubs : Finset NodeId

namespace HubLossTracker

def new (min_absence_ms : Nat) : Result HubLossTracker := do
  reject_if (min_absence_ms = 0) (.new .InvalidInput "hub-loss confirmation interval must be positive")
  .ok { min_absence_ms, last_sample_ms := none, seen_hubs := ∅, missing_since := ∅, lost_hubs := ∅ }

variable (self : HubLossTracker)

/-- Stop tracking an intentionally removed hub. -/
def forget_hub (hub : NodeId) : HubLossTracker :=
  { self with seen_hubs := self.seen_hubs.erase hub, missing_since := self.missing_since.erase hub
              lost_hubs := self.lost_hubs.erase hub }

/-- One iteration over the observed links: the hubs and the clients so far. -/
def observe_link (state : Finset NodeId × Finset NodeId) (link : NapLink) : Result (Finset NodeId × Finset NodeId) := do
  reject_if (link.hub = NodeId.zero ∨ link.client = NodeId.zero ∨ link.hub = link.client ∨ link.client ∈ state.2)
    (.new .InvalidInput "invalid or conflicting observed PAN links")
  .ok (insert link.hub state.1, insert link.client state.2)

/-- The checks on a sample, before anything is changed. -/
def check_sample (now_ms : Nat) (observed_links : Finset NapLink) : Result (Finset NodeId × Finset NodeId) := do
  reject_if (self.last_sample_ms.any (fun previous => now_ms ≤ previous) = true)
    (.new .InvalidState "stale or regressed hub-loss observation timestamp")
  (ascending observed_links).foldlM observe_link (∅, ∅)

/-- The loop body for a hub of the sample. -/
def note_active (hub : NodeId) : HubLossTracker :=
  { self with seen_hubs := insert hub self.seen_hubs, missing_since := self.missing_since.erase hub
              lost_hubs := self.lost_hubs.erase hub }

/-- The loop body for a tracked hub that the sample lacks. -/
def note_absent (now_ms : Nat) (self : HubLossTracker) (hub : NodeId) : HubLossTracker :=
  if hub ∈ self.lost_hubs then self
  else
    match self.missing_since[hub]? with
    | some since =>
      if now_ms - since ≥ self.min_absence_ms then
        { self with lost_hubs := insert hub self.lost_hubs, missing_since := self.missing_since.erase hub }
      else self
    | none => { self with missing_since := self.missing_since.insert hub now_ms }

/-- Consume a fresh snapshot of observed links. The result is the set of
currently confirmed lost hubs. -/
def observe (now_ms : Nat) (observed_links : Finset NapLink) : Result (Finset NodeId) × HubLossTracker :=
  match self.check_sample now_ms observed_links with
  | .error e => (.error e, self)
  | .ok (active, clients) =>
    let self := { self with last_sample_ms := some now_ms }
    let self := (ascending active).foldl note_active self
    let demoted := (ascending (self.seen_hubs \ active)).filter (· ∈ clients)
    let self := demoted.foldl forget_hub self
    let self := (ascending (self.seen_hubs \ active)).foldl (note_absent now_ms) self
    (.ok self.lost_hubs, self)

/-- The hubs and the clients of a sample. -/
theorem observe_links_eq_ok {links : List NapLink} {state final : Finset NodeId × Finset NodeId}
    (h : links.foldlM observe_link state = .ok final) :
    final = (state.1 ∪ (links.map NapLink.hub).toFinset, state.2 ∪ (links.map NapLink.client).toFinset) := by
  induction links generalizing state with
  | nil =>
    cases h
    simp
  | cons link rest ih =>
    obtain ⟨middle, hlink, hrest⟩ := foldlM_cons_eq_ok_iff.mp h
    simp only [observe_link, bind_eq_ok_iff, reject_if_eq_ok, Except.ok.injEq] at hlink
    obtain ⟨_, _, rfl⟩ := hlink
    rw [ih hrest]
    simp [Finset.insert_union, Finset.union_insert]

/-- An accepted sample is later than the last one. -/
theorem check_sample_eq_ok {self : HubLossTracker} {now_ms : Nat} {observed_links : Finset NapLink}
    {active clients : Finset NodeId} (h : self.check_sample now_ms observed_links = .ok (active, clients)) :
    (∀ previous, self.last_sample_ms = some previous → previous < now_ms) ∧
      (∀ hub, hub ∈ active ↔ ∃ link ∈ observed_links, link.hub = hub) ∧
      ∀ client, client ∈ clients ↔ ∃ link ∈ observed_links, link.client = client := by
  simp only [check_sample, bind_eq_ok_iff, reject_if_eq_ok] at h
  obtain ⟨_, hlater, hlinks⟩ := h
  have hfinal := observe_links_eq_ok hlinks
  rw [Prod.mk.injEq] at hfinal
  obtain ⟨rfl, rfl⟩ := hfinal
  refine ⟨fun previous hprevious => ?_, fun hub => ?_, fun client => ?_⟩
  · rw [hprevious] at hlater
    simpa using hlater
  · simp
  · simp

end HubLossTracker

end blueroute
