import BlueRoute.Core.TopologyPlan.Trajectory

open Fallible Ordered

namespace blueroute.topology_plan

open topology_executor

/-- A target that the planner can always reach: no client twice, no hub above
its ceiling. -/
structure Feasible (inputs : TopologyPolicyInputs) (target : Finset NapLink) : Prop where
  single : SingleAttachment target
  room : ∀ hub, occupied target hub ≤ capacity inputs hub

variable {target current : Finset NapLink} {inputs : TopologyPolicyInputs}

/-- A missing link that cannot be connected yet is always blocked by a link
that the target does not keep. -/
theorem exists_obstacle (hfeasible : Feasible inputs target) {link : NapLink} (htarget : link ∈ target)
    (hmissing : link ∉ current) (hready : ready inputs current link = false) :
    ∃ old, obstacle current target link = some old := by
  rw [← Option.isSome_iff_exists, Option.isSome_iff_ne_none]
  intro hnone
  simp only [obstacle, Option.or_eq_none_iff, first_eq_none, Finset.mem_sdiff, decide_eq_false_iff_not] at hnone
  obtain ⟨hclients, hhubs⟩ := hnone
  have hfree : ¬ ∃ old ∈ current, old.client = link.client := by
    rintro ⟨old, hold, hclient⟩
    by_cases hkept : old ∈ target
    · exact hmissing (hfeasible.single old hkept link htarget hclient ▸ hold)
    · exact hclients old ⟨hold, hkept⟩ hclient
  have hfull : capacity inputs link.hub ≤ occupied current link.hub := by
    simpa [ready, hfree] using hready
  have hless : occupied current link.hub < occupied target link.hub := by
    apply Finset.card_lt_card
    refine Finset.ssubset_iff_subset_ne.mpr ⟨?_, ?_⟩
    · intro old hold
      obtain ⟨hold, hhub⟩ := Finset.mem_filter.mp hold
      by_contra hnot
      exact hhubs old ⟨hold, fun hkept => hnot (Finset.mem_filter.mpr ⟨hkept, hhub⟩)⟩ hhub
    · intro heq
      have hin : link ∈ target.filter fun old => old.hub = link.hub := Finset.mem_filter.mpr ⟨htarget, rfl⟩
      exact hmissing (Finset.mem_filter.mp (heq ▸ hin)).1
  have hroom := hfeasible.room link.hub
  omega

theorem exists_missing (h : target \ current ≠ ∅) : ∃ link, link ∈ target ∧ link ∉ current := by
  obtain ⟨link, hlink⟩ := Finset.nonempty_iff_ne_empty.mpr h
  exact ⟨link, Finset.mem_sdiff.mp hlink⟩

/-- The search over the blocked links finds something to retire. -/
theorem exists_blocked (hfeasible : Feasible inputs target) (hpending : target \ current ≠ ∅)
    (hready : first (ready inputs current) (target \ current) = none) :
    ∃ old, (ascending (target \ current)).findSome? (obstacle current target) = some old := by
  rw [← Option.isSome_iff_exists, Option.isSome_iff_ne_none]
  intro hnone
  obtain ⟨link, htarget, hmissing⟩ := exists_missing hpending
  have hmem : link ∈ target \ current := Finset.mem_sdiff.mpr ⟨htarget, hmissing⟩
  obtain ⟨old, hold⟩ := exists_obstacle hfeasible htarget hmissing (first_eq_none.mp hready link hmem)
  have hno := List.findSome?_eq_none_iff.mp hnone link (mem_ascending.mpr hmem)
  rw [hold] at hno
  cases hno

/-- The planner has no step left exactly at its target. -/
theorem next_step_eq_none (hfeasible : Feasible inputs target) (h : next_step inputs target current = none) :
    current = target := by
  unfold next_step at h
  split at h
  · rename_i hpending
    have hobsolete : current \ target = ∅ := by
      rw [Option.map_eq_none_iff, List.head?_eq_none_iff] at h
      rw [← Finset.card_eq_zero, ← length_ascending, h, List.length_nil]
    exact Finset.Subset.antisymm (Finset.sdiff_eq_empty_iff_subset.mp hobsolete)
      (Finset.sdiff_eq_empty_iff_subset.mp hpending)
  · rename_i hpending
    split at h
    · cases h
    · rename_i hready
      obtain ⟨old, hold⟩ := exists_blocked hfeasible hpending hready
      rw [hold] at h
      cases h

/-- Every step of a run is permitted where it is taken, and its client is
never attached twice afterwards. -/
theorem Follows.permitted {before after : List NapPlanStep} {step : NapPlanStep}
    (h : Follows inputs target current (before ++ step :: after)) :
    Permitted inputs target (replay current before) step := by
  have hrest := h.resume
  cases hrest with
  | step hnext _ => exact next_step_permitted hnext

theorem Follows.single {before after : List NapPlanStep} (h : Follows inputs target current (before ++ after))
    (hsingle : SingleAttachment current) : SingleAttachment (replay current before) := by
  induction before generalizing current with
  | nil => exact hsingle
  | cons step rest ih =>
    cases h with
    | step hnext hrest => exact ih hrest ((next_step_permitted hnext).single hsingle)

variable {steps : List NapPlanStep}

theorem Follows.replay_eq (hfeasible : Feasible inputs target) (h : Follows inputs target current steps) :
    replay current steps = target := by
  induction h with
  | done hnext => exact next_step_eq_none hfeasible hnext
  | step _ _ ih => exact ih

/-- What leads from one topology to another. -/
def Due (target current : Finset NapLink) : NapPlanStep → Prop
  | .Connect link => link ∈ target ∧ link ∉ current
  | .Disconnect link => link ∈ current ∧ link ∉ target

/-- A permitted step is due until it is taken, and what else is due stays so. -/
theorem Permitted.due_iff {step : NapPlanStep} (h : Permitted inputs target current step) (other : NapPlanStep) :
    Due target (step.apply current) other ↔ Due target current other ∧ other ≠ step := by
  cases step with
  | Connect new =>
    have htarget : new ∈ target := h.1
    cases other <;> grind [Due, NapPlanStep.apply]
  | Disconnect old =>
    have hobsolete : old ∉ target := h.2
    cases other <;> grind [Due, NapPlanStep.apply]

theorem Permitted.due {step : NapPlanStep} (h : Permitted inputs target current step) : Due target current step := by
  cases step with
  | Connect new => exact ⟨h.1, h.2.1⟩
  | Disconnect old => exact h

/-- A run takes every step that is due exactly once and no other. -/
theorem Follows.exact (hfeasible : Feasible inputs target) (h : Follows inputs target current steps) :
    steps.Nodup ∧ ∀ step, step ∈ steps ↔ Due target current step := by
  induction h with
  | done hnext =>
    rw [next_step_eq_none hfeasible hnext]
    exact ⟨.nil, fun step => by cases step <;> simp [Due]⟩
  | @step current step rest hnext _ ih =>
    have hpermitted := next_step_permitted hnext
    refine ⟨List.nodup_cons.mpr ⟨fun hmem => ?_, ih.1⟩, fun other => ?_⟩
    · exact ((hpermitted.due_iff step).mp ((ih.2 step).mp hmem)).2 rfl
    · rw [List.mem_cons, ih.2, hpermitted.due_iff]
      by_cases heq : other = step
      · simp [heq, hpermitted.due]
      · simp [heq]

end blueroute.topology_plan
