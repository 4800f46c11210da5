import BlueRoute.Core.TopologyPlan.Exactness

open Fallible Ordered

namespace blueroute.topology_plan

open topology_executor

variable {plan : NapSelection}

/-- Every client of a well-shaped plan has one hub. -/
theorem WellShaped.links_single (h : WellShaped plan) : SingleAttachment (links plan) := by
  intro left hleft right hright heq
  obtain ⟨leftStar, hleftStar, hleftHub, hleftClient⟩ := mem_links.mp hleft
  obtain ⟨rightStar, hrightStar, hrightHub, hrightClient⟩ := mem_links.mp hright
  have hpairwise := (List.nodup_flatMap.mp h.clients_nodup).2
  have hsymm : Std.Symm (Function.onFun List.Disjoint NapAssignment.clients) := ⟨fun _ _ hd => hd.symm⟩
  have hstar : leftStar = rightStar := by
    by_contra hne
    have hdisjoint := hpairwise.forall hleftStar hrightStar hne
    exact hdisjoint hleftClient (heq ▸ hrightClient)
  have hhub : left.hub = right.hub := by rw [← hleftHub, ← hrightHub, hstar]
  cases left
  cases right
  simp_all

theorem WellShaped.links_no_self (h : WellShaped plan) {link : NapLink} (hlink : link ∈ links plan) :
    link.hub ≠ link.client := by
  obtain ⟨star, hstar, hhub, hclient⟩ := mem_links.mp hlink
  intro heq
  exact h.no_self star hstar (by rw [hhub, heq]; exact hclient)

variable {inputs : TopologyPolicyInputs}

/-- The hub checks bound the star by the ceiling that the loop consults. -/
theorem check_desired_hub_room {star : NapAssignment} (h : check_desired_hub inputs star = .ok ()) :
    star.clients.length ≤ capacity inputs star.hub := by
  simp only [check_desired_hub, bind_eq_ok_iff, ok_or_eq_ok, reject_if_eq_ok] at h
  obtain ⟨hub, hhub, _, _, ceiling, hceiling, hlength⟩ := h
  simp only [capacity, hhub, Option.bind_some, hceiling, Option.getD_some]
  omega

/-- The slots of a hub that its star takes. -/
theorem WellShaped.occupied_eq (h : WellShaped plan) {star : NapAssignment} (hstar : star ∈ plan.stars) :
    occupied (links plan) star.hub = star.clients.length := by
  have heq : (links plan).filter (fun old => old.hub = star.hub) =
      (star.clients.map fun client => ({ hub := star.hub, client } : NapLink)).toFinset := by
    ext link
    rw [Finset.mem_filter, mem_links, List.mem_toFinset, List.mem_map]
    constructor
    · rintro ⟨⟨source, hsource, hsourceHub, hclient⟩, hhub⟩
      have hsame : source = star := List.inj_on_of_nodup_map h.hubs_nodup hsource hstar (hsourceHub.trans hhub)
      exact ⟨link.client, hsame ▸ hclient, by rw [← hhub]⟩
    · rintro ⟨client, hclient, rfl⟩
      exact ⟨⟨star, hstar, rfl, hclient⟩, rfl⟩
  have hnodup : star.clients.Nodup := (List.nodup_flatMap.mp h.clients_nodup).1 star hstar
  rw [occupied, heq, List.toFinset_card_of_nodup, List.length_map]
  exact hnodup.map fun left right hsame => (NapLink.mk.inj hsame).2

theorem Desirable.room (hshape : WellShaped plan) (h : Desirable inputs plan) (hub : NodeId) :
    occupied (links plan) hub ≤ capacity inputs hub := by
  by_cases hhosts : ∃ star ∈ plan.stars, star.hub = hub
  · obtain ⟨star, hstar, rfl⟩ := hhosts
    rw [hshape.occupied_eq hstar]
    exact check_desired_hub_room (h.hub_ok star hstar)
  · have hempty : (links plan).filter (fun old => old.hub = hub) = ∅ := by
      rw [Finset.filter_eq_empty_iff]
      intro link hlink hhub
      obtain ⟨star, hstar, hstarHub, _⟩ := mem_links.mp hlink
      exact hhosts ⟨star, hstar, hstarHub.trans hhub⟩
    simp [occupied, hempty]

theorem Desirable.feasible (hshape : WellShaped plan) (h : Desirable inputs plan) : Feasible inputs (links plan) :=
  ⟨hshape.links_single, h.room hshape⟩

/-- The loop state after one more step of the plan. -/
def DiffState.advance (target : Finset NapLink) (state : DiffState) : NapPlanStep → DiffState
  | .Connect link => state.connect link
  | .Disconnect old => state.disconnect target old

theorem advance_current (target : Finset NapLink) (state : DiffState) (step : NapPlanStep) :
    (state.advance target step).current = step.apply state.current := by
  cases step <;> rfl

theorem advance_steps (target : Finset NapLink) (state : DiffState) (step : NapPlanStep) :
    (state.advance target step).result.steps = state.result.steps ++ [step] := by
  cases step <;> rfl

variable {target : Finset NapLink}

variable {state next : DiffState}

/-- The pending links stay the missing part of the target. -/
theorem advance_pending {step : NapPlanStep} (hpending : state.pending = target \ state.current)
    (h : Permitted inputs target state.current step) :
    (state.advance target step).pending = target \ (state.advance target step).current := by
  cases step with
  | Connect link =>
    change state.pending.erase link = target \ insert link state.current
    rw [hpending]
    ext other
    simp only [Finset.mem_erase, Finset.mem_sdiff, Finset.mem_insert]
    tauto
  | Disconnect old =>
    change state.pending = target \ state.current.erase old
    rw [hpending]
    ext other
    have hne : other ∈ target → other ≠ old := fun hmem heq => h.2 (heq ▸ hmem)
    simp only [Finset.mem_sdiff, Finset.mem_erase]
    tauto

/-- Inversion of one iteration: it takes the planner's next step. -/
theorem reconcile_eq_some (hpending : state.pending = target \ state.current)
    (h : reconcile inputs target state = .ok (some next)) :
    ∃ step, next_step inputs target state.current = some step ∧ next = state.advance target step := by
  unfold reconcile at h
  rw [hpending] at h
  split at h
  · cases h
  · rename_i hnonempty
    unfold next_step
    rw [if_neg hnonempty]
    cases hready : first (ready inputs state.current) (target \ state.current) with
    | some link =>
      rw [hready] at h
      cases h
      exact ⟨.Connect link, rfl, rfl⟩
    | none =>
      rw [hready] at h
      cases hblocked : (ascending (target \ state.current)).findSome? (obstacle state.current target) with
      | some old =>
        simp only [hblocked] at h
        cases h
        exact ⟨.Disconnect old, rfl, rfl⟩
      | none => simp [hblocked] at h

theorem reconcile_eq_none (h : reconcile inputs target state = .ok none) : state.pending = ∅ := by
  unfold reconcile at h
  split at h
  · assumption
  · split at h
    · cases h
    · split at h <;> cases h

/-- The error branch of the loop is unreachable for a feasible target. -/
theorem reconcile_ne_error (hfeasible : Feasible inputs target) (hpending : state.pending = target \ state.current)
    (e : CoreError) : reconcile inputs target state ≠ .error e := by
  unfold reconcile
  rw [hpending]
  split
  · simp
  · rename_i hnonempty
    split
    · simp
    · rename_i hready
      obtain ⟨old, hold⟩ := exists_blocked hfeasible hnonempty hready
      simp [hold]

/-- The invariant of the loop. -/
structure Reconciling (target : Finset NapLink) (state : DiffState) : Prop where
  pending : state.pending = target \ state.current
  single : SingleAttachment state.current

theorem Reconciling.step (hinv : Reconciling target state) (h : reconcile inputs target state = .ok (some next)) :
    Reconciling target next := by
  obtain ⟨step, hnext, rfl⟩ := reconcile_eq_some hinv.pending h
  have hpermitted := next_step_permitted hnext
  refine ⟨advance_pending hinv.pending hpermitted, ?_⟩
  rw [advance_current]
  exact hpermitted.single hinv.single

theorem Reconciling.rank_lt (hinv : Reconciling target state) (h : reconcile inputs target state = .ok (some next)) :
    next.rank target < state.rank target := by
  obtain ⟨step, hnext, rfl⟩ := reconcile_eq_some hinv.pending h
  cases step with
  | Connect link =>
    obtain ⟨htarget, hmissing, _, _⟩ := next_step_permitted hnext
    have hobsolete : insert link state.current \ target = state.current \ target :=
      Finset.insert_sdiff_of_mem state.current htarget
    have hmem : link ∈ state.pending := by
      rw [hinv.pending]
      exact Finset.mem_sdiff.mpr ⟨htarget, hmissing⟩
    have hcard := Finset.card_erase_lt_of_mem hmem
    simp only [DiffState.rank, DiffState.advance, DiffState.connect, hobsolete]
    omega
  | Disconnect old =>
    obtain ⟨hpresent, hobsolete⟩ := next_step_permitted hnext
    have hless : (state.current.erase old \ target).card < (state.current \ target).card := by
      rw [Finset.erase_sdiff_comm]
      exact Finset.card_erase_lt_of_mem (Finset.mem_sdiff.mpr ⟨hpresent, hobsolete⟩)
    simp only [DiffState.rank, DiffState.advance, DiffState.disconnect]
    omega

end blueroute.topology_plan
