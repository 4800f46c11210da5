import BlueRoute.Core.TopologyRecovery.Plan

open Fallible Ordered

namespace blueroute.topology_recovery

open topology_executor topology_plan topology_policy topology_recovery_flow TopologyPolicyInputs sample

/-- A plan has no steps exactly between equal topologies. -/
theorem steps_eq_nil_iff {inputs : TopologyPolicyInputs} {active desired : NapSelection} {diff : NapPlanDiff}
    (h : diff_nap_topology inputs active desired = .ok diff) : diff.steps = [] ↔ links active = links desired := by
  obtain ⟨_, _, hdesired, hdesirable, _⟩ := diff_nap_topology_eq_ok_iff.mp h
  have hfollows := diff_nap_topology_follows h
  constructor
  · intro hnil
    have hfinal := hfollows.replay_eq (hdesirable.feasible hdesired)
    rwa [hnil, replay_nil] at hfinal
  · intro heq
    refine hfollows.unique (.done ?_)
    simp [next_step, heq, ascending_eq_sort]

/-- The next notification of a confirmed loss always gets a plan. It leaves a
completed recovery alone exactly when the recovered stars are settled: in some
order, each hub takes its own clients and outranks the hubs after it without
regard to incumbency. -/
theorem plan_hub_loss_recovery_fixed_iff {inputs : TopologyPolicyInputs} {observed_links : Finset NapLink}
    {lost_hubs : Finset NodeId} {plan : HubLossRecoveryPlan}
    (h : plan_hub_loss_recovery inputs observed_links lost_hubs = .ok plan) :
    ∃ again, plan_hub_loss_recovery inputs (links plan.desired) lost_hubs = .ok again ∧
      (again.transition.steps = [] ↔
        Settled (available inputs (links plan.desired) lost_hubs) (links plan.desired)) := by
  obtain ⟨hvalid, hnonempty, hlost, _, stars, _, hgreedy, _, rfl⟩ := plan_hub_loss_recovery_eq_ok_iff.mp h
  have hconsistent := selection_consistent hgreedy hvalid hlost
  obtain ⟨plan, hplan⟩ := exists_plan hvalid hnonempty hlost hconsistent
  obtain ⟨_, _, _, _, again, _, hagain, hdiff, rfl⟩ := plan_hub_loss_recovery_eq_ok_iff.mp hplan
  have hnonemptyStars : ∀ star ∈ stars, star.clients ≠ [] := by
    intro star hstar
    obtain ⟨_, _, hcapable⟩ := star_capable hgreedy hstar
    exact hcapable.nonempty
  refine ⟨_, hplan, ?_⟩
  rw [steps_eq_nil_iff hdiff, links_observed_selection, eq_comm]
  exact reselects_iff_settled (available_reseated _ _ _ _) hgreedy (available_seats hnonemptyStars) hagain

/-- Two hubs with one slot each, two clients and a lost node: the incumbent keeps client 3 and the other hub takes
client 4. -/
def sample_plan (incumbent other : UInt8) : HubLossRecoveryPlan where
  desired := selection [(incumbent, [3]), (other, [4])] [5]
  transition := { steps := [.Connect ⟨node other, node 4⟩], reconnect_interruptions := ∅ }
  unavailable := { node 5 }

/-- Hub 1 chooses first once both are incumbents: what it has is settled, what hub 2 has is not. -/
theorem plan_hub_loss_recovery_fixed_iff_sample :
    let settled (plan : HubLossRecoveryPlan) := Settled (available (inputs [1, 2] [1, 2, 3, 4, 5])
      (links plan.desired) { node 5 }) (links plan.desired)
    settled (sample_plan 1 2) ∧ ¬ settled (sample_plan 2 1) := by
  constructor
  · obtain ⟨again, hagain, hiff⟩ := plan_hub_loss_recovery_fixed_iff
      (by decide +kernel : plan_hub_loss_recovery (inputs [1, 2] [1, 2, 3, 4, 5])
        { ⟨node 1, node 3⟩ } { node 5 } = .ok (sample_plan 1 2))
    obtain rfl : { sample_plan 1 2 with transition := ⟨[], ∅⟩ } = again :=
      Except.ok.inj (.trans (by decide +kernel) hagain)
    exact hiff.mp rfl
  · obtain ⟨again, hagain, hiff⟩ := plan_hub_loss_recovery_fixed_iff
      (by decide +kernel : plan_hub_loss_recovery (inputs [1, 2] [1, 2, 3, 4, 5])
        { ⟨node 2, node 3⟩ } { node 5 } = .ok (sample_plan 2 1))
    obtain rfl : sample_swap = again := Except.ok.inj (.trans (by decide +kernel) hagain)
    exact fun hsettled => List.cons_ne_nil _ _ (hiff.mpr hsettled)

/-- The next notification of the same loss swaps the clients of the two hubs. -/
theorem plan_hub_loss_recovery_swaps_clients :
    ∃ plan again, plan_hub_loss_recovery (inputs [1, 2] [1, 2, 3, 4, 5])
        { ⟨node 2, node 3⟩ } { node 5 } = .ok plan ∧
      plan_hub_loss_recovery (inputs [1, 2] [1, 2, 3, 4, 5]) (links plan.desired) { node 5 } = .ok again ∧
      again.transition.steps ≠ [] := by
  refine ⟨sample_plan 2 1, sample_swap, ?_, ?_, ?_⟩
  · decide +kernel
  · decide +kernel
  · simp [sample_swap]

end blueroute.topology_recovery
