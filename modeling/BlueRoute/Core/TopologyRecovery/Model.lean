import BlueRoute.Core.TopologyPlan.Resume
import BlueRoute.Core.TopologyPolicy.Select

open Fallible Ordered

namespace blueroute

structure HubLossRecoveryPlan where
  desired : NapSelection
  transition : NapPlanDiff
  unavailable : Finset NodeId
deriving DecidableEq

namespace topology_recovery

open topology_plan topology_policy topology_recovery_flow

def invalid (message : String) : CoreError := CoreError.new .InvalidInput message

variable (inputs : TopologyPolicyInputs)

/-- One iteration over the observed links: the stars so far and the clients
that are attached. -/
def observe_link (lost_hubs : Finset NodeId) (state : Map NodeId (List NodeId) × Finset NodeId) (link : NapLink) :
    Result (Map NodeId (List NodeId) × Finset NodeId) := do
  reject_if (link.hub = link.client ∨ link.hub ∉ inputs.candidates ∨ link.client ∉ inputs.candidates ∨
      link.hub ∈ lost_hubs ∨ link.client ∈ lost_hubs ∨ link.client ∈ state.2)
    (invalid "stale, unknown or conflicting PAN observations")
  .ok (group_link state.1 link, insert link.client state.2)

/-- The inputs without the failed nodes and every edge to them, with the hubs
of the observed links as incumbents. -/
def available (observed_links : Finset NapLink) (lost_hubs : Finset NodeId) : TopologyPolicyInputs where
  candidates := (inputs.candidates.filter fun id _ => id ∉ lost_hubs).map fun id candidate =>
    { candidate with
      neighbors := candidate.neighbors.filter fun peer _ => peer ∉ lost_hubs
      currently_hosting := decide (∃ link ∈ observed_links, link.hub = id) }

/-- Propose recovery after independently observed NAP loss. -/
def plan_hub_loss_recovery (observed_links : Finset NapLink) (lost_hubs : Finset NodeId) :
    Result HubLossRecoveryPlan := do
  inputs.validate
  reject_if (lost_hubs = ∅ ∨ ¬ lost_hubs ⊆ known inputs) (invalid "hub loss requires known failed node identities")
  let (active_stars, _) ← (ascending observed_links).foldlM (observe_link inputs lost_hubs) (∅, ∅)
  let active : NapSelection :=
    { stars := active_stars.toList.map fun entry => { hub := entry.1, clients := entry.2 }, unserved := ∅ }
  let selected ← select_nap_hubs (available inputs observed_links lost_hubs)
  let desired := { selected with unserved := selected.unserved ∪ lost_hubs }
  let transition ← diff_nap_topology inputs active desired
  .ok { desired, transition, unavailable := desired.unserved }

end topology_recovery

end blueroute
