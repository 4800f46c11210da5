import BlueRoute.Core.TopologyExecutor.Model
import BlueRoute.Core.TopologyLoss
import BlueRoute.Core.TopologyRecovery.Model
import BlueRoute.Core.TopologyStability

open Fallible

namespace blueroute

structure HubLossRecoveryExecution where
  confirmed_lost : Finset NodeId
  plan : HubLossRecoveryPlan
  execution : NapExecutionReport

/-- Retry state for confirmed hub-loss recovery. -/
structure HubRecoveryRetryState where
  policy : TopologyStabilityPolicy
  consecutive_failures : Nat
  last_failure_ms : Option Nat

namespace HubRecoveryRetryState

open topology_stability

/-- A confirmed missing hub is not a viable current path: only the backoff
gates the next attempt. -/
def is_due (self : HubRecoveryRetryState) (now_ms : Nat) : Result Bool := do
  let decision ← decide_topology_change self.policy
    { now_ms, last_change_ms := 0, current_viable := false, proposed_viable := true, current_cost := 0
      proposed_cost := 0, consecutive_failures := self.consecutive_failures, last_failure_ms := self.last_failure_ms }
  .ok (decide (decision = .Apply))

/-- The policy is validated even when no loss exists. -/
def new (policy : TopologyStabilityPolicy) : Result HubRecoveryRetryState := do
  let state : HubRecoveryRetryState := { policy, consecutive_failures := 0, last_failure_ms := none }
  let _ ← state.is_due 0
  .ok state

def u32_saturating_add (left right : Nat) : Nat := min (left + right) (2 ^ 32 - 1)

def failed (self : HubRecoveryRetryState) (now_ms : Nat) : HubRecoveryRetryState :=
  { self with consecutive_failures := u32_saturating_add self.consecutive_failures 1, last_failure_ms := some now_ms }

def reset (self : HubRecoveryRetryState) : HubRecoveryRetryState :=
  { self with consecutive_failures := 0, last_failure_ms := none }

end HubRecoveryRetryState

namespace topology_recovery_flow

open topology_executor topology_recovery

variable {σ : Type}

/-- A confirmed loss is only executed against the observation it was confirmed
with. -/
def recover_from_observation (inputs : TopologyPolicyInputs) (observed : Finset NapLink)
    (confirmed_lost : Finset NodeId) (operator : NapTopologyOperator σ) (s : σ) :
    Result HubLossRecoveryExecution × σ :=
  match plan_hub_loss_recovery inputs observed confirmed_lost with
  | .error e => (.error e, s)
  | .ok plan =>
    match operator.observe_links s with
    | (.error e, s) => (.error e, s)
    | (.ok current, s) =>
      if current ≠ observed then
        (.error (CoreError.new .InvalidState "PAN observations changed before route reconciliation; replan"), s)
      else
        match operator.reconcile_routes current s with
        | (.error e, s) => (.error e, s)
        | (.ok (), s) =>
          match execute_nap_plan inputs (observed_selection current) plan.desired operator s with
          | (.error e, s) => (.error e, s)
          | (.ok execution, s) => (.ok { confirmed_lost, plan, execution }, s)

/-- Sample hub loss on every call, even while a previous failed recovery is in
backoff. An error records a bounded next-attempt delay; success or a fully
restored hub clears the failure history. -/
def execute_confirmed_hub_loss_recovery_with_backoff (inputs : TopologyPolicyInputs) (tracker : HubLossTracker)
    (retry : HubRecoveryRetryState) (now_ms : Nat) (operator : NapTopologyOperator σ) (s : σ) :
    Result (Option HubLossRecoveryExecution) × HubLossTracker × HubRecoveryRetryState × σ :=
  match operator.observe_links s with
  | (.error e, s) => (.error e, tracker, retry, s)
  | (.ok observed, s) =>
    match tracker.observe now_ms observed with
    | (.error e, tracker) => (.error e, tracker, retry, s)
    | (.ok lost, tracker) =>
      if lost = ∅ then (.ok none, tracker, retry.reset, s)
      else
        match retry.is_due now_ms with
        | .error e => (.error e, tracker, retry, s)
        | .ok false => (.ok none, tracker, retry, s)
        | .ok true =>
          match recover_from_observation inputs observed lost operator s with
          | (.ok result, s) => (.ok (some result), tracker, retry.reset, s)
          | (.error e, s) => (.error e, tracker, retry.failed now_ms, s)

end topology_recovery_flow

end blueroute
