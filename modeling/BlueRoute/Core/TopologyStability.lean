import BlueRoute.Base.Fallible
import BlueRoute.Core.Error

open Fallible

namespace blueroute

structure TopologyStabilityPolicy where
  min_dwell_ms : Nat
  min_cost_improvement : Nat
  retry_base_ms : Nat
  retry_max_ms : Nat

structure TopologyChangeObservation where
  now_ms : Nat
  last_change_ms : Nat
  current_viable : Bool
  proposed_viable : Bool
  current_cost : Nat
  proposed_cost : Nat
  consecutive_failures : Nat
  last_failure_ms : Option Nat

inductive TopologyChangeDecision where
  | KeepCurrent
  | DeferUntil (deadline : Nat)
  | Apply
  | NoViableProposal
deriving DecidableEq

namespace topology_stability

def U64_MAX : Nat := 2 ^ 64 - 1

def u64_saturating_add (left right : Nat) : Nat := min (left + right) U64_MAX

def u64_saturating_mul (left right : Nat) : Nat := min (left * right) U64_MAX

variable (policy : TopologyStabilityPolicy)

/-- The delay after a number of consecutive failures: the base doubles with
every failure after the first, up to the maximum. -/
def retry_delay (consecutive_failures : Nat) : Nat :=
  let exponent := min (consecutive_failures - 1) 63
  let factor := if exponent < 64 then 1 <<< exponent else U64_MAX
  min (u64_saturating_mul policy.retry_base_ms factor) policy.retry_max_ms

/-- The end of the backoff, if there is one. -/
def retry_deadline (observation : TopologyChangeObservation) : Option Nat :=
  match observation.last_failure_ms with
  | some last_failure =>
    if observation.consecutive_failures > 0 then
      some (u64_saturating_add last_failure (retry_delay policy observation.consecutive_failures))
    else none
  | none => none

/-- The end of the dwell of a path that still works. -/
def dwell_deadline (observation : TopologyChangeObservation) : Option Nat :=
  if observation.current_viable then some (u64_saturating_add observation.last_change_ms policy.min_dwell_ms) else none

/-- What the source checks before it decides anything. -/
def Unacceptable (observation : TopologyChangeObservation) : Prop :=
  policy.min_dwell_ms = 0 ∨ policy.min_cost_improvement = 0 ∨ policy.retry_base_ms = 0 ∨
    policy.retry_max_ms < policy.retry_base_ms ∨ observation.now_ms < observation.last_change_ms ∨
    observation.last_failure_ms.any (fun time => observation.now_ms < time) = true ∨
    (observation.consecutive_failures > 0 ∧ observation.last_failure_ms = none)

instance (policy : TopologyStabilityPolicy) (observation : TopologyChangeObservation) :
    Decidable (Unacceptable policy observation) :=
  inferInstanceAs (Decidable (_ ∨ _ ∨ _ ∨ _ ∨ _ ∨ _ ∨ _))

/-- A failed current path bypasses dwell and improvement thresholds but not
the backoff. -/
def decide_topology_change (observation : TopologyChangeObservation) : Result TopologyChangeDecision := do
  reject_if (Unacceptable policy observation)
    (CoreError.new .InvalidInput "invalid topology stability policy or observation")
  if observation.proposed_viable = false then .ok .NoViableProposal
  else if observation.current_viable = true ∧
      observation.current_cost - observation.proposed_cost < policy.min_cost_improvement then .ok .KeepCurrent
  else
    match (retry_deadline policy observation).filter (observation.now_ms < ·) with
    | some deadline => .ok (.DeferUntil deadline)
    | none =>
      match (dwell_deadline policy observation).filter (observation.now_ms < ·) with
      | some deadline => .ok (.DeferUntil deadline)
      | none => .ok .Apply

/-- The policies that the gate accepts. -/
structure ValidPolicy (policy : TopologyStabilityPolicy) : Prop where
  dwell : policy.min_dwell_ms ≠ 0
  improvement : policy.min_cost_improvement ≠ 0
  base : policy.retry_base_ms ≠ 0
  ordered : policy.retry_base_ms ≤ policy.retry_max_ms

/-- The first time at which another attempt may be made after a number of
consecutive failures, the last one at a given time. -/
def deadline (failures last_failure : Nat) : Nat :=
  min (last_failure + min (policy.retry_base_ms * 2 ^ min (failures - 1) 63) policy.retry_max_ms) U64_MAX

/-- Neither the shift nor the saturating product changes the end of the backoff. -/
theorem saturating_deadline (failures last_failure : Nat) :
    u64_saturating_add last_failure (retry_delay policy failures) = deadline policy failures last_failure := by
  have hexponent : min (failures - 1) 63 < 64 := by omega
  simp only [u64_saturating_add, retry_delay, if_pos hexponent, u64_saturating_mul, deadline, Nat.one_shiftLeft]
  generalize policy.retry_base_ms * 2 ^ min (failures - 1) 63 = product
  omega

/-- When the current path is lost, only the backoff defers a proposal. -/
theorem decide_lost_path {policy : TopologyStabilityPolicy} {observation : TopologyChangeObservation}
    (hacceptable : ¬ Unacceptable policy observation) (hcurrent : observation.current_viable = false)
    (hproposed : observation.proposed_viable = true) :
    decide_topology_change policy observation =
      match retry_deadline policy observation with
      | some deadline => if observation.now_ms < deadline then .ok (.DeferUntil deadline) else .ok .Apply
      | none => .ok .Apply := by
  have hdwell : dwell_deadline policy observation = none := by simp [dwell_deadline, hcurrent]
  simp only [decide_topology_change, reject_if, if_neg hacceptable, hproposed, hcurrent, hdwell, Option.filter_none]
  cases retry_deadline policy observation with
  | none => rfl
  | some deadline =>
    by_cases hnow : observation.now_ms < deadline
    · simp [Option.filter_some, hnow, bind, Except.bind]
    · simp [Option.filter_some, hnow, bind, Except.bind]

end topology_stability

end blueroute
