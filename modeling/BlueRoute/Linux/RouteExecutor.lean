import BlueRoute.Core.RouteExecutor
import BlueRoute.Linux.RouteReconciliation

namespace blueroute_linux

open blueroute net

/-- The privileged backend: `observe_all_routes`, `replace_if_current` and `remove_if_current`. -/
abbrev LinuxOwnedRouteOperator (σ : Type) := Reconcile.Operator LinuxRoute CoreError σ

abbrev LinuxRouteExecutionReport := Reconcile.Report LinuxRoute

namespace route_executor

open blueroute_linux.route_reconciliation

def failures : Reconcile.Failures CoreError where
  stale := .new .InvalidState "Linux routing state changed during reconciliation; replan"
  upsert_mismatch :=
    .new .RouteFailure "Linux route replacement did not produce the observed expected state"
  remove_mismatch := .new .RouteFailure "Linux route removal did not produce the observed expected state"

/-- The tuple by which `snapshot_sort` compares. -/
def snapshot_key (route : LinuxRoute) : IpPrefix ×ₗ String ×ₗ WithBot IpAddr ×ₗ ℕ ×ₗ NetworkId :=
  toLex (route.destination, toLex (route.interface.as_str, toLex (route.via, toLex (route.metric.toNat, route.owner))))

def execute_linux_route_reconciliation {σ : Type} (network : NetworkId) (desired : List LinuxRoute)
    (backend : LinuxOwnedRouteOperator σ) (s : σ) : Result LinuxRouteExecutionReport × σ :=
  (policy network).execute snapshot_key failures (plan_linux_route_reconciliation network) desired backend s

/-- Whatever the backends answer and however their tables change, both executors make the steps of
the plan for their first observation in order, each on an observation of what the earlier ones had to
produce. The log does not change what they do. -/
theorem execute_route_reconciliation_supervised {σ : Type} :
    (∀ (network : NetworkId) (desired : List Route) (operator : OwnedRouteOperator σ) (s : σ),
      ∃ result after calls,
        blueroute.route_executor.execute_route_reconciliation network desired operator s = (result, after) ∧
        blueroute.route_executor.execute_route_reconciliation network desired (Reconcile.traced operator) (s, []) =
          (result, after, calls) ∧
        (blueroute.route_reconciliation.policy network).Supervised
          (blueroute.route_reconciliation.plan_route_reconciliation network) desired calls result) ∧
      ∀ (network : NetworkId) (desired : List LinuxRoute) (backend : LinuxOwnedRouteOperator σ) (s : σ),
        ∃ result after calls,
          execute_linux_route_reconciliation network desired backend s = (result, after) ∧
          execute_linux_route_reconciliation network desired (Reconcile.traced backend) (s, []) =
            (result, after, calls) ∧
          (policy network).Supervised (plan_linux_route_reconciliation network) desired calls result := by
  refine ⟨fun network desired operator s => ?_, fun network desired backend s => ?_⟩
  · exact (blueroute.route_reconciliation.policy_lawful network).supervised
      blueroute.route_executor.failures desired operator s
  · exact (policy_lawful network).supervised failures desired backend s

end route_executor

end blueroute_linux
