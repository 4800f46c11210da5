import BlueRoute.Base.Reconcile.Execute
import BlueRoute.Core.RouteReconciliation

namespace blueroute

/-- The privileged backend: `observe_routes`, `replace_owned_route` and `remove_owned_route`. -/
abbrev OwnedRouteOperator (σ : Type) := Reconcile.Operator Route CoreError σ

abbrev RouteExecutionReport := Reconcile.Report Route

namespace route_executor

open route_reconciliation

def failures : Reconcile.Failures CoreError where
  stale := .new .InvalidState "observed routes changed during reconciliation; replan"
  upsert_mismatch := .new .RouteFailure "route upsert did not produce the exact observed state"
  remove_mismatch := .new .RouteFailure "route removal did not produce the exact observed state"

/-- Execute an ownership-checked deterministic route plan: upserts before removals, each on a fresh
observation and followed by an exact one. -/
def execute_route_reconciliation {σ : Type} (network : NetworkId) (desired : List Route)
    (operator : OwnedRouteOperator σ) (s : σ) : Result RouteExecutionReport × σ :=
  (policy network).execute Route.key failures (plan_route_reconciliation network) desired operator s

end route_executor

end blueroute
