import BlueRoute.Core.TopologyPlan.Transition

namespace blueroute

/-- The backend interface: each call may answer anything and may change the
hidden state of the backend in any way. -/
structure NapTopologyOperator (σ : Type) where
  observe_links : σ → Result (Finset NapLink) × σ
  connect_link : NapLink → σ → Result Unit × σ
  disconnect_link : NapLink → σ → Result Unit × σ
  reconcile_routes : Finset NapLink → σ → Result Unit × σ

structure NapExecutionReport where
  applied : List NapPlanStep
  observed : Finset NapLink
deriving DecidableEq

namespace topology_executor

open topology_plan

variable {σ : Type}

/-- The links that a step must produce, unless the step cannot apply. -/
def expected_links (observed : Finset NapLink) : NapPlanStep → Result (Finset NapLink)
  | .Connect link =>
    if link ∈ observed then .error (.new .InvalidState "duplicate PAN connect")
    else .ok (insert link observed)
  | .Disconnect link =>
    if link ∈ observed then .ok (observed.erase link)
    else .error (.new .InvalidState "missing PAN disconnect")

/-- The backend call that a step stands for. -/
def operate (operator : NapTopologyOperator σ) : NapPlanStep → σ → Result Unit × σ
  | .Connect link => operator.connect_link link
  | .Disconnect link => operator.disconnect_link link

/-- The loop over the steps of the plan. -/
def execute_steps (operator : NapTopologyOperator σ) :
    List NapPlanStep → Finset NapLink → List NapPlanStep → σ → Result NapExecutionReport × σ
  | [], observed, applied, s => (.ok { applied, observed }, s)
  | step :: rest, observed, applied, s =>
    match expected_links observed step with
    | .error e => (.error e, s)
    | .ok expected =>
      match operate operator step s with
      | (.error e, s) =>
        match operator.observe_links s with
        | (.error _, s) => (.error e, s)
        | (.ok actual, s) => (.error e, (operator.reconcile_routes actual s).2)
      | (.ok (), s) =>
        match operator.observe_links s with
        | (.error e, s) => (.error e, s)
        | (.ok actual, s) =>
          if actual ≠ expected then
            match operator.reconcile_routes actual s with
            | (.error e, s) => (.error e, s)
            | (.ok (), s) => (.error (.new .TopologyFailure
                "PAN operation did not produce the expected observed topology"), s)
          else
            match operator.reconcile_routes actual s with
            | (.error e, s) => (.error e, s)
            | (.ok (), s) => execute_steps operator rest actual (applied ++ [step]) s

/-- Execute a validated plan, verifying each backend change before applying
routes. On any failure, stop and require a fresh observation and replan. -/
def execute_nap_plan (inputs : TopologyPolicyInputs) (active desired : NapSelection)
    (operator : NapTopologyOperator σ) (s : σ) : Result NapExecutionReport × σ :=
  match diff_nap_topology inputs active desired with
  | .error e => (.error e, s)
  | .ok diff =>
    match operator.observe_links s with
    | (.error e, s) => (.error e, s)
    | (.ok observed, s) =>
      if observed ≠ links active then
        (.error (.new .InvalidState "PAN observations changed; replan before execution"), s)
      else if diff.steps = [] then
        match operator.reconcile_routes observed s with
        | (.error e, s) => (.error e, s)
        | (.ok (), s) => execute_steps operator diff.steps observed [] s
      else execute_steps operator diff.steps observed [] s

/-- A call that the executor makes, with the answer it got. -/
inductive Call where
  | Observe (answer : Result (Finset NapLink))
  | Operate (step : NapPlanStep) (answer : Result Unit)
  | Reconcile (links : Finset NapLink) (answer : Result Unit)
deriving DecidableEq

/-- The same backend with a log of the calls made to it. -/
def traced (operator : NapTopologyOperator σ) : NapTopologyOperator (σ × List Call) where
  observe_links := fun (s, calls) =>
    let (answer, s) := operator.observe_links s
    (answer, s, calls ++ [.Observe answer])
  connect_link := fun link (s, calls) =>
    let (answer, s) := operator.connect_link link s
    (answer, s, calls ++ [.Operate (.Connect link) answer])
  disconnect_link := fun link (s, calls) =>
    let (answer, s) := operator.disconnect_link link s
    (answer, s, calls ++ [.Operate (.Disconnect link) answer])
  reconcile_routes := fun links (s, calls) =>
    let (answer, s) := operator.reconcile_routes links s
    (answer, s, calls ++ [.Reconcile links answer])

/-- The connect and disconnect calls of a log, in order. -/
def operations (calls : List Call) : List NapPlanStep :=
  calls.filterMap fun
    | .Operate step _ => some step
    | _ => none

end topology_executor

end blueroute
