import BlueRoute.Core.RouteExecutor
import BlueRoute.Core.RoutePlanner.Forwarding

/-! The `route_recovery` module: next hops are computed again from the observed links. -/

namespace blueroute.route_recovery

open Reconcile Transit route_planner route_reconciliation route_executor

variable {σ : Type}

def reconcile_observed_topology_routes (graph : TopologyGraph) (source : NodeId) (network : NetworkId)
    (operator : OwnedRouteOperator σ) (s : σ) : Result RouteExecutionReport × σ :=
  match desired_node_routes graph source network with
  | .error e => (.error e, s)
  | .ok desired => execute_route_reconciliation network desired operator s

/-- The recoveries of all nodes, each with its own backend in any state. -/
structure Recovery (σ : Type) where
  graph : TopologyGraph
  network : NetworkId
  operator : NodeId → OwnedRouteOperator σ
  state : NodeId → σ

namespace Recovery

variable (self : Recovery σ)

/-- The result of the recovery at a node, and the calls that it made. -/
def run (node : NodeId) : Result RouteExecutionReport × σ × List (Call Route CoreError) :=
  reconcile_observed_topology_routes self.graph node self.network (traced (self.operator node)) (self.state node, [])

/-- The routes of the network in the table that a node has observed last. -/
def routes (node : NodeId) : List Route :=
  ((observations (self.run node).2.2).getLast?.getD []).filter (policy self.network).owned

variable {self}

theorem mem_routes_iff {node : NodeId} (h : (self.run node).1.isOk = true) :
    ∃ desired, desired_node_routes self.graph node self.network = .ok desired ∧
      ∀ route, route ∈ self.routes node ↔ route ∈ desired := by
  unfold routes
  rw [run, reconcile_observed_topology_routes] at *
  cases hdesired : desired_node_routes self.graph node self.network with
  | error e =>
    rw [hdesired] at h
    cases h
  | ok desired =>
    rw [hdesired] at h
    obtain ⟨result, after, calls, -, htraced, hsupervised⟩ : ∃ result after calls, _ ∧
        execute_route_reconciliation self.network desired (traced (self.operator node)) (self.state node, []) =
          (result, after, calls) ∧ _ :=
      (policy_lawful self.network).supervised failures desired (self.operator node) (self.state node)
    simp only [htraced] at h ⊢
    obtain ⟨e, -, rfl⟩ | ⟨_, e, -, -, rfl⟩ | ⟨_, _, _, -, -, hgated⟩ := hsupervised
    · cases h
    · cases h
    · cases result with
      | error e => cases h
      | ok report =>
        obtain ⟨last, hlast, howned, -⟩ := hgated.finished report rfl
        rw [hlast]
        exact ⟨desired, rfl, fun _ => howned.mem_iff⟩

/-- The tables that recoveries leave at the nodes of a graph list shortest walks. -/
theorem tables (hgrounded : self.graph.Grounded) (h : ∀ node ∈ self.graph.nodes, (self.run node).1.isOk = true) :
    Tables (routing_network self.graph) (· ∈ self.graph.nodes) (entry self.routes) := by
  choose! desired hdesired hmem using fun node hnode => mem_routes_iff (h node hnode)
  have hplanned := tables_of_ok hgrounded hdesired
  refine { hplanned with sound := ?_, complete := ?_ }
  · intro node destination hop cost hnode hentry
    obtain ⟨route, hlisted, hpair⟩ := Option.map_eq_some_iff.mp hentry
    obtain ⟨rfl, rfl⟩ := Prod.mk.inj hpair
    obtain ⟨hroute, hdestination⟩ := listed_eq_some hlisted
    exact shortest_of_mem (hdesired node hnode) ((hmem node hnode route).mp hroute) hdestination
  · intro node destination hop cost hnode hother hwalk
    obtain ⟨route, hlisted⟩ := exists_listed_of_walk (hdesired node hnode) hother hwalk
    obtain ⟨hroute, hdestination⟩ := listed_eq_some hlisted
    obtain ⟨found, hfound⟩ := exists_listed_of_mem ((hmem node hnode route).mpr hroute) hdestination
    exact ⟨_, Option.map_eq_some_iff.mpr ⟨found, hfound, rfl⟩⟩

end Recovery

/-- Whatever the tables held and however the backends behave, either some node reports that its recovery failed, or the
tables list shortest walks to exactly the destinations that traffic can reach, and forwarding along them delivers
without a loop. -/
theorem recovered_routes_deliver (mutations : List TopologyGraph.Mutation) (network : NetworkId)
    (operator : NodeId → OwnedRouteOperator σ) (state : NodeId → σ) :
    let graph := TopologyGraph.build mutations
    let recovery : Recovery σ := { graph, network, operator, state }
    (∃ node ∈ graph.nodes, (recovery.run node).1.isOk = false) ∨
      Tables (routing_network graph) (· ∈ graph.nodes) (entry recovery.routes) ∧
        ∀ source ∈ graph.nodes, ∀ destination found, entry recovery.routes source destination = some found →
          ∃ path, Delivery (routing_network graph) (entry recovery.routes) destination source path := by
  intro graph recovery
  by_cases h : ∀ node ∈ graph.nodes, (recovery.run node).1.isOk = true
  · have htables := @Recovery.tables σ recovery (TopologyGraph.grounded_build mutations) h
    exact .inr ⟨htables, fun source hsource destination found hentry => htables.exists_delivery _ _ _ hsource hentry⟩
  · push Not at h
    obtain ⟨node, hnode, hfailed⟩ := h
    exact .inl ⟨node, hnode, Bool.eq_false_of_not_eq_true hfailed⟩

end blueroute.route_recovery
