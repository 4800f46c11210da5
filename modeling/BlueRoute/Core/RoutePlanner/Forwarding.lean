import BlueRoute.Core.RoutePlanner.Shortest

namespace blueroute.route_planner

open Fallible Transit TopologyGraph

/-- The route that a table lists for a node. -/
def listed (routes : List Route) (destination : NodeId) : Option Route :=
  routes.find? fun route => route.destination = .Node destination

variable {graph : TopologyGraph} {source destination : NodeId} {network : NetworkId} {routes : List Route}

variable {route : Route}

theorem route_to_eq_ok {node : NodeId} {label : Label} (h : route_to network node label = .ok route) :
    route.destination = .Node node ∧ route.next_hop = label.first_hop ∧ route.cost.toNat = label.cost := by
  simp only [route_to, bind_eq_ok_iff, ok_or_eq_ok] at h
  obtain ⟨cost, hcost, hroute⟩ := h
  obtain rfl := Except.ok.inj hroute
  refine ⟨rfl, rfl, ?_⟩
  unfold u32_try_from at hcost
  split at hcost
  · next hfits =>
    obtain rfl := Option.some.inj hcost
    exact UInt32.toNat_ofNat_of_lt' hfits
  · cases hcost

/-- The search behind a table, and how the table is made from it. -/
theorem search_of_ok (h : desired_node_routes graph source network = .ok routes) :
    ∃ search, Loop.Exits (BestFirst.State.body (offers graph source))
        (BestFirst.State.init source (Label.new 0 0 source)) (.ok search) ∧
      (search.best.toList.filter fun (node, _) => node ≠ source).mapM
        (fun (node, label) => route_to network node label) = .ok routes := by
  simp only [desired_node_routes, bind_eq_ok_iff] at h
  obtain ⟨-, -, search, hsearch, hroutes⟩ := h
  have hexits := search_exits graph source
  rw [hsearch] at hexits
  exact ⟨search, hexits, hroutes⟩

theorem mem_labels {best : Ordered.Map NodeId Label} {node : NodeId} {label : Label} :
    (node, label) ∈ best.toList.filter (fun (node, _) => node ≠ source) ↔ best[node]? = some label ∧ node ≠ source := by
  rw [List.mem_filter, Ordered.mem_toList]
  exact and_congr_right fun _ => decide_eq_true_iff

/-- A table holds one route for each label of a finished search, that of the source apart. -/
theorem routes_of_ok (h : desired_node_routes graph source network = .ok routes) :
    ∃ best : Ordered.Map NodeId Label, Found graph source best ∧
      (∀ (node : NodeId) (label : Label), best[node]? = some label → node ≠ source →
        ∃ route ∈ routes, route_to network node label = .ok route) ∧
      ∀ route ∈ routes, ∃ (node : NodeId) (label : Label), best[node]? = some label ∧ node ≠ source ∧
        route_to network node label = .ok route := by
  obtain ⟨search, hexits, hroutes⟩ := search_of_ok h
  obtain ⟨hforward, hbackward⟩ := mem_of_mapM_eq_ok hroutes
  refine ⟨search.best, found_of_exits hexits, fun node label hlabel hother => ?_, fun route hroute => ?_⟩
  · exact hforward (node, label) (mem_labels.mpr ⟨hlabel, hother⟩)
  · obtain ⟨⟨node, label⟩, hmem, hroute⟩ := hbackward route hroute
    obtain ⟨hlabel, hother⟩ := mem_labels.mp hmem
    exact ⟨node, label, hlabel, hother, hroute⟩

/-- Every route of a table is the first hop of a shortest walk, and advertises its cost. -/
theorem shortest_of_mem (h : desired_node_routes graph source network = .ok routes) (hroute : route ∈ routes)
    (hdestination : route.destination = .Node destination) :
    source ≠ destination ∧ Shortest (routing_network graph) source destination route.cost.toNat route.next_hop := by
  obtain ⟨best, hfound, -, hbackward⟩ := routes_of_ok h
  obtain ⟨node, label, hlabel, hother, hto⟩ := hbackward route hroute
  obtain ⟨hnode, hhop, hcost⟩ := route_to_eq_ok hto
  obtain rfl := RouteDestination.Node.inj (hnode.symm.trans hdestination)
  rw [hcost, hhop]
  exact ⟨hother.symm, hfound.shortest hlabel hother⟩

theorem listed_eq_some (h : listed routes destination = some route) :
    route ∈ routes ∧ route.destination = .Node destination := by
  have hfound := List.find?_some h
  exact ⟨List.mem_of_find?_eq_some h, of_decide_eq_true hfound⟩

theorem exists_listed_of_mem (hroute : route ∈ routes) (hdestination : route.destination = .Node destination) :
    ∃ found, listed routes destination = some found := by
  rw [← Option.isSome_iff_exists]
  exact List.find?_isSome.mpr ⟨route, hroute, decide_eq_true hdestination⟩

/-- Every node that can be reached has a route in the table. -/
theorem exists_listed_of_walk {cost : Nat} {first : NodeId} (h : desired_node_routes graph source network = .ok routes)
    (hother : source ≠ destination) (hwalk : Walk (routing_network graph) source destination cost first) :
    ∃ route, listed routes destination = some route := by
  obtain ⟨best, hfound, hforward, -⟩ := routes_of_ok h
  obtain ⟨label, hlabel, -⟩ := hfound.least _ _ _ hwalk
  obtain ⟨route, hroute, hto⟩ := hforward destination label hlabel hother.symm
  exact exists_listed_of_mem hroute (route_to_eq_ok hto).1

/-- The next hop and the cost that the table of a node lists for a destination. -/
def entry (tables : NodeId → List Route) (node destination : NodeId) : Option (NodeId × Nat) :=
  (listed (tables node) destination).map fun route => (route.next_hop, route.cost.toNat)

/-- The tables that the nodes of a grounded graph compute, each for itself, are shortest-walk tables
of its routing network. -/
theorem tables_of_ok {tables : NodeId → List Route} (hgrounded : graph.Grounded)
    (htables : ∀ node ∈ graph.nodes, desired_node_routes graph node network = .ok (tables node)) :
    Tables (routing_network graph) (· ∈ graph.nodes) (entry tables) where
  sound := by
    intro node destination hop cost hnode hentry
    obtain ⟨route, hlisted, hpair⟩ := Option.map_eq_some_iff.mp hentry
    obtain ⟨rfl, rfl⟩ := Prod.mk.inj hpair
    obtain ⟨hroute, hdestination⟩ := listed_eq_some hlisted
    exact shortest_of_mem (htables node hnode) hroute hdestination
  complete := by
    intro node destination hop cost hnode hother hwalk
    obtain ⟨route, hlisted⟩ := exists_listed_of_walk (htables node hnode) hother hwalk
    exact ⟨_, Option.map_eq_some_iff.mpr ⟨route, hlisted, rfl⟩⟩
  known_of_edge := by
    rintro u v edge ⟨link, hlink, -⟩
    obtain ⟨id, hid⟩ := hlink.present
    obtain ⟨hnap, hpanu⟩ := hgrounded id link hid
    obtain ⟨-, rfl⟩ | ⟨-, rfl⟩ := PanLink.other_endpoint_eq_some hlink.joins
    · exact hpanu
    · exact hnap
  positive := routing_network_positive

/-- The cost that a node advertises for a destination: nothing at the destination itself. -/
def advertised_cost (tables : NodeId → List Route) (destination node : NodeId) : Nat :=
  if node = destination then 0
  else ((listed (tables node) destination).map fun route => route.cost.toNat).getD 0

/-- A hop of a packet: to the next hop that the table of its node lists, over a forwarding link, such
that the advertised cost falls by the cost of a cheapest forwarding link between the two nodes. -/
def ForwardingHop (graph : TopologyGraph) (tables : NodeId → List Route) (destination u v : NodeId) : Prop :=
  ∃ route edge, listed (tables u) destination = some route ∧ route.next_hop = v ∧
    IsLeast {cost | ∃ link, ForwardingLink graph u v link ∧ edge_cost link = cost} edge ∧
    route.cost.toNat = edge + advertised_cost tables destination v

theorem advertised_entry (tables : NodeId → List Route) (destination node : NodeId) :
    advertised (entry tables) destination node = advertised_cost tables destination node := by
  unfold advertised advertised_cost entry
  rw [Option.map_map]
  rfl

theorem forwardingHop_of_hop {tables : NodeId → List Route} {u v : NodeId}
    (h : Hop (routing_network graph) (entry tables) destination u v) : ForwardingHop graph tables destination u v := by
  obtain ⟨cost, edge, hentry, hleast, hcost⟩ := h
  obtain ⟨route, hlisted, hpair⟩ := Option.map_eq_some_iff.mp hentry
  obtain ⟨hhop, rfl⟩ := Prod.mk.inj hpair
  exact ⟨route, edge, hlisted, hhop, hleast, by rw [hcost, advertised_entry]⟩

/-- Forwarding along the tables that the nodes of a graph compute for themselves delivers: it reaches
the destination of every listed route without a loop, over forwarding links and routers only, and each
hop pays the cheapest link. -/
theorem desired_node_routes_deliver (mutations : List Mutation) (network : NetworkId)
    (tables : NodeId → List Route)
    (htables : ∀ node ∈ (build mutations).nodes,
      desired_node_routes (build mutations) node network = .ok (tables node))
    (source destination : NodeId) (hsource : source ∈ (build mutations).nodes)
    (route : Route) (hroute : route ∈ tables source) (hdestination : route.destination = .Node destination) :
    ∃ path : List NodeId, path.head? = some source ∧ path.getLast? = some destination ∧ path.Nodup ∧
      path.IsChain (ForwardingHop (build mutations) tables destination) ∧
      ∀ node ∈ path, node ≠ source → node ≠ destination →
        ((build mutations).node node).bind NodeCapabilities.can_route = some true := by
  obtain ⟨found, hlisted⟩ := exists_listed_of_mem hroute hdestination
  have hentry : entry tables source destination = some (found.next_hop, found.cost.toNat) := by
    rw [entry, hlisted]
    rfl
  obtain ⟨path, hpath⟩ :=
    (tables_of_ok (grounded_build mutations) htables).exists_delivery _ _ _ hsource hentry
  refine ⟨path, hpath.head, hpath.last, hpath.nodup, ?_, hpath.forwards⟩
  exact hpath.hops.imp fun _ _ => forwardingHop_of_hop

section Samples

/-- Two endpoints that reach each other over a router, the second link degraded. -/
def sample_line : List Mutation :=
  [.add_node (.filled 1) {}, .add_node (.filled 2) { routing := some ⟨true, .Measured⟩ },
    .add_node (.filled 3) {},
    .add_segment (.new (.filled 2) (.filled 2)),
    .add_link ⟨.filled 1, .filled 2, .filled 2, .filled 1, .Active, .Healthy, 1⟩,
    .add_link ⟨.filled 2, .filled 2, .filled 2, .filled 3, .Active, .Degraded, 0⟩]

def sample_tables (node : NodeId) : List Route :=
  (desired_node_routes (build sample_line) node (.filled 9)).toOption.getD []

theorem sample_tables_eq {node : NodeId} (h : node ∈ (build sample_line).nodes) :
    desired_node_routes (build sample_line) node (.filled 9) = .ok (sample_tables node) := by
  have hall : ∀ node ∈ (build sample_line).nodes.keys,
      desired_node_routes (build sample_line) node (.filled 9) = .ok (sample_tables node) := by
    decide +kernel
  exact hall node (Std.ExtTreeMap.mem_keys.mpr h)

theorem desired_node_routes_deliver_line :
    ∃ path : List NodeId, path.head? = some (.filled 1) ∧ path.getLast? = some (.filled 3) ∧ path.Nodup ∧
      path.IsChain (ForwardingHop (build sample_line) sample_tables (.filled 3)) ∧
      ∀ node ∈ path, node ≠ .filled 1 → node ≠ .filled 3 →
        ((build sample_line).node node).bind NodeCapabilities.can_route = some true :=
  desired_node_routes_deliver sample_line (.filled 9) sample_tables (fun _ => sample_tables_eq) (.filled 1)
    (.filled 3) (by decide +kernel) ⟨.Node (.filled 3), .filled 2, 102, .BlueRouteNetwork (.filled 9)⟩
    (by decide +kernel) rfl

end Samples

end blueroute.route_planner
