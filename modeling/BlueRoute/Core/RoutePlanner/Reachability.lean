import BlueRoute.Core.RoutePlanner.Optimal
import BlueRoute.Core.Topology.Reachability

namespace blueroute.route_planner

open TopologyGraph

variable {graph : TopologyGraph} {source destination : NodeId} {path : List (NodeId × PanLink)}

theorem mem_direct_neighbors_of_link {u v : NodeId} {link : PanLink} (h : ForwardingLink graph u v link) :
    v ∈ graph.direct_neighbors u := by
  obtain ⟨id, hid⟩ := h.present
  exact mem_direct_neighbors.mpr ⟨id, link, hid, h.active, h.joins⟩

/-- What the planner can use, the unweighted search can use too. -/
theorem RoutingPath.exists_walk (h : RoutingPath graph source destination path) :
    ∃ n, BreadthFirst.Walk graph.direct_neighbors source n destination := by
  induction h with
  | link hlink => exact ⟨1, .step .nil (mem_direct_neighbors_of_link hlink)⟩
  | extend _ _ hlink ih =>
    obtain ⟨n, hwalk⟩ := ih
    exact ⟨n + 1, .step hwalk (mem_direct_neighbors_of_link hlink)⟩

/-- A destination that is reported as routed has a route exactly if live links lead to it over nodes that
can route. A destination with a route, but without a live link or a common active segment, is reported as
routed. -/
theorem reachability_and_routes (mutations : List Mutation) (network : NetworkId)
    (source destination : NodeId) (routes : List Route)
    (hsource : source ∈ (build mutations).nodes)
    (hdestination : destination ∈ (build mutations).nodes)
    (hroutes : desired_node_routes (build mutations) source network = .ok routes) :
    ((build mutations).reachability source destination = .Routed →
      ((∃ route ∈ routes, route.destination = .Node destination) ↔
        ∃ path, RoutingPath (build mutations) source destination path)) ∧
    ((∃ route ∈ routes, route.destination = .Node destination) →
      (build mutations).is_directly_reachable source destination = false →
      (build mutations).same_active_segment source destination = false →
      (build mutations).reachability source destination = .Routed) := by
  rw [exists_route_iff hroutes]
  constructor
  · intro hrouted
    have hne := ((reachability_eq_routed_iff hsource hdestination).mp hrouted).1
    exact and_iff_right hne.symm
  · rintro ⟨hne, path, hpath⟩ hdirect hsegment
    rw [reachability_eq_routed_iff hsource hdestination]
    exact ⟨hne.symm, hpath.exists_walk, hdirect, hsegment⟩

namespace sample

/-- Two segments that share a node, of which it is not known whether it can route. -/
def split : List Mutation :=
  [.add_node (.filled 1) {}, .add_node (.filled 2) {}, .add_node (.filled 3) {},
    .add_segment (.new (.filled 1) (.filled 1)), .add_segment (.new (.filled 2) (.filled 2)),
    .add_link ⟨.filled 1, .filled 1, .filled 1, .filled 2, .Active, .Healthy, 1⟩,
    .add_link ⟨.filled 2, .filled 2, .filled 2, .filled 3, .Active, .Healthy, 1⟩]

/-- The same with a router between the segments. -/
def joined : List Mutation := split ++ [.add_node (.filled 2) { routing := some ⟨true, .Measured⟩ }]

def routes : List Route :=
  [⟨.Node (.filled 2), .filled 2, 1, .BlueRouteNetwork (.filled 9)⟩,
    ⟨.Node (.filled 3), .filled 2, 2, .BlueRouteNetwork (.filled 9)⟩]

end sample

open sample

theorem routed_without_route :
    (build split).reachability (.filled 1) (.filled 3) = .Routed ∧
      desired_node_routes (build split) (.filled 1) (.filled 9) =
        .ok [⟨.Node (.filled 2), .filled 2, 1, .BlueRouteNetwork (.filled 9)⟩] := by
  decide +kernel

theorem reachability_and_routes_joined :
    (build joined).reachability (.filled 1) (.filled 3) = .Routed ∧
      ∃ path, RoutingPath (build joined) (.filled 1) (.filled 3) path := by
  have hroutes : desired_node_routes (build joined) (.filled 1) (.filled 9) =
      .ok routes := by decide +kernel
  have hrouted : (build joined).reachability (.filled 1) (.filled 3) = .Routed := by decide +kernel
  refine ⟨hrouted, ?_⟩
  refine ((reachability_and_routes joined (.filled 9) (.filled 1) (.filled 3) routes
    (by decide +kernel) (by decide +kernel) hroutes).1 hrouted).mp ?_
  exact ⟨⟨.Node (.filled 3), .filled 2, 2, .BlueRouteNetwork (.filled 9)⟩, by decide, rfl⟩

section ShortestPath

variable {a b u v : NodeId}

/-- Two nodes joined by an active link that has not failed. -/
def Joined (graph : TopologyGraph) (u v : NodeId) : Prop := ∃ link, ForwardingLink graph u v link

theorem joined_iff_mem : Joined graph u v ↔ v ∈ graph.direct_neighbors u := by
  constructor
  · rintro ⟨link, hlink⟩
    exact mem_direct_neighbors_of_link hlink
  · intro hmem
    obtain ⟨id, link, hlink, hactive, hjoins⟩ := mem_direct_neighbors.mp hmem
    exact ⟨link, ⟨id, hlink⟩, hactive, hjoins⟩

/-- A link joins its nodes both ways. -/
theorem joined_symm (h : Joined graph u v) : Joined graph v u := by
  obtain ⟨link, hpresent, hactive, hjoins⟩ := h
  refine ⟨link, hpresent, hactive, ?_⟩
  unfold PanLink.other_endpoint
  obtain ⟨rfl, rfl⟩ | ⟨rfl, rfl⟩ := PanLink.other_endpoint_eq_some hjoins
  · by_cases hsame : link.panu = link.nap
    · rw [if_pos hsame, hsame]
    · rw [if_neg hsame, if_pos rfl]
  · rw [if_pos rfl]

theorem reachable_iff_walk :
    Relation.ReflTransGen (Joined graph) a b ↔ ∃ n, BreadthFirst.Walk graph.direct_neighbors a n b := by
  rw [← BreadthFirst.reflTransGen_iff_walk]
  have hsame : Joined graph = fun u v => v ∈ graph.direct_neighbors u := by
    funext u v
    exact propext joined_iff_mem
  rw [hsame]

/-- A path over live links, with both its ends. -/
structure LivePath (graph : TopologyGraph) (a b : NodeId) (path : List NodeId) : Prop where
  head : path.head? = some a
  last : path.getLast? = some b
  chain : path.IsChain (Joined graph)

theorem livePath_of_found {path : List NodeId} (h : BreadthFirst.Found graph.direct_neighbors a b path) :
    LivePath graph a b path where
  head := h.head
  last := h.last
  chain := h.chain.imp fun _ _ hedge => joined_iff_mem.mpr hedge

/-- What the search for a path answers for two nodes of a graph. -/
theorem shortest_path_spec (ha : a ∈ graph.nodes) (hb : b ∈ graph.nodes) :
    (∃ path, graph.shortest_path a b = some path ∧ LivePath graph a b path ∧ path.Nodup ∧
      ∀ other, LivePath graph a b other → path.length ≤ other.length) ∧ Relation.ReflTransGen (Joined graph) a b ∨
      graph.shortest_path a b = none ∧ ¬ Relation.ReflTransGen (Joined graph) a b := by
  by_cases hsame : a = b
  · subst hsame
    obtain ⟨capabilities, hnode⟩ := Ordered.mem_iff_exists.mp ha
    have hpath : graph.shortest_path a a = some [a] := by
      rw [shortest_path, hnode, if_neg (by simp), if_pos rfl]
    refine .inl ⟨⟨[a], hpath, ⟨rfl, rfl, List.isChain_singleton _⟩, List.nodup_singleton _,
      fun other hother => ?_⟩, .refl⟩
    have hne : other ≠ [] := by
      rintro rfl
      cases hother.head
    exact List.length_pos_iff.mpr hne
  · rw [reachable_iff_walk]
    obtain ⟨path, hpath, hfound⟩ | ⟨hpath, hnone⟩ := shortest_path_cases ha hb hsame
    · refine .inl ⟨⟨path, hpath, livePath_of_found hfound, hfound.nodup, fun other hother => ?_⟩, hfound.reached⟩
      exact hfound.length_le (hother.chain.imp fun _ _ hjoined => joined_iff_mem.mp hjoined) hother.head hother.last
    · exact .inr ⟨hpath, not_exists.mpr hnone⟩

theorem exists_shortest_path_iff (ha : a ∈ graph.nodes) (hb : b ∈ graph.nodes) :
    (∃ path, graph.shortest_path a b = some path) ↔ Relation.ReflTransGen (Joined graph) a b := by
  obtain ⟨⟨path, hpath, -⟩, hreachable⟩ | ⟨hpath, hunreachable⟩ := shortest_path_spec ha hb
  · exact iff_of_true ⟨path, hpath⟩ hreachable
  · exact iff_of_false (fun ⟨path, hsome⟩ => nomatch hpath.symm.trans hsome) hunreachable

theorem reachability_eq_unreachable_iff : graph.reachability a b = .Unreachable ↔ graph.shortest_path a b = none := by
  unfold reachability
  cases graph.shortest_path a b with
  | none => exact iff_of_true rfl rfl
  | some path =>
    refine iff_of_false ?_ nofun
    dsimp only
    split_ifs <;> exact not_false

/-- Without a path one way there is none the other way. -/
theorem unreachable_symm (ha : a ∈ graph.nodes) (hb : b ∈ graph.nodes)
    (h : graph.reachability a b = .Unreachable) : graph.reachability b a = .Unreachable := by
  rw [reachability_eq_unreachable_iff, Option.eq_none_iff_forall_ne_some] at h ⊢
  intro path hpath
  have hback := (exists_shortest_path_iff hb ha).mp ⟨path, hpath⟩
  have hsymm : Std.Symm (Joined graph) := ⟨fun _ _ hjoined => joined_symm hjoined⟩
  have hforth : Relation.ReflTransGen (Joined graph) a b := Relation.ReflTransGen.stdSymm.symm _ _ hback
  obtain ⟨other, hother⟩ := (exists_shortest_path_iff ha hb).mpr hforth
  exact h other hother

/-- A destination in the table of a node is a node of the graph, and live links lead to it. -/
theorem shortest_path_of_route (hgrounded : graph.Grounded) {network : NetworkId} {routes : List Route}
    (hsource : source ∈ graph.nodes) (h : desired_node_routes graph source network = .ok routes) {route : Route}
    (hroute : route ∈ routes) :
    ∃ destination path, route.destination = .Node destination ∧ graph.shortest_path source destination = some path := by
  obtain ⟨search, -, hmap⟩ := search_of_ok h
  obtain ⟨⟨node, label⟩, -, hto⟩ := (Fallible.mem_of_mapM_eq_ok hmap).2 route hroute
  have hdestination := (route_to_eq_ok hto).1
  obtain ⟨-, way, hway⟩ := (exists_route_iff h node).mp ⟨route, hroute, hdestination⟩
  have hnode : node ∈ graph.nodes := by
    have hlast (link : PanLink) (u : NodeId) (hlink : ForwardingLink graph u node link) : node ∈ graph.nodes := by
      obtain ⟨id, hpresent⟩ := hlink.present
      have hends := hgrounded id link hpresent
      obtain ⟨-, rfl⟩ | ⟨-, rfl⟩ := PanLink.other_endpoint_eq_some hlink.joins
      · exact hends.2
      · exact hends.1
    cases hway with
    | link hlink | extend _ _ hlink => exact hlast _ _ hlink
  obtain ⟨path, hpath⟩ := (exists_shortest_path_iff hsource hnode).mpr (reachable_iff_walk.mpr hway.exists_walk)
  exact ⟨node, path, hdestination, hpath⟩

/-- The unweighted search finds a path exactly where live links lead, a simple and shortest one, and never
loses its way back to the start. It reaches all that the planner lists, and cannot reach a node exactly if
that node cannot reach it. -/
theorem shortest_path_correct (graph : TopologyGraph) (hgrounded : graph.Grounded) (a b : NodeId)
    (ha : a ∈ graph.nodes) (hb : b ∈ graph.nodes) :
    ((∃ path, graph.shortest_path a b = some path) ↔ Relation.ReflTransGen (Joined graph) a b) ∧
    (∀ path, graph.shortest_path a b = some path → LivePath graph a b path ∧ path.Nodup ∧
      ∀ other, LivePath graph a b other → path.length ≤ other.length) ∧
    (a ≠ b → ∀ s current, BreadthFirst.Visits graph.direct_neighbors a b s current b → b ∉ s.visited →
      ∃ path, BreadthFirst.chase (s.previous.insert b current) a (s.previous.insert b current).size b [b] = some path) ∧
    (∀ network routes, desired_node_routes graph a network = .ok routes → ∀ route ∈ routes,
      ∃ destination path, route.destination = .Node destination ∧ graph.shortest_path a destination = some path) ∧
    (graph.reachability a b = .Unreachable ↔ graph.reachability b a = .Unreachable) := by
  refine ⟨exists_shortest_path_iff ha hb, fun path hpath => ?_, fun hne s current hvisits hnew => ?_,
    fun network routes hroutes route hroute => ?_, unreachable_symm ha hb, unreachable_symm hb ha⟩
  · obtain ⟨⟨other, hother, hrest⟩, -⟩ | ⟨hnone, -⟩ := shortest_path_spec ha hb
    · obtain rfl := Option.some.inj (hpath.symm.trans hother)
      exact hrest
    · cases hpath.symm.trans hnone
  · exact hvisits.chase_ne_none hne hnew
  · exact shortest_path_of_route hgrounded ha hroutes hroute

theorem shortest_path_correct_joined :
    (build joined).shortest_path (.filled 1) (.filled 3) =
      some [.filled 1, .filled 2, .filled 3] ∧
    ∀ other, LivePath (build joined) (.filled 1) (.filled 3) other → 3 ≤ other.length := by
  have hpath : (build joined).shortest_path (.filled 1) (.filled 3) =
      some [.filled 1, .filled 2, .filled 3] := by decide +kernel
  refine ⟨hpath, ?_⟩
  exact ((shortest_path_correct (build joined) (grounded_build _) (.filled 1)
    (.filled 3) (by decide +kernel) (by decide +kernel)).2.1 _ hpath).2.2

end ShortestPath

end blueroute.route_planner
