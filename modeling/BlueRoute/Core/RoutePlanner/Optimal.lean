import BlueRoute.Core.RoutePlanner.Forwarding
import BlueRoute.Core.RoutePlanner.Paths

namespace blueroute.route_planner

open Fallible

variable {graph : TopologyGraph} {source : NodeId} {network : NetworkId} {routes : List Route}

variable {v : NodeId}

/-- A finished search knows every path at least as well as the path itself. -/
theorem best_le_path {search : BestFirst.State NodeId Label}
    (h : Loop.Exits (BestFirst.State.body (offers graph source)) (BestFirst.State.init source (Label.new 0 0 source))
      (.ok search))
    {path : List (NodeId × PanLink)} (hpath : RoutingPath graph source v path) :
    ∃ label, search.best[v]? = some label ∧ label ≤ path_label source path := by
  obtain ⟨-, hstart, hclosed⟩ := BestFirst.found_of_exits (growing_offers graph source) h
  induction hpath with
  | @link v link hlink =>
    obtain ⟨offered, hoffers, hkept⟩ := hclosed source _ hstart
    obtain ⟨label, hlabel, hle⟩ := hkept _ (mem_offered (.inl rfl) hlink hoffers)
    rw [if_pos rfl] at hle
    exact ⟨label, hlabel, hle.trans_eq (link_label v link).symm⟩
  | @extend u v link path hpath hroutes hlink ih =>
    obtain ⟨label, hlabel, hle⟩ := ih
    obtain ⟨offered, hoffers, hkept⟩ := hclosed u label hlabel
    obtain ⟨better, hbetter, hbetter_le⟩ := hkept _ (mem_offered (.inr hroutes) hlink hoffers)
    refine ⟨better, hbetter, hbetter_le.trans (hpath.offer_le hle fun hsource => ?_)⟩
    rw [hsource, hstart] at hlabel
    exact (Option.some.inj hlabel).symm

variable {label : Label}

/-- The labels of a finished search are those of the least paths. -/
theorem least_path_of_best {search : BestFirst.State NodeId Label}
    (h : Loop.Exits (BestFirst.State.body (offers graph source)) (BestFirst.State.init source (Label.new 0 0 source))
      (.ok search))
    (hlabel : search.best[v]? = some label) (hother : v ≠ source) :
    ∃ path, RoutingPath graph source v path ∧ path_label source path = label ∧
      ∀ other, RoutingPath graph source v other → label ≤ path_label source other := by
  have hderived := (BestFirst.found_of_exits (growing_offers graph source) h).1 v label hlabel
  obtain ⟨hsource, -⟩ | ⟨path, hpath, hsame⟩ := path_of_derived hderived
  · exact absurd hsource hother
  · refine ⟨path, hpath, hsame, fun other hpath => ?_⟩
    obtain ⟨found, hfound, hle⟩ := best_le_path h hpath
    obtain rfl := Option.some.inj (hlabel.symm.trans hfound)
    exact hle

/-- The destinations of a table, in the order of the search's labels. -/
theorem destinations_of_mapM {labels : List (NodeId × Label)}
    (h : labels.mapM (fun (node, label) => route_to network node label) = .ok routes) :
    routes.map (·.destination) = (labels.map Prod.fst).map .Node := by
  induction labels generalizing routes with
  | nil =>
    obtain rfl := Except.ok.inj h
    rfl
  | cons entry rest ih =>
    rw [List.mapM_cons, bind_eq_ok_iff] at h
    obtain ⟨route, hroute, hrest⟩ := h
    rw [bind_eq_ok_iff] at hrest
    obtain ⟨others, hothers, hroutes⟩ := hrest
    obtain rfl := Except.ok.inj hroutes
    rw [List.map_cons, ih hothers, (route_to_eq_ok hroute).1]
    rfl

theorem labels_pairwise (best : Ordered.Map NodeId Label) (source : NodeId) :
    ((best.toList.filter fun (node, _) => node ≠ source).map Prod.fst).Pairwise (· < ·) := by
  rw [List.pairwise_map]
  refine List.Pairwise.sublist List.filter_sublist ?_
  exact (Std.ExtTreeMap.ordered_keys_toList (t := best)).imp fun h => compare_lt_iff_lt.mp h

theorem owner_of_route_to {node : NodeId} {route : Route} (h : route_to network node label = .ok route) :
    route.owner = .BlueRouteNetwork network := by
  simp only [route_to, bind_eq_ok_iff] at h
  obtain ⟨cost, -, hroute⟩ := h
  obtain rfl := Except.ok.inj hroute
  rfl

theorem exists_mapM_eq_ok {labels : List (NodeId × Label)} (h : ∀ entry ∈ labels, entry.2.cost < 2 ^ 32) :
    ∃ routes, labels.mapM (fun (node, label) => route_to network node label) = .ok routes := by
  induction labels with
  | nil => exact ⟨[], rfl⟩
  | cons entry rest ih =>
    obtain ⟨hentry, hrest⟩ := List.forall_mem_cons.mp h
    obtain ⟨routes, hroutes⟩ := ih hrest
    obtain ⟨route, hroute⟩ : ∃ route, route_to network entry.1 entry.2 = .ok route := by
      rw [route_to, u32_try_from, if_pos hentry]
      exact ⟨_, rfl⟩
    refine ⟨route :: routes, ?_⟩
    rw [List.mapM_cons, hroutes]
    change (route_to network entry.1 entry.2 >>= _) = _
    rw [hroute]
    rfl

/-- A table lists the destinations that a path leads to. -/
theorem exists_route_iff (h : desired_node_routes graph source network = .ok routes) (destination : NodeId) :
    (∃ route ∈ routes, route.destination = .Node destination) ↔
      destination ≠ source ∧ ∃ path, RoutingPath graph source destination path := by
  obtain ⟨search, hexits, hmap⟩ := search_of_ok h
  obtain ⟨hforward, hbackward⟩ := mem_of_mapM_eq_ok hmap
  constructor
  · rintro ⟨route, hroute, hdestination⟩
    obtain ⟨⟨node, label⟩, hentry, hto⟩ := hbackward route hroute
    obtain ⟨hlabel, hother⟩ := mem_labels.mp hentry
    obtain rfl := RouteDestination.Node.inj ((route_to_eq_ok hto).1.symm.trans hdestination)
    obtain ⟨path, hpath, -⟩ := least_path_of_best hexits hlabel hother
    exact ⟨hother, path, hpath⟩
  · rintro ⟨hother, path, hpath⟩
    obtain ⟨label, hlabel, -⟩ := best_le_path hexits hpath
    obtain ⟨route, hroute, hto⟩ := hforward (destination, label) (mem_labels.mpr ⟨hlabel, hother⟩)
    exact ⟨route, hroute, (route_to_eq_ok hto).1⟩

/-- The costs of the paths to a destination. -/
def path_costs (graph : TopologyGraph) (source destination : NodeId) : Set Nat :=
  {cost | ∃ path, RoutingPath graph source destination path ∧ path_cost path = cost}

theorem isLeast_of_derived (hother : v ≠ source)
    (hderived : BestFirst.Derived (offers graph source) source (Label.new 0 0 source) v label)
    (hfits : label.cost < 2 ^ 64)
    (hleast : ∀ other, BestFirst.Derived (offers graph source) source (Label.new 0 0 source) v other → label ≤ other) :
    IsLeast (path_costs graph source v) label.cost := by
  constructor
  · obtain ⟨hsource, -⟩ | ⟨path, hpath, rfl⟩ := path_of_derived hderived
    · exact absurd hsource hother
    · exact ⟨path, hpath, rfl⟩
  · rintro _ ⟨path, hpath, rfl⟩
    by_cases hcost : path_cost path < 2 ^ 64
    · obtain ⟨other, hle, -, hother⟩ := derived_of_path hpath hcost
      exact Label.cost_le_of_le ((hleast other hother).trans hle)
    · exact hfits.le.trans (not_lt.mp hcost)

theorem edge_cost_le (link : PanLink) : edge_cost link ≤ 2 ^ 32 + 100 := by
  have := link.cost.toNat_lt
  unfold edge_cost DEGRADED_LINK_COST_PENALTY
  split_ifs <;> omega

theorem cost_lt_of_derived (h : BestFirst.Derived (offers graph source) source (Label.new 0 0 source) v label) :
    label.cost < 2 ^ 64 := by
  cases h with
  | start => exact Nat.two_pow_pos _
  | offer _ _ hoffer =>
    obtain ⟨-, link, -, hfits, rfl⟩ := mem_offers hoffer
    exact hfits

/-- Where the least costs fit a route metric, no sum of the search overflows. -/
theorem search_ok (hcosts : ∀ destination least, destination ≠ source →
      IsLeast (path_costs graph source destination) least → least < 2 ^ 32) :
    ∃ search, Loop.run (BestFirst.State.body (offers graph source)) (search_fuel graph)
      (BestFirst.State.init source (Label.new 0 0 source)) = .ok search := by
  refine BestFirst.exists_ok_of_exits (growing_offers graph source) (monotone_offers graph source) ?_
    (search_exits graph source)
  intro v label error hderived hleast herror
  have hsmall : label.cost < 2 ^ 32 := by
    by_cases hsource : v = source
    · subst hsource
      have hcost := Label.cost_le_of_le (hleast _ .start)
      exact lt_of_le_of_lt hcost (Nat.two_pow_pos _)
    · exact hcosts v _ hsource (isLeast_of_derived hsource hderived (cost_lt_of_derived hderived) hleast)
  -- an offer from so small a label cannot fail
  have hnever (link : PanLink) : offer_link source v label link ≠ some (.error error) := by
    have hfits : label.cost + edge_cost link < 2 ^ 64 := by
      have := edge_cost_le link
      omega
    unfold offer_link
    split
    · simp
    · split
      · simp
      · rw [checked_add_u64, if_pos hfits]
        intro hsome
        cases hsome
  unfold offers at herror
  split at herror
  · cases herror
  · obtain ⟨⟨id, link⟩, -, hlink⟩ := List.mem_filterMap.mp herror
    exact hnever link hlink

/-- The table of a source. It exists exactly if every least cost fits a route metric, and then it lists
the destinations that can be reached, in order, each with the first hop and the cost of the path that is
least by cost, hops and first hop. -/
theorem desired_node_routes_optimal (graph : TopologyGraph) (source : NodeId) (network : NetworkId)
    (hsource : source ∈ graph.nodes) :
    ((∃ routes, desired_node_routes graph source network = .ok routes) ↔
      ∀ destination least, destination ≠ source →
        IsLeast (path_costs graph source destination) least → least < 2 ^ 32) ∧
    ∀ routes, desired_node_routes graph source network = .ok routes →
      ∃ destinations : List NodeId, routes.map (·.destination) = destinations.map .Node ∧
        destinations.Pairwise (· < ·) ∧
        (∀ destination, destination ∈ destinations ↔
          destination ≠ source ∧ ∃ path, RoutingPath graph source destination path) ∧
        ∀ route ∈ routes, ∀ destination, route.destination = .Node destination →
          route.owner = .BlueRouteNetwork network ∧
          ∃ path, RoutingPath graph source destination path ∧ (source :: path.map Prod.fst).Nodup ∧
            route.cost.toNat = path_cost path ∧ path.head?.map Prod.fst = some route.next_hop ∧
            ∀ other, RoutingPath graph source destination other → path_label source path ≤ path_label source other := by
  refine ⟨⟨?_, ?_⟩, ?_⟩
  · rintro ⟨routes, hroutes⟩ destination least hother ⟨⟨path, hpath, rfl⟩, hleast⟩
    obtain ⟨search, hexits, hmap⟩ := search_of_ok hroutes
    obtain ⟨label, hlabel, -⟩ := best_le_path hexits hpath
    obtain ⟨best, hbest, hsame, -⟩ := least_path_of_best hexits hlabel hother
    obtain ⟨route, -, hroute⟩ := (mem_of_mapM_eq_ok hmap).1 (destination, label) (mem_labels.mpr ⟨hlabel, hother⟩)
    calc path_cost path ≤ path_cost best := hleast ⟨best, hbest, rfl⟩
      _ = label.cost := congrArg Label.cost hsame
      _ = route.cost.toNat := (route_to_eq_ok hroute).2.2.symm
      _ < 2 ^ 32 := route.cost.toNat_lt
  · intro hcosts
    obtain ⟨search, hsearch⟩ := search_ok hcosts
    have hexits := search_exits graph source
    rw [hsearch] at hexits
    obtain ⟨capabilities, hnode⟩ := Ordered.mem_iff_exists.mp hsource
    have hknown : (graph.node source).isNone = false := by rw [TopologyGraph.node, hnode, Option.isNone_some]
    rw [desired_node_routes, hknown, hsearch]
    refine exists_mapM_eq_ok fun entry hentry => ?_
    obtain ⟨node, label⟩ := entry
    obtain ⟨hlabel, hother⟩ := mem_labels.mp hentry
    obtain ⟨path, hpath, hsame, hleast⟩ := least_path_of_best hexits hlabel hother
    refine hcosts node _ hother ⟨⟨path, hpath, congrArg Label.cost hsame⟩, ?_⟩
    rintro _ ⟨other, hpath, rfl⟩
    exact Label.cost_le_of_le (hleast other hpath)
  · intro routes hroutes
    obtain ⟨search, hexits, hmap⟩ := search_of_ok hroutes
    have hdestinations := destinations_of_mapM hmap
    refine ⟨_, hdestinations, ?_, fun destination => ?_, fun route hroute destination hnode => ?_⟩
    · exact labels_pairwise search.best source
    · rw [← exists_route_iff hroutes, ← List.mem_map_of_injective fun _ _ => RouteDestination.Node.inj, ← hdestinations]
      exact List.mem_map
    · obtain ⟨⟨node, label⟩, hentry, hto⟩ := (mem_of_mapM_eq_ok hmap).2 route hroute
      obtain ⟨hlabel, hother⟩ := mem_labels.mp hentry
      obtain ⟨hdestination, hhop, hcost⟩ := route_to_eq_ok hto
      obtain rfl := RouteDestination.Node.inj (hdestination.symm.trans hnode)
      obtain ⟨path, hpath, rfl, hleast⟩ := least_path_of_best hexits hlabel hother
      obtain ⟨simple, hsimple, hnodup, hcut⟩ := hpath.exists_simple hother
      -- a least path has no detour to cut
      have hsame : simple = path := by
        refine hcut.resolve_right fun hless => ?_
        exact absurd (Label.cost_le_of_le (hleast simple hsimple)) (not_le.mpr hless)
      subst hsame
      refine ⟨owner_of_route_to hto, simple, hsimple, hnodup, hcost, ?_, hleast⟩
      obtain ⟨first, rest, rfl⟩ := List.exists_cons_of_ne_nil hsimple.ne_nil
      exact congrArg some hhop.symm

/-- Over the router, the penalty of the degraded link included. -/
theorem desired_node_routes_optimal_line :
    ∃ path, RoutingPath (TopologyGraph.build sample_line) (Id.filled 1) (Id.filled 3) path ∧ path_cost path = 102 ∧
      path.head?.map Prod.fst = some (Id.filled 2) := by
  have hsource : Id.filled 1 ∈ (TopologyGraph.build sample_line).nodes := by decide +kernel
  obtain ⟨destinations, -, -, -, hroutes⟩ :=
    (desired_node_routes_optimal _ _ _ hsource).2 _ (sample_tables_eq hsource)
  obtain ⟨-, path, hpath, -, hcost, hfirst, -⟩ :=
    hroutes ⟨.Node (Id.filled 3), Id.filled 2, 102, .BlueRouteNetwork (Id.filled 9)⟩ (by decide +kernel) _ rfl
  exact ⟨path, hpath, hcost.symm, hfirst⟩

end blueroute.route_planner
