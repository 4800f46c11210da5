import BlueRoute.Base.BreadthFirst
import BlueRoute.Core.Topology

namespace blueroute

open BreadthFirst

/-- User/data-plane reachability class derived from the active PAN graph. -/
inductive Reachability where
  | Local
  | DirectLink
  | SamePanSegment
  | Routed
  | Unreachable
deriving DecidableEq

namespace TopologyGraph

def direct_neighbors (graph : TopologyGraph) (node : NodeId) : Finset NodeId :=
  ((graph.links.toList.filter fun (_, link) => link.is_forwarding_candidate).filterMap
    fun (_, link) => link.other_endpoint node).toFinset

/-- The number of iterations that a search needs at most. -/
def path_fuel (graph : TopologyGraph) : Nat := 2 * graph.links.toList.length + 2

/-- Returns a deterministic minimum-hop path through active links, including both endpoints. -/
def shortest_path (graph : TopologyGraph) (start end_ : NodeId) : Option (List NodeId) :=
  if graph.nodes[start]?.isNone || graph.nodes[end_]?.isNone then none
  else if start = end_ then some [start]
  else match Loop.run (State.body graph.direct_neighbors start end_) graph.path_fuel (.init start) with
    | .error path => some path
    | .ok _ => none

def is_directly_reachable (graph : TopologyGraph) (start end_ : NodeId) : Bool :=
  end_ ∈ graph.direct_neighbors start

def node_is_active_in_segment (graph : TopologyGraph) (node : NodeId) (segment_id : SegmentId) : Bool :=
  match graph.segments[segment_id]? with
  | none => false
  | some segment =>
    node = segment.nap || graph.links.toList.any fun (_, link) =>
      link.segment_id = segment_id && link.panu = node && link.is_forwarding_candidate

def same_active_segment (graph : TopologyGraph) (start end_ : NodeId) : Bool :=
  graph.segments.toList.any fun (_, segment) =>
    graph.node_is_active_in_segment start segment.id && graph.node_is_active_in_segment end_ segment.id

def reachability (graph : TopologyGraph) (start end_ : NodeId) : Reachability :=
  match graph.shortest_path start end_ with
  | none => .Unreachable
  | some path =>
    if path.length = 1 then .Local
    else if path.length = 2 then .DirectLink
    else if graph.same_active_segment start end_ then .SamePanSegment
    else .Routed

variable {graph : TopologyGraph} {start end_ u v : NodeId}

theorem mem_direct_neighbors : v ∈ graph.direct_neighbors u ↔
    ∃ (id : LinkId) (link : PanLink), graph.links[id]? = some link ∧ link.is_forwarding_candidate = true ∧
      link.other_endpoint u = some v := by
  simp only [direct_neighbors, List.mem_toFinset, List.mem_filterMap, List.mem_filter, Prod.exists, Ordered.mem_toList,
    and_assoc]

/-- The vertices that a search can come to. -/
theorem direct_neighbors_subset (graph : TopologyGraph) (start node : NodeId) : graph.direct_neighbors node ⊆
    insert start (graph.links.toList.flatMap fun (_, link) => [link.nap, link.panu]).toFinset := by
  intro v hv
  obtain ⟨id, link, hlink, -, hjoins⟩ := mem_direct_neighbors.mp hv
  refine Finset.mem_insert_of_mem (List.mem_toFinset.mpr (List.mem_flatMap.mpr ⟨(id, link), ?_, ?_⟩))
  · exact Ordered.mem_toList.mpr hlink
  · obtain ⟨-, rfl⟩ | ⟨-, rfl⟩ := PanLink.other_endpoint_eq_some hjoins <;> simp

theorem path_search_exits (graph : TopologyGraph) (hne : start ≠ end_) :
    Loop.Exits (State.body graph.direct_neighbors start end_) (.init start)
      (Loop.run (State.body graph.direct_neighbors start end_) graph.path_fuel (.init start)) := by
  refine search_exits hne (Finset.mem_insert_self _ _) (graph.direct_neighbors_subset start) ?_
  exact Nat.lt_succ_of_le (graph.card_endpoints_le start)

/-- Between two different nodes, a shortest path over live links is found wherever there is one. -/
theorem shortest_path_cases (hstart : start ∈ graph.nodes) (hend : end_ ∈ graph.nodes) (hne : start ≠ end_) :
    (∃ path, graph.shortest_path start end_ = some path ∧ Found graph.direct_neighbors start end_ path) ∨
      graph.shortest_path start end_ = none ∧ ∀ n, ¬ Walk graph.direct_neighbors start n end_ := by
  obtain ⟨capabilities, hnode⟩ := Ordered.mem_iff_exists.mp hstart
  obtain ⟨capabilities', hnode'⟩ := Ordered.mem_iff_exists.mp hend
  unfold shortest_path
  rw [hnode, hnode', if_neg (by simp), if_neg hne]
  obtain ⟨path, hresult, hfound⟩ | ⟨final, hresult, hnone⟩ :=
    search_cases hne (graph.path_search_exits hne)
  · rw [hresult]
    exact .inl ⟨path, rfl, hfound⟩
  · rw [hresult]
    exact .inr ⟨rfl, hnone⟩

/-- What it means that two nodes are reported as routed. -/
theorem reachability_eq_routed_iff (hstart : start ∈ graph.nodes) (hend : end_ ∈ graph.nodes) :
    graph.reachability start end_ = .Routed ↔
      start ≠ end_ ∧ (∃ n, Walk graph.direct_neighbors start n end_) ∧
        graph.is_directly_reachable start end_ = false ∧ graph.same_active_segment start end_ = false := by
  unfold reachability
  by_cases hsame : start = end_
  · subst hsame
    obtain ⟨capabilities, hnode⟩ := Ordered.mem_iff_exists.mp hstart
    have hpath : graph.shortest_path start start = some [start] := by
      rw [shortest_path, hnode, if_neg (by simp), if_pos rfl]
    rw [hpath]
    simp
  · obtain ⟨path, hpath, hfound⟩ | ⟨hpath, hnone⟩ := shortest_path_cases hstart hend hsame
    · obtain ⟨n, hwalk⟩ := hfound.reached
      have hlength := hfound.length_eq
      have hzero := mt (distance_eq_zero_iff hwalk).mp (Ne.symm hsame)
      have hone := distance_eq_one_iff hwalk (Ne.symm hsame)
      rw [hpath]
      dsimp only
      rw [if_neg (by omega), is_directly_reachable]
      by_cases hdirect : end_ ∈ graph.direct_neighbors start
      · have := hone.mpr hdirect
        rw [if_pos (by omega)]
        simp [hdirect]
      · have := mt hone.mp hdirect
        rw [if_neg (by omega)]
        simp only [hsame, hdirect, ne_eq, not_false_eq_true, decide_false, true_and, iff_and_self, ite_eq_right_iff,
          reduceCtorEq, imp_false, Bool.not_eq_true]
        exact fun _ => ⟨n, hwalk⟩
    · rw [hpath]
      simp only [reduceCtorEq, false_iff]
      rintro ⟨-, ⟨n, hwalk⟩, -⟩
      exact hnone n hwalk

end TopologyGraph

end blueroute
