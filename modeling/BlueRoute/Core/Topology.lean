import BlueRoute.Base.Ordered
import BlueRoute.Core.Capability
import BlueRoute.Core.Id

namespace blueroute

open Fallible

inductive LinkState where
  | Planned
  | Connecting
  | Active
  | Disconnected
  | Failed
deriving DecidableEq

inductive LinkHealth where
  | Unknown
  | Healthy
  | Degraded
  | Failed
deriving DecidableEq

/-- One BNEP/PAN relationship. The NAP and PANU roles are explicit internally. -/
structure PanLink where
  id : LinkId
  segment_id : SegmentId
  nap : NodeId
  panu : NodeId
  state : LinkState
  health : LinkHealth
  cost : UInt32
deriving DecidableEq

namespace PanLink

def is_forwarding_candidate (link : PanLink) : Bool := link.state = .Active && link.health ≠ .Failed

def other_endpoint (link : PanLink) (node : NodeId) : Option NodeId :=
  if node = link.nap then some link.panu
  else if node = link.panu then some link.nap
  else none

theorem other_endpoint_eq_some {link : PanLink} {node other : NodeId} (h : link.other_endpoint node = some other) :
    (node = link.nap ∧ other = link.panu) ∨ (node = link.panu ∧ other = link.nap) := by
  unfold other_endpoint at h
  split at h
  · next hnap => exact .inl ⟨hnap, (Option.some.inj h).symm⟩
  · split at h
    · next hpanu => exact .inr ⟨hpanu, (Option.some.inj h).symm⟩
    · cases h

end PanLink

structure PanSegment where
  id : SegmentId
  nap : NodeId
  members : Finset NodeId
deriving DecidableEq

def PanSegment.new (id : SegmentId) (nap : NodeId) : PanSegment := { id, nap, members := {nap} }

def PanSegment.add_member (segment : PanSegment) (node : NodeId) : PanSegment :=
  { segment with members := insert node segment.members }

def PanSegment.remove_member (segment : PanSegment) (node : NodeId) : PanSegment :=
  { segment with members := segment.members.erase node }

structure TopologyGraph where
  nodes : Ordered.Map NodeId NodeCapabilities
  links : Ordered.Map LinkId PanLink
  segments : Ordered.Map SegmentId PanSegment

namespace TopologyGraph

def default : TopologyGraph := { nodes := ∅, links := ∅, segments := ∅ }

def node (graph : TopologyGraph) (id : NodeId) : Option NodeCapabilities := graph.nodes[id]?

def add_node (graph : TopologyGraph) (id : NodeId) (capabilities : NodeCapabilities) : Bool × TopologyGraph :=
  (graph.nodes[id]?.isNone, { graph with nodes := graph.nodes.insert id capabilities })

def remove_node (graph : TopologyGraph) (id : NodeId) : Option NodeCapabilities × TopologyGraph :=
  match graph.nodes[id]? with
  | none => (none, graph)
  | some removed =>
    (some removed,
      { nodes := graph.nodes.erase id
        links := graph.links.filter fun _ link => link.nap ≠ id && link.panu ≠ id
        segments := (graph.segments.filter fun _ segment => segment.nap ≠ id).map
          fun _ segment => segment.remove_member id })

def add_segment (graph : TopologyGraph) (segment : PanSegment) : Result Bool × TopologyGraph :=
  if graph.nodes[segment.nap]?.isNone then
    (.error (.new .TopologyFailure "PAN segment NAP is not present in the topology"), graph)
  else
    (.ok graph.segments[segment.id]?.isNone,
      { graph with segments := graph.segments.insert segment.id segment })

def add_link (graph : TopologyGraph) (link : PanLink) : Result Bool × TopologyGraph :=
  if link.nap = link.panu then
    (.error (.new .TopologyFailure "PAN link endpoints must be different nodes"), graph)
  else if graph.nodes[link.nap]?.isNone || graph.nodes[link.panu]?.isNone then
    (.error (.new .TopologyFailure "PAN link endpoint is not present in the topology"), graph)
  else match graph.segments[link.segment_id]? with
    | none => (.error (.new .TopologyFailure "PAN link references an unknown segment"), graph)
    | some segment =>
      if segment.nap ≠ link.nap then
        (.error (.new .TopologyFailure "PAN link NAP does not match the segment NAP"), graph)
      else
        (.ok graph.links[link.id]?.isNone,
          { graph with
            links := graph.links.insert link.id link
            segments := graph.segments.insert link.segment_id (segment.add_member link.panu) })

def remove_link (graph : TopologyGraph) (id : LinkId) : Option PanLink × TopologyGraph :=
  match graph.links[id]? with
  | none => (none, graph)
  | some removed =>
    let links := graph.links.erase id
    let segments := match graph.segments[removed.segment_id]? with
      | none => graph.segments
      | some segment =>
        let still_attached := links.toList.any fun (_, link) =>
          link.segment_id = removed.segment_id && link.panu = removed.panu
        if still_attached then graph.segments
        else graph.segments.insert removed.segment_id (segment.remove_member removed.panu)
    (some removed, { graph with links, segments })

/-- The nodes that the links of a graph lead to from a node are at most two for each link, and the node. -/
theorem card_endpoints_le (graph : TopologyGraph) (start : NodeId) :
    (insert start (graph.links.toList.flatMap fun (_, link) => [link.nap, link.panu]).toFinset).card ≤
      2 * graph.links.toList.length + 1 := by
  have hlength : (graph.links.toList.flatMap fun (_, link) => [link.nap, link.panu]).length =
      2 * graph.links.toList.length := by
    rw [List.length_flatMap]
    simp [mul_comm]
  refine (Finset.card_insert_le _ _).trans (Nat.succ_le_succ ?_)
  rw [← hlength]
  exact List.toFinset_card_le _

/-- A call of one of the mutators. -/
inductive Mutation where
  | add_node (id : NodeId) (capabilities : NodeCapabilities)
  | remove_node (id : NodeId)
  | add_segment (segment : PanSegment)
  | add_link (link : PanLink)
  | remove_link (id : LinkId)

/-- The graph after a call, whether it succeeded or not. -/
def apply (graph : TopologyGraph) : Mutation → TopologyGraph
  | .add_node id capabilities => (graph.add_node id capabilities).2
  | .remove_node id => (graph.remove_node id).2
  | .add_segment segment => (graph.add_segment segment).2
  | .add_link link => (graph.add_link link).2
  | .remove_link id => (graph.remove_link id).2

/-- The graph that a sequence of calls builds. -/
def build (mutations : List Mutation) : TopologyGraph := mutations.foldl apply default

/-- Every link joins two nodes of the graph. -/
def Grounded (graph : TopologyGraph) : Prop :=
  ∀ (id : LinkId) (link : PanLink), graph.links[id]? = some link → link.nap ∈ graph.nodes ∧ link.panu ∈ graph.nodes

/-- Removing links and adding nodes keeps a graph grounded. -/
theorem Grounded.mono {graph after : TopologyGraph} (h : graph.Grounded)
    (hlinks : ∀ (id : LinkId) (link : PanLink), after.links[id]? = some link → graph.links[id]? = some link)
    (hnodes : ∀ id, id ∈ graph.nodes → id ∈ after.nodes) : after.Grounded := by
  intro id link hlink
  obtain ⟨hnap, hpanu⟩ := h id link (hlinks id link hlink)
  exact ⟨hnodes _ hnap, hnodes _ hpanu⟩

variable {graph : TopologyGraph}

theorem Grounded.remove_node (h : graph.Grounded) (id : NodeId) : (graph.remove_node id).2.Grounded := by
  unfold TopologyGraph.remove_node
  split
  · exact h
  · intro link_id link hlink
    dsimp only at hlink ⊢
    rw [Std.ExtTreeMap.getElem?_filter', Option.filter_eq_some_iff] at hlink
    obtain ⟨hlink, hkept⟩ := hlink
    obtain ⟨hnap, hpanu⟩ := h link_id link hlink
    simp only [Bool.and_eq_true, decide_eq_true_eq] at hkept
    exact ⟨Ordered.mem_erase_iff.mpr ⟨hkept.1, hnap⟩, Ordered.mem_erase_iff.mpr ⟨hkept.2, hpanu⟩⟩

theorem Grounded.add_segment (h : graph.Grounded) (segment : PanSegment) :
    (graph.add_segment segment).2.Grounded := by
  unfold TopologyGraph.add_segment
  split
  · exact h
  · exact h.mono (fun _ _ hlink => hlink) fun _ hmem => hmem

theorem Grounded.add_link (h : graph.Grounded) (link : PanLink) : (graph.add_link link).2.Grounded := by
  unfold TopologyGraph.add_link
  split
  · exact h
  · split
    · exact h
    · next hpresent =>
      split
      · exact h
      · split
        · exact h
        · simp only [Bool.or_eq_true, Option.isNone_iff_eq_none, not_or] at hpresent
          intro id other hother
          dsimp only at hother ⊢
          rw [Ordered.getElem?_insert_eq] at hother
          split at hother
          · obtain rfl := Option.some.inj hother
            exact ⟨Ordered.mem_iff_exists.mpr (Option.ne_none_iff_exists'.mp hpresent.1),
              Ordered.mem_iff_exists.mpr (Option.ne_none_iff_exists'.mp hpresent.2)⟩
          · exact h id other hother

theorem Grounded.remove_link (h : graph.Grounded) (id : LinkId) : (graph.remove_link id).2.Grounded := by
  unfold TopologyGraph.remove_link
  split
  · exact h
  · refine h.mono (fun other link hlink => ?_) fun _ hmem => hmem
    dsimp only at hlink
    rw [Ordered.getElem?_erase_eq] at hlink
    split at hlink
    · cases hlink
    · exact hlink

theorem Grounded.apply (h : graph.Grounded) (mutation : Mutation) : (graph.apply mutation).Grounded := by
  cases mutation with
  | add_node id capabilities =>
    exact h.mono (fun _ _ hlink => hlink) fun other hmem => Ordered.mem_insert_iff.mpr (.inr hmem)
  | remove_node id => exact h.remove_node id
  | add_segment segment => exact h.add_segment segment
  | add_link link => exact h.add_link link
  | remove_link id => exact h.remove_link id

/-- Every graph that the mutators build is grounded. -/
theorem grounded_build (mutations : List Mutation) : (build mutations).Grounded := by
  have hrun (graph : TopologyGraph) (h : graph.Grounded) : (mutations.foldl TopologyGraph.apply graph).Grounded := by
    induction mutations generalizing graph with
    | nil => exact h
    | cons mutation rest ih => exact ih _ (h.apply mutation)
  refine hrun default fun id link hlink => ?_
  simp [default] at hlink

end TopologyGraph

end blueroute
