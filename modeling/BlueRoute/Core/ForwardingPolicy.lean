import BlueRoute.Core.RoutePlanner.Forwarding

namespace blueroute.forwarding_policy

open Fallible Transit route_planner TopologyGraph

/-- The segments in which a node has live links. -/
def active_segments (graph : TopologyGraph) (local_ : NodeId) : Finset SegmentId :=
  ((graph.links.toList.filter fun (_, link) =>
    link.is_forwarding_candidate && (link.nap = local_ || link.panu = local_)).map
      fun (_, link) => link.segment_id).toFinset

/-- Forwarding is needed only for a routing-capable node with live links in at least two distinct PAN segments. -/
def desired_ipv4_forwarding (graph : TopologyGraph) (local_ : NodeId) : Result Bool := do
  let capabilities ← ok_or (graph.node local_) (CoreError.new .InvalidInput "local node is not in topology")
  if capabilities.can_route ≠ some true then pure false
  else pure (decide ((active_segments graph local_).card ≥ 2))

/-- A live link of a node in a segment. -/
def LinkIn (graph : TopologyGraph) (node : NodeId) (segment : SegmentId) : Prop :=
  ∃ (id : LinkId) (link : PanLink), graph.links[id]? = some link ∧ link.is_forwarding_candidate = true ∧
    (link.nap = node ∨ link.panu = node) ∧ link.segment_id = segment

variable {graph : TopologyGraph}

theorem mem_active_segments {node : NodeId} {segment : SegmentId} :
    segment ∈ active_segments graph node ↔ LinkIn graph node segment := by
  simp only [active_segments, LinkIn, List.mem_toFinset, List.mem_map, List.mem_filter, Bool.and_eq_true,
    Bool.or_eq_true, decide_eq_true_eq, Prod.exists, Ordered.mem_toList]
  constructor
  · rintro ⟨id, link, ⟨hlink, hactive, hends⟩, hsegment⟩
    exact ⟨id, link, hlink, hactive, hends, hsegment⟩
  · rintro ⟨id, link, hlink, hactive, hends, hsegment⟩
    exact ⟨id, link, ⟨hlink, hactive, hends⟩, hsegment⟩

theorem desired_ipv4_forwarding_eq_true_iff {node : NodeId} :
    desired_ipv4_forwarding graph node = .ok true ↔
      (graph.node node).bind NodeCapabilities.can_route = some true ∧
        ∃ segment other, segment ≠ other ∧ LinkIn graph node segment ∧ LinkIn graph node other := by
  have hcard : (active_segments graph node).card ≥ 2 ↔
      ∃ segment other, segment ≠ other ∧ LinkIn graph node segment ∧ LinkIn graph node other := by
    rw [ge_iff_le, Nat.succ_le_iff, Finset.one_lt_card]
    simp only [mem_active_segments]
    constructor
    · rintro ⟨segment, hsegment, other, hother, hne⟩
      exact ⟨segment, other, hne, hsegment, hother⟩
    · rintro ⟨segment, other, hne, hsegment, hother⟩
      exact ⟨segment, hsegment, other, hother, hne⟩
  unfold desired_ipv4_forwarding
  cases hnode : graph.node node with
  | none => simp [ok_or, bind_eq_ok_iff]
  | some capabilities =>
    change (if capabilities.can_route ≠ some true then .ok false else .ok _) = Except.ok true ↔ _
    rw [Option.bind_some, ← hcard]
    split_ifs with hroute
    · simp [hroute]
    · simp [not_not.mp hroute]

/-- Every link joins two nodes, in a segment of which its NAP is the NAP. -/
def Anchored (graph : TopologyGraph) : Prop :=
  ∀ (id : LinkId) (link : PanLink), graph.links[id]? = some link → link.nap ∈ graph.nodes ∧ link.panu ∈ graph.nodes ∧
    ∃ segment, graph.segments[link.segment_id]? = some segment ∧ segment.nap = link.nap

/-- The way of a packet: each node passes it to the next hop of its own table. -/
structure HopByHop (tables : NodeId → List Route) (source destination : NodeId) (path : List NodeId) : Prop where
  head : path.head? = some source
  last : path.getLast? = some destination
  hops : path.IsChain fun node next => ∃ route, listed (tables node) destination = some route ∧ route.next_hop = next

/-- A segment of which the node is the NAP and in which both neighbours have live links to it. -/
def Bridges (graph : TopologyGraph) (previous node next : NodeId) : Prop :=
  ∃ (id : SegmentId) (segment : PanSegment), graph.segments[id]? = some segment ∧ segment.nap = node ∧
    ∀ neighbor ∈ [previous, next], ∃ (link_id : LinkId) (link : PanLink), graph.links[link_id]? = some link ∧
      link.is_forwarding_candidate = true ∧ link.segment_id = id ∧ link.nap = node ∧ link.panu = neighbor

theorem linkIn_of_forwarding {u v : NodeId} {link : PanLink} (h : ForwardingLink graph u v link) :
    LinkIn graph u link.segment_id ∧ LinkIn graph v link.segment_id := by
  obtain ⟨id, hid⟩ := h.present
  obtain ⟨rfl, rfl⟩ | ⟨rfl, rfl⟩ := PanLink.other_endpoint_eq_some h.joins
  · exact ⟨⟨id, link, hid, h.active, .inl rfl, rfl⟩, ⟨id, link, hid, h.active, .inr rfl, rfl⟩⟩
  · exact ⟨⟨id, link, hid, h.active, .inr rfl, rfl⟩, ⟨id, link, hid, h.active, .inl rfl, rfl⟩⟩

/-- A router between two different neighbours has links in two segments, or is the NAP of the one that
both are in. -/
theorem forwards_or_bridges (hanchored : Anchored graph) {previous node next : NodeId} {before after : PanLink}
    (hrouter : (graph.node node).bind NodeCapabilities.can_route = some true)
    (hbefore : ForwardingLink graph previous node before) (hafter : ForwardingLink graph node next after)
    (hne : next ≠ previous) (hbefore_ne : previous ≠ node) (hafter_ne : next ≠ node) :
    desired_ipv4_forwarding graph node = .ok true ∨ Bridges graph previous node next := by
  by_cases hsegment : before.segment_id = after.segment_id
  · right
    obtain ⟨id, hid⟩ := hbefore.present
    obtain ⟨id', hid'⟩ := hafter.present
    obtain ⟨-, -, segment, hfound, hnap⟩ := hanchored id before hid
    obtain ⟨-, -, segment', hfound', hnap'⟩ := hanchored id' after hid'
    rw [hsegment, hfound'] at hfound
    obtain rfl := Option.some.inj hfound
    -- one NAP for both links: were it a neighbour, it would be both of them
    have hsame : before.nap = after.nap := hnap.symm.trans hnap'
    obtain ⟨hprevious, hnode⟩ | ⟨hprevious, hnode⟩ := PanLink.other_endpoint_eq_some hbefore.joins
    · obtain ⟨hnode', -⟩ | ⟨-, hnext⟩ := PanLink.other_endpoint_eq_some hafter.joins
      · exact absurd (hprevious.trans (hsame.trans hnode'.symm)) hbefore_ne
      · exact absurd (hnext.trans (hsame.symm.trans hprevious.symm)) hne
    · obtain ⟨hnode', hnext⟩ | ⟨-, hnext⟩ := PanLink.other_endpoint_eq_some hafter.joins
      · refine ⟨after.segment_id, segment', hfound', hnap'.trans hnode'.symm, ?_⟩
        intro neighbor hneighbor
        simp only [List.mem_cons, List.not_mem_nil, or_false] at hneighbor
        obtain rfl | rfl := hneighbor
        · exact ⟨id, before, hid, hbefore.active, hsegment, hnode.symm, hprevious.symm⟩
        · exact ⟨id', after, hid', hafter.active, rfl, hnode'.symm, hnext.symm⟩
      · exact absurd (hnext.trans (hsame.symm.trans hnode.symm)) hafter_ne
  · left
    rw [desired_ipv4_forwarding_eq_true_iff]
    exact ⟨hrouter, _, _, hsegment, (linkIn_of_forwarding hbefore).2, (linkIn_of_forwarding hafter).1⟩

section Tables

variable {tables : NodeId → List Route} {source destination : NodeId} {path : List NodeId}

theorem entry_of_listed {node : NodeId} {route : Route} (h : listed (tables node) destination = some route) :
    entry tables node destination = some (route.next_hop, route.cost.toNat) := by
  rw [entry, h]
  rfl

/-- The nodes on the way of a packet are known. -/
theorem HopByHop.known {known : NodeId → Prop}
    (htables : Tables (routing_network graph) known (entry tables)) (hsource : known source)
    (h : HopByHop tables source destination path) : ∀ node ∈ path, known node := by
  have hall (path : List NodeId) (head : NodeId) (hknown : known head)
      (hhops : (head :: path).IsChain fun node next =>
        ∃ route, listed (tables node) destination = some route ∧ route.next_hop = next) :
      ∀ node ∈ head :: path, known node := by
    induction path generalizing head with
    | nil =>
      intro node hnode
      obtain rfl := List.mem_singleton.mp hnode
      exact hknown
    | cons next rest ih =>
      obtain ⟨⟨route, hlisted, rfl⟩, hrest⟩ := List.isChain_cons_cons.mp hhops
      exact List.forall_mem_cons.mpr ⟨hknown, ih _ (htables.next hknown (entry_of_listed hlisted)).1 hrest⟩
  obtain ⟨rest, rfl⟩ := List.head?_eq_some_iff.mp h.head
  exact hall rest source hsource h.hops

end Tables

/-- Along the tables that the nodes compute for themselves, every node between the ends of a packet's way
forwards, or the packet stays within one segment of which the node is the NAP. A node that forwards can
route and has live links in two segments. -/
theorem forwarding_matches_routing (graph : TopologyGraph) (network : NetworkId) (tables : NodeId → List Route)
    (hanchored : Anchored graph)
    (htables : ∀ node ∈ graph.nodes, desired_node_routes graph node network = .ok (tables node)) :
    (∀ source destination route, source ∈ graph.nodes → route ∈ tables source →
      route.destination = .Node destination →
        (∃ path, HopByHop tables source destination path) ∧
        ∀ path, HopByHop tables source destination path →
          ∀ earlier previous node next later, path = earlier ++ previous :: node :: next :: later →
            desired_ipv4_forwarding graph node = .ok true ∨ Bridges graph previous node next) ∧
    ∀ node, desired_ipv4_forwarding graph node = .ok true →
      (graph.node node).bind NodeCapabilities.can_route = some true ∧
        ∃ segment other, segment ≠ other ∧ LinkIn graph node segment ∧ LinkIn graph node other := by
  have hgrounded : graph.Grounded := by
    intro id link hlink
    obtain ⟨hnap, hpanu, -⟩ := hanchored id link hlink
    exact ⟨hnap, hpanu⟩
  have hshortest := tables_of_ok hgrounded htables
  refine ⟨fun source destination route hsource hroute hdestination => ⟨?_, ?_⟩, fun node => ?_⟩
  · obtain ⟨found, hlisted⟩ := exists_listed_of_mem hroute hdestination
    obtain ⟨path, hpath⟩ := hshortest.exists_delivery _ _ _ hsource (entry_of_listed hlisted)
    refine ⟨path, hpath.head, hpath.last, hpath.hops.imp fun node next hhop => ?_⟩
    obtain ⟨found, -, hfound, hnext, -⟩ := forwardingHop_of_hop hhop
    exact ⟨found, hfound, hnext⟩
  · rintro path hpath earlier previous node next later rfl
    have hprevious := hpath.known hshortest hsource previous (by simp)
    have hhops := (List.isChain_append_cons_cons.mp hpath.hops).2
    obtain ⟨⟨before, hbefore, rfl⟩, hrest⟩ := hhops
    obtain ⟨⟨after, hafter, rfl⟩, -⟩ := List.isChain_cons_cons.mp hrest
    obtain ⟨hnode, ⟨_, _, _, hleast, _⟩, hless, hforwards⟩ := hshortest.next hprevious (entry_of_listed hbefore)
    obtain ⟨-, ⟨_, _, _, hleast', _⟩, hless', -⟩ := hshortest.next hnode (entry_of_listed hafter)
    obtain ⟨link, hlink, -⟩ := hleast.1
    obtain ⟨link', hlink', -⟩ := hleast'.1
    have hne := (hshortest.sound hnode (entry_of_listed hafter)).1
    -- the advertised cost tells the three nodes apart
    refine forwards_or_bridges hanchored (hforwards hne) hlink hlink' ?_ ?_ ?_
    · exact fun hsame => absurd (hless'.trans hless) (by rw [hsame]; exact lt_irrefl _)
    · exact fun hsame => absurd hless (by rw [hsame]; exact lt_irrefl _)
    · exact fun hsame => absurd hless' (by rw [hsame]; exact lt_irrefl _)
  · exact desired_ipv4_forwarding_eq_true_iff.mp

theorem sample_line_anchored : Anchored (build sample_line) := by
  have hall : ∀ entry ∈ (build sample_line).links.toList,
      entry.2.nap ∈ (build sample_line).nodes ∧ entry.2.panu ∈ (build sample_line).nodes ∧
        ((build sample_line).segments[entry.2.segment_id]?).map (·.nap) = some entry.2.nap := by
    decide +kernel
  intro id link hlink
  obtain ⟨hnap, hpanu, hsegment⟩ := hall (id, link) (Ordered.mem_toList.mpr hlink)
  exact ⟨hnap, hpanu, Option.map_eq_some_iff.mp hsegment⟩

/-- The router of the line is the NAP of its one segment, and does not forward. -/
theorem forwarding_matches_routing_line :
    desired_ipv4_forwarding (build sample_line) (.filled 2) = .ok false ∧
      Bridges (build sample_line) (.filled 1) (.filled 2) (.filled 3) := by
  have hoff : desired_ipv4_forwarding (build sample_line) (.filled 2) = .ok false := by decide +kernel
  have hway : HopByHop sample_tables (.filled 1) (.filled 3) [.filled 1, .filled 2, .filled 3] := by
    refine ⟨rfl, rfl, List.isChain_cons_cons.mpr ⟨?_, List.isChain_pair.mpr ?_⟩⟩
    · exact ⟨⟨.Node (.filled 3), .filled 2, 102, .BlueRouteNetwork (.filled 9)⟩, by decide +kernel, rfl⟩
    · exact ⟨⟨.Node (.filled 3), .filled 3, 101, .BlueRouteNetwork (.filled 9)⟩, by decide +kernel, rfl⟩
  obtain ⟨-, hall⟩ := (forwarding_matches_routing _ _ sample_tables sample_line_anchored fun _ => sample_tables_eq).1
    (.filled 1) (.filled 3) ⟨.Node (.filled 3), .filled 2, 102, .BlueRouteNetwork (.filled 9)⟩
    (by decide +kernel) (by decide +kernel) rfl
  obtain hon | hbridges := hall _ hway [] _ _ _ [] rfl
  · rw [hoff] at hon
    cases hon
  · exact ⟨hoff, hbridges⟩

end blueroute.forwarding_policy
