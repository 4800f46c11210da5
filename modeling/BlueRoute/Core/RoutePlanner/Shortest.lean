import BlueRoute.Core.RoutePlanner.Model

namespace blueroute.route_planner

open Fallible Transit

namespace Label

theorem cost_le_of_le {left right : Label} (h : left ≤ right) : left.cost ≤ right.cost := by
  obtain hlt | ⟨heq, -⟩ := Prod.Lex.le_iff.mp h
  · exact hlt.le
  · exact heq.le

theorem lt_of_cost_lt {left right : Label} (h : left.cost < right.cost) : left < right :=
  Prod.Lex.lt_iff.mpr (.inl h)

end Label

/-- A link that forwards between two nodes of a graph. -/
structure ForwardingLink (graph : TopologyGraph) (u v : NodeId) (link : PanLink) : Prop where
  present : ∃ id : LinkId, graph.links[id]? = some link
  active : link.is_forwarding_candidate = true
  joins : link.other_endpoint u = some v

/-- What a graph means for routing: its forwarding links with their costs, and its routers. -/
def routing_network (graph : TopologyGraph) : Network NodeId where
  Edge u v edge := ∃ link, ForwardingLink graph u v link ∧ edge_cost link = edge
  Forwards node := (graph.node node).bind NodeCapabilities.can_route = some true

variable {graph : TopologyGraph} {source : NodeId}

theorem edge_cost_pos (link : PanLink) : 0 < edge_cost link := by
  unfold edge_cost
  omega

theorem routing_network_positive (u v : NodeId) (edge : Nat) (h : (routing_network graph).Edge u v edge) :
    0 < edge := by
  obtain ⟨link, -, rfl⟩ := h
  exact edge_cost_pos link

/-- The nodes that expand are the source and the routers. -/
def Expands (graph : TopologyGraph) (source node : NodeId) : Prop :=
  node = source ∨ (routing_network graph).Forwards node

variable {label : Label}

theorem offers_of_expands {current : NodeId} (h : Expands graph source current) :
    offers graph source current label =
      graph.links.toList.filterMap fun (_, link) => offer_link source current label link := by
  refine if_neg fun ⟨hother, hroute⟩ => ?_
  exact h.elim hother hroute

variable {current next : NodeId}

variable {link : PanLink} {v : NodeId}

/-- The candidate of a link, where the link forwards from the current node and the sum fits. -/
theorem offer_link_eq_some_ok {label offered : Label} :
    offer_link source current label link = some (.ok (next, offered)) ↔
      link.is_forwarding_candidate = true ∧ link.other_endpoint current = some next ∧
        label.cost + edge_cost link < 2 ^ 64 ∧
        offered = Label.new (label.cost + edge_cost link) (label.hops + 1)
          (if current = source then next else label.first_hop) := by
  unfold offer_link
  cases hactive : link.is_forwarding_candidate with
  | false => simp
  | true =>
    cases hjoins : link.other_endpoint current with
    | none => simp
    | some other =>
      by_cases hfits : label.cost + edge_cost link < 2 ^ 64
      · simp only [checked_add_u64, hfits, ok_or, if_true, Bool.not_true, Bool.false_eq_true, if_false]
        constructor
        · intro h
          obtain ⟨rfl, rfl⟩ := Prod.mk.inj (Except.ok.inj (Option.some.inj h))
          exact ⟨trivial, rfl, trivial, rfl⟩
        · rintro ⟨-, hother, -, rfl⟩
          rw [Option.some.inj hother]
          rfl
      · simp only [checked_add_u64, hfits, ok_or, if_false, Bool.not_true, Bool.false_eq_true, false_and,
          and_false, iff_false]
        intro h
        cases Option.some.inj h

/-- A forwarding link makes an offer, or fails the search. -/
theorem exists_offer_link (label : Label) (h : ForwardingLink graph current next link) :
    ∃ result, offer_link source current label link = some result := by
  simp [offer_link, h.active, h.joins]

/-- The candidates of an expansion are those of the forwarding links. -/
theorem mem_offers {label offered : Label} (h : .ok (next, offered) ∈ offers graph source current label) :
    Expands graph source current ∧ ∃ link, ForwardingLink graph current next link ∧
      label.cost + edge_cost link < 2 ^ 64 ∧
      offered = Label.new (label.cost + edge_cost link) (label.hops + 1)
        (if current = source then next else label.first_hop) := by
  by_cases hexpands : Expands graph source current
  · rw [offers_of_expands hexpands, List.mem_filterMap] at h
    obtain ⟨⟨id, link⟩, hlink, hoffer⟩ := h
    obtain ⟨hactive, hjoins, hfits, hoffered⟩ := offer_link_eq_some_ok.mp hoffer
    exact ⟨hexpands, link, ⟨⟨id, Ordered.mem_toList.mp hlink⟩, hactive, hjoins⟩, hfits, hoffered⟩
  · have hrefused : current ≠ source ∧ (graph.node current).bind NodeCapabilities.can_route ≠ some true :=
      not_or.mp hexpands
    rw [offers, if_pos hrefused] at h
    cases h

/-- An expansion without a failure has made the offer of every forwarding link. -/
theorem mem_offered {offered : List (NodeId × Label)} (hexpands : Expands graph source current)
    (hlink : ForwardingLink graph current next link) (hoffers : offers graph source current label = offered.map .ok) :
    (next, Label.new (label.cost + edge_cost link) (label.hops + 1)
      (if current = source then next else label.first_hop)) ∈ offered := by
  obtain ⟨id, hid⟩ := hlink.present
  obtain ⟨result, hresult⟩ := exists_offer_link label hlink
  have hmem : result ∈ offers graph source current label := by
    rw [offers_of_expands hexpands]
    exact List.mem_filterMap.mpr ⟨(id, link), Ordered.mem_toList.mpr hid, hresult⟩
  rw [hoffers] at hmem
  obtain ⟨⟨node, found⟩, hfound, rfl⟩ := List.mem_map.mp hmem
  obtain ⟨-, hjoins, -, rfl⟩ := offer_link_eq_some_ok.mp hresult
  obtain rfl := Option.some.inj (hlink.joins.symm.trans hjoins)
  exact hfound

theorem growing_offers (graph : TopologyGraph) (source : NodeId) : BestFirst.Growing (offers graph source) := by
  intro current label next offered h
  obtain ⟨-, link, -, -, rfl⟩ := mem_offers h
  exact Label.lt_of_cost_lt (Nat.lt_add_of_pos_right (edge_cost_pos link))

/-- The nodes that a search can label. -/
def search_nodes (graph : TopologyGraph) (source : NodeId) : Finset NodeId :=
  insert source (graph.links.toList.flatMap fun (_, link) => [link.nap, link.panu]).toFinset

theorem mem_search_nodes_of_link {u : NodeId} (h : ForwardingLink graph u v link) :
    v ∈ search_nodes graph source := by
  obtain ⟨id, hid⟩ := h.present
  have hv : v = link.panu ∨ v = link.nap := by
    obtain ⟨-, hv⟩ | ⟨-, hv⟩ := PanLink.other_endpoint_eq_some h.joins
    · exact .inl hv
    · exact .inr hv
  refine Finset.mem_insert_of_mem (List.mem_toFinset.mpr ?_)
  refine List.mem_flatMap.mpr ⟨(id, link), Ordered.mem_toList.mpr hid, ?_⟩
  simpa [or_comm] using hv

theorem mem_search_nodes_of_derived
    (h : BestFirst.Derived (offers graph source) source (Label.new 0 0 source) v label) :
    v ∈ search_nodes graph source := by
  cases h with
  | start => exact Finset.mem_insert_self _ _
  | offer _ _ hoffer =>
    obtain ⟨-, link, hlink, -⟩ := mem_offers hoffer
    exact mem_search_nodes_of_link hlink

/-- The search always comes to its end within its fuel. -/
theorem search_exits (graph : TopologyGraph) (source : NodeId) :
    Loop.Exits (BestFirst.State.body (offers graph source)) (BestFirst.State.init source (Label.new 0 0 source))
      (Loop.run (BestFirst.State.body (offers graph source)) (search_fuel graph)
        (BestFirst.State.init source (Label.new 0 0 source))) := by
  have hwidth (current : NodeId) (label : Label) :
      (offers graph source current label).length ≤ graph.links.toList.length := by
    unfold offers
    split
    · exact Nat.zero_le _
    · exact List.length_filterMap_le _ _
  refine BestFirst.search_exits (growing_offers graph source) hwidth
    (fun _ _ => mem_search_nodes_of_derived) ?_
  have hcard : (search_nodes graph source).card ≤ 2 * graph.links.toList.length + 1 := graph.card_endpoints_le source
  have hwork := Nat.mul_le_mul_left graph.links.toList.length hcard
  unfold search_fuel
  dsimp only
  omega

/-- A label says the cost and the first hop of a walk, that of the source apart. -/
theorem walk_of_derived (h : BestFirst.Derived (offers graph source) source (Label.new 0 0 source) v label) :
    (v = source ∧ label = Label.new 0 0 source) ∨
      Walk (routing_network graph) source v label.cost label.first_hop := by
  induction h with
  | start => exact .inl ⟨rfl, rfl⟩
  | @offer current next label offered _ hstart hoffer ih =>
    obtain ⟨hexpands, link, hlink, -, rfl⟩ := mem_offers hoffer
    have hedge : (routing_network graph).Edge current next (edge_cost link) := ⟨link, hlink, rfl⟩
    right
    by_cases hsource : current = source
    · obtain rfl := hstart hsource
      subst hsource
      rw [if_pos rfl, show (Label.new 0 0 current).cost = 0 from rfl, zero_add]
      exact .single hedge
    · rw [if_neg hsource]
      obtain ⟨hcurrent, -⟩ | hwalk := ih
      · exact absurd hcurrent hsource
      · exact .extend hwalk (hexpands.resolve_left hsource) hedge

/-- What the labels of a finished search say about the walks from its source. -/
structure Found (graph : TopologyGraph) (source : NodeId) (best : Ordered.Map NodeId Label) : Prop where
  walk : ∀ (node : NodeId) (label : Label), best[node]? = some label → node ≠ source →
    Walk (routing_network graph) source node label.cost label.first_hop
  least : ∀ (node : NodeId) (cost : Nat) (first : NodeId), Walk (routing_network graph) source node cost first →
    ∃ label, best[node]? = some label ∧ label.cost ≤ cost

theorem found_of_exits {search : BestFirst.State NodeId Label}
    (h : Loop.Exits (BestFirst.State.body (offers graph source))
      (BestFirst.State.init source (Label.new 0 0 source)) (.ok search)) : Found graph source search.best := by
  obtain ⟨hderived, hstart, hclosed⟩ := BestFirst.found_of_exits (growing_offers graph source) h
  -- the label of a node bounds those of its neighbours, by the offers made when it was expanded
  have hnext {current next : NodeId} {label : Label} {edge : Nat} (hlabel : search.best[current]? = some label)
      (hexpands : Expands graph source current) (hedge : (routing_network graph).Edge current next edge) :
      ∃ found, search.best[next]? = some found ∧ found.cost ≤ label.cost + edge := by
    obtain ⟨link, hlink, rfl⟩ := hedge
    obtain ⟨offered, hoffers, hkept⟩ := hclosed current label hlabel
    obtain ⟨better, hbetter, hle⟩ := hkept _ (mem_offered hexpands hlink hoffers)
    exact ⟨better, hbetter, Label.cost_le_of_le hle⟩
  refine ⟨fun node label hlabel hother => ?_, fun node cost first hwalk => ?_⟩
  · exact (walk_of_derived (hderived node label hlabel)).resolve_left fun hsource => hother hsource.1
  · induction hwalk with
    | single hedge =>
      obtain ⟨found, hfound, hle⟩ := hnext hstart (.inl rfl) hedge
      exact ⟨found, hfound, hle.trans_eq (zero_add _)⟩
    | extend _ hforwards hedge ih =>
      obtain ⟨label, hlabel, hle⟩ := ih
      obtain ⟨found, hfound, hle'⟩ := hnext hlabel (.inr hforwards) hedge
      exact ⟨found, hfound, by omega⟩

theorem Found.shortest {best : Ordered.Map NodeId Label} {node : NodeId} (h : Found graph source best)
    (hlabel : best[node]? = some label) (hother : node ≠ source) :
    Shortest (routing_network graph) source node label.cost label.first_hop := by
  refine ⟨h.walk node label hlabel hother, fun cost first hwalk => ?_⟩
  obtain ⟨found, hfound, hle⟩ := h.least node cost first hwalk
  obtain rfl := Option.some.inj (hlabel.symm.trans hfound)
  exact hle

end blueroute.route_planner
