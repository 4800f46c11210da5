import BlueRoute.Base.BestFirst.Least
import BlueRoute.Core.RoutePlanner.Shortest

namespace blueroute.route_planner

open Fallible

/-- A path over forwarding links, each with the node it leads to. Every node between the ends can route. -/
inductive RoutingPath (graph : TopologyGraph) (source : NodeId) : NodeId → List (NodeId × PanLink) → Prop where
  | link {v : NodeId} {link : PanLink} (hlink : ForwardingLink graph source v link) :
      RoutingPath graph source v [(v, link)]
  | extend {u v : NodeId} {link : PanLink} {path : List (NodeId × PanLink)} (hpath : RoutingPath graph source u path)
      (hroutes : (graph.node u).bind NodeCapabilities.can_route = some true) (hlink : ForwardingLink graph u v link) :
      RoutingPath graph source v (path ++ [(v, link)])

def path_cost (path : List (NodeId × PanLink)) : Nat := (path.map fun hop => edge_cost hop.2).sum

/-- What a path costs, how many hops it has and where it goes first. -/
def path_label (source : NodeId) (path : List (NodeId × PanLink)) : Label :=
  Label.new (path_cost path) path.length ((path.head?.map Prod.fst).getD source)

namespace Label

theorem new_le_new_iff {cost hops cost' hops' : Nat} {first_hop first_hop' : NodeId} :
    new cost hops first_hop ≤ new cost' hops' first_hop' ↔
      cost < cost' ∨ cost = cost' ∧ (hops < hops' ∨ hops = hops' ∧ first_hop ≤ first_hop') := by
  unfold new
  rw [Prod.Lex.toLex_le_toLex, Prod.Lex.toLex_le_toLex]

theorem new_eta (label : Label) : new label.cost label.hops label.first_hop = label := rfl

/-- One more link after each of two labels keeps their order. -/
theorem extend_le_extend {label better : Label} (h : better ≤ label) (edge : Nat) :
    new (better.cost + edge) (better.hops + 1) better.first_hop ≤
      new (label.cost + edge) (label.hops + 1) label.first_hop := by
  rw [← new_eta better, ← new_eta label, new_le_new_iff] at h
  rw [new_le_new_iff]
  obtain hcost | ⟨hcost, hrest⟩ := h
  · exact .inl (Nat.add_lt_add_right hcost _)
  · refine .inr ⟨by rw [hcost], hrest.imp (Nat.add_lt_add_right · 1) fun hhops => ⟨by rw [hhops.1], hhops.2⟩⟩

end Label

variable {graph : TopologyGraph} {source : NodeId}

theorem path_cost_singleton (hop : NodeId × PanLink) : path_cost [hop] = edge_cost hop.2 := by
  simp [path_cost]

theorem path_cost_concat (path : List (NodeId × PanLink)) (hop : NodeId × PanLink) :
    path_cost (path ++ [hop]) = path_cost path + edge_cost hop.2 := by
  simp [path_cost]

theorem path_cost_le_of_isPrefix {earlier path : List (NodeId × PanLink)} (h : earlier <+: path) :
    path_cost earlier ≤ path_cost path := by
  obtain ⟨later, rfl⟩ := h
  simp [path_cost]

namespace RoutingPath

variable {v : NodeId} {path : List (NodeId × PanLink)}

theorem ne_nil (h : RoutingPath graph source v path) : path ≠ [] := by
  cases h <;> simp

theorem cost_pos (h : RoutingPath graph source v path) : 0 < path_cost path := by
  cases h with
  | @link _ link =>
    rw [path_cost_singleton]
    exact edge_cost_pos link
  | @extend _ _ link =>
    rw [path_cost_concat]
    exact Nat.lt_add_left _ (edge_cost_pos link)

theorem label_concat (h : RoutingPath graph source v path) (hop : NodeId × PanLink) :
    path_label source (path ++ [hop]) = Label.new ((path_label source path).cost + edge_cost hop.2)
      ((path_label source path).hops + 1) (path_label source path).first_hop := by
  obtain ⟨first, rest, rfl⟩ := List.exists_cons_of_ne_nil h.ne_nil
  rw [path_label, path_cost_concat, List.length_append]
  rfl

/-- A path to a node passes every node on it by a path of its own. -/
theorem exists_earlier (h : RoutingPath graph source v path) {hop : NodeId × PanLink} (hhop : hop ∈ path) :
    ∃ earlier, earlier <+: path ∧ RoutingPath graph source hop.1 earlier := by
  induction h with
  | link hlink =>
    obtain rfl := List.mem_singleton.mp hhop
    exact ⟨_, List.prefix_refl _, .link hlink⟩
  | extend hpath hroutes hlink ih =>
    obtain hearlier | hlast := List.mem_append.mp hhop
    · obtain ⟨earlier, hinitial, hearlier⟩ := ih hearlier
      exact ⟨earlier, hinitial.trans (List.prefix_append _ _), hearlier⟩
    · obtain rfl := List.mem_singleton.mp hlast
      exact ⟨_, List.prefix_refl _, .extend hpath hroutes hlink⟩

/-- A path that visits a node twice can be cut shorter. -/
theorem exists_simple (h : RoutingPath graph source v path) (hother : v ≠ source) :
    ∃ simple, RoutingPath graph source v simple ∧ (source :: simple.map Prod.fst).Nodup ∧
      (simple = path ∨ path_cost simple < path_cost path) := by
  induction h with
  | @link v link hlink => exact ⟨_, .link hlink, by simpa using hother.symm, .inl rfl⟩
  | @extend u v link path hpath hroutes hlink ih =>
    rw [path_cost_concat]
    by_cases hsource : u = source
    · -- what comes before the source is a detour
      subst hsource
      refine ⟨_, .link hlink, by simpa using hother.symm, .inr ?_⟩
      rw [path_cost_singleton]
      exact Nat.lt_add_of_pos_left hpath.cost_pos
    · obtain ⟨simple, hsimple, hnodup, hcost⟩ := ih hsource
      by_cases hvisited : v ∈ simple.map Prod.fst
      · obtain ⟨hop, hhop, rfl⟩ := List.mem_map.mp hvisited
        obtain ⟨earlier, hinitial, hearlier⟩ := hsimple.exists_earlier hhop
        refine ⟨earlier, hearlier, hnodup.sublist ((hinitial.sublist.map _).cons_cons _), .inr ?_⟩
        have hle := path_cost_le_of_isPrefix hinitial
        have hedge := edge_cost_pos link
        obtain rfl | hless := hcost
        · dsimp only
          omega
        · dsimp only
          omega
      · refine ⟨_, .extend hsimple hroutes hlink, ?_, ?_⟩
        · rw [List.map_append, List.map_singleton, ← List.cons_append, List.nodup_append]
          refine ⟨hnodup, List.nodup_singleton _, fun node hnode other hmem => ?_⟩
          obtain rfl := List.mem_singleton.mp hmem
          rintro rfl
          exact (List.mem_cons.mp hnode).elim hother hvisited
        · obtain rfl | hless := hcost
          · exact .inl rfl
          · right
            rw [path_cost_concat]
            exact Nat.add_lt_add_right hless _

end RoutingPath

/-- A label is that of a path, that of the source apart. -/
theorem path_of_derived {v : NodeId} {label : Label}
    (h : BestFirst.Derived (offers graph source) source (Label.new 0 0 source) v label) :
    (v = source ∧ label = Label.new 0 0 source) ∨
      ∃ path, RoutingPath graph source v path ∧ path_label source path = label := by
  induction h with
  | start => exact .inl ⟨rfl, rfl⟩
  | @offer current next label offered _ hstart hoffer ih =>
    obtain ⟨hexpands, link, hlink, -, rfl⟩ := mem_offers hoffer
    right
    by_cases hsource : current = source
    · obtain rfl := hstart hsource
      subst hsource
      rw [if_pos rfl]
      exact ⟨_, .link hlink, by simp [path_label, path_cost, Label.cost, Label.hops, Label.new]⟩
    · rw [if_neg hsource]
      obtain ⟨hcurrent, -⟩ | ⟨path, hpath, rfl⟩ := ih
      · exact absurd hcurrent hsource
      · exact ⟨_, hpath.extend (hexpands.resolve_left hsource) hlink, hpath.label_concat _⟩

/-- The label of a path bounds what its last link offers, wherever the last node but one is known at
least as well as the path knows it. -/
theorem RoutingPath.offer_le {u v : NodeId} {link : PanLink} {path : List (NodeId × PanLink)} {label : Label}
    (h : RoutingPath graph source u path) (hle : label ≤ path_label source path)
    (hstart : u = source → label = Label.new 0 0 source) :
    Label.new (label.cost + edge_cost link) (label.hops + 1) (if u = source then v else label.first_hop) ≤
      path_label source (path ++ [(v, link)]) := by
  rw [h.label_concat]
  split_ifs with hsource
  · obtain rfl := hstart hsource
    rw [Label.new_le_new_iff]
    exact .inl (Nat.add_lt_add_right h.cost_pos _)
  · exact Label.extend_le_extend hle _

theorem link_label (v : NodeId) (link : PanLink) :
    path_label source [(v, link)] = Label.new (0 + edge_cost link) (0 + 1) v := by
  simp [path_label, path_cost]

theorem offer_mem (source : NodeId) {current next : NodeId} {label : Label} {link : PanLink}
    (hexpands : Expands graph source current)
    (hlink : ForwardingLink graph current next link) (hfits : label.cost + edge_cost link < 2 ^ 64) :
    .ok (next, Label.new (label.cost + edge_cost link) (label.hops + 1)
      (if current = source then next else label.first_hop)) ∈ offers graph source current label := by
  obtain ⟨id, hid⟩ := hlink.present
  rw [offers_of_expands hexpands]
  refine List.mem_filterMap.mpr ⟨(id, link), Ordered.mem_toList.mpr hid, ?_⟩
  exact offer_link_eq_some_ok.mpr ⟨hlink.active, hlink.joins, hfits, rfl⟩

theorem monotone_offers (graph : TopologyGraph) (source : NodeId) : BestFirst.Monotone (offers graph source) := by
  intro current label better next offered hle hoffer
  obtain ⟨hexpands, link, hlink, hfits, rfl⟩ := mem_offers hoffer
  have hcost := Label.cost_le_of_le hle
  refine ⟨_, ?_, offer_mem source hexpands hlink (by omega)⟩
  split_ifs with hsource
  · rw [← Label.new_eta better, ← Label.new_eta label, Label.new_le_new_iff] at hle
    rw [Label.new_le_new_iff]
    simp only [le_refl, and_true]
    omega
  · exact Label.extend_le_extend hle _

/-- A path whose cost fits is matched by a label of the search. -/
theorem derived_of_path {v : NodeId} {path : List (NodeId × PanLink)} (h : RoutingPath graph source v path)
    (hfits : path_cost path < 2 ^ 64) :
    ∃ label, label ≤ path_label source path ∧ (v = source → label = Label.new 0 0 source) ∧
      BestFirst.Derived (offers graph source) source (Label.new 0 0 source) v label := by
  -- the source is always known by its first label
  have hkeep {node : NodeId} {way : List (NodeId × PanLink)} {label : Label}
      (hway : RoutingPath graph source node way) (hle : label ≤ path_label source way)
      (hderived : BestFirst.Derived (offers graph source) source (Label.new 0 0 source) node label) :
      ∃ label, label ≤ path_label source way ∧ (node = source → label = Label.new 0 0 source) ∧
        BestFirst.Derived (offers graph source) source (Label.new 0 0 source) node label := by
    by_cases hsource : node = source
    · subst hsource
      refine ⟨_, ?_, fun _ => rfl, .start⟩
      exact Label.new_le_new_iff.mpr (.inl hway.cost_pos)
    · exact ⟨label, hle, fun habsurd => absurd habsurd hsource, hderived⟩
  induction h with
  | @link v link hlink =>
    have hcost : (Label.new 0 0 source).cost + edge_cost link < 2 ^ 64 := by
      simpa [path_cost, Label.cost, Label.new] using hfits
    have hoffer := offer_mem source (.inl rfl) hlink hcost
    refine hkeep (.link hlink) ?_ (.offer .start (fun _ => rfl) hoffer)
    rw [if_pos rfl, link_label]
    exact le_refl _
  | @extend u v link path hpath hroutes hlink ih =>
    rw [path_cost_concat] at hfits
    obtain ⟨label, hle, hstart, hderived⟩ := ih (by omega)
    have hcost := Label.cost_le_of_le hle
    have hoffer := offer_mem source (.inr hroutes) hlink
      (lt_of_le_of_lt (Nat.add_le_add_right hcost _) hfits)
    exact hkeep (hpath.extend hroutes hlink) (hpath.offer_le hle hstart) (.offer hderived hstart hoffer)

end blueroute.route_planner
