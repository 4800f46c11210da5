import BlueRoute.Core.TopologyPlan.Transition
import BlueRoute.Core.TopologyPolicy.Stars

open Fallible Ordered Ranking

namespace blueroute.topology_policy

open topology_executor topology_plan TopologyPolicyInputs

variable {inputs : TopologyPolicyInputs} {stars : List NapAssignment}

/-- A star whose hub and clients are able and willing, as far as the inputs know. -/
structure Capable (inputs : TopologyPolicyInputs) (star : NapAssignment) (hub : TopologyCandidate) (capacity : Nat) :
    Prop where
  found : inputs.candidates[star.hub]? = some hub
  can_host : hub.capabilities.can_host_pan = some true
  usable : hub.capabilities.usable = some true
  ceiling : hub.capabilities.ceiling = some capacity
  nonempty : star.clients ≠ []
  bounded : star.clients.length ≤ capacity
  clients : ∀ client ∈ star.clients, ∃ peer, inputs.candidates[client]? = some peer ∧
    peer.capabilities.can_join_pan = some true ∧ peer.capabilities.usable = some true ∧
    client ∈ hub.neighbors ∧ star.hub ∈ peer.neighbors

variable {star : NapAssignment} {capacity : Nat}

theorem Greedy.capable (h : Greedy inputs [] stars) (hstar : star ∈ stars) :
    ∃ hub capacity, Capable inputs star hub capacity := by
  obtain ⟨_, _, hub, capacity, proposal, _, rfl, hproposes⟩ := h.proposes_of_mem hstar
  refine ⟨hub, capacity, hproposes.found, hproposes.can_host, hproposes.usable, hproposes.ceiling,
    fun hnil => hproposes.nonempty (List.map_eq_nil_iff.mp hnil), ?_, fun client hclient => ?_⟩
  · rw [Proposal.star, List.length_map, hproposes.clients]
    exact length_offer_le _ _ _ _ _
  · rw [Proposal.star, hproposes.clients] at hclient
    obtain ⟨peer, hserves⟩ := mem_offer hclient
    exact ⟨peer, hserves.found, hserves.can_join, hserves.usable, hserves.neighbor, hserves.reverse⟩

theorem Capable.client_ne (hvalid : inputs.validate = .ok ()) {hub : TopologyCandidate}
    (h : Capable inputs star hub capacity) : star.hub ∉ star.clients := by
  intro hself
  obtain ⟨peer, hpeer, -, -, hneighbor, -⟩ := h.clients star.hub hself
  exact (validate_ok_candidate hvalid h.found).neighbor_ne star.hub hneighbor rfl

/-- What the planner asks of a desired star holds of the stars of a run. -/
theorem Capable.accepted {hub : TopologyCandidate} (h : Capable inputs star hub capacity) :
    check_desired_hub inputs star = .ok () ∧
      ∀ client ∈ star.clients, check_desired_client inputs star.hub client = .ok () := by
  constructor
  · simp only [check_desired_hub, bind_eq_ok_iff, ok_or_eq_ok, reject_if_eq_ok, not_or, not_not, not_lt]
    exact ⟨hub, h.found, (), ⟨h.can_host, h.usable⟩, capacity, h.ceiling, h.bounded⟩
  · intro client hclient
    obtain ⟨peer, hpeer, hjoin, husable, hneighbor, hreverse⟩ := h.clients client hclient
    simp only [check_desired_client, bind_eq_ok_iff, ok_or_eq_ok, reject_if_eq_ok, not_or, not_not]
    exact ⟨peer, hpeer, hjoin, husable, ⟨hub, h.found, hneighbor⟩, hreverse⟩

/-- The nodes of the stars of a run are candidates. -/
theorem Greedy.taken_known (h : Greedy inputs [] stars) {node : NodeId} (hnode : node ∈ taken stars) :
    node ∈ inputs.candidates := by
  obtain ⟨star, hstar, huse⟩ := mem_taken.mp hnode
  obtain ⟨hub, capacity, hcapable⟩ := h.capable hstar
  obtain rfl | hclient := huse
  · exact mem_iff_exists.mpr ⟨hub, hcapable.found⟩
  · obtain ⟨peer, hpeer, -⟩ := hcapable.clients node hclient
    exact mem_iff_exists.mpr ⟨peer, hpeer⟩

theorem Greedy.wellShaped (hvalid : inputs.validate = .ok ()) (h : Greedy inputs [] stars) (unserved : Finset NodeId) :
    WellShaped { stars, unserved } := by
  refine ⟨h.hubs_nodup.1, fun star hstar => ?_, fun star hstar => ?_, h.clients_nodup.1⟩
  · obtain ⟨hub, capacity, hcapable⟩ := h.capable hstar
    exact hcapable.nonempty
  · obtain ⟨hub, capacity, hcapable⟩ := h.capable hstar
    exact hcapable.client_ne hvalid

/-- The outcome of a run is a desired topology. -/
theorem Greedy.desirable (h : Greedy inputs [] stars) :
    Desirable inputs { stars, unserved := remaining inputs stars } := by
  refine ⟨fun star hstar => ?_, fun star hstar => ?_, ?_, ?_⟩
  · obtain ⟨hub, capacity, hcapable⟩ := h.capable hstar
    exact hcapable.accepted.1
  · obtain ⟨hub, capacity, hcapable⟩ := h.capable hstar
    exact hcapable.accepted.2
  · exact Finset.sdiff_disjoint
  · refine Finset.union_sdiff_of_subset fun node hnode => ?_
    rw [List.mem_toFinset, Std.ExtTreeMap.mem_keys]
    exact h.taken_known hnode

/-- A hub is attached to its clients. -/
def Attached (stars : List NapAssignment) (hub client : NodeId) : Prop :=
  ∃ star ∈ stars, star.hub = hub ∧ client ∈ star.clients

/-- A client becomes a hub only after it was attached. -/
theorem Greedy.idxOf_lt (hvalid : inputs.validate = .ok ()) (h : Greedy inputs [] stars) {hub client : NodeId}
    (hattached : Attached stars hub client) :
    (stars.map NapAssignment.hub).idxOf hub < (stars.map NapAssignment.hub).idxOf client := by
  obtain ⟨star, hstar, rfl, hclient⟩ := hattached
  obtain ⟨_, _, hcapable⟩ := h.capable hstar
  have hne : client ≠ star.hub := fun hsame => hcapable.client_ne hvalid (hsame ▸ hclient)
  obtain ⟨first, after, candidate, capacity, proposal, rfl, rfl, hproposes⟩ := h.proposes_of_mem hstar
  rw [Proposal.star, hproposes.clients] at hclient
  obtain ⟨peer, hserves⟩ := mem_offer hclient
  have hfirst : client ∉ first.map NapAssignment.hub := by
    intro hmem
    obtain ⟨earlier, hearlier, hhub⟩ := List.mem_map.mp hmem
    refine (mem_remaining.mp hserves.unserved).2 (mem_taken.mpr ⟨earlier, ?_, .inl hhub.symm⟩)
    exact List.mem_append_right _ hearlier
  have hfresh : proposal.star.hub ∉ first.map NapAssignment.hub := by
    intro hmem
    refine hproposes.fresh (mem_hubs.mpr ?_)
    obtain ⟨earlier, hearlier, hhub⟩ := List.mem_map.mp hmem
    exact ⟨earlier, List.mem_append_right _ hearlier, hhub⟩
  rw [List.map_append, List.idxOf_append_of_notMem hfirst, List.idxOf_append_of_notMem hfresh, List.map_cons,
    List.idxOf_cons_self, List.idxOf_cons_ne _ (Ne.symm hne)]
  omega

/-- No hub is above itself. -/
theorem Greedy.acyclic (hvalid : inputs.validate = .ok ()) (h : Greedy inputs [] stars) (node : NodeId) :
    ¬ Relation.TransGen (Attached stars) node node := by
  have hlt {hub client : NodeId} (hbelow : Relation.TransGen (Attached stars) hub client) :
      (stars.map NapAssignment.hub).idxOf hub < (stars.map NapAssignment.hub).idxOf client := by
    induction hbelow with
    | single hattached => exact h.idxOf_lt hvalid hattached
    | tail _ hattached ih => exact ih.trans (h.idxOf_lt hvalid hattached)
  exact fun hcycle => lt_irrefl _ (hlt hcycle)

/-- A run leaves no node unserved that a hub with a free slot could serve. -/
theorem Greedy.maximal (hvalid : inputs.validate = .ok ()) (h : Greedy inputs [] stars) {hub client : NodeId}
    {candidate remote : TopologyCandidate} (hfound : inputs.candidates[hub]? = some candidate)
    (hhost : candidate.capabilities.can_host_pan = some true) (husable : candidate.capabilities.usable = some true)
    (hceiling : candidate.capabilities.ceiling = some capacity)
    (hserves : Serves inputs (remaining inputs stars) hub candidate remote client) :
    capacity ≤ occupied (links { stars, unserved := remaining inputs stars }) hub := by
  by_contra hroom
  have hpositive := (validate_ok_candidate hvalid hfound).ceiling_pos capacity hceiling
  by_cases hselected : hub ∈ hubs stars
  · -- a selected hub that was not full had taken every node it could serve
    obtain ⟨star, hstar, rfl⟩ := mem_hubs.mp hselected
    rw [(h.wellShaped hvalid _).occupied_eq hstar, not_le] at hroom
    obtain ⟨first, after, found, ceiling, proposal, hstars, rfl, hproposes⟩ := h.proposes_of_mem hstar
    obtain rfl : candidate = found := Option.some.inj (hfound.symm.trans hproposes.found)
    obtain rfl : capacity = ceiling := Option.some.inj (hceiling.symm.trans hproposes.ceiling)
    have hearlier : client ∈ remaining inputs ([] ++ first) := by
      have hserved := hserves.unserved
      rw [hstars] at hserved
      exact remaining_append_subset inputs first _ hserved
    have htaken : client ∈ proposal.star.clients := by
      rw [Proposal.star, List.length_map, hproposes.clients] at hroom
      rw [Proposal.star, hproposes.clients]
      exact mem_offer_of_room { hserves with unserved := hearlier } hroom
    exact (mem_remaining.mp hserves.unserved).2 (mem_taken.mpr ⟨_, hstar, .inr htaken⟩)
  · -- a candidate that was not selected would have made a proposal in the end
    have hoffer : offer inputs (remaining inputs stars) hub candidate capacity ≠ [] := by
      intro hnil
      have hlength : (offer inputs (remaining inputs stars) hub candidate capacity).length < capacity := by
        rw [hnil]
        exact hpositive
      have hmem := mem_offer_of_room hserves hlength
      rw [hnil] at hmem
      cases hmem
    refine best_eq_none.mp h.done_at
      { hub, clients := offer inputs (remaining inputs stars) hub candidate capacity
        score := toLex ((offer inputs (remaining inputs stars) hub candidate capacity).length,
          toLex (candidate.currently_hosting,
            standing hub candidate (offer inputs (remaining inputs stars) hub candidate capacity))) }
      candidate capacity ⟨hfound, hselected, hhost, husable, hceiling, hpositive, rfl, hoffer, rfl⟩

/-- What a selection guarantees: able hubs with room for their clients, a
forest of distinct hubs and clients, and nobody left out whom a hub with a free
slot could serve. -/
structure Selected (inputs : TopologyPolicyInputs) (selection : NapSelection) : Prop where
  hubs_distinct : (selection.stars.map NapAssignment.hub).Nodup
  capable : ∀ star ∈ selection.stars, ∃ hub capacity, Capable inputs star hub capacity
  clients_distinct : (selection.stars.flatMap NapAssignment.clients).Nodup
  forest : ∀ node, ¬ Relation.TransGen (Attached selection.stars) node node
  unserved : ∀ node, node ∈ selection.unserved ↔
    node ∈ inputs.candidates ∧ ∀ star ∈ selection.stars, node ≠ star.hub ∧ node ∉ star.clients
  maximal : ∀ (hub client : NodeId) (candidate remote : TopologyCandidate) (capacity : Nat),
    inputs.candidates[hub]? = some candidate → candidate.capabilities.can_host_pan = some true →
      candidate.capabilities.usable = some true → candidate.capabilities.ceiling = some capacity →
      Serves inputs selection.unserved hub candidate remote client → capacity ≤ occupied (links selection) hub

theorem Greedy.selected (hvalid : inputs.validate = .ok ()) (h : Greedy inputs [] stars) :
    Selected inputs { stars, unserved := remaining inputs stars } := by
  refine ⟨h.hubs_nodup.1, fun star hstar => h.capable hstar, h.clients_nodup.1, h.acyclic hvalid, fun node => ?_,
    fun hub client candidate remote capacity hfound hhost husable hceiling hserves =>
      h.maximal hvalid hfound hhost husable hceiling hserves⟩
  rw [mem_remaining, mem_taken]
  simp only [not_exists, not_and, not_or]

/-- With acceptable targets, only the observed topology can make a diff fail. -/
theorem diff_nap_topology_cases {desired : NapSelection} (hvalid : inputs.validate = .ok ())
    (hshape : WellShaped desired) (hdesirable : Desirable inputs desired) (active : NapSelection) :
    (∃ diff, diff_nap_topology inputs active desired = .ok diff) ∨
      ∃ error, link_set active inputs false = .error error ∧
        diff_nap_topology inputs active desired = .error error := by
  cases hactive : link_set active inputs false with
  | error error =>
    refine .inr ⟨error, rfl, ?_⟩
    simp only [diff_nap_topology, hvalid, hactive]
    rfl
  | ok current =>
    obtain ⟨hactiveShape, rfl⟩ := link_set_active_eq_ok_iff.mp hactive
    obtain ⟨final, hexits, _⟩ := reconcile_exits (hdesirable.feasible hshape) hactiveShape.links_single
    exact .inl ⟨_, diff_nap_topology_eq_ok_iff.mpr ⟨hvalid, hactiveShape, hshape, hdesirable, final, hexits, rfl⟩⟩

/-- Valid inputs always have a selection: the loop exits on its own, and what
it leaves is a maximal forest of stars that the planner, which checks desired
topologies on its own terms, never turns down. -/
theorem select_nap_hubs_selected {inputs : TopologyPolicyInputs} (hvalid : inputs.validate = .ok ()) :
    ∃ selection final, select_nap_hubs inputs = .ok selection ∧
      Loop.Exits (select_hub inputs)
        { unserved := inputs.candidates.keys.toFinset, selected_hubs := ∅, stars := [] } (.ok final) ∧
      selection = { stars := final.stars, unserved := final.unserved } ∧
      Selected inputs selection ∧
      link_set selection inputs true = .ok (links selection) ∧
      ∀ active, (∃ diff, diff_nap_topology inputs active selection = .ok diff) ∨
        ∃ error, link_set active inputs false = .error error ∧
          diff_nap_topology inputs active selection = .error error := by
  obtain ⟨stars, hgreedy, -⟩ := exists_greedy inputs
  have hshape := hgreedy.wellShaped hvalid (remaining inputs stars)
  have hdesirable := hgreedy.desirable
  have hexits := hgreedy.exits
  rw [state_after_nil, List.nil_append] at hexits
  exact ⟨{ stars, unserved := remaining inputs stars }, state_after inputs stars,
    select_nap_hubs_eq_ok_iff.mpr ⟨hvalid, hgreedy, rfl⟩, hexits, rfl, hgreedy.selected hvalid,
    link_set_desired_eq_ok_iff.mpr ⟨hshape, hdesirable, rfl⟩, diff_nap_topology_cases hvalid hshape hdesirable⟩

theorem select_nap_hubs_selected_sample :
    ∃ selection final, select_nap_hubs (sample.inputs [1] [1, 2, 3]) = .ok selection ∧
      Loop.Exits (select_hub (sample.inputs [1] [1, 2, 3]))
        { unserved := (sample.inputs [1] [1, 2, 3]).candidates.keys.toFinset, selected_hubs := ∅, stars := [] }
        (.ok final) ∧
      selection = { stars := final.stars, unserved := final.unserved } ∧
      Selected (sample.inputs [1] [1, 2, 3]) selection ∧
      link_set selection (sample.inputs [1] [1, 2, 3]) true = .ok (links selection) ∧
      ∀ active, (∃ diff, diff_nap_topology (sample.inputs [1] [1, 2, 3]) active selection = .ok diff) ∨
        ∃ error, link_set active (sample.inputs [1] [1, 2, 3]) false = .error error ∧
          diff_nap_topology (sample.inputs [1] [1, 2, 3]) active selection = .error error :=
  select_nap_hubs_selected (by decide)

end blueroute.topology_policy
