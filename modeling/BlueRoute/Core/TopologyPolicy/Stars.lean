import BlueRoute.Core.TopologyPolicy.Greedy

open Fallible Ordered Ranking

namespace blueroute.topology_policy

/-- What a hub and one of its clients guarantee to each other. -/
structure Serves (inputs : TopologyPolicyInputs) (unserved : Finset NodeId) (id : NodeId)
    (candidate remote : TopologyCandidate) (client : NodeId) : Prop where
  found : inputs.candidates[client]? = some remote
  neighbor : client ∈ candidate.neighbors
  reverse : id ∈ remote.neighbors
  unserved : client ∈ unserved
  can_join : remote.capabilities.can_join_pan = some true
  usable : remote.capabilities.usable = some true

variable {inputs : TopologyPolicyInputs} {unserved : Finset NodeId}

variable {id client : NodeId} {candidate : TopologyCandidate}

theorem client_link_eq_some {entry found : NodeId × CandidateLink}
    (h : client_link inputs unserved id entry = some found) :
    found.1 = entry.1 ∧ entry.1 ∈ unserved ∧ ∃ remote, inputs.candidates[entry.1]? = some remote ∧
      id ∈ remote.neighbors ∧ remote.capabilities.can_join_pan = some true ∧
      remote.capabilities.usable = some true := by
  unfold client_link at h
  split at h
  · cases h
  rename_i remote hremote
  split at h
  · cases h
  rename_i hable
  simp only [not_or, not_not] at hable
  split at h
  · cases h
  rename_i reverse hreverse
  cases h
  exact ⟨rfl, hable.1, remote, hremote, mem_iff_exists.mpr ⟨reverse, hreverse⟩, hable.2⟩

theorem exists_client_link {remote : TopologyCandidate} (h : Serves inputs unserved id candidate remote client)
    (link : CandidateLink) :
    ∃ found, client_link inputs unserved id (client, link) = some found ∧ found.1 = client := by
  obtain ⟨reverse, hreverse⟩ := mem_iff_exists.mp h.reverse
  have hable : ¬ (client ∉ unserved ∨ remote.capabilities.can_join_pan ≠ some true ∨
      remote.capabilities.usable ≠ some true) := by
    simp [h.unserved, h.can_join, h.usable]
  simp only [client_link, h.found, if_neg hable, hreverse]
  exact ⟨_, rfl, rfl⟩

/-- A neighbor that a hub can serve stays one while it is unserved. -/
theorem client_link_mono {narrow wide : Finset NodeId} (hsubset : narrow ⊆ wide)
    {entry found : NodeId × CandidateLink} (h : client_link inputs narrow id entry = some found) :
    client_link inputs wide id entry = some found := by
  have hwide := hsubset (client_link_eq_some h).2.1
  have hnarrow := (client_link_eq_some h).2.1
  rw [← h]
  simp only [client_link, hwide, hnarrow, not_true_eq_false, false_or]

theorem mem_offer {capacity : Nat} (h : client ∈ (offer inputs unserved id candidate capacity).map Prod.fst) :
    ∃ remote, Serves inputs unserved id candidate remote client := by
  obtain ⟨found, hfound, rfl⟩ := List.mem_map.mp h
  obtain ⟨entry, hentry, hlink⟩ := List.mem_filterMap.mp (mem_of_mem_top hfound)
  obtain ⟨heq, hunserved, remote, hremote, hreverse, hjoin, husable⟩ := client_link_eq_some hlink
  rw [heq]
  exact ⟨remote, hremote, mem_iff_exists.mpr ⟨entry.2, mem_toList.mp hentry⟩, hreverse, hunserved, hjoin, husable⟩

/-- A hub with room left takes every neighbor that it can serve. -/
theorem mem_offer_of_room {remote : TopologyCandidate} {capacity : Nat}
    (h : Serves inputs unserved id candidate remote client)
    (hroom : (offer inputs unserved id candidate capacity).length < capacity) :
    client ∈ (offer inputs unserved id candidate capacity).map Prod.fst := by
  obtain ⟨link, hlink⟩ := mem_iff_exists.mp h.neighbor
  obtain ⟨found, hfound, rfl⟩ := exists_client_link h link
  have hpool : found ∈ candidate.neighbors.toList.filterMap (client_link inputs unserved id) :=
    List.mem_filterMap.mpr ⟨(found.1, link), mem_toList.mpr hlink, hfound⟩
  exact List.mem_map_of_mem (mem_top_of_room hpool hroom)

theorem offer_nodup (inputs : TopologyPolicyInputs) (unserved : Finset NodeId) (id : NodeId)
    (candidate : TopologyCandidate) (capacity : Nat) :
    ((offer inputs unserved id candidate capacity).map Prod.fst).Nodup := by
  have hkeys : (candidate.neighbors.toList.map Prod.fst).Nodup := by
    rw [Std.ExtTreeMap.map_fst_toList_eq_keys]
    exact Std.ExtTreeMap.nodup_keys
  have hpool : ((candidate.neighbors.toList.filterMap (client_link inputs unserved id)).map Prod.fst).Nodup := by
    have hsub : ∀ l : List (NodeId × CandidateLink),
        ((l.filterMap (client_link inputs unserved id)).map Prod.fst).Sublist (l.map Prod.fst) := by
      intro l
      induction l with
      | nil => exact List.Sublist.refl _
      | cons entry rest ih =>
        rw [List.filterMap_cons]
        cases hlink : client_link inputs unserved id entry with
        | none => exact ih.cons _
        | some found =>
          rw [List.map_cons, List.map_cons, (client_link_eq_some hlink).1]
          exact ih.cons_cons _
    exact hkeys.sublist (hsub _)
  have hperm := (List.perm_insertionSort (fun a b => client_key a ≤ client_key b)
    (candidate.neighbors.toList.filterMap (client_link inputs unserved id))).map Prod.fst
  exact (hperm.nodup_iff.mpr hpool).sublist ((List.take_sublist _ _).map Prod.fst)

theorem length_offer_le (inputs : TopologyPolicyInputs) (unserved : Finset NodeId) (id : NodeId)
    (candidate : TopologyCandidate) (capacity : Nat) :
    (offer inputs unserved id candidate capacity).length ≤ capacity := by
  rw [offer, length_top]
  exact Nat.min_le_left _ _

/-- Coverage shrinks with the unserved nodes. -/
theorem length_offer_mono (inputs : TopologyPolicyInputs) {narrow wide : Finset NodeId} (hsubset : narrow ⊆ wide)
    (id : NodeId) (candidate : TopologyCandidate) (capacity : Nat) :
    (offer inputs narrow id candidate capacity).length ≤ (offer inputs wide id candidate capacity).length :=
  length_top_filterMap_le _ fun _ _ found hfound => ⟨found, client_link_mono hsubset hfound⟩

theorem remaining_append_subset (inputs : TopologyPolicyInputs) (stars more : List NapAssignment) :
    remaining inputs (stars ++ more) ⊆ remaining inputs stars := by
  intro node hnode
  obtain ⟨hknown, hfree⟩ := mem_remaining.mp hnode
  refine mem_remaining.mpr ⟨hknown, fun htaken => hfree ?_⟩
  obtain ⟨star, hstar, huse⟩ := mem_taken.mp htaken
  exact mem_taken.mpr ⟨star, List.mem_append_left _ hstar, huse⟩

variable {before stars : List NapAssignment}

/-- A star of a run was a proposal at the stage where it was picked. -/
theorem Greedy.proposes_of_mem {star : NapAssignment} (h : Greedy inputs before stars) (hstar : star ∈ stars) :
    ∃ first after candidate capacity proposal, stars = first ++ star :: after ∧ proposal.star = star ∧
      Proposes inputs (remaining inputs (before ++ first)) (hubs (before ++ first)) candidate capacity proposal := by
  obtain ⟨first, after, rfl⟩ := List.append_of_mem hstar
  obtain ⟨proposal, hbest, heq, _⟩ := h.pick_at
  obtain ⟨⟨candidate, capacity, hproposes⟩, _⟩ := best_proposes hbest
  exact ⟨first, after, candidate, capacity, proposal, rfl, heq, hproposes⟩

theorem Greedy.hubs_nodup (h : Greedy inputs before stars) :
    (stars.map NapAssignment.hub).Nodup ∧ ∀ star ∈ stars, star.hub ∉ hubs before := by
  induction h with
  | done => simp
  | @pick before rest proposal hbest _ ih =>
    obtain ⟨⟨candidate, capacity, hproposes⟩, _⟩ := best_proposes hbest
    obtain ⟨hnodup, hfresh⟩ := ih
    have hnot : ∀ star ∈ rest, star.hub ≠ proposal.hub ∧ star.hub ∉ hubs before := by
      intro star hstar
      have hout := hfresh star hstar
      simp only [mem_hubs, List.mem_append, List.mem_singleton, not_exists, not_and] at hout
      refine ⟨fun heq => hout proposal.star (.inr rfl) heq.symm, fun hin => ?_⟩
      obtain ⟨other, hother, heq⟩ := mem_hubs.mp hin
      exact hout other (.inl hother) heq
    refine ⟨?_, ?_⟩
    · rw [List.map_cons, List.nodup_cons]
      refine ⟨fun hin => ?_, hnodup⟩
      obtain ⟨star, hstar, heq⟩ := List.mem_map.mp hin
      exact (hnot star hstar).1 heq
    · intro star hstar
      obtain rfl | hstar := List.mem_cons.mp hstar
      · exact hproposes.fresh
      · exact (hnot star hstar).2

theorem Greedy.clients_nodup (h : Greedy inputs before stars) :
    (stars.flatMap NapAssignment.clients).Nodup ∧
      ∀ client ∈ stars.flatMap NapAssignment.clients, client ∈ remaining inputs before := by
  induction h with
  | done => simp
  | @pick before rest proposal hbest _ ih =>
    obtain ⟨⟨candidate, capacity, hproposes⟩, _⟩ := best_proposes hbest
    obtain ⟨hnodup, hfree⟩ := ih
    have hclients : proposal.star.clients =
        (offer inputs (remaining inputs before) proposal.hub candidate capacity).map Prod.fst := by
      rw [Proposal.star, hproposes.clients]
    have hown : ∀ client ∈ proposal.star.clients, client ∈ remaining inputs before := by
      intro client hclient
      obtain ⟨remote, hserves⟩ := mem_offer (hclients ▸ hclient)
      exact hserves.unserved
    rw [List.flatMap_cons]
    refine ⟨List.nodup_append'.mpr ⟨?_, hnodup, ?_⟩, ?_⟩
    · rw [hclients]
      exact offer_nodup _ _ _ _ _
    · intro client hclient hother
      refine (mem_remaining.mp (hfree client hother)).2 (mem_taken.mpr ?_)
      exact ⟨proposal.star, List.mem_append_right _ List.mem_cons_self, .inr hclient⟩
    · intro client hclient
      obtain hclient | hclient := List.mem_append.mp hclient
      · exact hown client hclient
      · exact remaining_append_subset inputs before _ (hfree client hclient)

end blueroute.topology_policy
