import BlueRoute.Core.TopologyRecovery.Model
import BlueRoute.Core.TopologyRecovery.Stability

open Fallible Ordered

namespace blueroute.topology_recovery

open topology_executor topology_plan topology_policy topology_recovery_flow TopologyPolicyInputs

/-- What is left of a candidate when some nodes are lost. -/
def survivor (observed_links : Finset NapLink) (lost_hubs : Finset NodeId) (id : NodeId)
    (candidate : TopologyCandidate) : TopologyCandidate :=
  { candidate with
    neighbors := candidate.neighbors.filter fun peer _ => peer ∉ lost_hubs
    currently_hosting := decide (∃ link ∈ observed_links, link.hub = id) }

section

variable {inputs : TopologyPolicyInputs} {observed_links : Finset NapLink} {lost_hubs : Finset NodeId}

theorem available_getElem? (id : NodeId) :
    (available inputs observed_links lost_hubs).candidates[id]? =
      if id ∈ lost_hubs then none else (inputs.candidates[id]?).map (survivor observed_links lost_hubs id) := by
  rw [available, Std.ExtTreeMap.getElem?_map, getElem?_filter_key]
  by_cases hlost : id ∈ lost_hubs
  · simp [hlost]
  · simp only [hlost, not_false_eq_true, decide_true, if_true, if_false]
    rfl

theorem available_found {id : NodeId} {candidate : TopologyCandidate}
    (h : (available inputs observed_links lost_hubs).candidates[id]? = some candidate) :
    id ∉ lost_hubs ∧ ∃ original, inputs.candidates[id]? = some original ∧
      candidate = survivor observed_links lost_hubs id original := by
  rw [available_getElem?] at h
  split at h
  · cases h
  · rename_i hkept
    obtain ⟨original, horiginal, heq⟩ := Option.map_eq_some_iff.mp h
    exact ⟨hkept, original, horiginal, heq.symm⟩

theorem mem_available {id : NodeId} :
    id ∈ (available inputs observed_links lost_hubs).candidates ↔ id ∈ inputs.candidates ∧ id ∉ lost_hubs := by
  rw [mem_iff_exists, mem_iff_exists, available_getElem?]
  split
  · rename_i hlost
    simp [hlost]
  · rename_i hkept
    simp [hkept]

theorem mem_survivor_neighbors {id peer : NodeId} {candidate : TopologyCandidate} :
    peer ∈ (survivor observed_links lost_hubs id candidate).neighbors ↔
      peer ∈ candidate.neighbors ∧ peer ∉ lost_hubs := by
  rw [mem_iff_exists, mem_iff_exists, survivor, getElem?_filter_key]
  by_cases hlost : peer ∈ lost_hubs
  · simp [hlost]
  · simp [hlost]

/-- The survivors pass the checks that all candidates passed. -/
theorem available_validate (hvalid : inputs.validate = .ok ()) :
    (available inputs observed_links lost_hubs).validate = .ok () := by
  refine check_each_eq_ok_iff.mpr fun ⟨id, candidate⟩ hentry => ?_
  obtain ⟨hkept, original, horiginal, rfl⟩ := available_found (mem_toList.mp hentry)
  have hcheck := check_each_eq_ok_iff.mp hvalid (id, original) (mem_toList.mpr horiginal)
  simp only [validate_candidate, bind_eq_ok_iff, check_each_eq_ok_iff] at hcheck ⊢
  obtain ⟨_, hid, _, hceiling, _, hpower, hneighbors⟩ := hcheck
  refine ⟨(), hid, (), hceiling, (), hpower, ?_⟩
  rintro ⟨peer, link⟩ hpeer
  have hlink := mem_toList.mp hpeer
  rw [survivor, getElem?_filter_key] at hlink
  split at hlink
  · rename_i hpeerKept
    have hcheck := hneighbors (peer, link) (mem_toList.mpr hlink)
    simp only [validate_neighbor, bind_eq_ok_iff, reject_if_eq_ok, not_or, not_not] at hcheck ⊢
    obtain ⟨_, ⟨hne, hknown⟩, hmetric⟩ := hcheck
    exact ⟨(), ⟨hne, mem_available.mpr ⟨hknown, by simpa using hpeerKept⟩⟩, hmetric⟩
  · cases hlink

theorem known_available (hlost : lost_hubs ⊆ known inputs) :
    known (available inputs observed_links lost_hubs) ∪ lost_hubs = known inputs := by
  ext node
  simp only [known, Finset.mem_union, List.mem_toFinset, Std.ExtTreeMap.mem_keys, mem_available]
  have hmem : node ∈ lost_hubs → node ∈ inputs.candidates := by
    intro hin
    simpa [known] using hlost hin
  tauto

theorem available_reseated (inputs : TopologyPolicyInputs) (before after : Finset NapLink) (lost_hubs : Finset NodeId) :
    Reseated (available inputs before lost_hubs) (available inputs after lost_hubs) := by
  intro id
  rw [available_getElem?, available_getElem?]
  split
  · rfl
  · cases inputs.candidates[id]? with
    | none | some candidate => rfl

theorem available_seats {stars : List NapAssignment} (hnonempty : ∀ star ∈ stars, star.clients ≠ []) :
    Seats (available inputs (links { stars, unserved := ∅ }) lost_hubs) (hubs stars) := by
  intro id candidate hfound
  obtain ⟨_, original, _, rfl⟩ := available_found hfound
  simp only [survivor, decide_eq_true_eq, mem_hubs]
  constructor
  · rintro ⟨link, hlink, rfl⟩
    obtain ⟨star, hstar, hhub, _⟩ := mem_links.mp hlink
    exact ⟨star, hstar, hhub⟩
  · rintro ⟨star, hstar, rfl⟩
    obtain ⟨client, hclient⟩ := List.exists_mem_of_ne_nil _ (hnonempty star hstar)
    exact ⟨{ hub := star.hub, client }, mem_links.mpr ⟨star, hstar, rfl, hclient⟩, rfl⟩

end

end blueroute.topology_recovery
