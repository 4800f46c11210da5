import BlueRoute.Core.TopologyPolicy.Stars

open Fallible Ordered Ranking

namespace blueroute

/-- A candidate without the mark of the current hubs. -/
def TopologyCandidate.unseat (candidate : TopologyCandidate) : TopologyCandidate :=
  { candidate with currently_hosting := false }

theorem TopologyCandidate.of_unseat_eq {candidate other : TopologyCandidate}
    (h : candidate.unseat = other.unseat) :
    candidate.capabilities = other.capabilities ∧ candidate.neighbors = other.neighbors ∧
      candidate.gateway_preferred = other.gateway_preferred := by
  simp only [unseat, mk.injEq] at h
  exact ⟨h.2.1, h.2.2.1, h.2.2.2.2⟩

end blueroute

namespace blueroute.topology_policy

/-- Two inputs that differ in the current hubs only. -/
def Reseated (left right : TopologyPolicyInputs) : Prop :=
  ∀ id : NodeId, left.candidates[id]?.map TopologyCandidate.unseat = right.candidates[id]?.map TopologyCandidate.unseat

section

variable {left right : TopologyPolicyInputs}

theorem Reseated.symm (h : Reseated left right) : Reseated right left := fun id => (h id).symm

variable {candidate : TopologyCandidate}

theorem Reseated.found (h : Reseated left right) {id : NodeId} (hfound : left.candidates[id]? = some candidate) :
    ∃ other, right.candidates[id]? = some other ∧ candidate.unseat = other.unseat := by
  have hid := h id
  rw [hfound] at hid
  obtain ⟨other, hother, heq⟩ := Option.map_eq_some_iff.mp hid.symm
  exact ⟨other, hother, heq.symm⟩

theorem Reseated.mem_iff (h : Reseated left right) {id : NodeId} : id ∈ left.candidates ↔ id ∈ right.candidates := by
  rw [mem_iff_exists, mem_iff_exists]
  constructor
  · rintro ⟨candidate, hfound⟩
    obtain ⟨other, hother, _⟩ := h.found hfound
    exact ⟨other, hother⟩
  · rintro ⟨candidate, hfound⟩
    obtain ⟨other, hother, _⟩ := h.symm.found hfound
    exact ⟨other, hother⟩

theorem Reseated.client_link (h : Reseated left right) (unserved : Finset NodeId) (id : NodeId) :
    client_link left unserved id = client_link right unserved id := by
  funext entry
  unfold topology_policy.client_link
  cases hleft : left.candidates[entry.1]? with
  | none =>
    have hright := h entry.1
    rw [hleft] at hright
    rw [Option.map_eq_none_iff.mp hright.symm]
  | some candidate =>
    obtain ⟨other, hright, heq⟩ := h.found hleft
    obtain ⟨hcapabilities, hneighbors, _⟩ := TopologyCandidate.of_unseat_eq heq
    rw [hright]
    simp only [hcapabilities, hneighbors]

theorem Reseated.offer (h : Reseated left right) (unserved : Finset NodeId) (id : NodeId)
    {other : TopologyCandidate} (heq : candidate.unseat = other.unseat) (capacity : Nat) :
    offer left unserved id candidate capacity = offer right unserved id other capacity := by
  obtain ⟨_, hneighbors, _⟩ := TopologyCandidate.of_unseat_eq heq
  rw [topology_policy.offer, topology_policy.offer, h.client_link, hneighbors]

/-- The same proposal on the other inputs, where only the incumbency differs. -/
theorem Reseated.proposes (h : Reseated left right) {unserved selected : Finset NodeId} {capacity : Nat}
    {proposal : Proposal} (hproposes : Proposes left unserved selected candidate capacity proposal) :
    ∃ other, candidate.unseat = other.unseat ∧ Proposes right unserved selected other capacity
      { hub := proposal.hub
        clients := proposal.clients
        score := toLex (proposal.clients.length,
          toLex (other.currently_hosting, standing proposal.hub other proposal.clients)) } := by
  obtain ⟨other, hother, heq⟩ := h.found hproposes.found
  obtain ⟨hcapabilities, _, _⟩ := TopologyCandidate.of_unseat_eq heq
  refine ⟨other, heq, hother, hproposes.fresh, ?_, ?_, ?_, hproposes.positive, ?_, hproposes.nonempty, rfl⟩
  · rw [← hcapabilities]
    exact hproposes.can_host
  · rw [← hcapabilities]
    exact hproposes.usable
  · rw [← hcapabilities]
    exact hproposes.ceiling
  · rw [← h.offer _ _ heq]
    exact hproposes.clients

theorem Reseated.remaining (h : Reseated left right) (stars : List NapAssignment) :
    remaining left stars = remaining right stars := by
  ext node
  rw [mem_remaining, mem_remaining, h.mem_iff]

end

/-- The same candidate proposes whenever more nodes are unserved. -/
theorem Proposes.widen {inputs : TopologyPolicyInputs} {narrow wide selected fewer : Finset NodeId}
    {candidate : TopologyCandidate} {capacity : Nat} {proposal : Proposal}
    (h : Proposes inputs narrow selected candidate capacity proposal) (hsubset : narrow ⊆ wide)
    (hfresh : proposal.hub ∉ fewer) :
    ∃ wider, wider.hub = proposal.hub ∧ proposal.clients.length ≤ wider.clients.length ∧
      Proposes inputs wide fewer candidate capacity wider := by
  have hlength : proposal.clients.length ≤ (offer inputs wide proposal.hub candidate capacity).length := by
    rw [h.clients]
    exact length_offer_mono inputs hsubset _ _ _
  have hpos := List.length_pos_iff.mpr h.nonempty
  exact ⟨{ hub := proposal.hub
           clients := offer inputs wide proposal.hub candidate capacity
           score := toLex ((offer inputs wide proposal.hub candidate capacity).length,
             toLex (candidate.currently_hosting,
               standing proposal.hub candidate (offer inputs wide proposal.hub candidate capacity))) },
    rfl, hlength, h.found, hfresh, h.can_host, h.usable, h.ceiling, h.positive, rfl,
    List.length_pos_iff.mp (hpos.trans_le hlength), rfl⟩

end blueroute.topology_policy
