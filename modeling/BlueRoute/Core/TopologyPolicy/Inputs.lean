import BlueRoute.Base.Ordered
import BlueRoute.Core.Capability
import BlueRoute.Core.Id

open Fallible Ordered

namespace blueroute

structure CandidateLink where
  path_cost : UInt32
  quality : Option LinkQuality
  stable : Bool
deriving DecidableEq

structure TopologyCandidate where
  id : NodeId
  capabilities : NodeCapabilities
  neighbors : Map NodeId CandidateLink
  currently_hosting : Bool
  gateway_preferred : Bool
deriving DecidableEq

structure TopologyPolicyInputs where
  candidates : Map NodeId TopologyCandidate
deriving DecidableEq

structure NapAssignment where
  hub : NodeId
  clients : List NodeId
deriving DecidableEq

/-- Unreachable or unassigned candidates are explicitly retained in `unserved`. -/
structure NapSelection where
  stars : List NapAssignment
  unserved : Finset NodeId
deriving DecidableEq

/-- The all-zero identity, which no policy accepts. -/
def NodeId.zero : NodeId := Id.filled 0

namespace topology_policy

def invalid (message : String) : CoreError := CoreError.new .InvalidInput message

end topology_policy

namespace TopologyPolicyInputs

open topology_policy

/-- The checks that `validate` makes on one neighbor of a candidate. -/
def validate_neighbor (self : TopologyPolicyInputs) (id : NodeId)
    (entry : NodeId × CandidateLink) : Result Unit := do
  reject_if (entry.1 = id ∨ entry.1 ∉ self.candidates)
    (invalid "unknown or self-referential topology neighbor")
  reject_if (entry.2.path_cost = 0 ∨ entry.2.quality.any fun quality => quality.score > 100)
    (invalid "invalid topology link metric")

/-- The checks that `validate` makes on one candidate. -/
def validate_candidate (self : TopologyPolicyInputs) (entry : NodeId × TopologyCandidate) :
    Result Unit := do
  reject_if (entry.1 = NodeId.zero ∨ entry.1 ≠ entry.2.id)
    (invalid "invalid or mismatched topology node identity")
  reject_if (entry.2.capabilities.connection_policy_ceiling.any fun ceiling => ceiling.value = 0)
    (invalid "zero NAP connection ceiling")
  reject_if (entry.2.capabilities.power_state.any fun power =>
      match power.value with
      | .Battery percent => percent > 100
      | .AcPowered => false)
    (invalid "battery percentage exceeds 100")
  check_each (self.validate_neighbor entry.1) entry.2.neighbors.toList

/-- Unknown capability is never affirmative permission to host or join, and
validation does not confer trust. -/
def validate (self : TopologyPolicyInputs) : Result Unit :=
  check_each self.validate_candidate self.candidates.toList

/-- What a validated candidate guarantees to the planners. -/
structure ValidCandidate (inputs : TopologyPolicyInputs) (id : NodeId) (candidate : TopologyCandidate) : Prop where
  id_eq : candidate.id = id
  ceiling_pos : ∀ ceiling, candidate.capabilities.ceiling = some ceiling → 0 < ceiling
  neighbor_ne : ∀ peer, peer ∈ candidate.neighbors → peer ≠ id
  neighbor_known : ∀ peer, peer ∈ candidate.neighbors → peer ∈ inputs.candidates

theorem validate_ok_candidate {self : TopologyPolicyInputs} (hvalid : self.validate = .ok ())
    {id : NodeId} {candidate : TopologyCandidate} (hcandidate : self.candidates[id]? = some candidate) :
    self.ValidCandidate id candidate := by
  have hcheck := check_each_eq_ok_iff.mp hvalid (id, candidate) (mem_toList.mpr hcandidate)
  simp only [validate_candidate, bind_eq_ok_iff, reject_if_eq_ok, not_or, not_not] at hcheck
  obtain ⟨_, ⟨_, hid⟩, _, hceiling, _, _, hneighbors⟩ := hcheck
  have hneighbor (peer : NodeId) (hpeer : peer ∈ candidate.neighbors) :
      peer ≠ id ∧ peer ∈ self.candidates := by
    obtain ⟨link, hlink⟩ := mem_iff_exists.mp hpeer
    have hcheck := check_each_eq_ok_iff.mp hneighbors (peer, link) (mem_toList.mpr hlink)
    simp only [validate_neighbor, bind_eq_ok_iff, reject_if_eq_ok, not_or, not_not] at hcheck
    exact hcheck.choose_spec.1
  refine ⟨hid.symm, ?_, fun peer hpeer => (hneighbor peer hpeer).1, fun peer hpeer => (hneighbor peer hpeer).2⟩
  intro ceiling hsome
  simp only [NodeCapabilities.ceiling, Option.map_eq_some_iff] at hsome
  obtain ⟨sourced, hsourced, rfl⟩ := hsome
  rw [hsourced] at hceiling
  simp only [Option.any_some, decide_eq_true_eq] at hceiling
  exact Nat.pos_of_ne_zero fun hzero => hceiling (UInt16.toNat_inj.mp (by simpa using hzero))

end TopologyPolicyInputs

namespace sample

def node (octet : UInt8) : NodeId := Id.filled octet

/-- A node that all others reach at the same cost and that serves one client
at a time if it is a hub. -/
def candidate (hubs nodes : List UInt8) (octet : UInt8) : TopologyCandidate where
  id := node octet
  capabilities :=
    { adapter_usable := some ⟨true, .Measured⟩
      panu := some ⟨!hubs.contains octet, .Measured⟩
      nap := some ⟨hubs.contains octet, .Measured⟩
      connection_policy_ceiling := some ⟨1, .Configured⟩ }
  neighbors := (nodes.filter (· ≠ octet)).foldl (fun peers peer => peers.insert (node peer) ⟨1, none, true⟩) ∅
  currently_hosting := false
  gateway_preferred := false

def inputs (hubs nodes : List UInt8) : TopologyPolicyInputs :=
  ⟨nodes.foldl (fun candidates octet => candidates.insert (node octet) (candidate hubs nodes octet)) ∅⟩

def selection (stars : List (UInt8 × List UInt8)) (unserved : List UInt8) : NapSelection where
  stars := stars.map fun star => ⟨node star.1, star.2.map node⟩
  unserved := (unserved.map node).toFinset

end sample

end blueroute
