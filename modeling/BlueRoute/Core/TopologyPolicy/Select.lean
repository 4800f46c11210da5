import BlueRoute.Base.Loop
import BlueRoute.Base.Ranking
import BlueRoute.Core.TopologyPolicy.Inputs

open Ordered Ranking

namespace blueroute.topology_policy

variable (inputs : TopologyPolicyInputs)

/-- A neighbor that a hub can serve, with the worse of both observations of
the link. -/
def client_link (unserved : Finset NodeId) (id : NodeId) (entry : NodeId × CandidateLink) :
    Option (NodeId × CandidateLink) :=
  match inputs.candidates[entry.1]? with
  | none => none
  | some remote =>
    if entry.1 ∉ unserved ∨ remote.capabilities.can_join_pan ≠ some true ∨ remote.capabilities.usable ≠ some true then
      none
    else
      match remote.neighbors[id]? with
      | none => none
      | some reverse =>
        some (entry.1,
          { path_cost := max entry.2.path_cost reverse.path_cost
            quality :=
              match entry.2.quality, reverse.quality with
              | some here, some there => some { score := min here.score there.score }
              | _, _ => none
            stable := entry.2.stable && reverse.stable })

/-- A missing quality ranks as zero. -/
def quality_score (link : CandidateLink) : Nat :=
  (link.quality.map fun quality => quality.score.toNat).getD 0

/-- Stable links first, then better quality, lower cost and the smaller identity. -/
def client_key (entry : NodeId × CandidateLink) : Boolᵒᵈ ×ₗ Natᵒᵈ ×ₗ Nat ×ₗ NodeId :=
  toLex (OrderDual.toDual entry.2.stable, toLex (OrderDual.toDual (quality_score entry.2),
    toLex (entry.2.path_cost.toNat, entry.1)))

/-- The clients that a hub would take, best first and up to its capacity. -/
def offer (unserved : Finset NodeId) (id : NodeId) (candidate : TopologyCandidate) (capacity : Nat) :
    List (NodeId × CandidateLink) :=
  top client_key capacity (candidate.neighbors.toList.filterMap (client_link inputs unserved id))

/-- The part of a score below coverage and incumbency: stable links, quality,
mains power, gateway preference, cost and identity. -/
abbrev Standing := Nat ×ₗ Nat ×ₗ Bool ×ₗ Bool ×ₗ Natᵒᵈ ×ₗ NodeIdᵒᵈ

def standing (id : NodeId) (candidate : TopologyCandidate) (clients : List (NodeId × CandidateLink)) : Standing :=
  toLex ((clients.filter fun entry => entry.2.stable).length,
    toLex ((clients.map fun entry => quality_score entry.2).sum,
      toLex (candidate.capabilities.power_state.any fun power => power.value = .AcPowered,
        toLex (candidate.gateway_preferred,
          toLex (OrderDual.toDual (clients.map fun entry => entry.2.path_cost.toNat).sum,
            OrderDual.toDual id)))))

structure Proposal where
  hub : NodeId
  clients : List (NodeId × CandidateLink)
  /-- Coverage first, then incumbency, then the rest. -/
  score : Nat ×ₗ Bool ×ₗ Standing

/-- The local variables of the selection loop. -/
structure SelectState where
  unserved : Finset NodeId
  selected_hubs : Finset NodeId
  stars : List NapAssignment

/-- What one candidate proposes in an iteration; `none` is the `continue` of
the source. -/
def propose (unserved selected_hubs : Finset NodeId) (entry : NodeId × TopologyCandidate) : Option Proposal :=
  if entry.1 ∈ selected_hubs ∨ entry.2.capabilities.can_host_pan ≠ some true ∨
      entry.2.capabilities.usable ≠ some true then none
  else
    match entry.2.capabilities.ceiling with
    | none => none
    | some capacity =>
      if capacity = 0 then none
      else
        let clients := offer inputs unserved entry.1 entry.2 capacity
        if clients = [] then none
        else
          some
            { hub := entry.1
              clients
              score := toLex (clients.length, toLex (entry.2.currently_hosting, standing entry.1 entry.2 clients)) }

def best (unserved selected_hubs : Finset NodeId) : Option Proposal :=
  strongest Proposal.score (inputs.candidates.toList.filterMap (propose inputs unserved selected_hubs))

def Proposal.star (self : Proposal) : NapAssignment where
  hub := self.hub
  clients := self.clients.map Prod.fst

def SelectState.assign (state : SelectState) (star : NapAssignment) : SelectState where
  unserved := (state.unserved.erase star.hub) \ star.clients.toFinset
  selected_hubs := insert star.hub state.selected_hubs
  stars := state.stars ++ [star]

/-- One iteration of the selection loop. -/
def select_hub (state : SelectState) : Result (Option SelectState) :=
  match best inputs state.unserved state.selected_hubs with
  | none => .ok none
  | some proposal => .ok (some (state.assign proposal.star))

/-- The deterministic, capacity-bounded hub selection. Every iteration selects
another candidate, so the loop runs on one more fuel than there are. -/
def select_nap_hubs : Result NapSelection := do
  inputs.validate
  let final ← Loop.run (select_hub inputs) (inputs.candidates.size + 1)
    { unserved := inputs.candidates.keys.toFinset, selected_hubs := ∅, stars := [] }
  .ok { stars := final.stars, unserved := final.unserved }

end blueroute.topology_policy
