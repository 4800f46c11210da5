import BlueRoute.Core.TopologyPlan.LinkSet
import BlueRoute.Core.TopologyPolicy.Reselection

open Ordered Ranking

namespace blueroute.topology_recovery

open topology_executor topology_policy

/-- The clients that a hub would take next. -/
def offered (inputs : TopologyPolicyInputs) (unserved : Finset NodeId) (hub : NodeId) :
    List (NodeId × CandidateLink) :=
  match inputs.candidates[hub]? with
  | none => []
  | some candidate => offer inputs unserved hub candidate (candidate.capabilities.ceiling.getD 0)

/-- The score of a hub with its incumbency left out. -/
def merit (inputs : TopologyPolicyInputs) (unserved : Finset NodeId) (hub : NodeId) : WithBot (Nat ×ₗ Standing) :=
  match inputs.candidates[hub]? with
  | none => ⊥
  | some candidate =>
    (toLex ((offered inputs unserved hub).length, standing hub candidate (offered inputs unserved hub)) :
      Nat ×ₗ Standing)

/-- Each star in turn takes its own clients and its hub outranks, incumbency
aside, the hubs of the stars that follow. -/
def Settles (inputs : TopologyPolicyInputs) : List NapAssignment → List NapAssignment → Prop
  | _, [] => True
  | before, star :: rest =>
    star.clients ≠ [] ∧ star.clients = (offered inputs (remaining inputs before) star.hub).map Prod.fst ∧
      (∀ other ∈ rest, merit inputs (remaining inputs before) other.hub <
        merit inputs (remaining inputs before) star.hub) ∧
      Settles inputs (before ++ [star]) rest

/-- The observed links are stars that stand on their own: some order of them
makes every hub take its clients by merit. -/
def Settled (inputs : TopologyPolicyInputs) (observed : Finset NapLink) : Prop :=
  ∃ stars, links { stars, unserved := ∅ } = observed ∧ Settles inputs [] stars

variable {inputs : TopologyPolicyInputs} {candidate : TopologyCandidate}

variable {hub : NodeId} {capacity : Nat}

theorem offered_eq (hfound : inputs.candidates[hub]? = some candidate)
    (hceiling : candidate.capabilities.ceiling = some capacity) (unserved : Finset NodeId) :
    offered inputs unserved hub = offer inputs unserved hub candidate capacity := by
  rw [offered, hfound]
  simp only [hceiling, Option.getD_some]

theorem merit_eq (hfound : inputs.candidates[hub]? = some candidate)
    (hceiling : candidate.capabilities.ceiling = some capacity) (unserved : Finset NodeId) :
    merit inputs unserved hub = (toLex ((offer inputs unserved hub candidate capacity).length,
      standing hub candidate (offer inputs unserved hub candidate capacity)) : Nat ×ₗ Standing) := by
  rw [merit, hfound]
  simp only [offered_eq hfound hceiling]

theorem lex_lt_iff {α β γ : Type} [LinearOrder α] [LinearOrder β] [LinearOrder γ] {a b : α} {s t : γ} (x : β) :
    toLex (a, toLex (x, s)) < toLex (b, toLex (x, t)) ↔ toLex (a, s) < toLex (b, t) := by
  simp [Prod.Lex.toLex_lt_toLex]

theorem standing_injective {other : NodeId} {candidate found : TopologyCandidate}
    {clients more : List (NodeId × CandidateLink)} (h : standing hub candidate clients = standing other found more) :
    hub = other := by
  simp only [standing, EmbeddingLike.apply_eq_iff_eq, Prod.mk.injEq] at h
  exact h.2.2.2.2.2

/-- A proposal carries the merit of its hub. -/
theorem Proposes.merit {unserved selected : Finset NodeId} {proposal : Proposal}
    (h : Proposes inputs unserved selected candidate capacity proposal) :
    merit inputs unserved proposal.hub =
      (toLex (proposal.clients.length, standing proposal.hub candidate proposal.clients) : Nat ×ₗ Standing) := by
  rw [merit_eq h.found h.ceiling, ← h.clients]

/-- Two hubs that are both incumbents are ranked by merit. -/
theorem score_lt_iff {unserved selected : Finset NodeId} {candidate found : TopologyCandidate} {room : Nat}
    {proposal other : Proposal} (h : Proposes inputs unserved selected candidate capacity proposal)
    (hother : Proposes inputs unserved selected found room other)
    (hsame : candidate.currently_hosting = found.currently_hosting) :
    other.score < proposal.score ↔
      topology_recovery.merit inputs unserved other.hub < topology_recovery.merit inputs unserved proposal.hub := by
  rw [Proposes.merit h, Proposes.merit hother, h.score, hother.score, hsame, WithBot.coe_lt_coe, lex_lt_iff]

end blueroute.topology_recovery
