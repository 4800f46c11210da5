import BlueRoute.Base.Loop
import BlueRoute.Core.TopologyPolicy.Inputs

open Fallible Ordered

namespace blueroute

structure NapLink where
  hub : NodeId
  client : NodeId

namespace NapLink

/-- The derived order compares the hub first and then the client. -/
def key (self : NapLink) : NodeId ×ₗ NodeId := toLex (self.hub, self.client)

theorem key_injective : Function.Injective key := by
  intro left right h
  cases left
  cases right
  simpa [key] using h

instance : LinearOrder NapLink :=
  LinearOrder.lift' key key_injective

end NapLink

inductive NapPlanStep where
  | Connect (link : NapLink)
  | Disconnect (link : NapLink)
deriving DecidableEq

structure NapPlanDiff where
  steps : List NapPlanStep
  reconnect_interruptions : Finset NodeId
deriving DecidableEq

namespace topology_plan

def invalid (message : String) : CoreError := CoreError.new .InvalidInput message

/-- The local variables of `link_set`. -/
structure LinkSetState where
  links : Finset NapLink
  hubs : Finset NodeId
  client_hubs : Map NodeId NodeId
  served : Finset NodeId

variable (inputs : TopologyPolicyInputs)

/-- The desired-only checks on the hub of one star. -/
def check_desired_hub (star : NapAssignment) : Result Unit := do
  let hub ← ok_or inputs.candidates[star.hub]? (invalid "unknown desired NAP hub")
  reject_if (hub.capabilities.can_host_pan ≠ some true ∨ hub.capabilities.usable ≠ some true)
    (invalid "desired NAP host lacks affirmative capability")
  let capacity ← ok_or hub.capabilities.ceiling (invalid "desired NAP host capacity is unknown")
  reject_if (star.clients.length > capacity) (invalid "desired NAP host exceeds capacity")

/-- The desired-only checks on one client of a star. The indexing
`inputs.candidates[&star.hub]` cannot panic: the hub was looked up before. -/
def check_desired_client (hub client : NodeId) : Result Unit := do
  let peer ← ok_or inputs.candidates[client]? (invalid "unknown desired PANU client")
  reject_if (peer.capabilities.can_join_pan ≠ some true ∨ peer.capabilities.usable ≠ some true ∨
      ¬ (∃ host ∈ inputs.candidates[hub]?, client ∈ host.neighbors) ∨ hub ∉ peer.neighbors)
    (invalid "desired link lacks reciprocal, capable neighbors")

def link_set_client (desired : Bool) (hub : NodeId) (state : LinkSetState) (client : NodeId) :
    Result LinkSetState := do
  reject_if (client = hub ∨ client ∈ state.client_hubs)
    (invalid "self-link or multiply assigned PANU client")
  check_when desired (check_desired_client inputs hub client)
  .ok { state with
    client_hubs := state.client_hubs.insert client hub
    served := insert client state.served
    links := insert { hub, client } state.links }

def link_set_star (desired : Bool) (state : LinkSetState) (star : NapAssignment) : Result LinkSetState := do
  reject_if (star.hub ∈ state.hubs ∨ star.clients = []) (invalid "duplicate or empty NAP assignment")
  check_when desired (check_desired_hub inputs star)
  let state := { state with hubs := insert star.hub state.hubs, served := insert star.hub state.served }
  star.clients.foldlM (link_set_client inputs desired star.hub) state

/-- The identities of the candidates, the `known` set of the source. -/
def known : Finset NodeId := inputs.candidates.keys.toFinset

def link_set (plan : NapSelection) (inputs : TopologyPolicyInputs) (desired : Bool) :
    Result (Finset NapLink) := do
  let state ← plan.stars.foldlM (link_set_star inputs desired)
    { links := ∅, hubs := ∅, client_hubs := ∅, served := ∅ }
  check_when desired (reject_if
    (¬ Disjoint plan.unserved state.served ∨ ¬ plan.unserved ⊆ known inputs ∨
      state.served ∪ plan.unserved ≠ known inputs)
    (invalid "desired topology has inconsistent unserved nodes"))
  .ok state.links

/-- The connection ceiling of a hub, zero when it is unknown. The indexing
`inputs.candidates[&link.hub]` is only reached for hubs that `link_set` accepted. -/
def capacity (hub : NodeId) : Nat :=
  (inputs.candidates[hub]?.bind fun candidate => candidate.capabilities.ceiling).getD 0

def occupied (current : Finset NapLink) (hub : NodeId) : Nat :=
  (current.filter fun old => old.hub = hub).card

/-- Whether a pending link can be connected before anything is broken. -/
def ready (current : Finset NapLink) (link : NapLink) : Bool :=
  decide (¬ (∃ old ∈ current, old.client = link.client) ∧ occupied current link.hub < capacity inputs link.hub)

/-- The obsolete attachment that blocks a pending link: the moving client's old
hub, or else an obsolete slot on the new hub. -/
def obstacle (current target : Finset NapLink) (link : NapLink) : Option NapLink :=
  (first (fun old => old.client = link.client) (current \ target)).or
    (first (fun old => old.hub = link.hub) (current \ target))

/-- The local variables of the loop of `diff_nap_topology`. -/
structure DiffState where
  current : Finset NapLink
  pending : Finset NapLink
  result : NapPlanDiff

def DiffState.connect (state : DiffState) (link : NapLink) : DiffState where
  current := insert link state.current
  pending := state.pending.erase link
  result := { state.result with steps := state.result.steps ++ [.Connect link] }

def DiffState.disconnect (state : DiffState) (target : Finset NapLink) (old : NapLink) : DiffState where
  current := state.current.erase old
  pending := state.pending
  result :=
    { steps := state.result.steps ++ [.Disconnect old]
      reconnect_interruptions :=
        if ∃ new ∈ target, new.client = old.client then insert old.client state.result.reconnect_interruptions
        else state.result.reconnect_interruptions }

/-- One iteration of the loop over the pending links. -/
def reconcile (target : Finset NapLink) (state : DiffState) : Result (Option DiffState) :=
  if state.pending = ∅ then .ok none
  else
    match first (ready inputs state.current) state.pending with
    | some link => .ok (some (state.connect link))
    | none =>
      match (ascending state.pending).findSome? (obstacle state.current target) with
      | none => .error (invalid "topology transition cannot free a safe slot")
      | some old => .ok (some (state.disconnect target old))

/-- Every iteration either serves a pending link or retires an obsolete one. -/
def DiffState.rank (target : Finset NapLink) (state : DiffState) : Nat :=
  state.pending.card + (state.current \ target).card

/-- The clean-up loop that retires what the desired topology does not keep. -/
def retire (target : Finset NapLink) (state : DiffState) : NapPlanDiff :=
  { state.result with
    steps := state.result.steps ++ (ascending (state.current \ target)).map .Disconnect }

def initial (active target : Finset NapLink) : DiffState where
  current := active
  pending := target \ active
  result := { steps := [], reconnect_interruptions := ∅ }

/-- An ordered, minimal diff between observed and desired NAP links. The loop
runs on fuel above its rank, which it cannot exhaust. -/
def diff_nap_topology (active desired : NapSelection) : Result NapPlanDiff := do
  inputs.validate
  let current ← link_set active inputs false
  let target ← link_set desired inputs true
  let start := initial current target
  let final ← Loop.run (reconcile inputs target) (start.rank target + 1) start
  .ok (retire target final)

end topology_plan

end blueroute
