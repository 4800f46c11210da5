import BlueRoute.Base.BestFirst
import BlueRoute.Base.Transit
import BlueRoute.Core.Route
import BlueRoute.Core.Topology

namespace blueroute.route_planner

open Fallible Transit

def DEGRADED_LINK_COST_PENALTY : Nat := 100

/-- A total cost, a hop count and a first hop, in the order of the source's tuples. -/
abbrev Label := ℕ ×ₗ ℕ ×ₗ NodeId

namespace Label

def new (cost hops : Nat) (first_hop : NodeId) : Label := toLex (cost, toLex (hops, first_hop))

def cost (label : Label) : Nat := (ofLex label).1

def hops (label : Label) : Nat := (ofLex (ofLex label).2).1

def first_hop (label : Label) : NodeId := (ofLex (ofLex label).2).2

end Label

def edge_cost (link : PanLink) : Nat :=
  max link.cost.toNat 1 + if link.health = .Degraded then DEGRADED_LINK_COST_PENALTY else 0

/-- `u64::checked_add` -/
def checked_add_u64 (left right : Nat) : Option Nat :=
  if left + right < 2 ^ 64 then some (left + right) else none

/-- The candidate that a link offers to its other endpoint, where it offers one. -/
def offer_link (source current : NodeId) (label : Label) (link : PanLink) : Option (Result (NodeId × Label)) :=
  if !link.is_forwarding_candidate then none
  else match link.other_endpoint current with
    | none => none
    | some next => some do
      let next_cost ← ok_or (checked_add_u64 label.cost (edge_cost link))
        (.new .TopologyFailure "route cost overflow")
      let next_hops := label.hops + 1
      let next_first_hop := if current = source then next else label.first_hop
      pure (next, Label.new next_cost next_hops next_first_hop)

/-- The candidates of one expansion. Only the source and nodes that are known to route expand. -/
def offers (graph : TopologyGraph) (source current : NodeId) (label : Label) : List (Result (NodeId × Label)) :=
  if current ≠ source ∧ (graph.node current).bind NodeCapabilities.can_route ≠ some true then []
  else graph.links.toList.filterMap fun (_, link) => offer_link source current label link

/-- The number of iterations that the search needs at most. -/
def search_fuel (graph : TopologyGraph) : Nat :=
  let count := graph.links.toList.length
  2 + count * (2 * count + 1)

def u32_try_from (value : Nat) : Option UInt32 :=
  if value < 2 ^ 32 then some (UInt32.ofNat value) else none

def route_to (network : NetworkId) (node : NodeId) (label : Label) : Result Route := do
  let cost ← ok_or (u32_try_from label.cost) (.new .TopologyFailure "route metric exceeds u32")
  pure { destination := .Node node, next_hop := label.first_hop, cost, owner := .BlueRouteNetwork network }

/-- The routes of one source to every other node that it reaches. -/
def desired_node_routes (graph : TopologyGraph) (source : NodeId) (network : NetworkId) :
    Result (List Route) := do
  reject_if (graph.node source).isNone (.new .InvalidInput "source is not in the topology")
  let search ← Loop.run (BestFirst.State.body (offers graph source)) (search_fuel graph)
    (BestFirst.State.init source (Label.new 0 0 source))
  (search.best.toList.filter fun (node, _) => node ≠ source).mapM fun (node, label) =>
    route_to network node label

end blueroute.route_planner
