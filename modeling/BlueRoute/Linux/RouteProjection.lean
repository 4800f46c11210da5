import BlueRoute.Base.Tables
import BlueRoute.Core.Addressing
import BlueRoute.Linux.RouteReconciliation

namespace blueroute_linux.route_projection

open blueroute net Fallible Tables blueroute.route_reconciliation Ordered

/-- The derived order of an IPv4 address. -/
instance : LinearOrder Ipv4Addr :=
  LinearOrder.lift' (fun address => address.bits.toNat) fun _ _ h => Ipv4Addr.ext (BitVec.eq_of_toNat_eq h)

structure RouteDestinationBinding where
  network : NetworkId
  destination : RouteDestination
  prefix_ : IpPrefix
deriving DecidableEq

structure RouteNextHopBinding where
  network : NetworkId
  node : NodeId
  address : Ipv4Addr
  interface : NetworkInterfaceHandle
deriving DecidableEq

def destination_valid : RouteDestination → Result Unit
  | .Internet => .error (invalid "default routes are not supported")
  | .Node node => reject_if (is_zero node) (invalid "zero destination node")
  | .Segment segment => reject_if (is_zero segment) (invalid "zero destination segment")
  | .Prefix p => private_prefix p

/-- The checks of a destination binding by itself. -/
def check_destination (network : NetworkId) (binding : RouteDestinationBinding) : Result Unit := do
  reject_if (binding.network ≠ network) (invalid "foreign destination binding")
  destination_valid binding.destination
  private_prefix binding.prefix_
  match binding.destination with
  | .Node _ => reject_if (binding.prefix_.prefix_len ≠ 32) (invalid "node route requires an IPv4 host prefix")
  | .Prefix p => reject_if (p ≠ binding.prefix_) (invalid "prefix binding mismatch")
  | _ => pure ()

/-- The checks of a next-hop binding by itself. -/
def check_next_hop (network : NetworkId) (binding : RouteNextHopBinding) : Result Unit := do
  reject_if (binding.network ≠ network ∨ is_zero binding.node) (invalid "foreign or zero next-hop binding")
  let host ← IpPrefix.new (.V4 binding.address) 32
  private_prefix host

/-- A destination node must not claim the address of an observed peer unless it is that peer. -/
def check_observed (hop_map : Map NodeId RouteNextHopBinding) (hop_addresses : Map Ipv4Addr NodeId)
    (binding : RouteDestinationBinding) : Result Unit :=
  match binding.destination with
  | .Node node => do
    reject_if (hop_map[node]?.any fun hop => binding.prefix_.address ≠ .V4 hop.address)
      (invalid "observed peer destination disagrees with next-hop IPv4")
    match binding.prefix_.address with
    | .V4 address =>
      reject_if (hop_addresses[address]?.any fun observed_node => observed_node ≠ node)
        (invalid "destination aliases another next-hop identity")
    | .V6 _ => pure ()
  | _ => pure ()

/-- A host route is on-link only when the destination is the first hop itself. -/
def gateway (route : Route) (p : IpPrefix) (hop : RouteNextHopBinding) : Result (Option IpAddr) :=
  if p.prefix_len = 32 ∧ p.address = .V4 hop.address then do
    reject_if (route.destination ≠ .Node route.next_hop) (invalid "destination aliases another next-hop identity")
    pure none
  else pure (some (.V4 hop.address))

def project_route (network : NetworkId) (destination_map : Map RouteDestination IpPrefix)
    (hop_map : Map NodeId RouteNextHopBinding) (route : Route) : Result (IpPrefix × LinuxRoute) := do
  reject_if (route.owner ≠ .BlueRouteNetwork network) (invalid "foreign route owner")
  destination_valid route.destination
  reject_if (route.cost = 0 ∨ is_zero route.next_hop) (invalid "invalid route cost or next hop")
  let p ← ok_or destination_map[route.destination]? (invalid "unresolved destination")
  let hop ← ok_or hop_map[route.next_hop]? (invalid "unobserved next hop")
  reject_if (route.destination = .Node route.next_hop ∧ p.address ≠ .V4 hop.address)
    (invalid "direct peer route disagrees with observed IPv4 address")
  let via ← gateway route p hop
  pure (p, { destination := p, via, interface := hop.interface, metric := route.cost, owner := network })

/-- The prefixes that are taken, as a map without values, and the prefix of each destination. -/
def bind_destinations (network : NetworkId) (destinations : List RouteDestinationBinding) :
    Result (Map IpPrefix Unit × Map RouteDestination IpPrefix) :=
  destinations.foldlM
    (fill_both (check_destination network) (fun binding => (binding.prefix_, ()))
      (fun binding => (binding.destination, binding.prefix_)) (invalid "duplicate destination IPv4 prefix binding")
      (invalid "duplicate destination binding")) (∅, ∅)

/-- The peers by their addresses, and the binding of each peer. -/
def bind_next_hops (network : NetworkId) (next_hops : List RouteNextHopBinding) :
    Result (Map Ipv4Addr NodeId × Map NodeId RouteNextHopBinding) :=
  next_hops.foldlM
    (fill_both (check_next_hop network) (fun binding => (binding.address, binding.node))
      (fun binding => (binding.node, binding)) (invalid "duplicate next-hop IPv4 address binding")
      (invalid "duplicate next-hop binding")) (∅, ∅)

/-- Produce deterministic, ownership-scoped route descriptions without writes. -/
def project_ipv4_route_intents (network : NetworkId) (routes : List Route) (destinations : List RouteDestinationBinding)
    (next_hops : List RouteNextHopBinding) : Result (List LinuxRoute) := do
  reject_if (is_zero network) (invalid "zero network identity")
  let (_, destination_map) ← bind_destinations network destinations
  let (hop_addresses, hop_map) ← bind_next_hops network next_hops
  check_each (check_observed hop_map hop_addresses) destinations
  let output ← routes.foldlM
    (fill (project_route network destination_map hop_map) (invalid "multiple logical routes alias one kernel prefix")) ∅
  pure (output.toList.map Prod.snd)

section Accepted

variable {network : NetworkId} {routes : List Route} {destinations : List RouteDestinationBinding}
  {next_hops : List RouteNextHopBinding} {output : List LinuxRoute}

/-- The tables that the bindings make. -/
def destination_table (destinations : List RouteDestinationBinding) : Map RouteDestination IpPrefix :=
  of_entries (destinations.map fun binding => (binding.destination, binding.prefix_))

def hop_table (next_hops : List RouteNextHopBinding) : Map NodeId RouteNextHopBinding :=
  of_entries (next_hops.map fun binding => (binding.node, binding))

def address_table (next_hops : List RouteNextHopBinding) : Map Ipv4Addr NodeId :=
  of_entries (next_hops.map fun binding => (binding.address, binding.node))

/-- The bindings that are accepted together. -/
structure BindingsAccepted (network : NetworkId) (destinations : List RouteDestinationBinding)
    (next_hops : List RouteNextHopBinding) : Prop where
  network_nonzero : is_zero network = false
  destination : ∀ binding ∈ destinations, check_destination network binding = .ok ()
  distinct_prefixes : (destinations.map RouteDestinationBinding.prefix_).Nodup
  distinct_destinations : (destinations.map RouteDestinationBinding.destination).Nodup
  next_hop : ∀ binding ∈ next_hops, check_next_hop network binding = .ok ()
  distinct_addresses : (next_hops.map RouteNextHopBinding.address).Nodup
  distinct_nodes : (next_hops.map RouteNextHopBinding.node).Nodup
  observed : ∀ binding ∈ destinations, check_observed (hop_table next_hops) (address_table next_hops) binding = .ok ()

/-- What the projection accepts, and its output. -/
theorem project_eq_ok_iff :
    project_ipv4_route_intents network routes destinations next_hops = .ok output ↔
      BindingsAccepted network destinations next_hops ∧ ∃ entries,
        List.Forall₂ (fun route entry =>
          project_route network (destination_table destinations) (hop_table next_hops) route = .ok entry) routes
            entries ∧
        (entries.map Prod.fst).Nodup ∧ output = (of_entries entries).toList.map Prod.snd := by
  simp only [project_ipv4_route_intents, bind_destinations, bind_next_hops, bind_eq_ok_iff, reject_if_eq_ok,
    foldlM_fill_both_eq_ok_iff, foldlM_fill_eq_ok_iff, check_each_eq_ok_iff, Bool.not_eq_true]
  constructor
  · rintro ⟨_, hnonzero, ⟨_, _⟩, ⟨hchecked, hprefixes, hdestinations, htables⟩, ⟨_, _⟩,
      ⟨hhops, haddresses, hnodes, htables'⟩, _, hobserved, _, ⟨entries, hentries, hdistinct, rfl⟩, houtput⟩
    rw [Prod.mk.injEq] at htables htables'
    obtain ⟨rfl, rfl⟩ := htables
    obtain ⟨rfl, rfl⟩ := htables'
    exact ⟨⟨hnonzero, hchecked, hprefixes, hdestinations, hhops, haddresses, hnodes, hobserved⟩, entries, hentries,
      hdistinct, (Except.ok.inj houtput).symm⟩
  · rintro ⟨h, entries, hentries, hdistinct, rfl⟩
    exact ⟨(), h.network_nonzero, _, ⟨h.destination, h.distinct_prefixes, h.distinct_destinations, rfl⟩, _,
      ⟨h.next_hop, h.distinct_addresses, h.distinct_nodes, rfl⟩, (), h.observed, _,
        ⟨entries, hentries, hdistinct, rfl⟩, rfl⟩

end Accepted

end blueroute_linux.route_projection
