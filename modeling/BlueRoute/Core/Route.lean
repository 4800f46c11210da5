import BlueRoute.Core.Id

namespace blueroute

open net

/-- An address block, or an address together with the length of its network part. -/
structure IpPrefix where
  address : IpAddr
  prefix_len : UInt8
deriving DecidableEq

namespace IpPrefix

def maximum : IpAddr → UInt8
  | .V4 _ => 32
  | .V6 _ => 128

def new (address : IpAddr) (prefix_len : UInt8) : Result IpPrefix :=
  if prefix_len > maximum address then
    .error (CoreError.new .InvalidInput
      s!"prefix length {prefix_len.toNat} is invalid for {address.to_string}")
  else .ok { address, prefix_len }

theorem new_eq_ok_iff {address : IpAddr} {prefix_len : UInt8} {result : IpPrefix} :
    new address prefix_len = .ok result ↔ prefix_len ≤ maximum address ∧ result = ⟨address, prefix_len⟩ := by
  unfold new
  split
  · simp_all
  · simp_all [eq_comm]

/-- The derived order: by address, then by length. -/
def key (p : IpPrefix) : IpAddr ×ₗ ℕ := toLex (p.address, p.prefix_len.toNat)

theorem key_injective : Function.Injective key := by
  rintro ⟨address, len⟩ ⟨address', len'⟩ h
  have haddress : address = address' := congrArg (fun k => (ofLex k).1) h
  have hlen : len.toNat = len'.toNat := congrArg (fun k => (ofLex k).2) h
  rw [haddress, UInt8.toNat.inj hlen]

instance : LinearOrder IpPrefix :=
  LinearOrder.lift' key key_injective

end IpPrefix

inductive RouteDestination where
  | Node (node : NodeId)
  | Segment (segment : SegmentId)
  | Prefix (block : IpPrefix)
  | Internet
deriving DecidableEq

namespace RouteDestination

/-- The derived order: by variant, and then by its value. -/
def key : RouteDestination → NodeId ⊕ₗ SegmentId ⊕ₗ IpPrefix ⊕ₗ Unit
  | Node node => Sum.inlₗ node
  | Segment segment => Sum.inrₗ (Sum.inlₗ segment)
  | Prefix block => Sum.inrₗ (Sum.inrₗ (Sum.inlₗ block))
  | Internet => Sum.inrₗ (Sum.inrₗ (Sum.inrₗ ()))

theorem key_injective : Function.Injective key := by
  intro left right h
  cases left <;> cases right <;> simp_all [key]

instance : LinearOrder RouteDestination :=
  LinearOrder.lift' key key_injective

end RouteDestination

inductive RouteOwner where
  | BlueRouteNetwork (network : NetworkId)
deriving DecidableEq

def RouteOwner.network : RouteOwner → NetworkId
  | BlueRouteNetwork network => network

structure Route where
  destination : RouteDestination
  next_hop : NodeId
  cost : UInt32
  owner : RouteOwner
deriving DecidableEq

/-- The derived order: field by field. -/
def Route.key (route : Route) : RouteDestination ×ₗ NodeId ×ₗ ℕ ×ₗ NetworkId :=
  toLex (route.destination, toLex (route.next_hop, toLex (route.cost.toNat, route.owner.network)))

end blueroute
