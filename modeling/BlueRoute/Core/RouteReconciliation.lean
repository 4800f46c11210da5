import BlueRoute.Base.Bits
import BlueRoute.Base.Reconcile.Steps
import BlueRoute.Core.Route

namespace blueroute

open net Fallible

/-- `checked_shl`, where a shift by the whole width has no result -/
def checked_shl {w : Nat} (value : BitVec w) (shift : Nat) : Option (BitVec w) :=
  if shift < w then some (value <<< shift) else none

/-- Nothing is left of a word that is shifted by its whole width. -/
theorem getD_checked_shl {w : Nat} (value : BitVec w) (shift : Nat) :
    (checked_shl value shift).getD 0 = value <<< shift := by
  unfold checked_shl
  split
  · rfl
  · rw [BitVec.shiftLeft_eq_zero (by omega)]
    rfl

abbrev RouteReconciliationPlan := Reconcile.Plan Route

namespace route_reconciliation

def invalid (message : String) : CoreError := CoreError.new .InvalidInput message

/-- A prefix without its host bits, where its length fits its address. -/
def canonical_prefix (p : IpPrefix) : Result IpPrefix := do
  let _ ← IpPrefix.new p.address p.prefix_len
  let address := match p.address with
    | .V4 address =>
      IpAddr.V4 { bits := address.bits &&& (checked_shl (BitVec.allOnes 32) (32 - p.prefix_len.toNat)).getD 0 }
    | .V6 address =>
      IpAddr.V6 { bits := address.bits &&& (checked_shl (BitVec.allOnes 128) (128 - p.prefix_len.toNat)).getD 0 }
  IpPrefix.new address p.prefix_len

def canonical_observed_destination : RouteDestination → Result RouteDestination
  | .Prefix p => do
    let p ← canonical_prefix p
    pure (.Prefix p)
  | destination => pure destination

/-- An identity of sixteen zero bytes. -/
def is_zero {kind : IdKind} (id : Id kind) : Bool := id.as_bytes.toList.all (· == 0)

/-- No host bits, for a length that is not zero. -/
def has_canonical_bits (p : IpPrefix) : Bool :=
  match p.address with
  | .V4 address => address.bits &&& (BitVec.allOnes 32 <<< (32 - p.prefix_len.toNat)) == address.bits
  | .V6 address => address.bits &&& (BitVec.allOnes 128 <<< (128 - p.prefix_len.toNat)) == address.bits

def validate_desired (route : Route) (network : NetworkId) : Result Unit := do
  reject_if (route.owner ≠ .BlueRouteNetwork network) (invalid "desired route belongs to another network")
  reject_if (is_zero route.next_hop) (invalid "route next hop has zero identity")
  reject_if (route.cost = 0) (invalid "route cost must be positive")
  match route.destination with
  | .Internet => .error (invalid "default/Internet route is outside local LAN policy")
  | .Node node => reject_if (is_zero node) (invalid "route destination has zero identity")
  | .Segment segment => reject_if (is_zero segment) (invalid "route segment has zero identity")
  | .Prefix p =>
    let _ ← IpPrefix.new p.address p.prefix_len
    reject_if (p.prefix_len = 0) (invalid "zero-length prefix is not a local route")
    reject_if (¬ has_canonical_bits p) (invalid "route prefix contains noncanonical host bits")

/-- What a network accepts in the routing table. -/
def policy (network : NetworkId) : Reconcile.Policy Route RouteDestination CoreError where
  check_owner := reject_if (is_zero network) (invalid "route reconciliation requires a nonzero network")
  key := Route.destination
  owned := fun route => route.owner = .BlueRouteNetwork network
  check_desired := fun route => validate_desired route network
  canonical := fun route => canonical_observed_destination route.destination
  check_observed := fun _ => .ok ()
  duplicate_desired := invalid "duplicate desired route destination"
  desired_conflict := invalid "desired destination conflicts with foreign route"
  noncanonical := invalid "observed owned route has noncanonical prefix"
  duplicate_observed := invalid "duplicate observed owned route destination"
  owned_conflict := invalid "owned destination conflicts with foreign route"

/-- Deterministic route intents for one network; the routes of others are left untouched. -/
def plan_route_reconciliation (network : NetworkId) (desired observed : List Route) :
    Result RouteReconciliationPlan :=
  (policy network).plan desired observed

/-- The network that a prefix stands for. -/
def network_of (p : IpPrefix) : IpPrefix where
  address := match p.address with
    | .V4 address => .V4 { bits := address.bits &&& (BitVec.allOnes 32 <<< (32 - p.prefix_len.toNat)) }
    | .V6 address => .V6 { bits := address.bits &&& (BitVec.allOnes 128 <<< (128 - p.prefix_len.toNat)) }
  prefix_len := p.prefix_len

theorem canonical_prefix_eq_ok {p : IpPrefix} (hlen : p.prefix_len ≤ IpPrefix.maximum p.address) :
    canonical_prefix p = .ok (network_of p) := by
  obtain ⟨address, prefix_len⟩ := p
  simp only [bind_eq_ok_iff, canonical_prefix, getD_checked_shl]
  refine ⟨_, IpPrefix.new_eq_ok_iff.mpr ⟨hlen, rfl⟩, IpPrefix.new_eq_ok_iff.mpr ⟨?_, rfl⟩⟩
  cases address with
  | V4 address | V6 address => exact hlen

theorem network_of_of_canonical_bits {p : IpPrefix} (hbits : has_canonical_bits p = true) : network_of p = p := by
  obtain ⟨address, prefix_len⟩ := p
  cases address with
  | V4 address | V6 address => simp only [network_of, beq_iff_eq.mp hbits]

/-- A desired destination is one that the kernel would report as it is. -/
theorem canonical_of_validate_desired {route : Route} {network : NetworkId} {u : Unit}
    (h : validate_desired route network = .ok u) :
    route.owner = .BlueRouteNetwork network ∧
      canonical_observed_destination route.destination = .ok route.destination := by
  simp only [validate_desired, bind_eq_ok_iff, reject_if_eq_ok, not_not] at h
  obtain ⟨_, howner, _, -, _, -, hdestination⟩ := h
  refine ⟨howner, ?_⟩
  cases hroute : route.destination with
  | Node node | Segment segment | Internet => rfl
  | Prefix p =>
    rw [hroute] at hdestination
    simp only [bind_eq_ok_iff, reject_if_eq_ok, not_not] at hdestination
    obtain ⟨_, hnew, _, -, hbits⟩ := hdestination
    rw [canonical_observed_destination, canonical_prefix_eq_ok (IpPrefix.new_eq_ok_iff.mp hnew).1,
      network_of_of_canonical_bits hbits]
    rfl

theorem policy_lawful (network : NetworkId) : (policy network).Lawful where
  owned := fun _ h => decide_eq_true (canonical_of_validate_desired h).1
  canonical := fun _ h => (canonical_of_validate_desired h).2
  observed := fun _ _ => rfl

end route_reconciliation

end blueroute
