import BlueRoute.Core.RouteReconciliation
import BlueRoute.Linux.Interfaces

namespace blueroute_linux

open blueroute net Fallible

namespace route_projection

def invalid (reason : String) : CoreError := CoreError.new .InvalidInput reason

/-- The private address ranges with the least length of a prefix that lies within them. -/
def in_rfc1918 (bits : BitVec 32) (len : UInt8) : Bool :=
  (bits &&& 0xff000000 == 0x0a000000 && len ≥ 8) ||
    (bits &&& 0xfff00000 == 0xac100000 && len ≥ 12) ||
    (bits &&& 0xffff0000 == 0xc0a80000 && len ≥ 16)

def private_prefix (p : IpPrefix) : Result Unit :=
  match p.address with
  | .V6 _ => .error (invalid "IPv6 routing is not enabled")
  | .V4 address => do
    reject_if (p.prefix_len = 0 ∨ p.prefix_len > 32) (invalid "invalid or default route prefix")
    let mask := (checked_shl (BitVec.allOnes 32) (32 - p.prefix_len.toNat)).getD 0
    reject_if (address.bits &&& mask ≠ address.bits) (invalid "noncanonical route prefix")
    reject_if (¬ in_rfc1918 address.bits p.prefix_len) (invalid "route is not wholly within RFC1918 space")

end route_projection

abbrev LinuxRouteReconciliationPlan := Reconcile.Plan LinuxRoute

namespace route_reconciliation

open route_projection

def canonical (p : IpPrefix) : Result IpPrefix := blueroute.route_reconciliation.canonical_prefix p

def validate_owned (route : LinuxRoute) (network : NetworkId) : Result Unit := do
  reject_if (route.owner ≠ network) (invalid "Linux route is not owned by the requested network")
  private_prefix route.destination
  reject_if (route.metric = 0) (invalid "Linux route metric must be positive")
  match route.via with
  | none => pure ()
  | some via =>
    let host ← IpPrefix.new via 32
    private_prefix host
    reject_if (route.destination.prefix_len = 32 ∧ route.destination.address = via)
      (invalid "Linux host route cannot forward via itself")

/-- What a network accepts in the kernel's routing table. -/
def policy (network : NetworkId) : Reconcile.Policy LinuxRoute IpPrefix CoreError where
  check_owner := reject_if (blueroute.route_reconciliation.is_zero network)
    (invalid "Linux route reconciliation requires a network identity")
  key := LinuxRoute.destination
  owned := fun route => route.owner = network
  check_desired := fun route => validate_owned route network
  canonical := fun route => canonical route.destination
  check_observed := fun route => validate_owned route network
  duplicate_desired := invalid "duplicate desired Linux route destination"
  desired_conflict := invalid "desired Linux route collides with foreign route"
  noncanonical := invalid "owned Linux route has noncanonical destination"
  duplicate_observed := invalid "duplicate observed owned Linux route destination"
  owned_conflict := invalid "owned Linux route collides with foreign route"

/-- Changes for one trusted network; foreign routes are never removed or replaced. -/
def plan_linux_route_reconciliation (network : NetworkId) (desired observed : List LinuxRoute) :
    Result LinuxRouteReconciliationPlan :=
  (policy network).plan desired observed

theorem canonical_of_private_prefix {p : IpPrefix} {u : Unit} (h : private_prefix p = .ok u) : canonical p = .ok p := by
  unfold private_prefix at h
  split at h
  · cases h
  · next address haddress =>
    simp only [bind_eq_ok_iff, reject_if_eq_ok, not_not, not_or] at h
    obtain ⟨_, ⟨-, hlen⟩, _, hbits, -⟩ := h
    have hmaximum : p.prefix_len ≤ IpPrefix.maximum p.address := by
      rw [haddress]
      exact UInt8.not_lt.mp hlen
    have hcanonical : blueroute.route_reconciliation.has_canonical_bits p = true := by
      unfold blueroute.route_reconciliation.has_canonical_bits
      rw [haddress]
      rw [getD_checked_shl] at hbits
      exact beq_iff_eq.mpr hbits
    rw [canonical, blueroute.route_reconciliation.canonical_prefix_eq_ok hmaximum,
      blueroute.route_reconciliation.network_of_of_canonical_bits hcanonical]

theorem policy_lawful (network : NetworkId) : (policy network).Lawful where
  owned := by
    intro route h
    simp only [policy, validate_owned, bind_eq_ok_iff, reject_if_eq_ok, not_not] at h
    obtain ⟨_, howner, -⟩ := h
    exact decide_eq_true howner
  canonical := by
    intro route h
    simp only [policy, validate_owned, bind_eq_ok_iff] at h
    obtain ⟨_, -, _, hprivate, -⟩ := h
    exact canonical_of_private_prefix hprivate
  observed := fun _ h => h

/-- Both planners are exact, keep away from foreign routes, do not depend on the order of their
inputs, and resume from every intermediate table. -/
theorem plan_route_reconciliation_correct :
    (∀ network, Reconcile.Correct (blueroute.route_reconciliation.policy network)
      (blueroute.route_reconciliation.plan_route_reconciliation network)) ∧
      ∀ network, Reconcile.Correct (policy network) (plan_linux_route_reconciliation network) :=
  ⟨fun network => (blueroute.route_reconciliation.policy_lawful network).correct,
    fun network => (policy_lawful network).correct⟩

end route_reconciliation

end blueroute_linux
