import BlueRoute.Linux.Ipv4Observation

namespace blueroute_daemon.join_network

open blueroute blueroute_linux

/-- An established PANU attachment to the peer that it is for. -/
structure JoinPanLink where
  peer : PeerHandle
  attachment : PanAttachment
  role_panu : attachment.role = .Panu
  to_peer : attachment.peer = some peer

def JoinPanLink.interface (link : JoinPanLink) : NetworkInterfaceHandle := link.attachment.interface

structure JoinIpLease where
  address : InterfaceAddress
deriving DecidableEq

def JoinIpLease.interface (lease : JoinIpLease) : NetworkInterfaceHandle := lease.address.interface

end blueroute_daemon.join_network

namespace blueroute_daemon.outbound_control

open blueroute net Fallible blueroute_linux ipv4_observation join_network

def CONTROL_TCP_PORT : UInt16 := 46071

structure SocketAddrV4 where
  ip : Ipv4Addr
  port : UInt16
deriving DecidableEq

/-- Resolves the NAP's TCP target from a verified PANU lease. -/
def planned_panu_control_endpoint (network : NetworkId) (link : JoinPanLink) (lease : JoinIpLease)
    (pool : Ipv4AddressPool) : Result SocketAddrV4 := do
  reject_if (network = Id.filled 0)
    (.new .InvalidInput "zero NetworkId cannot select a PANU control endpoint")
  let plan ← Ipv4StarAddressPlan.for_network network pool
  reject_if (lease.address.owner ≠ network ∨ lease.interface ≠ link.interface)
    (.new .InvalidState "PANU control lease has foreign network or interface ownership")
  reject_if (lease.address.prefix_ ≠ plan.first_client)
    (.new .AddressConflict "PANU control lease does not match the deterministic client address")
  match plan.host.address with
  | .V4 host => pure { ip := host, port := CONTROL_TCP_PORT }
  | .V6 _ => .error (.new .InvalidState "PANU control target must be IPv4")

/-- The pre-dial guard: the lease is owned, active, and its address is nowhere else. -/
def require_live_panu_lease (lease : JoinIpLease) (owned : List InterfaceAddress)
    (active : List ActiveIpv4Prefix) : Result Unit := do
  reject_if (¬ owned.any fun address => address = lease.address)
    (.new .InvalidState "PANU control source address is not currently owned by BlueRoute")
  reject_if (owned.any fun address =>
      address.prefix_.address = lease.address.prefix_.address && address ≠ lease.address)
    (.new .InvalidState
      "PANU control source address has conflicting NetworkManager ownership")
  reject_if (¬ active.any fun observed =>
      observed.interface = some lease.interface && observed.prefix_ = lease.address.prefix_)
    (.new .InvalidState "PANU control source address is not active on the owned interface")
  reject_if (active.any fun observed =>
      observed.prefix_.address = lease.address.prefix_.address &&
        (observed.interface ≠ some lease.interface || observed.prefix_ ≠ lease.address.prefix_))
    (.new .InvalidState
      "PANU control source address has ambiguous active interface or prefix")

/-- A live lease: it is owned, no other owned entry has its address, and among the addresses
that the bus reported its address stands on its interface with its length, and only there. -/
structure LiveLease (lease : JoinIpLease) (owned : List InterfaceAddress) (bus : SystemBus) : Prop where
  held : lease.address ∈ owned
  held_once : ∀ address ∈ owned,
    address.prefix_.address = lease.address.prefix_.address → address = lease.address
  active : ∃ entry ∈ bus.raw_entries, entry.kind = .Address ∧ entry.interface = some lease.interface ∧
    entry.reported = some lease.address.prefix_
  active_once : ∀ entry ∈ bus.raw_entries, entry.kind = .Address → ∀ p, entry.reported = some p →
    p.address = lease.address.prefix_.address →
      entry.interface = some lease.interface ∧ p = lease.address.prefix_

theorem first_client_of_planned_endpoint {network : NetworkId} {link : JoinPanLink} {lease : JoinIpLease}
    {pool : Ipv4AddressPool} {endpoint : SocketAddrV4}
    (h : planned_panu_control_endpoint network link lease pool = .ok endpoint) :
    ∃ plan, Ipv4StarAddressPlan.for_network network pool = .ok plan ∧
      lease.address.prefix_ = plan.first_client := by
  simp only [planned_panu_control_endpoint, bind_eq_ok_iff, reject_if_eq_ok, not_not] at h
  obtain ⟨_, _, plan, hplan, _, _, _, hclient, _⟩ := h
  exact ⟨plan, hplan, hclient⟩

/-- The guard looks for the client's address among normalised observations, where it never is. -/
theorem require_live_panu_lease_ne_ok {network : NetworkId} {pool : Ipv4AddressPool}
    {plan : Ipv4StarAddressPlan} {lease : JoinIpLease} {bus : SystemBus} {active : List ActiveIpv4Prefix}
    (owned : List InterfaceAddress) (hplan : Ipv4StarAddressPlan.for_network network pool = .ok plan)
    (hclient : lease.address.prefix_ = plan.first_client) (hobserves : Observes bus.raw_entries active) :
    require_live_panu_lease lease owned active ≠ .ok () := by
  intro hok
  obtain ⟨start, hshape⟩ := Ipv4StarAddressPlan.shape_of_for_network hplan
  simp only [require_live_panu_lease, bind_eq_ok_iff, reject_if_eq_ok, not_not, List.any_eq_true,
    Bool.and_eq_true, decide_eq_true_eq] at hok
  obtain ⟨_, _, _, _, _, ⟨observed, hmem, -, hprefix⟩, _⟩ := hok
  rw [hclient, hshape.first_client] at hprefix
  exact hobserves.ne_address hmem hshape (by decide) (by decide) hprefix

/-- For a lease that the endpoint planner accepts, the guard answers whether the lease is live
exactly when the lease is not live: it refuses every lease, the live ones included. -/
theorem require_live_panu_lease_correct_iff (network : NetworkId) (link : JoinPanLink) (lease : JoinIpLease)
    (pool : Ipv4AddressPool) (endpoint : SocketAddrV4) (owned : List InterfaceAddress) (bus : SystemBus)
    (active : List ActiveIpv4Prefix)
    (hendpoint : planned_panu_control_endpoint network link lease pool = .ok endpoint)
    (hactive : active_ipv4_prefixes_with_interfaces bus = .ok active) :
    (require_live_panu_lease lease owned active = .ok () ↔ LiveLease lease owned bus) ↔
      ¬ LiveLease lease owned bus := by
  obtain ⟨plan, hplan, hclient⟩ := first_client_of_planned_endpoint hendpoint
  have hrefused := require_live_panu_lease_ne_ok owned hplan hclient (observes_of_active hactive)
  constructor
  · intro hcorrect hlive
    exact hrefused (hcorrect.mpr hlive)
  · intro hdead
    exact ⟨fun hok => absurd hok hrefused, fun hlive => absurd hlive hdead⟩

namespace sample

def network : NetworkId := Id.filled 0x61

def interface : NetworkInterfaceHandle := { as_str := "bnep0", not_blank := is_blank_bnep0 }

def peer : PeerHandle := { as_str := "hci0/dev_1", not_blank := by decide }

def link : JoinPanLink :=
  { peer
    attachment := { role := .Panu, interface, peer := some peer }
    role_panu := rfl
    to_peer := rfl }

def lease : JoinIpLease :=
  { address := { interface, prefix_ := ⟨.V4 (.new 10 201 97 2), 24⟩, owner := network } }

def endpoint : SocketAddrV4 := { ip := .new 10 201 97 1, port := CONTROL_TCP_PORT }

/-- A bus whose only entry is the address of the lease. -/
def bus : SystemBus :=
  { connection := .ok ()
    broker := .ok ()
    name_has_owner := .ok true
    manager := .ok ()
    devices := .ok [.ok
      { interface := .ok "bnep0"
        ip4_config := .ok (some (.ok
          { address_data := .ok [[("address", .Str "10.201.97.2"), ("prefix", .U32 24)]]
            route_data := .ok [] })) }] }

def active : List ActiveIpv4Prefix :=
  [{ interface := some interface, prefix_ := ⟨.V4 (.new 10 201 97 0), 24⟩ }]

end sample

open sample

theorem require_live_panu_lease_correct_iff_sample :
    require_live_panu_lease lease [] active ≠ .ok () ∧
      ((require_live_panu_lease lease [] active = .ok () ↔
          LiveLease lease [] bus) ↔ ¬ LiveLease lease [] bus) :=
  ⟨by decide, require_live_panu_lease_correct_iff network link lease
    Ipv4AddressPool.default endpoint [] bus active (by decide) (by decide)⟩

/-- The lease is the only address on the bus and the only one owned, and still it is refused. -/
theorem require_live_panu_lease_refuses_live_lease :
    planned_panu_control_endpoint network link lease Ipv4AddressPool.default = .ok endpoint ∧
      active_ipv4_prefixes_with_interfaces bus = .ok active ∧
      LiveLease lease [lease.address] bus ∧
      require_live_panu_lease lease [lease.address] active =
        .error (.new .InvalidState
          "PANU control source address is not active on the owned interface") := by
  refine ⟨by decide, by decide, ⟨by decide, by decide, by decide, ?_⟩, rfl⟩
  intro entry hentry _ p hreported _
  obtain rfl := List.mem_singleton.mp hentry
  have hlease : some p = some lease.address.prefix_ := hreported.symm.trans (by decide)
  exact ⟨rfl, Option.some.inj hlease⟩

end blueroute_daemon.outbound_control
