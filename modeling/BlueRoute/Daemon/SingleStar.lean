import BlueRoute.Linux.Ipv4Observation

namespace blueroute_daemon.single_star

open blueroute net Fallible blueroute_linux ipv4_observation ActiveIpv4Prefix Ipv4StarAddressPlan

def bridge_name (network : NetworkId) : Result NetworkInterfaceHandle :=
  Handle.new .NetworkInterfaceHandle ("brb-" ++ String.ofList (network.to_string.toList.take 8))

def local_star_address (network : NetworkId) (config : DaemonConfig) : Result InterfaceAddress := do
  config.validate
  let plan ← for_network network config.ipv4_address_pool
  let interface ← bridge_name network
  pure { interface, prefix_ := plan.host, owner := network }

/-- The active prefixes that are left once the daemon has recognised its own address. -/
def active_prefix_conflicts_after_restart (network : NetworkId) (bridge : NetworkInterfaceHandle)
    (address : InterfaceAddress) (owned_addresses : List InterfaceAddress)
    (active_prefixes : List ActiveIpv4Prefix) : List IpPrefix :=
  let exact_owned_address_exists := owned_addresses.any fun owned =>
    owned.owner = network && owned.interface = bridge && owned.interface = address.interface &&
      owned.prefix_ = address.prefix_
  let unowned := active_prefixes.filter fun active =>
    !(exact_owned_address_exists && active.interface = some bridge && active.prefix_ = address.prefix_)
  unowned.map prefix_

/-- The check that `start_host` makes before it changes the host. -/
def start_host_check (network : NetworkId) (bridge : NetworkInterfaceHandle) (address : InterfaceAddress)
    (owned_addresses : List InterfaceAddress) (active_prefixes : List ActiveIpv4Prefix) : Result Unit :=
  ensure_ipv4_segment_available address.prefix_
    (active_prefix_conflicts_after_restart network bridge address owned_addresses active_prefixes)

/-- An entry that the hosted network put there itself: its bridge's address, or the route
that comes with it. -/
def OwnEntry (bridge : NetworkInterfaceHandle) (plan : Ipv4StarAddressPlan) (entry : RawEntry) : Prop :=
  entry.interface = some bridge ∧
    (entry.kind = .Address ∧ entry.reported = some plan.host ∨
      entry.kind = .Route ∧ entry.reported = some plan.segment)

/-- An entry, default routes excepted, that shares an address with the planned segment. -/
def ConflictingEntry (plan : Ipv4StarAddressPlan) (entry : RawEntry) : Prop :=
  ∃ p, entry.reported = some p ∧ p.prefix_len ≠ 0 ∧ plan.segment.SharesAddress p

namespace sample

def network : NetworkId := Id.filled 0x61

def bridge : NetworkInterfaceHandle := { as_str := "brb-61616161", not_blank := by decide }

def plan : Ipv4StarAddressPlan :=
  { segment := ⟨.V4 (.new 10 201 97 0), 24⟩
    host := ⟨.V4 (.new 10 201 97 1), 24⟩
    first_client := ⟨.V4 (.new 10 201 97 2), 24⟩ }

def address : InterfaceAddress := { interface := bridge, prefix_ := plan.host, owner := network }

/-- A bus with one device, which carries one address and the route that comes with it. -/
def bus (interface host segment : String) : SystemBus :=
  { connection := .ok ()
    broker := .ok ()
    name_has_owner := .ok true
    manager := .ok ()
    devices := .ok [.ok
      { interface := .ok interface
        ip4_config := .ok (some (.ok
          { address_data := .ok [[("address", .Str host), ("prefix", .U32 24)]]
            route_data := .ok [[("dest", .Str segment), ("prefix", .U32 24)]] })) }] }

end sample

variable {network : NetworkId} {config : DaemonConfig} {plan : Ipv4StarAddressPlan}
  {bridge : NetworkInterfaceHandle} {address : InterfaceAddress} {owned : List InterfaceAddress}
  {bus : SystemBus} {active : List ActiveIpv4Prefix}

theorem local_star_address_eq (hplan : for_network network config.ipv4_address_pool = .ok plan)
    (hbridge : bridge_name network = .ok bridge) (haddress : local_star_address network config = .ok address) :
    address = { interface := bridge, prefix_ := plan.host, owner := network } := by
  simp only [local_star_address, bind_eq_ok_iff, hplan, hbridge, Except.ok.injEq, exists_eq_left'] at haddress
  obtain ⟨_, _, haddress⟩ := haddress
  exact (Except.ok.inj haddress).symm

variable {pool : Ipv4AddressPool} {start : BitVec 32}

/-- The observations are normalised, so that the filter for the daemon's own address keeps every
one of them. -/
theorem active_prefix_conflicts_after_restart_eq (hshape : plan.Shape pool start)
    (hobserves : Observes bus.raw_entries active) (haddress : address.prefix_ = plan.host) :
    active_prefix_conflicts_after_restart network bridge address owned active =
      active.map prefix_ := by
  have hkept : ∀ observed ∈ active, ¬ observed.prefix_ = address.prefix_ := by
    intro observed hmem
    rw [haddress, hshape.host]
    exact hobserves.ne_address hmem hshape (by decide) (by decide)
  refine congrArg (List.map prefix_) (List.filter_eq_self.mpr ?_)
  intro observed hmem
  simp [hkept observed hmem]

/-- The check passes exactly when no reported entry conflicts, the daemon's own included. -/
theorem start_host_check_eq_ok_iff (hshape : plan.Shape pool start) (hobserves : Observes bus.raw_entries active)
    (haddress : address.prefix_ = plan.host) :
    start_host_check network bridge address owned active = .ok () ↔
      ∀ entry ∈ bus.raw_entries, ¬ ConflictingEntry plan entry := by
  have hipv4 : ∀ p ∈ active.map prefix_, p.IsIpv4 := by
    intro p hp
    obtain ⟨observed, hmem, rfl⟩ := List.mem_map.mp hp
    obtain ⟨_, _, _, hobserved⟩ := hobserves.exists_entry hmem
    exact hobserved.canonical.choose_spec.isIpv4
  rw [start_host_check, active_prefix_conflicts_after_restart_eq hshape hobserves haddress, haddress,
    ensure_ipv4_segment_available_eq_ok_iff hshape.host_isIpv4]
  have havailable : (∀ p ∈ active.map prefix_, p.address.is_ipv4 = true → p.prefix_len ≠ 0 →
      p.prefix_len.toNat ≤ 32 ∧ ¬ plan.host.SharesAddress p) ↔
      ∀ p ∈ active.map prefix_, p.prefix_len ≠ 0 → ¬ plan.host.SharesAddress p :=
    forall₂_congr fun p hp => by simp [(hipv4 p hp).address, (hipv4 p hp).len]
  rw [havailable]
  simp only [List.forall_mem_map, IpPrefix.SharesAddress, hshape.host_block]
  constructor
  · rintro hfree entry hentry ⟨p, hreported, hlen, hshares⟩
    obtain ⟨observed, hmem, q, hobserved⟩ := hobserves.exists_active hentry
    obtain rfl := Option.some.inj (hreported.symm.trans hobserved.reported)
    refine hfree observed hmem ?_ ?_
    · rwa [hobserved.len]
    · rwa [hobserved.block]
  · intro hfree observed hmem hlen hshares
    obtain ⟨entry, hentry, p, hobserved⟩ := hobserves.exists_entry hmem
    refine hfree entry hentry ⟨p, hobserved.reported, ?_, ?_⟩
    · rwa [← hobserved.len]
    · rwa [IpPrefix.SharesAddress, ← hobserved.block]

/-- The daemon's own entries lie in its own segment. -/
theorem OwnEntry.conflictingEntry {entry : RawEntry} (hshape : plan.Shape pool start)
    (h : OwnEntry bridge plan entry) : ConflictingEntry plan entry := by
  have hlen : pool.segment_prefix_len ≠ 0 := by
    intro hzero
    have := hshape.len
    rw [hzero] at this
    exact absurd this (by decide)
  obtain ⟨-, ⟨-, hreported⟩ | ⟨-, hreported⟩⟩ := h
  · refine ⟨plan.host, hreported, ?_, ?_⟩
    · rwa [hshape.host]
    · rw [IpPrefix.SharesAddress, hshape.host_block, Set.inter_self]
      exact hshape.segment_nonempty
  · refine ⟨plan.segment, hreported, ?_, ?_⟩
    · rwa [hshape.segment]
    · rw [IpPrefix.SharesAddress, Set.inter_self]
      exact hshape.segment_nonempty

/-- A restart over the daemon's own bridge, whatever addresses it owns. The check answers
whether some other entry conflicts exactly when none of the reported entries is the daemon's
own, or when some other entry conflicts as well: otherwise the daemon takes its own address
for a conflict. -/
theorem start_host_check_restart_iff (network : NetworkId) (config : DaemonConfig)
    (plan : Ipv4StarAddressPlan) (bridge : NetworkInterfaceHandle) (address : InterfaceAddress)
    (owned : List InterfaceAddress) (bus : SystemBus) (active : List ActiveIpv4Prefix)
    (hplan : for_network network config.ipv4_address_pool = .ok plan)
    (hbridge : bridge_name network = .ok bridge)
    (haddress : local_star_address network config = .ok address)
    (hactive : active_ipv4_prefixes_with_interfaces bus = .ok active) :
    (start_host_check network bridge address owned active = .ok () ↔
        ∀ entry ∈ bus.raw_entries, ¬ OwnEntry bridge plan entry → ¬ ConflictingEntry plan entry) ↔
      (∀ entry ∈ bus.raw_entries, ¬ OwnEntry bridge plan entry) ∨
        ∃ entry ∈ bus.raw_entries, ¬ OwnEntry bridge plan entry ∧ ConflictingEntry plan entry := by
  obtain ⟨start, hshape⟩ := shape_of_for_network hplan
  have hhost : address.prefix_ = plan.host := by rw [local_star_address_eq hplan hbridge haddress]
  rw [start_host_check_eq_ok_iff hshape (observes_of_active hactive) hhost]
  constructor
  · intro hagree
    by_contra! hneither
    obtain ⟨⟨own, hown_mem, hown⟩, hfree⟩ := hneither
    exact hagree.mpr hfree own hown_mem (hown.conflictingEntry hshape)
  · rintro (hnone | ⟨other, hmem, hother, hconflict⟩)
    · exact forall₂_congr fun entry hentry => ⟨fun h _ => h, fun h => h (hnone entry hentry)⟩
    · exact ⟨fun h => absurd hconflict (h other hmem), fun h => absurd hconflict (h other hmem hother)⟩

/-- A device with another network, next to which the check passes. -/
theorem start_host_check_restart_iff_sample :
    let active : List ActiveIpv4Prefix :=
      [{ interface := (Handle.new .NetworkInterfaceHandle "eth0").toOption,
         prefix_ := ⟨.V4 (.new 192 168 7 0), 24⟩ }]
    start_host_check sample.network sample.bridge sample.address [sample.address] active = .ok () ∧
      ((start_host_check sample.network sample.bridge sample.address [sample.address] active = .ok () ↔
          ∀ entry ∈ (sample.bus "eth0" "192.168.7.3" "192.168.7.0").raw_entries,
            ¬ OwnEntry sample.bridge sample.plan entry → ¬ ConflictingEntry sample.plan entry) ↔
        (∀ entry ∈ (sample.bus "eth0" "192.168.7.3" "192.168.7.0").raw_entries,
            ¬ OwnEntry sample.bridge sample.plan entry) ∨
          ∃ entry ∈ (sample.bus "eth0" "192.168.7.3" "192.168.7.0").raw_entries,
            ¬ OwnEntry sample.bridge sample.plan entry ∧ ConflictingEntry sample.plan entry) := by
  refine ⟨by decide, ?_⟩
  exact start_host_check_restart_iff sample.network DaemonConfig.default sample.plan sample.bridge
    sample.address [sample.address] (sample.bus "eth0" "192.168.7.3" "192.168.7.0") _ (by decide) (by decide)
    (by decide) (by decide)

/-- A daemon that restarts over nothing but its own bridge refuses to start: its segment, it
reports, overlaps its segment. -/
theorem start_host_check_conflicts_with_itself :
    let bus := sample.bus "brb-61616161" "10.201.97.1" "10.201.97.0"
    let active : List ActiveIpv4Prefix := [{ interface := some sample.bridge, prefix_ := sample.plan.segment }]
    for_network sample.network DaemonConfig.default.ipv4_address_pool = .ok sample.plan ∧
      bridge_name sample.network = .ok sample.bridge ∧
      local_star_address sample.network DaemonConfig.default = .ok sample.address ∧
      active_ipv4_prefixes_with_interfaces bus = .ok active ∧
      (∀ entry ∈ bus.raw_entries, OwnEntry sample.bridge sample.plan entry) ∧
      start_host_check sample.network sample.bridge sample.address [sample.address] active =
        .error (segment_conflict sample.plan.segment sample.plan.segment) := by
  refine ⟨by decide, by decide, by decide, by decide, ?_, rfl⟩
  unfold OwnEntry
  decide

end blueroute_daemon.single_star
