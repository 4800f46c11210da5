import BlueRoute.Base.Ordered
import BlueRoute.Core.Addressing
import BlueRoute.Linux.Interfaces

namespace blueroute_linux.ipv4_observation

open blueroute net Fallible

/-- The D-Bus values that the observation distinguishes. -/
inductive OwnedValue where
  | Str (value : String)
  | U32 (value : UInt32)
  | Other
deriving DecidableEq

/-- One raw entry of `AddressData` or `RouteData`, a map from keys to values. -/
abbrev Settings := List (String × OwnedValue)

/-- The answers of one device's IPv4 configuration object. -/
structure Ip4Config where
  address_data : Except String (List Settings)
  route_data : Except String (List Settings)

/-- The answers of one device object. Its configuration is absent when the path of the
configuration is the root path. -/
structure Device where
  interface : Except String String
  ip4_config : Except String (Option (Except String Ip4Config))

/-- Every answer that the system bus gives during one observation; an error carries the
text of the failure. -/
structure SystemBus where
  connection : Except String Unit
  broker : Except String Unit
  name_has_owner : Except String Bool
  manager : Except String Unit
  devices : Except String (List (Except String Device))

def network_error {α : Type} (kind : ErrorKind) (message : String) (answer : Except String α) : Result α :=
  match answer with
  | .ok value => .ok value
  | .error error => .error (.with_diagnostic kind message error)

@[simp]
theorem network_error_eq_ok {α : Type} {kind : ErrorKind} {message : String} {answer : Except String α}
    {value : α} : network_error kind message answer = .ok value ↔ answer = .ok value := by
  cases answer <;> simp [network_error]

def setting_string (settings : Settings) (key : String) : Result String :=
  match settings.lookup key with
  | some (.Str value) => .ok value
  | _ => .error (.with_diagnostic .ProtocolError
      "NetworkManager returned a malformed string setting" key)

def u32_try_from : OwnedValue → Except String UInt32
  | .U32 value => .ok value
  | _ => .error "incorrect type"

def u8_try_from (value : UInt32) : Except String UInt8 :=
  if value ≤ 255 then .ok value.toUInt8
  else .error "out of range integral type conversion attempted"

def observed_ipv4_prefix (entry : Settings) (address_key context : String) : Result IpPrefix := do
  let text ← setting_string entry address_key
  let address ← network_error .ProtocolError s!"NetworkManager returned an invalid {context} address"
    (IpAddr.from_str text)
  reject_if (¬ address.is_ipv4)
    (.new .ProtocolError s!"NetworkManager returned non-IPv4 data in {context}")
  let value ← ok_or (entry.lookup "prefix")
    (.new .ProtocolError s!"NetworkManager {context} entry is missing a prefix")
  let len ← network_error .ProtocolError s!"NetworkManager returned an invalid {context} prefix"
    (u32_try_from value)
  let len ← network_error .ProtocolError s!"NetworkManager returned an out-of-range {context} prefix"
    (u8_try_from len)
  let p ← IpPrefix.new address len
  normalized_ipv4_prefix p

def ensure_networkmanager_available (bus : SystemBus) : Result Unit := do
  network_error .NetworkBackendUnavailable "failed to access the system D-Bus broker" bus.broker
  let owned ← network_error .NetworkBackendUnavailable "failed to query NetworkManager availability"
    bus.name_has_owner
  reject_if (¬ owned)
    (.new .NetworkBackendUnavailable "NetworkManager is not available on the system D-Bus")

/-- The loops over one kind of entry of a configuration. -/
def observe_entries (interface : Option NetworkInterfaceHandle) (address_key context : String)
    (entries : List Settings) : Result (List ActiveIpv4Prefix) :=
  entries.mapM fun entry => do
    let prefix_ ← observed_ipv4_prefix entry address_key context
    pure { interface, prefix_ }

/-- One pass of the loop over the devices. -/
def observe_device (answer : Except String Device) : Result (List ActiveIpv4Prefix) := do
  let device ← network_error .NetworkBackendUnavailable
    "failed to access a NetworkManager device for IPv4 conflict detection" answer
  let interface_name ← network_error .NetworkBackendUnavailable
    "failed to read a NetworkManager device interface name" device.interface
  let interface := (Handle.new .NetworkInterfaceHandle interface_name).toOption
  let config ← network_error .NetworkBackendUnavailable
    "failed to read a NetworkManager device IPv4 configuration" device.ip4_config
  match config with
  | none => pure []
  | some config =>
    let config ← network_error .NetworkBackendUnavailable
      "failed to access a NetworkManager IPv4 configuration" config
    let addresses ← network_error .NetworkBackendUnavailable
      "failed to read NetworkManager active IPv4 address data" config.address_data
    let observed_addresses ← observe_entries interface "address" "active IPv4 address" addresses
    let routes ← network_error .NetworkBackendUnavailable
      "failed to read NetworkManager active IPv4 route data" config.route_data
    let observed_routes ← observe_entries interface "dest" "active IPv4 route" routes
    pure (observed_addresses ++ observed_routes)

/-- The sort key: the interface, nameless ones first, and then the prefix. -/
def sort_key (observed : ActiveIpv4Prefix) : WithBot String ×ₗ IpPrefix :=
  toLex (observed.interface.map Handle.as_str, observed.prefix_)

def active_ipv4_prefixes_with_interfaces (bus : SystemBus) : Result (List ActiveIpv4Prefix) := do
  network_error .NetworkBackendUnavailable
    "failed to connect to the system D-Bus for IPv4 conflict observation" bus.connection
  ensure_networkmanager_available bus
  network_error .NetworkBackendUnavailable
    "failed to create the NetworkManager proxy for IPv4 conflict observation" bus.manager
  let devices ← network_error .NetworkBackendUnavailable
    "failed to enumerate NetworkManager devices for IPv4 conflict detection" bus.devices
  let prefixes ← devices.mapM observe_device
  pure (Ordered.sort_dedup (fun left right => sort_key left ≤ sort_key right) prefixes.flatten)

/-! What the bus reported, before any of it is normalised. -/

inductive EntryKind where
  | Address
  | Route
deriving DecidableEq

def EntryKind.address_key : EntryKind → String
  | Address => "address"
  | Route => "dest"

def EntryKind.context : EntryKind → String
  | Address => "active IPv4 address"
  | Route => "active IPv4 route"

/-- An entry of the bus with the device that it belongs to. -/
structure RawEntry where
  interface : Option NetworkInterfaceHandle
  kind : EntryKind
  settings : Settings

namespace RawEntry

/-- The address and the prefix length as the entry states them. -/
def reported (entry : RawEntry) : Option IpPrefix :=
  match entry.settings.lookup entry.kind.address_key, entry.settings.lookup "prefix" with
  | some (.Str text), some (.U32 len) =>
    match IpAddr.from_str text with
    | .ok (.V4 address) => if len ≤ 32 then some ⟨.V4 address, len.toUInt8⟩ else none
    | _ => none
  | _, _ => none

def observe (entry : RawEntry) : Result ActiveIpv4Prefix := do
  let prefix_ ← observed_ipv4_prefix entry.settings entry.kind.address_key entry.kind.context
  pure { interface := entry.interface, prefix_ }

end RawEntry

/-- The entries of a device whose configuration was read in full. -/
def device_entries : Except String Device → List RawEntry
  | .ok { interface := .ok interface_name, ip4_config := .ok (some (.ok
      { address_data := .ok addresses, route_data := .ok routes })) } =>
    let interface := (Handle.new .NetworkInterfaceHandle interface_name).toOption
    addresses.map (RawEntry.mk interface .Address) ++ routes.map (RawEntry.mk interface .Route)
  | _ => []

def SystemBus.raw_entries (bus : SystemBus) : List RawEntry :=
  match bus.devices with
  | .ok devices => devices.flatMap device_entries
  | .error _ => []

theorem setting_string_eq_ok_iff {settings : Settings} {key text : String} :
    setting_string settings key = .ok text ↔ settings.lookup key = some (.Str text) := by
  unfold setting_string
  split <;> simp_all

theorem u32_try_from_eq_ok_iff {value : OwnedValue} {len : UInt32} :
    u32_try_from value = .ok len ↔ value = .U32 len := by
  cases value <;> simp [u32_try_from]

theorem u8_try_from_eq_ok_iff {value : UInt32} {len : UInt8} :
    u8_try_from value = .ok len ↔ value.toNat = len.toNat := by
  unfold u8_try_from
  have hlen := len.toNat_lt
  split
  · next hle =>
    have hvalue : value.toNat ≤ 255 := hle
    rw [Except.ok.injEq, ← UInt8.toNat_inj, UInt32.toNat_toUInt8]
    omega
  · next hgt =>
    have hvalue : ¬ value.toNat ≤ 255 := hgt
    simp only [reduceCtorEq, false_iff]
    omega

namespace RawEntry

variable {entry : RawEntry}

/-- The parts that an entry needs for its report. -/
theorem reported_eq_some_iff {p : IpPrefix} :
    entry.reported = some p ↔
      ∃ text address len, entry.settings.lookup entry.kind.address_key = some (.Str text) ∧
        IpAddr.from_str text = .ok (.V4 address) ∧ entry.settings.lookup "prefix" = some (.U32 len) ∧
        p.address = .V4 address ∧ len.toNat = p.prefix_len.toNat ∧ p.prefix_len.toNat ≤ 32 := by
  obtain ⟨p_address, p_len⟩ := p
  constructor
  · intro h
    unfold reported at h
    split at h
    · next text len haddress hlen =>
      split at h
      · next address hparse =>
        split at h
        · next hle =>
          obtain ⟨rfl, rfl⟩ := IpPrefix.mk.inj (Option.some.inj h)
          have hnat : len.toNat ≤ 32 := hle
          refine ⟨text, address, len, haddress, hparse, hlen, rfl, ?_, ?_⟩
          all_goals
            rw [UInt32.toNat_toUInt8]
            omega
        · cases h
      · cases h
    · cases h
  · rintro ⟨text, address, len, haddress, hparse, hlen, rfl, hnat, hle⟩
    have hle' : len ≤ 32 := UInt32.le_iff_toNat_le.mpr (hnat.trans_le hle)
    have hlen' : len.toUInt8 = p_len := by
      rw [← UInt8.toNat_inj, UInt32.toNat_toUInt8, hnat]
      exact Nat.mod_eq_of_lt p_len.toNat_lt
    simp only [reported, haddress, hlen, hparse, if_pos hle', hlen']

theorem isIpv4_of_reported {p : IpPrefix} (h : entry.reported = some p) : p.IsIpv4 := by
  obtain ⟨_, address, _, _, _, _, haddress, _, hle⟩ := reported_eq_some_iff.mp h
  exact ⟨by rw [haddress]; rfl, hle⟩

/-- An observation is the normalised report of its entry. -/
theorem observe_eq_ok_iff {active : ActiveIpv4Prefix} :
    entry.observe = .ok active ↔
      ∃ p, entry.reported = some p ∧ active.interface = entry.interface ∧
        normalized_ipv4_prefix p = .ok active.prefix_ := by
  simp only [observe, observed_ipv4_prefix, bind_eq_ok_iff, network_error_eq_ok, ok_or_eq_ok,
    reject_if_eq_ok, setting_string_eq_ok_iff, u32_try_from_eq_ok_iff, u8_try_from_eq_ok_iff,
    IpPrefix.new_eq_ok_iff, not_not]
  constructor
  · rintro ⟨prefix_, ⟨text, htext, address, hparse, ⟨⟩, hipv4, value, hvalue, len, rfl, small, hsmall, p,
      ⟨hmax, rfl⟩, hnormal⟩, hactive⟩
    obtain rfl := Except.ok.inj hactive
    cases address with
    | V6 address => cases hipv4
    | V4 address =>
      have hle : small.toNat ≤ 32 := hmax
      exact ⟨⟨.V4 address, small⟩,
        reported_eq_some_iff.mpr ⟨text, address, len, htext, hparse, hvalue, rfl, hsmall, hle⟩, rfl, hnormal⟩
  · rintro ⟨⟨p_address, p_len⟩, hreported, hinterface, hnormal⟩
    obtain ⟨text, address, len, htext, hparse, hlen, rfl, hnat, hle⟩ := reported_eq_some_iff.mp hreported
    refine ⟨active.prefix_, ⟨text, htext, .V4 address, hparse, (), rfl, .U32 len, hlen, len, rfl, p_len, hnat,
      _, ⟨hle, rfl⟩, hnormal⟩, ?_⟩
    rw [← hinterface]
    rfl

/-- The observation of an entry that reported the prefix `p`: the same block, given by its first
address. -/
structure ObservedAs (entry : RawEntry) (p : IpPrefix) (active : ActiveIpv4Prefix) : Prop where
  reported : entry.reported = some p
  interface : active.interface = entry.interface
  canonical : ∃ start, active.prefix_.Canonical start
  block : active.prefix_.block = p.block
  len : active.prefix_.prefix_len = p.prefix_len

theorem observedAs_of_observe {active : ActiveIpv4Prefix} (h : entry.observe = .ok active) :
    ∃ p, entry.ObservedAs p active := by
  obtain ⟨p, hreported, hinterface, hnormal⟩ := observe_eq_ok_iff.mp h
  obtain ⟨q, start, hq, hcanonical, hblock, hlen⟩ := exists_normalized (isIpv4_of_reported hreported)
  obtain rfl := Except.ok.inj (hq.symm.trans hnormal)
  exact ⟨p, hreported, hinterface, ⟨start, hcanonical⟩, hblock, hlen⟩

end RawEntry

/-- The observations of some entries: one for each, and no other. -/
structure Observes (entries : List RawEntry) (observed : List ActiveIpv4Prefix) : Prop where
  complete : ∀ entry ∈ entries, ∃ active ∈ observed, entry.observe = .ok active
  sound : ∀ active ∈ observed, ∃ entry ∈ entries, entry.observe = .ok active

namespace Observes

theorem nil : Observes [] [] := ⟨by simp, by simp⟩

theorem append {left right : List RawEntry} {left_observed right_observed : List ActiveIpv4Prefix}
    (hleft : Observes left left_observed) (hright : Observes right right_observed) :
    Observes (left ++ right) (left_observed ++ right_observed) := by
  constructor
  · intro entry hentry
    obtain hentry | hentry := List.mem_append.mp hentry
    · obtain ⟨active, hactive, hobserve⟩ := hleft.complete entry hentry
      exact ⟨active, List.mem_append_left _ hactive, hobserve⟩
    · obtain ⟨active, hactive, hobserve⟩ := hright.complete entry hentry
      exact ⟨active, List.mem_append_right _ hactive, hobserve⟩
  · intro active hactive
    obtain hactive | hactive := List.mem_append.mp hactive
    · obtain ⟨entry, hentry, hobserve⟩ := hleft.sound active hactive
      exact ⟨entry, List.mem_append_left _ hentry, hobserve⟩
    · obtain ⟨entry, hentry, hobserve⟩ := hright.sound active hactive
      exact ⟨entry, List.mem_append_right _ hentry, hobserve⟩

variable {observed : List ActiveIpv4Prefix}

variable {entries : List RawEntry}

theorem exists_entry {active : ActiveIpv4Prefix} (h : Observes entries observed) (hmem : active ∈ observed) :
    ∃ entry ∈ entries, ∃ p, entry.ObservedAs p active := by
  obtain ⟨entry, hentry, hobserve⟩ := h.sound active hmem
  exact ⟨entry, hentry, RawEntry.observedAs_of_observe hobserve⟩

theorem exists_active {entry : RawEntry} (h : Observes entries observed) (hmem : entry ∈ entries) :
    ∃ active ∈ observed, ∃ p, entry.ObservedAs p active := by
  obtain ⟨active, hactive, hobserve⟩ := h.complete entry hmem
  exact ⟨active, hactive, RawEntry.observedAs_of_observe hobserve⟩

/-- No observation is an address of a planned segment other than the segment's first. -/
theorem ne_address {active : ActiveIpv4Prefix} {plan : Ipv4StarAddressPlan} {pool : Ipv4AddressPool}
    {start offset : BitVec 32} (h : Observes entries observed) (hmem : active ∈ observed)
    (hshape : plan.Shape pool start) (hpos : 0 < offset.toNat) (hoffset : offset.toNat < 4) :
    active.prefix_ ≠ ⟨.V4 ⟨start + offset⟩, pool.segment_prefix_len⟩ := by
  intro heq
  obtain ⟨_, _, _, hobserved⟩ := h.exists_entry hmem
  obtain ⟨address, hcanonical⟩ := hobserved.canonical
  rw [heq] at hcanonical
  exact hshape.not_canonical hpos (hoffset.trans_le hshape.segment_size) hcanonical

end Observes

theorem observes_of_observe_entries {interface : Option NetworkInterfaceHandle} (kind : EntryKind)
    {entries : List Settings} {observed : List ActiveIpv4Prefix}
    (h : observe_entries interface kind.address_key kind.context entries = .ok observed) :
    Observes (entries.map (RawEntry.mk interface kind)) observed := by
  obtain ⟨hcomplete, hsound⟩ := mem_of_mapM_eq_ok h
  constructor
  · intro entry hentry
    obtain ⟨settings, hsettings, rfl⟩ := List.mem_map.mp hentry
    exact hcomplete settings hsettings
  · intro active hactive
    obtain ⟨settings, hsettings, hobserve⟩ := hsound active hactive
    exact ⟨_, List.mem_map_of_mem hsettings, hobserve⟩

theorem observes_of_observe_device {answer : Except String Device} {observed : List ActiveIpv4Prefix}
    (h : observe_device answer = .ok observed) : Observes (device_entries answer) observed := by
  simp only [observe_device, bind_eq_ok_iff, network_error_eq_ok] at h
  obtain ⟨⟨_, _⟩, rfl, interface_name, rfl, config, rfl, h⟩ := h
  cases config with
  | none =>
    obtain rfl := Except.ok.inj h
    exact Observes.nil
  | some config =>
    simp only [bind_eq_ok_iff, network_error_eq_ok] at h
    obtain ⟨⟨_, _⟩, rfl, addresses, rfl, observed_addresses, haddresses, routes, rfl, observed_routes, hroutes, h⟩ := h
    obtain rfl := Except.ok.inj h
    exact (observes_of_observe_entries .Address haddresses).append
      (observes_of_observe_entries .Route hroutes)

/-- A successful observation holds every entry that the bus reported, normalised, and
nothing else. -/
theorem observes_of_active {bus : SystemBus} {active : List ActiveIpv4Prefix}
    (h : active_ipv4_prefixes_with_interfaces bus = .ok active) : Observes bus.raw_entries active := by
  simp only [active_ipv4_prefixes_with_interfaces, bind_eq_ok_iff, network_error_eq_ok] at h
  obtain ⟨_, _, _, _, _, _, devices, hdevices, observed, hobserved, hactive⟩ := h
  obtain rfl := Except.ok.inj hactive
  obtain ⟨hcomplete, hsound⟩ := mem_of_mapM_eq_ok hobserved
  simp only [SystemBus.raw_entries, hdevices]
  constructor
  · intro entry hentry
    obtain ⟨device, hdevice, hentry⟩ := List.mem_flatMap.mp hentry
    obtain ⟨part, hpart, hobserve⟩ := hcomplete device hdevice
    obtain ⟨a, ha, hentry⟩ := (observes_of_observe_device hobserve).complete entry hentry
    exact ⟨a, Ordered.mem_sort_dedup.mpr (List.mem_flatten_of_mem hpart ha), hentry⟩
  · intro a ha
    obtain ⟨part, hpart, ha⟩ := List.mem_flatten.mp (Ordered.mem_sort_dedup.mp ha)
    obtain ⟨device, hdevice, hobserve⟩ := hsound part hpart
    obtain ⟨entry, hentry, hsome⟩ := (observes_of_observe_device hobserve).sound a ha
    exact ⟨entry, List.mem_flatMap_of_mem hdevice hentry, hsome⟩

end blueroute_linux.ipv4_observation
