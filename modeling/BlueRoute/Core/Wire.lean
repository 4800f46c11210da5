import BlueRoute.Base.Derive
import BlueRoute.Core.Capability
import BlueRoute.Core.Route

/-! The JSON form of the domain types that control messages carry, as the derived readers and writers have it.
These types take additional fields. -/

namespace blueroute

open Derive
open Json (Tree)

namespace Id

variable {kind : IdKind}

def serialize (self : Id kind) : Tree := .string self.to_string

def deserialize (tree : Tree) : Option (Id kind) :=
  (text tree).bind fun value => (parse value).toOption

@[simp]
theorem deserialize_serialize (self : Id kind) : deserialize self.serialize = some self := by
  rw [serialize, deserialize, text_string, Option.bind_some, parse_to_string]
  rfl

end Id

namespace IpPrefix

def FIELDS : List String := ["address", "prefix_len"]

def serialize (self : IpPrefix) : Tree :=
  .object (FIELDS.zip [.string self.address.to_string, .number self.prefix_len.toNat])

def deserialize (tree : Tree) : Option IpPrefix := do
  let field ← record false FIELDS tree
  let value ← (field "address").bind text
  let address ← (net.IpAddr.from_str value).toOption
  let prefix_len ← (field "prefix_len").bind u8
  some { address, prefix_len }

/-- An IPv4 prefix is read back from what is written. -/
theorem deserialize_serialize {self : IpPrefix} {address : net.Ipv4Addr} (h : self.address = .V4 address) :
    deserialize self.serialize = some self := by
  have htext : (net.IpAddr.from_str self.address.to_string).toOption = some self.address := by
    rw [h, net.IpAddr.to_string, net.Ipv4Addr.from_str_to_string]
    rfl
  rw [serialize, deserialize, record_zip rfl (by decide : FIELDS.Nodup)]
  simp [FIELDS, List.lookup_cons, htext]

end IpPrefix

namespace CapabilitySource

def serialize : CapabilitySource → Tree
  | Discovered => .string "discovered"
  | Measured => .string "measured"
  | Configured => .string "configured"
  | ConservativeDefault => .string "conservative_default"

def of_name (name : String) : Option CapabilitySource :=
  if name = "discovered" then some Discovered
  else if name = "measured" then some Measured
  else if name = "configured" then some Configured
  else if name = "conservative_default" then some ConservativeDefault
  else none

def deserialize (buffered : Bool) (tree : Tree) : Option CapabilitySource := do
  let (name, content) ← variant tree
  let source ← of_name name
  unit buffered content
  some source

@[simp]
theorem deserialize_serialize (buffered : Bool) (self : CapabilitySource) :
    deserialize buffered self.serialize = some self := by
  cases self <;> rfl

end CapabilitySource

namespace Sourced

variable {T P : Type}

def FIELDS : List String := ["value", "source"]

def serialize (write : T → Tree) (self : Sourced T) : Tree :=
  .object (FIELDS.zip [write self.value, self.source.serialize])

/-- The two fields of a value with its provenance. -/
def fields (strict buffered : Bool) (read : Tree → Option T) (tree : Tree) : Option (T × CapabilitySource) := do
  let field ← record strict FIELDS tree
  let value ← (field "value").bind read
  let source ← (field "source").bind (CapabilitySource.deserialize buffered)
  some (value, source)

def deserialize (read : Tree → Option T) (tree : Tree) : Option (Sourced T) :=
  (fields false false read tree).map fun (value, source) => { value, source }

theorem fields_serialize {strict buffered : Bool} {write : T → Tree} {read : Tree → Option P} {f : T → P}
    (h : ∀ value, read (write value) = some (f value)) (self : Sourced T) :
    fields strict buffered read (self.serialize write) = some (f self.value, self.source) := by
  rw [serialize, fields, record_zip rfl (by decide : FIELDS.Nodup)]
  simp [FIELDS, List.lookup_cons, h]

theorem deserialize_serialize {write : T → Tree} {read : Tree → Option T} (h : ∀ value, read (write value) = some value)
    (self : Sourced T) : deserialize read (self.serialize write) = some self := by
  rw [deserialize, fields_serialize h]
  rfl

/-- An optional value with its provenance is read back. -/
theorem optional_nullable_serialize {write : T → Tree} {read : Tree → Option T}
    (h : ∀ value, read (write value) = some value) (self : Option (Sourced T)) :
    optional (deserialize read) (some (nullable (serialize write) self)) = some self := by
  rw [optional_nullable (fun value _ => deserialize_serialize h value) (fun _ => nofun), Option.map_id']

end Sourced

namespace NetworkBackend

def serialize : NetworkBackend → Tree
  | NetworkManager => .string "network_manager"
  | SystemdNetworkd => .string "systemd_networkd"
  | DirectNetlink => .string "direct_netlink"
  | Other name => .object [("other", .string name)]

def deserialize (buffered : Bool) (tree : Tree) : Option NetworkBackend := do
  let (name, content) ← variant tree
  if name = "network_manager" then (unit buffered content).map fun _ => NetworkManager
  else if name = "systemd_networkd" then (unit buffered content).map fun _ => SystemdNetworkd
  else if name = "direct_netlink" then (unit buffered content).map fun _ => DirectNetlink
  else if name = "other" then (content.bind text).map Other
  else none

@[simp]
theorem deserialize_serialize (buffered : Bool) (self : NetworkBackend) :
    deserialize buffered self.serialize = some self := by
  cases self <;> rfl

end NetworkBackend

namespace LinkQuality

def FIELDS : List String := ["score"]

def serialize (self : LinkQuality) : Tree := .object (FIELDS.zip [.number self.score.toNat])

/-- The one field of a link quality. -/
def fields (strict : Bool) (tree : Tree) : Option UInt8 := do
  let field ← record strict FIELDS tree
  (field "score").bind u8

def deserialize (tree : Tree) : Option LinkQuality := (fields false tree).map fun score => { score }

theorem fields_serialize (strict : Bool) (self : LinkQuality) : fields strict self.serialize = some self.score := by
  rw [serialize, fields, record_zip rfl (by decide : FIELDS.Nodup)]
  simp [FIELDS, List.lookup_cons]

@[simp]
theorem deserialize_serialize (self : LinkQuality) : deserialize self.serialize = some self := by
  rw [deserialize, fields_serialize]
  rfl

end LinkQuality

namespace PowerState

def FIELDS : List String := ["percent"]

def serialize : PowerState → Tree
  | AcPowered => .string "ac_powered"
  | Battery percent => .object [("battery", .object (FIELDS.zip [.number percent.toNat]))]

/-- The two variants of a power state. -/
def variants {P : Type} (strict buffered : Bool) (ac_powered : P) (battery : UInt8 → P) (tree : Tree) : Option P := do
  let (name, content) ← variant tree
  if name = "ac_powered" then (unit buffered content).map fun _ => ac_powered
  else if name = "battery" then
    ((content.bind (record strict FIELDS)).bind fun field => (field "percent").bind u8).map battery
  else none

def deserialize (tree : Tree) : Option PowerState := variants false false AcPowered Battery tree

theorem variants_serialize {P : Type} (strict buffered : Bool) (ac_powered : P) (battery : UInt8 → P)
    (self : PowerState) :
    variants strict buffered ac_powered battery self.serialize
      = some (match self with | AcPowered => ac_powered | Battery percent => battery percent) := by
  cases self with
  | AcPowered => rfl
  | Battery percent =>
    have hpercent : ((record strict FIELDS (.object (FIELDS.zip [.number percent.toNat]))).bind fun field =>
        (field "percent").bind u8) = some percent := by
      rw [record_zip rfl (by decide : FIELDS.Nodup)]
      simp [FIELDS]
    show Option.map battery (Option.bind _ _) = _
    rw [Option.bind_some, hpercent, Option.map_some]

@[simp]
theorem deserialize_serialize (self : PowerState) : deserialize self.serialize = some self := by
  rw [deserialize, variants_serialize]
  cases self <;> rfl

end PowerState

namespace NodeCapabilities

def FIELDS : List String :=
  ["adapter_usable", "panu", "nap", "routing", "network_backend", "connection_policy_ceiling", "link_quality",
    "power_state", "has_internet", "willing_to_share_internet"]

def serialize (self : NodeCapabilities) : Tree :=
  .object (FIELDS.zip
    [nullable (Sourced.serialize .bool) self.adapter_usable,
      nullable (Sourced.serialize .bool) self.panu,
      nullable (Sourced.serialize .bool) self.nap,
      nullable (Sourced.serialize .bool) self.routing,
      nullable (Sourced.serialize NetworkBackend.serialize) self.network_backend,
      nullable (Sourced.serialize fun ceiling => .number ceiling.toNat) self.connection_policy_ceiling,
      nullable (Sourced.serialize LinkQuality.serialize) self.link_quality,
      nullable (Sourced.serialize PowerState.serialize) self.power_state,
      nullable (Sourced.serialize .bool) self.has_internet,
      nullable (Sourced.serialize .bool) self.willing_to_share_internet])

def deserialize (tree : Tree) : Option NodeCapabilities := do
  let field ← record false FIELDS tree
  let adapter_usable ← optional (Sourced.deserialize boolean) (field "adapter_usable")
  let panu ← optional (Sourced.deserialize boolean) (field "panu")
  let nap ← optional (Sourced.deserialize boolean) (field "nap")
  let routing ← optional (Sourced.deserialize boolean) (field "routing")
  let network_backend ← optional (Sourced.deserialize (NetworkBackend.deserialize false)) (field "network_backend")
  let connection_policy_ceiling ← optional (Sourced.deserialize u16) (field "connection_policy_ceiling")
  let link_quality ← optional (Sourced.deserialize LinkQuality.deserialize) (field "link_quality")
  let power_state ← optional (Sourced.deserialize PowerState.deserialize) (field "power_state")
  let has_internet ← optional (Sourced.deserialize boolean) (field "has_internet")
  let willing_to_share_internet ← optional (Sourced.deserialize boolean) (field "willing_to_share_internet")
  some { adapter_usable, panu, nap, routing, network_backend, connection_policy_ceiling, link_quality, power_state,
         has_internet, willing_to_share_internet }

/-- Capabilities that are written are read back. -/
theorem deserialize_serialize (self : NodeCapabilities) : deserialize self.serialize = some self := by
  rw [serialize, deserialize, record_zip rfl (by decide : FIELDS.Nodup)]
  simp [FIELDS, List.lookup_cons, Sourced.optional_nullable_serialize, Sourced.optional_nullable_serialize boolean_bool]

end NodeCapabilities

end blueroute
