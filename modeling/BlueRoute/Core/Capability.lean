import Mathlib

namespace blueroute

/-- Describes where a capability value came from. -/
inductive CapabilitySource where
  | Discovered
  | Measured
  | Configured
  | ConservativeDefault
deriving DecidableEq

/-- A value paired with evidence provenance. -/
structure Sourced (T : Type) where
  value : T
  source : CapabilitySource
deriving DecidableEq

/-- Optional topology-quality information exposed by a platform. -/
structure LinkQuality where
  score : UInt8
deriving DecidableEq

/-- Coarse power information that may influence topology policy. -/
inductive PowerState where
  | AcPowered
  | Battery (percent : UInt8)
deriving DecidableEq

/-- Linux networking implementation available on a node. -/
inductive NetworkBackend where
  | NetworkManager
  | SystemdNetworkd
  | DirectNetlink
  | Other (name : String)
deriving DecidableEq

/-- Capabilities are optional because unknown must remain distinguishable from false. -/
structure NodeCapabilities where
  adapter_usable : Option (Sourced Bool) := none
  panu : Option (Sourced Bool) := none
  nap : Option (Sourced Bool) := none
  routing : Option (Sourced Bool) := none
  network_backend : Option (Sourced NetworkBackend) := none
  connection_policy_ceiling : Option (Sourced UInt16) := none
  link_quality : Option (Sourced LinkQuality) := none
  power_state : Option (Sourced PowerState) := none
  has_internet : Option (Sourced Bool) := none
  willing_to_share_internet : Option (Sourced Bool) := none
deriving DecidableEq

namespace NodeCapabilities

variable (self : NodeCapabilities)

def can_join_pan : Option Bool := self.panu.map Sourced.value

def can_host_pan : Option Bool := self.nap.map Sourced.value

def can_route : Option Bool := self.routing.map Sourced.value

/-- The `adapter_usable` evidence without its provenance. -/
def usable : Option Bool := self.adapter_usable.map Sourced.value

/-- The connection ceiling without its provenance, as a number of clients. -/
def ceiling (self : NodeCapabilities) : Option Nat :=
  self.connection_policy_ceiling.map fun ceiling => ceiling.value.toNat

end NodeCapabilities

end blueroute
