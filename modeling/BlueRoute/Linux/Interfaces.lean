import BlueRoute.Core.Route

namespace blueroute_linux

open blueroute net

/-- The handle types that the source generates with `opaque_handle!`. -/
inductive HandleKind where
  | AdapterHandle
  | PeerHandle
  | NetworkInterfaceHandle
  | NetworkConnectionHandle
  | NetworkDeviceHandle

def HandleKind.name : HandleKind → String
  | AdapterHandle => "AdapterHandle"
  | PeerHandle => "PeerHandle"
  | NetworkInterfaceHandle => "NetworkInterfaceHandle"
  | NetworkConnectionHandle => "NetworkConnectionHandle"
  | NetworkDeviceHandle => "NetworkDeviceHandle"

/-- A name that is not blank. -/
structure Handle (kind : HandleKind) where
  as_str : String
  not_blank : is_blank as_str = false
deriving DecidableEq

abbrev AdapterHandle := Handle .AdapterHandle

abbrev PeerHandle := Handle .PeerHandle

abbrev NetworkInterfaceHandle := Handle .NetworkInterfaceHandle

def Handle.new (kind : HandleKind) (value : String) : Result (Handle kind) :=
  if h : is_blank value then
    .error (CoreError.new .InvalidInput (kind.name ++ " cannot be empty"))
  else .ok { as_str := value, not_blank := by simpa using h }

theorem Handle.new_eq_ok_iff {kind : HandleKind} {value : String} {handle : Handle kind} :
    Handle.new kind value = .ok handle ↔ handle.as_str = value := by
  unfold Handle.new
  constructor
  · intro h
    split at h
    · cases h
    · cases h
      rfl
  · rintro rfl
    simp [handle.not_blank]

/-- The first interface that the kernel makes for a PAN link. -/
theorem is_blank_bnep0 : is_blank "bnep0" = false := by
  decide

inductive PanRole where
  | Panu
  | Nap
deriving DecidableEq

structure PanAttachment where
  role : PanRole
  interface : NetworkInterfaceHandle
  peer : Option PeerHandle
deriving DecidableEq

/-- An address on an interface, with the BlueRoute network that owns it. -/
structure InterfaceAddress where
  interface : NetworkInterfaceHandle
  prefix_ : IpPrefix
  owner : NetworkId
deriving DecidableEq

/-- A kernel route, with the BlueRoute network that owns it. -/
structure LinuxRoute where
  destination : IpPrefix
  via : Option IpAddr
  interface : NetworkInterfaceHandle
  metric : UInt32
  owner : NetworkId
deriving DecidableEq

/-- An active prefix, with its interface where the interface has a name. -/
structure ActiveIpv4Prefix where
  interface : Option NetworkInterfaceHandle
  prefix_ : IpPrefix
deriving DecidableEq

end blueroute_linux
