import BlueRoute.Base.Interact
import BlueRoute.Daemon.CurrentNetwork
import BlueRoute.Daemon.PeerPinStore

namespace blueroute_daemon.peer_trust

open blueroute blueroute_protocol.peer_pin Fallible Interact single_star

/-- What the operations ask of the machine they run on. -/
inductive Request where
  | lock_thread
  | lock_process
  | load_registry
  | save_registry (registry : MembershipRegistry)
  | load_secret
  | save_secret (contents : List UInt8)
  | now
  | operate

/-- The thread lock answers whether it is not poisoned, and the caller's operation with its result. -/
abbrev Request.Answer (T : Type) : Request → Type
  | lock_thread => Bool
  | lock_process => Result Unit
  | load_registry => Result MembershipRegistry
  | save_registry _ => Result Unit
  | load_secret => Result (Option (List UInt8))
  | save_secret _ => Result Unit
  | now => Nat
  | operate => T

abbrev interface (T : Type) : Interface := { Request, Answer := Request.Answer T }

/-- One instance of the operations. All instances share one membership store, and one pin store
if they have one. -/
structure DurablePeerTrustOperations where
  pin_store : Bool

def require_nonzero_peer_identity (node : NodeId) : Result Unit :=
  reject_if (node = .filled 0) (.new .InvalidInput "all-zero peer NodeId cannot be trusted or authorized")

def no_current_network : CoreError :=
  .new .InvalidState "this daemon does not currently belong to a BlueRoute network"

/-- The network to change peers of, and what is remembered of it. -/
def current_membership (registry : MembershipRegistry) : Result (NetworkId × NetworkMembership) := do
  let current ← current_network registry
  let network ← ok_or current no_current_network
  let membership ← ok_or (registry.network network)
    (.new .InvalidState "current BlueRoute network is missing from durable membership state")
  pure (network, membership)

/-- What `require_peer_approved` decides once the registry is loaded. -/
def peer_approved (registry : MembershipRegistry) (network : NetworkId) (node : NodeId) : Result Unit := do
  let current ← current_network registry
  let current ← ok_or current no_current_network
  reject_if (current ≠ network)
    (.new .InvalidState "refusing peer authorization for a network other than the current network")
  let membership ← ok_or (registry.network network)
    (.new .InvalidState "current BlueRoute network is missing from durable membership state")
  reject_if (membership.is_peer_trusted node = false)
    (.new .AuthenticationFailed "BlueRoute peer has not been explicitly approved for this network")

section Programs

variable {T : Type}

def load_registry : Action (interface T) CoreError MembershipRegistry := do
  let answer ← .perform (ι := interface T) .load_registry
  .lift answer

def save_registry (registry : MembershipRegistry) : Action (interface T) CoreError Unit := do
  let answer ← .perform (ι := interface T) (.save_registry registry)
  .lift answer

/-- `PeerPinStore::load` -/
def load_pins : Action (interface T) CoreError PeerKeyPins := do
  let answer ← .perform (ι := interface T) .load_secret
  let contents ← .lift answer
  .lift (peer_pin_store.load contents)

/-- `PeerPinStore::save` -/
def save_pins (pins : PeerKeyPins) : Action (interface T) CoreError Unit := do
  let contents ← .lift (peer_pin_store.render pins)
  let answer ← .perform (ι := interface T) (.save_secret contents)
  .lift answer

/-- `PeerPinStore::try_lock`, which first reads the secret. -/
def try_lock : Action (interface T) CoreError Unit := do
  let answer ← .perform (ι := interface T) .load_secret
  let _ ← .lift answer
  let answer ← .perform (ι := interface T) .lock_process
  .lift answer

variable (self : DurablePeerTrustOperations)

def lock_state : Action (interface T) CoreError Unit := do
  let locked ← .perform (ι := interface T) .lock_thread
  .lift (reject_if (locked = false)
    (.new .Internal "peer trust state lock poisoned; refusing to use unverified approval state"))
  if self.pin_store then try_lock else pure ()

def require_peer_approved (network : NetworkId) (node : NodeId) : Action (interface T) CoreError Unit := do
  .lift (require_nonzero_peer_identity node)
  let registry ← load_registry
  .lift (peer_approved registry network node)

def with_approved_pinned_tls_peer (network : NetworkId) (node : NodeId) (verified_spki_sha256 : SpkiSha256) :
    Action (interface T) CoreError T := do
  lock_state self
  require_peer_approved network node
  .lift (reject_if (self.pin_store = false)
    (.new .AuthenticationFailed "no durable peer key pin store is configured for authenticated control"))
  let pins ← load_pins
  .lift ((pins.authorize network node true verified_spki_sha256).mapError fun error =>
    .with_diagnostic .AuthenticationFailed
      "peer has no matching explicitly enrolled BlueRoute cryptographic identity" error.to_string)
  .perform (ι := interface T) .operate

/-- The check of a deadline, for which the clock is read only if there is one. -/
def check_deadline : Option Nat → Action (interface T) CoreError Unit
  | none => pure ()
  | some limit => do
    let now ← .perform (ι := interface T) .now
    .lift (reject_if (now ≥ limit)
      (.new .AuthenticationFailed "confirmed enrollment deadline expired before durable key enrollment"))

/-- The write of an enrolment that has changed something. -/
def save_enrollment (deadline : Option Nat) (changed : Bool) (pins : PeerKeyPins) :
    Action (interface T) CoreError Unit :=
  if changed then do
    check_deadline deadline
    save_pins pins
  else pure ()

def enroll_key_inner (network : NetworkId) (node : NodeId) (verified_tls_spki confirmed_spki : SpkiSha256)
    (deadline : Option Nat) : Action (interface T) CoreError Bool := do
  lock_state self
  require_peer_approved network node
  .lift (reject_if (verified_tls_spki ≠ confirmed_spki)
    (.new .AuthenticationFailed "independently confirmed peer key does not match verified TLS identity"))
  .lift (reject_if (self.pin_store = false)
    (.new .AuthenticationFailed "no durable peer key pin store is configured for enrollment"))
  let pins ← load_pins
  check_deadline deadline
  let enrolled ← .lift ((pins.enroll_verified network node verified_tls_spki).mapError fun _ =>
    .new .AuthenticationFailed "peer identity or key conflicts with an existing enrollment")
  save_enrollment deadline enrolled.1 enrolled.2
  pure enrolled.1

def trust_peer (self : DurablePeerTrustOperations) (node : NodeId) : Action (interface T) CoreError Unit := do
  .lift (require_nonzero_peer_identity node)
  lock_state self
  let registry ← load_registry
  let current ← .lift (current_membership registry)
  let changed := current.2.trust_peer node
  if changed.1 then save_registry (registry.remember_network changed.2) else pure ()

/-- The first half of `forget_peer`, in which the key goes. -/
def revoke_pin (network : NetworkId) (node : NodeId) : Action (interface T) CoreError Unit :=
  if self.pin_store then do
    let pins ← load_pins
    let revoked := pins.revoke network node
    if revoked.1 then save_pins revoked.2 else pure ()
  else pure ()

def forget_peer (self : DurablePeerTrustOperations) (node : NodeId) : Action (interface T) CoreError Unit := do
  .lift (require_nonzero_peer_identity node)
  lock_state self
  let registry ← load_registry
  let current ← .lift (current_membership registry)
  -- the pin goes first, so that no trusted old key is left when the second write is missing
  revoke_pin self current.1 node
  let changed := current.2.forget_peer node
  if changed.1 then save_registry (registry.remember_network changed.2) else pure ()

end Programs

end blueroute_daemon.peer_trust
