import BlueRoute.Base.Traces
import BlueRoute.Core.Capability
import BlueRoute.Daemon.CurrentNetwork
import BlueRoute.Daemon.SingleStar
import BlueRoute.Linux.Pan.Lifecycle

namespace blueroute_daemon.single_star

open blueroute blueroute_linux Interact

def MAX_ADDRESS_CONFLICT_RETRIES : Nat := 16

/-- What the operations ask of the transition flag, the membership store, the generator of identities and
the host runtime. -/
inductive StarRequest where
  | claim
  | drop_guard
  | load
  | save (registry : MembershipRegistry)
  | generate
  | start_host (network : NetworkId) (bridge : NetworkInterfaceHandle) (address : InterfaceAddress)
  | stop_host (network : NetworkId) (bridge : NetworkInterfaceHandle) (address : InterfaceAddress)

abbrev StarRequest.Answer : StarRequest → Type
  | claim => Bool
  | drop_guard => Unit
  | load => Result MembershipRegistry
  | generate => Result NetworkId
  | save _ | start_host _ _ _ | stop_host _ _ _ => Result Unit

def star_interface : Interface := { Request := StarRequest, Answer := StarRequest.Answer }

abbrev StarAction (α : Type) := Action star_interface CoreError α

def ask (request : StarRequest) : StarAction request.Answer :=
  .perform (ι := star_interface) request

/-- An operation under the transition guard, which is dropped on every way out. -/
def transition {α : Type} (operation : StarAction α) : StarAction α := do
  let claimed ← ask .claim
  if claimed = false then
    .fail (.new .InvalidState "a conflicting BlueRoute network transition is already in progress")
  else do
    let result ← operation.attempt
    ask .drop_guard
    .lift result

structure SingleStarNetworkOperations where
  config : DaemonConfig
  capabilities : NodeCapabilities

def ensure_nap_capability (capabilities : NodeCapabilities) : Result Unit :=
  match capabilities.can_host_pan with
  | some true => .ok ()
  | some false => .error (.new .CapabilityUnavailable "this Linux node does not expose BlueZ NAP capability")
  | none =>
    .error (.new .CapabilityUnavailable
      "BlueZ NAP capability is unknown; refusing to create a hosted network")

/-- `unique_network_id` with the number of tries that are left. -/
def unique_network_id_within (registry : MembershipRegistry) (attempted : Finset NetworkId) :
    Nat → StarAction NetworkId
  | 0 => .fail (.new .Internal "failed to generate a unique BlueRoute network identity")
  | tries + 1 => do
    let generated ← ask .generate
    let candidate ← .lift generated
    if registry.network candidate = none ∧ candidate ∉ attempted then pure candidate
    else unique_network_id_within registry attempted tries

def unique_network_id (registry : MembershipRegistry) (attempted : Finset NetworkId) : StarAction NetworkId :=
  unique_network_id_within registry attempted 16

def conflict_error (attempted : Finset NetworkId) (last_conflict : Option CoreError) : CoreError :=
  let diagnostic := (last_conflict.map CoreError.message).getD "no conflict diagnostic was recorded"
  .with_diagnostic .AddressConflict "failed to select a conflict-free BlueRoute IPv4 segment"
    s!"attempted {attempted.card} network identities; last conflict: {diagnostic}"

namespace SingleStarNetworkOperations

/-- A network whose host has been started. -/
structure Started where
  network : NetworkId
  bridge : NetworkInterfaceHandle
  address : InterfaceAddress

/-- The loop over candidate identities, with the number of them that may still be attempted: every turn
attempts one more. -/
def start_candidate (self : SingleStarNetworkOperations) (registry : MembershipRegistry) :
    Nat → Finset NetworkId → Option CoreError → StarAction Started
  | 0, attempted, last_conflict => .fail (conflict_error attempted last_conflict)
  | remaining + 1, attempted, _ => do
    let network ← unique_network_id registry attempted
    let bridge ← .lift (bridge_name network)
    let address ← .lift (local_star_address network self.config)
    let started ← ask (.start_host network bridge address)
    match started with
    | .ok () => pure { network, bridge, address }
    | .error error =>
      if error.kind = .AddressConflict then
        self.start_candidate registry remaining (insert network attempted) (some error)
      else .fail error

def cleanup_failure (persist_error cleanup_error : CoreError) : CoreError :=
  let diagnostic := match cleanup_error.diagnostic with
    | none => "None"
    | some text => "Some(" ++ pan.debug_string text ++ ")"
  .with_diagnostic .PersistenceError persist_error.message
    (s!"durable membership commit failed and runtime rollback also failed: {cleanup_error.message}; " ++
      s!"rollback diagnostic={diagnostic}")

/-- The registry with the new network, or the host that was started for it is stopped again. -/
def commit_created (registry : MembershipRegistry) (name : DisplayName) (started : Started) :
    StarAction NetworkId := do
  let membership := NetworkMembership.new started.network name
  let joining ← .lift (membership.state.transition .Joining)
  let state ← .lift (joining.transition .Member)
  let saved ← ask (.save (registry.remember_network { membership with state }))
  match saved with
  | .ok () => pure started.network
  | .error persist_error => do
    let stopped ← ask (.stop_host started.network started.bridge started.address)
    match stopped with
    | .ok () => .fail persist_error
    | .error cleanup_error => .fail (cleanup_failure persist_error cleanup_error)

variable (self : SingleStarNetworkOperations)

def create_network_inner (name : DisplayName) : StarAction NetworkId :=
  transition do
    .lift (ensure_nap_capability self.capabilities)
    let loaded ← ask .load
    let registry ← .lift loaded
    let current ← .lift (current_network registry)
    if current.isSome then
      .fail (.new .InvalidState "this daemon already belongs to a BlueRoute network")
    else do
      let started ← self.start_candidate registry MAX_ADDRESS_CONFLICT_RETRIES ∅ none
      commit_created registry name started

def create_network (name : DisplayName) : StarAction NetworkId := self.create_network_inner name

/-- The membership that is left behind: no peer of it is a member any more. -/
def left_membership (membership : NetworkMembership) : Result NetworkMembership := do
  let leaving ← membership.state.transition .Leaving
  let state ← leaving.transition .NotMember
  let peers := membership.peers.toList.map fun entry => entry.2.node_id
  pure (peers.foldl (fun membership peer => (membership.set_peer_member peer false).2) { membership with state })

/-- The registry without the membership, or the host is started again. -/
def commit_left (registry : MembershipRegistry) (host : Started) : StarAction Unit := do
  let membership ← .lift (Fallible.ok_or (registry.network host.network)
    (.new .InvalidState "BlueRoute membership changed during leave"))
  let left ← .lift (left_membership membership)
  let saved ← ask (.save (registry.remember_network left))
  match saved with
  | .ok () => pure ()
  | .error persist_error => do
    let restored ← ask (.start_host host.network host.bridge host.address)
    match restored with
    | .ok () => .fail persist_error
    | .error rollback_error =>
      .fail (.with_diagnostic .PersistenceError persist_error.message
        s!"durable leave failed and host runtime restoration also failed: {rollback_error.message}")

def leave_network : StarAction Unit :=
  transition do
    let loaded ← ask .load
    let registry ← .lift loaded
    let current ← .lift (current_network registry)
    match current with
    | none => pure ()
    | some network =>
      if registry.network network = none then
        .fail (.new .InvalidState "active BlueRoute membership is missing from durable state")
      else do
        let bridge ← .lift (bridge_name network)
        let address ← .lift (local_star_address network self.config)
        let stopped ← ask (.stop_host network bridge address)
        .lift stopped
        commit_left registry { network, bridge, address }

def reconcile_on_startup : StarAction Unit :=
  transition do
    let loaded ← ask .load
    let registry ← .lift loaded
    let current ← .lift (current_network registry)
    match current with
    | none => pure ()
    | some network => do
      .lift (ensure_nap_capability self.capabilities)
      let bridge ← .lift (bridge_name network)
      let address ← .lift (local_star_address network self.config)
      let started ← ask (.start_host network bridge address)
      .lift started

end SingleStarNetworkOperations

/-- The running host and the stored registry. The rest is the flag of the transition, and whether a save
has failed since. -/
structure StarState where
  host : Option NetworkId
  stored : MembershipRegistry
  creating : Bool
  save_failed : Bool

/-- A host call has its effect or fails without one, and a save persists or fails without effect. The call
that takes back a host change after a failed save does not fail. -/
def star_world (before : StarState) : (request : StarRequest) → request.Answer → StarState → Prop
  | .claim, answer, after => answer = !before.creating ∧ after = { before with creating := true, save_failed := false }
  | .drop_guard, _, after => after = { before with creating := false }
  | .load, answer, after => after = before ∧ ∀ registry, answer = .ok registry → registry = before.stored
  | .generate, _, after => after = before
  | .save registry, .ok (), after => after = { before with stored := registry }
  | .save _, .error _, after => after = { before with save_failed := true }
  | .start_host network _ _, .ok (), after => after = { before with host := some network }
  | .stop_host network _ _, .ok (), after => before.host = some network ∧ after = { before with host := none }
  | .start_host _ _ _, .error _, after | .stop_host _ _ _, .error _, after =>
    before.save_failed = false ∧ after = before

inductive StarCall where
  | create_network (name : DisplayName)
  | leave_network
  | reconcile_on_startup

/-- What a call gives back, without the value. -/
def StarCall.program (self : SingleStarNetworkOperations) : StarCall → StarAction (Option NetworkId)
  | create_network name => do
    let network ← self.create_network name
    pure (some network)
  | leave_network => do
    self.leave_network
    pure none
  | reconcile_on_startup => do
    self.reconcile_on_startup
    pure none

abbrev StarEvent := Event star_interface StarState

/-- A call that has returned, with the requests that it made. -/
structure StarLabel where
  call : StarCall
  events : List StarEvent
  result : Result (Option NetworkId)

/-- Calls run one after the other, each to its end. -/
def StarStep (self : SingleStarNetworkOperations) (s : StarState) (label : StarLabel) (t : StarState) : Prop :=
  Exec star_world s (label.call.program self) label.events t (.ret label.result)

end blueroute_daemon.single_star
