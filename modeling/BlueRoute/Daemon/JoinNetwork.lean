import BlueRoute.Base.Pool
import BlueRoute.Daemon.CurrentNetwork
import BlueRoute.Daemon.OutboundControl

namespace blueroute_daemon.join_network

open blueroute blueroute_linux Interact net single_star

structure JoinControlSession where
  network : NetworkId
deriving DecidableEq

/-- The steps of joining that the runtime does, and that the join waits for. -/
inductive RuntimeCall where
  | preflight (network : NetworkId)
  | establish_panu (network : NetworkId)
  | disconnect_panu (link : JoinPanLink)
  | configure_ip (network : NetworkId) (link : JoinPanLink)
  | remove_ip (lease : JoinIpLease)
  | start_control_session (network : NetworkId) (link : JoinPanLink) (lease : JoinIpLease)
  | stop_control_session (session : JoinControlSession)

abbrev RuntimeCall.Value : RuntimeCall → Type
  | establish_panu _ => JoinPanLink
  | configure_ip _ _ => JoinIpLease
  | start_control_session _ _ _ => JoinControlSession
  | _ => Unit

inductive Request where
  | claim
  | mutation_started
  | reconciled
  | drop_guard
  | load
  | save (registry : MembershipRegistry)
  | runtime (call : RuntimeCall)

/-- A call of the runtime is answered by nothing when the future is dropped while it waits. -/
abbrev Request.Answer : Request → Type
  | claim => Bool
  | mutation_started | reconciled | drop_guard => Unit
  | load => Result MembershipRegistry
  | save _ => Result Unit
  | runtime call => Option (Result call.Value)

def interface : Interface := { Request, Answer := Request.Answer }

/-- Why a join did not succeed. -/
inductive Stop where
  | Dropped
  | Failed (error : CoreError)

abbrev JoinAction (α : Type) := Action interface Stop α

def ask (request : Request) : JoinAction request.Answer := .perform (ι := interface) request

/-- Nothing of a dropped future runs any more but the destructor of its guard. -/
def await (call : RuntimeCall) : JoinAction (Result call.Value) := do
  let answer ← ask (.runtime call)
  match answer with
  | none => .fail .Dropped
  | some result => pure result

def propagate {α : Type} (result : Result α) : JoinAction α := .lift (result.mapError .Failed)

def err {α : Type} (error : CoreError) : JoinAction α := .fail (.Failed error)

/-- What a rollback step that failed adds to the diagnostic. -/
def rollback_failure (step : String) : Result Unit → Option String
  | .ok () => none
  | .error error => some s!"{step} rollback: {error.message}"

def combine_rollback (primary : CoreError) (control address panu : Result Unit) : CoreError :=
  let failures := [rollback_failure "control" control, rollback_failure "address" address,
    rollback_failure "PANU" panu].reduceOption
  let diagnostic := primary.diagnostic.getD "no primary diagnostic"
  if failures.isEmpty then primary
  else
    .with_diagnostic primary.kind primary.message (diagnostic ++ "; rollback failures: " ++ "; ".intercalate failures)

def rollback_after_control (primary : CoreError) (session : JoinControlSession) (lease : JoinIpLease)
    (link : JoinPanLink) : JoinAction (CoreError × Bool) := do
  let control ← await (.stop_control_session session)
  let address ← await (.remove_ip lease)
  let panu ← await (.disconnect_panu link)
  let clean := control.isOk && address.isOk && panu.isOk
  pure (combine_rollback primary control address panu, clean)

def rollback_after_ip (primary : CoreError) (lease : JoinIpLease) (link : JoinPanLink) :
    JoinAction (CoreError × Bool) := do
  let address ← await (.remove_ip lease)
  let panu ← await (.disconnect_panu link)
  let clean := address.isOk && panu.isOk
  pure (combine_rollback primary (.ok ()) address panu, clean)

/-- The exits after which only the link is known to be owned. -/
def fail_with_link {α : Type} (primary : CoreError) (link : JoinPanLink) : JoinAction α := do
  let panu ← await (.disconnect_panu link)
  err (combine_rollback primary (.ok ()) (.ok ()) panu)

/-- The exits after which everything that was made is owned. -/
def fail_with_session {α : Type} (primary : CoreError) (session : JoinControlSession) (lease : JoinIpLease)
    (link : JoinPanLink) : JoinAction α := do
  let (error, clean) ← rollback_after_control primary session lease link
  if clean then do
    ask .reconciled
    err error
  else err error

def is_private (ip : Ipv4Addr) : Bool :=
  match ip.octets with
  | [a, b, _, _] => a = 10 || (a = 172 && 16 ≤ b && b ≤ 31) || (a = 192 && b = 168)
  | _ => false

def is_loopback (ip : Ipv4Addr) : Bool := ip.octets.head? = some 127

def is_private_ipv4 : IpAddr → Bool
  | .V4 ip => is_private ip && !is_loopback ip
  | .V6 _ => false

/-- Takes an address for the link, and keeps it only if it is the one that the network's plan gives. -/
def obtain_lease (network : NetworkId) (expected_client : IpPrefix) (link : JoinPanLink) : JoinAction JoinIpLease := do
  let configured ← await (.configure_ip network link)
  match configured with
  | .error error => fail_with_link error link
  | .ok lease =>
    if lease.address.owner ≠ network ∨ lease.interface ≠ link.interface then
      fail_with_link (.new .InvalidState
        "PANU join returned an IP lease with mismatched network or interface ownership") link
    else if is_private_ipv4 lease.address.prefix_.address = false then
      fail_with_link (.new .InvalidState "PANU join returned an invalid non-private-IPv4 IP lease") link
    else if lease.address.prefix_ ≠ expected_client then
      fail_with_link (.new .AddressConflict
        "PANU join IP lease differs from deterministic network address plan") link
    else pure lease

/-- The session may be for any network. What is known about a failed start is too little to say that the
resources are free. -/
def obtain_session (network : NetworkId) (link : JoinPanLink) (lease : JoinIpLease) :
    JoinAction JoinControlSession := do
  let started ← await (.start_control_session network link lease)
  match started with
  | .ok session => pure session
  | .error error => do
    let (error, _) ← rollback_after_ip error lease link
    err error

def discovered_network_name (network : NetworkId) : Result DisplayName :=
  DisplayName.new ("BlueRoute " ++ String.ofList (network.to_string.toList.take 8))

def mark_local_membership_joined (registry : MembershipRegistry) (network : NetworkId) :
    Result MembershipRegistry := do
  match registry.network network with
  | some membership =>
    let joining ← membership.state.transition .Joining
    let state ← joining.transition .Member
    pure (registry.remember_network { membership with state })
  | none =>
    let name ← discovered_network_name network
    let membership := NetworkMembership.new network name
    let joining ← membership.state.transition .Joining
    let state ← joining.transition .Member
    pure (registry.remember_network { membership with state })

/-- The membership that is to be saved, if the registry has not changed against it. -/
def joined_registry (registry : MembershipRegistry) (network : NetworkId) : Result MembershipRegistry := do
  match ← current_network registry with
  | some _ =>
    .error (.new .InvalidState "BlueRoute membership changed while join networking was being established")
  | none => mark_local_membership_joined registry network

def commit (network : NetworkId) (session : JoinControlSession) (lease : JoinIpLease) (link : JoinPanLink) :
    JoinAction Unit := do
  if session.network ≠ network then
    fail_with_session (.new .AuthenticationFailed
      "authenticated control session belongs to a different BlueRoute network") session lease link
  else do
    let loaded ← ask .load
    match loaded >>= fun registry => joined_registry registry network with
    | .error error => fail_with_session error session lease link
    | .ok registry => do
      let saved ← ask (.save registry)
      match saved with
      | .error error => fail_with_session error session lease link
      | .ok () => ask .reconciled

/-- The checks before anything is changed. -/
def check_joinable (network : NetworkId) (registry : MembershipRegistry) : Result Unit := do
  match ← current_network registry with
  | none => pure ()
  | some current =>
    if current = network then
      .error (.new .InvalidState ("durable membership already claims this network; " ++
        "P6-009 runtime reconciliation is required before JoinNetwork can report success"))
    else .error (.new .InvalidState "this daemon already belongs to a different BlueRoute network")

/-- What runs under the guard. -/
def join_claimed (pool : Ipv4AddressPool) (network : NetworkId) : JoinAction Unit := do
  let loaded ← ask .load
  let registry ← propagate loaded
  propagate (check_joinable network registry)
  let plan ← propagate (Ipv4StarAddressPlan.for_network network pool)
  let ready ← await (.preflight network)
  propagate ready
  ask .mutation_started
  let established ← await (.establish_panu network)
  let link ← propagate established
  let lease ← obtain_lease network plan.first_client link
  let session ← obtain_session network link lease
  commit network session lease link

set_option linter.dupNamespace false in
def TransactionalJoinNetworkOperations.join_network (pool : Ipv4AddressPool) (network : NetworkId) :
    JoinAction Unit := do
  if network = .filled 0 then
    err (.new .InvalidState "zero NetworkId is not a joinable BlueRoute network")
  else do
    let claimed ← ask .claim
    if claimed = false then
      err (.new .InvalidState
        "another BlueRoute join operation is already in progress or requires runtime reconciliation")
    else do
      let result ← (join_claimed pool network).attempt
      -- the guard goes out of scope on every way out of the call, and when its future is dropped
      ask .drop_guard
      .lift result

inductive Phase where
  | Fresh
  | Claimed
  | Done
deriving DecidableEq

/-- A request of a call with its answer. -/
abbrev Answered := (request : Request) × request.Answer

/-- One call: the guard that it holds, and what it has asked so far. -/
structure Caller where
  network : NetworkId
  phase : Phase
  may_have_live_resources : Bool
  log : List Answered

namespace Caller

def new (network : NetworkId) : Caller :=
  { network, phase := .Fresh, may_have_live_resources := false, log := [] }

def phase_after (self : Caller) : Answered → Phase
  | ⟨.claim, true⟩ => .Claimed
  | ⟨.drop_guard, _⟩ => .Done
  | _ => self.phase

def live_after (self : Caller) : Answered → Bool
  | ⟨.mutation_started, _⟩ => true
  | ⟨.claim, _⟩ | ⟨.reconciled, _⟩ => false
  | _ => self.may_have_live_resources

def after (self : Caller) (answered : Answered) : Caller :=
  { self with
    phase := self.phase_after answered
    may_have_live_resources := self.live_after answered
    log := self.log ++ [answered] }

end Caller

/-- The flag is claimed by exchanging it, and cleared by a guard that has no live resources. -/
def flag_after (own : Caller) (flag : Bool) : Answered → Bool → Prop
  | ⟨.claim, claimed⟩, after => claimed = !flag ∧ after = true
  | ⟨.drop_guard, _⟩, after => after = (flag && own.may_have_live_resources)
  | _, after => after = flag

/-- The runtime and the membership store answer anything. -/
def world (before : Caller × Bool) (request : Request) (answer : request.Answer) (after : Caller × Bool) : Prop :=
  after.1 = before.1.after ⟨request, answer⟩ ∧ flag_after before.1 before.2 ⟨request, answer⟩ after.2

/-- Calls of `join_network` over one `join_in_progress` flag. -/
def tasks {κ : Type} (pool : Ipv4AddressPool) : Tasks κ interface Caller Bool NetworkId (Except Stop Unit) :=
  { world := fun _ => world
    program := fun _ network => TransactionalJoinNetworkOperations.join_network pool network
    may_start := fun own network => own = .new network
    finish := fun own _ _ => { own with phase := .Done }
    drift := fun _ _ => False }

end blueroute_daemon.join_network
