import BlueRoute.Daemon.CurrentNetwork
import BlueRoute.Daemon.OutboundControl
import BlueRoute.Daemon.RegisteredTransport

namespace blueroute_daemon.control_listener

open blueroute Interact single_star outbound_control registered_transport

/-- The network that is current and the endpoint that is owned, as far as they were found. -/
abbrev Snapshot := Option NetworkId × Option SocketAddrV4

/-- A socket by its descriptor. -/
abbrev Socket := Nat

inductive Accepted where
  | socket (socket : Socket)
  | would_block
  | failed (error : String)
deriving DecidableEq

/-- What a listener asks: its own socket and whether it still has it, the observer, the durable
membership and the network backend, the sockets that it accepts and the sessions that are made of
them. `observed` marks that an observation has been completed and asks nothing. -/
inductive Request where
  | is_retired
  | retire
  | observe (awaited : Bool)
  | load_membership
  | observed_owned_control_endpoint
  | observed (answer : Result Snapshot)
  | accept
  | set_blocking (socket : Socket)
  | shutdown (socket : Socket)
  | accept_registered (socket : Socket) (network : NetworkId)
  | first_poll
  | take_sessions
  | put_sessions (sessions : List Connection)
  | revalidate_approval (session : Connection)
  | drop (session : Connection)

/-- Errors of the socket, of the handshake and of the admission are given by their texts. -/
abbrev Request.Answer : Request → Type
  | is_retired => Bool
  | retire => Unit
  | observe _ => Result Snapshot
  | load_membership => Result MembershipRegistry
  | observed_owned_control_endpoint => Result (Option SocketAddrV4)
  | observed _ => Unit
  | accept => Accepted
  | set_blocking _ => Except String Unit
  | shutdown _ => Unit
  | accept_registered .. => Except String Connection
  | first_poll => Unit
  | take_sessions => List Connection
  | put_sessions _ => Unit
  | revalidate_approval _ => Bool
  | drop _ => Unit

/-- The requests at which a future can be dropped. -/
def Request.awaits : Request → Bool
  | observe awaited => awaited
  | observed_owned_control_endpoint | first_poll => true
  | _ => false

/-- The requests that look at the network or let a peer in. -/
def Request.is_outside : Request → Bool
  | observe _ | load_membership | observed_owned_control_endpoint | accept | accept_registered .. => true
  | _ => false

abbrev interface : Interface := { Request, Answer := Request.Answer }

abbrev ListenerAction (α : Type) : Type := Action interface CoreError α

def ask (request : Request) : ListenerAction request.Answer := .perform (ι := interface) request

/-- An observation that the caller supplies. -/
def callback (awaited : Bool) : ListenerAction Snapshot := do
  let answer ← ask (.observe awaited)
  .lift answer

def load_current_network : ListenerAction (Option NetworkId) := do
  let answer ← ask .load_membership
  let registry ← .lift answer
  .lift (current_network registry)

/-- Reads the membership on both sides of the backend's endpoint. -/
def observe_durable_owned_endpoint (expected_network : NetworkId) : ListenerAction Snapshot := do
  let before ← load_current_network
  if before ≠ some expected_network then pure (before, none)
  else do
    let answer ← ask .observed_owned_control_endpoint
    let endpoint ← .lift answer
    let after ← load_current_network
    if before ≠ after then
      .fail (.new .InvalidState "NAP ownership changed during durable backend observation")
    else pure (after, endpoint)

/-- An observation whose answer is looked at, whatever it is. -/
def observation (observe : ListenerAction Snapshot) : ListenerAction (Result Snapshot) := do
  let answer ← observe.attempt
  ask (.observed answer)
  pure answer

/-- The socket that it listens on is gone when it is retired. -/
structure ObservedControlListener where
  network : NetworkId
  endpoint : SocketAddrV4
deriving DecidableEq

namespace ObservedControlListener

variable (self : ObservedControlListener)

/-- The only observation under which the listener goes on. -/
def own : Snapshot := (some self.network, some self.endpoint)

def already_retired : CoreError :=
  .new .InvalidState "NAP control listener has already been retired"

def retire_with {α : Type} (error : CoreError) : ListenerAction α := do
  ask .retire
  .fail error

/-- The socket of a listener that is not retired, or an error. -/
def require_live : ListenerAction Unit := do
  let retired ← ask .is_retired
  if retired then .fail already_retired else pure ()

def accept_if_current (observed : Snapshot) : ListenerAction (Option Socket) := do
  require_live
  if observed ≠ self.own then
    retire_with (.new .InvalidState "NAP control listener lost its observed network ownership")
  else do
    let accepted ← ask .accept
    match accepted with
    | .socket socket => do
      let prepared ← ask (.set_blocking socket)
      match prepared with
      | .ok () => pure (some socket)
      | .error error =>
        .fail (.with_diagnostic .PanFailure "cannot prepare untrusted control TCP socket" error)
    | .would_block => pure none
    | .failed error => retire_with (.with_diagnostic .PanFailure "NAP control listener accept failed" error)

/-- Both sockets are closed on ownership loss or error. -/
def finish_accepted_observation (socket : Socket) (answer : Result Snapshot) : ListenerAction (Option Socket) :=
  match answer with
  | .ok observed =>
    if observed = self.own then pure (some socket)
    else do
      ask .retire
      ask (.shutdown socket)
      .fail (.new .InvalidState "NAP control listener lost ownership after TCP accept")
  | .error error => do
    ask .retire
    ask (.shutdown socket)
    .fail error

def accept_with_revalidation (observed : Snapshot) (reobserve : ListenerAction (Result Snapshot)) :
    ListenerAction (Option Socket) := do
  let accepted ← self.accept_if_current observed
  match accepted with
  | none => pure none
  | some socket => do
    let answer ← reobserve
    self.finish_accepted_observation socket answer

/-- The same as a call, whose argument is an observation that its caller has completed. -/
def accept_observed (observed : Snapshot) : ListenerAction (Option Socket) := do
  ask (.observed (.ok observed))
  self.accept_with_revalidation observed (observation (callback false))

/-- The synchronous and the asynchronous poll differ in their observers only. -/
def poll_with_observations (observe : ListenerAction (Result Snapshot)) : ListenerAction (Option Socket) := do
  require_live
  let answer ← observe
  match answer with
  | .error error => retire_with error
  | .ok observed => self.accept_with_revalidation observed observe

def poll_with_fresh_observations : ListenerAction (Option Socket) :=
  self.poll_with_observations (observation (callback false))

def poll_with_async_observations : ListenerAction (Option Socket) :=
  self.poll_with_observations (observation (callback true))

def poll_from_durable_network_operations : ListenerAction (Option Socket) :=
  self.poll_with_observations (observation (observe_durable_owned_endpoint self.network))

/-- The session that is not returned is dropped. -/
def refuse {α : Type} (session : Connection) (error : CoreError) : ListenerAction α := do
  ask (.drop session)
  .fail error

def require_session_network (session : Connection) : ListenerAction Unit := do
  let retired ← ask .is_retired
  if retired then refuse session already_retired
  else if session.key.network ≠ self.network then do
    ask .retire
    refuse session (.new .InvalidState "authenticated session network differs from NAP listener")
  else pure ()

/-- The part of `release_registered_if_current` after the observation. -/
def release_observed (session : Connection) (answer : Result Snapshot) : ListenerAction Connection :=
  match answer with
  | .ok observed =>
    if observed = self.own then do
      let approved ← ask (.revalidate_approval session)
      if approved then pure session
      else refuse session (.new .AuthenticationFailed "control session lost approval before listener release")
    else do
      ask .retire
      refuse session (.new .InvalidState "NAP ownership changed during authenticated control setup")
  | .error error => do
    ask .retire
    refuse session error

def release_registered_if_current (session : Connection) (observe : ListenerAction (Result Snapshot)) :
    ListenerAction Connection := do
  self.require_session_network session
  let answer ← observe
  self.release_observed session answer

/-- The observation is awaited first and then handed over. -/
def release_registered_if_current_async (session : Connection) (observe : ListenerAction (Result Snapshot)) :
    ListenerAction Connection := do
  self.require_session_network session
  let answer ← observe
  self.release_registered_if_current session (pure answer)

def release_registered_from_durable_network_operations (session : Connection) : ListenerAction Connection :=
  self.release_registered_if_current_async session (observation (observe_durable_owned_endpoint self.network))

def poll_registered_from_durable_network_operations (setup_network : NetworkId) :
    ListenerAction (Option Connection) :=
  if setup_network ≠ self.network then
    retire_with (.new .InvalidInput "authenticated control setup targets a different NAP network")
  else do
    let accepted ← self.poll_from_durable_network_operations
    match accepted with
    | none => pure none
    | some socket => do
      let registered ← ask (.accept_registered socket setup_network)
      match registered with
      | .error error =>
        .fail (.with_diagnostic .AuthenticationFailed "inbound control TLS or session admission failed" error)
      | .ok session => do
        let checked ← self.release_registered_from_durable_network_operations session
        pure (some checked)

/-- `retain_mut`: one revoked peer does not close the others. -/
def retain_approved (self : ObservedControlListener) : List Connection → ListenerAction (List Connection)
  | [] => pure []
  | session :: rest =>
    if session.key.network ≠ self.network then do
      ask (.drop session)
      self.retain_approved rest
    else do
      let approved ← ask (.revalidate_approval session)
      if approved then do
        let kept ← self.retain_approved rest
        pure (session :: kept)
      else do
        ask (.drop session)
        self.retain_approved rest

def drop_all : List Connection → ListenerAction Unit
  | [] => pure ()
  | session :: rest => do
    ask (.drop session)
    drop_all rest

/-- The sessions are taken when the future is made, before it is polled for the first time. -/
def supervise_registered_from_durable_network_operations : ListenerAction Nat := do
  let owned ← ask .take_sessions
  ask .first_poll
  let retired ← ask .is_retired
  if retired then do
    drop_all owned
    .fail already_retired
  else do
    let answer ← observation (observe_durable_owned_endpoint self.network)
    match answer with
    | .ok observed =>
      if observed = self.own then do
        let kept ← self.retain_approved owned
        ask (.put_sessions kept)
        pure kept.length
      else do
        ask .retire
        drop_all owned
        .fail (.new .InvalidState "active NAP listener lost durable network ownership")
    | .error error => do
      ask .retire
      drop_all owned
      .fail error

end ObservedControlListener

/-- A listener and the sessions that its caller keeps. `drifted` notes that an observation was not the
listener's own. -/
structure State where
  retired : Bool
  drifted : Bool
  sessions : List Connection

/-- Observations, sockets, handshakes and approvals answer anything. -/
def world (self : ObservedControlListener) (before : State) : (request : Request) → request.Answer → State → Prop
  | .is_retired, answer, after => answer = before.retired ∧ after = before
  | .retire, _, after => after = { before with retired := true }
  | .observed answer, _, after => after = { before with drifted := before.drifted || answer ≠ .ok self.own }
  | .take_sessions, answer, after => answer = before.sessions ∧ after = { before with sessions := [] }
  | .put_sessions sessions, _, after => after = { before with sessions }
  | _, _, after => after = before

inductive Call where
  | accept_with_revalidation (observed : Snapshot)
  | poll_with_fresh_observations
  | poll_with_async_observations
  | poll_from_durable_network_operations
  | poll_registered_from_durable_network_operations (setup_network : NetworkId)
  | release_registered_if_current (session : Connection)
  | release_registered_if_current_async (session : Connection)
  | release_registered_from_durable_network_operations (session : Connection)
  | supervise_registered_from_durable_network_operations

inductive Outcome where
  | candidate (result : Result (Option Socket))
  | session (result : Result (Option Connection))
  | active (result : Result Nat)

def Call.program (self : ObservedControlListener) : Call → Prog interface Outcome
  | accept_with_revalidation observed =>
    .bind (self.accept_observed observed) fun result => .ret (.candidate result)
  | poll_with_fresh_observations => .bind self.poll_with_fresh_observations fun result => .ret (.candidate result)
  | poll_with_async_observations => .bind self.poll_with_async_observations fun result => .ret (.candidate result)
  | poll_from_durable_network_operations =>
    .bind self.poll_from_durable_network_operations fun result => .ret (.candidate result)
  | poll_registered_from_durable_network_operations setup_network =>
    .bind (self.poll_registered_from_durable_network_operations setup_network) fun result => .ret (.session result)
  | release_registered_if_current session =>
    .bind (self.release_registered_if_current session (observation (callback false))) fun result =>
      .ret (.session (result.map some))
  | release_registered_if_current_async session =>
    .bind (self.release_registered_if_current_async session (observation (callback true))) fun result =>
      .ret (.session (result.map some))
  | release_registered_from_durable_network_operations session =>
    .bind (self.release_registered_from_durable_network_operations session) fun result =>
      .ret (.session (result.map some))
  | supervise_registered_from_durable_network_operations =>
    .bind self.supervise_registered_from_durable_network_operations fun result => .ret (.active result)

/-- A call with the requests that it has made, which has returned or whose future was dropped; or the
caller changes the sessions that it keeps. -/
inductive Label where
  | call (call : Call) (events : List (Event interface State)) (outcome : Option Outcome)
  | keep (sessions : List Connection)

inductive Step (self : ObservedControlListener) : State → Label → State → Prop where
  | returned {before after : State} {call : Call} {events : List (Event interface State)} {outcome : Outcome}
      (hexec : Exec (ι := interface) (world self) before (call.program self) events after (.ret outcome)) :
      Step self before (.call call events (some outcome)) after
  | dropped {before after : State} {call : Call} {events : List (Event interface State)} {request : Request}
      {next : request.Answer → Prog interface Outcome} (hawaits : request.awaits = true)
      (hexec : Exec (ι := interface) (world self) before (call.program self) events after (.ask request next)) :
      Step self before (.call call events none) after
  | keep {before : State} {sessions : List Connection} :
      Step self before (.keep sessions) { before with sessions }

end blueroute_daemon.control_listener
