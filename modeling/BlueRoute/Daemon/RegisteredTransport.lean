import BlueRoute.Base.Pool
import BlueRoute.Daemon.ControlSession

namespace blueroute_daemon.registered_transport

open blueroute blueroute_protocol.session control_tls Interact

/-- The peer of a TLS connection and the session id that the connection exports. -/
structure Connection where
  key : PeerSessionKey
  session_id : SessionId

/-- The session registry behind its mutex. -/
structure SharedRegistry where
  registry : ControlSessionRegistry
  poisoned : Bool

def registration_is_active (registry : ControlSessionRegistry) (key : PeerSessionKey) (session_id : SessionId) : Bool :=
  (registry.get key).any fun entry => entry.session_id = session_id && entry.phase = .Active

namespace RegisteredControlSession

/-- A handle for a registration that is already active would be a second owner of it. -/
def admit_ : Action interface SessionAdmissionError Unit := do
  let answer ← .perform (ι := interface) .activate_registration
  match answer with
  | .ok .New | .ok .Recovered => pure ()
  | .ok .AlreadyActive => .fail (.Registry .DuplicateActiveSession)
  | .error error => .fail error

/-- The socket is closed before the registry slot is released. -/
def close_and_retire : SessionAction Unit := do
  close_owned_socket
  .perform (ι := interface) .remove_if_current

def refuse : SessionAction Unit := do
  close_and_retire
  .fail (.Ingress .Terminal)

def ensure_current_registration : SessionAction Unit := do
  let active ← .perform (ι := interface) .registration_is_active
  if active then pure () else refuse

def ensure_active_registration : SessionAction Unit := do
  ensure_current_registration
  let terminal ← .perform (ι := interface) .is_terminal
  if terminal then refuse else pure ()

/-- An operation of the session between two checks of the registration. Results that end the session
release the slot instead of the second check. -/
def guarded {α : Type} (operation : SessionAction α) (ends : α → Bool) (recheck : SessionAction Unit) :
    SessionAction α := do
  ensure_active_registration
  let result ← operation.attempt
  match result with
  | .error error => do
    close_and_retire
    .fail error
  | .ok value =>
    if ends value then do
      close_and_retire
      pure value
    else do
      recheck
      pure value

def receive_next_with_budget_at (now_ms max_wait : Nat) : SessionAction ControlSessionRead :=
  guarded (ActiveControlSession.receive_next_with_budget_at now_ms max_wait) (· = .Closed) ensure_active_registration

def send_heartbeat_until (deadline : Nat) : SessionAction Unit :=
  guarded (ActiveControlSession.send_heartbeat_until deadline) (fun _ => false) ensure_active_registration

/-- After a goodbye only the registry is checked, not the terminal flag of the stream. -/
def send_goodbye_until (deadline : Nat) : SessionAction Unit :=
  guarded (ActiveControlSession.send_goodbye_until deadline) (fun _ => false) ensure_current_registration

def revalidate_approval : SessionAction Unit :=
  guarded ActiveControlSession.revalidate_approval (fun _ => false) ensure_active_registration

def cancel : SessionAction Unit := close_and_retire

def cancel_if_current (session_id expected_session_id : SessionId) : SessionAction Bool :=
  if session_id ≠ expected_session_id then pure false
  else do
    close_and_retire
    pure true

def callback_matches (current expected : Connection) : Bool :=
  current.key = expected.key && current.session_id = expected.session_id

def cancel_if_current_for_peer (current expected : Connection) : SessionAction Bool :=
  if callback_matches current expected = false then pure false
  else cancel_if_current current.session_id expected.session_id

def drop : SessionAction Unit := close_and_retire

end RegisteredControlSession

open RegisteredControlSession

/-- A connection that has not been given to `admit`, the owner that `admit` has made of it, and one
that was dropped. -/
inductive OwnerPhase where
  | Fresh
  | Owned
  | Gone
deriving DecidableEq

/-- What belongs to one connection. The socket is closed exactly when the session is terminal. -/
structure Owner where
  phase : OwnerPhase
  terminal : Bool
deriving DecidableEq

/-- An owner that can still use its socket. -/
def Owner.Open (owner : Owner) : Prop := owner.phase = .Owned ∧ owner.terminal = false

inductive Operation where
  | admit_
  | receive (now_ms max_wait : Nat)
  | heartbeat (deadline : Nat)
  | goodbye (deadline : Nat)
  | revalidate
  | cancel
  | cancel_if_current (expected : SessionId)
  | cancel_if_current_for_peer (expected : Connection)
  | drop

inductive Outcome where
  | admitted (result : Except SessionAdmissionError Unit)
  | received (result : Except ControlSessionError ControlSessionRead)
  | sent (result : Except ControlSessionError Unit)
  | cancelled (result : Except ControlSessionError Bool)

def Operation.program (connection : Connection) : Operation → Prog interface Outcome
  | admit_ => .bind RegisteredControlSession.admit_ fun result => .ret (.admitted result)
  | receive now_ms max_wait =>
    .bind (receive_next_with_budget_at now_ms max_wait) fun result => .ret (.received result)
  | heartbeat deadline => .bind (send_heartbeat_until deadline) fun result => .ret (.sent result)
  | goodbye deadline => .bind (send_goodbye_until deadline) fun result => .ret (.sent result)
  | revalidate => .bind revalidate_approval fun result => .ret (.sent result)
  | cancel => .bind RegisteredControlSession.cancel fun result => .ret (.sent result)
  | cancel_if_current expected =>
    .bind (RegisteredControlSession.cancel_if_current connection.session_id expected) fun result =>
      .ret (.cancelled result)
  | cancel_if_current_for_peer expected =>
    .bind (RegisteredControlSession.cancel_if_current_for_peer connection expected) fun result =>
      .ret (.cancelled result)
  | drop => .bind RegisteredControlSession.drop fun result => .ret (.sent result)

/-- How the registry, the session and its socket answer. Approvals, reads, writes and the clock answer
anything. -/
def world (connection : Connection) (before : Owner × SharedRegistry) :
    (request : Request) → request.Answer → Owner × SharedRegistry → Prop
  | .activate_registration, answer, after =>
    if before.2.poisoned then answer = .error .LockPoisoned ∧ after = before
    else
      let activation := before.2.registry.activate_after_authentication connection.key connection.session_id
      answer = activation.1.mapError .Registry ∧
        after = ({ before.1 with
          phase := if answer = .ok .New ∨ answer = .ok .Recovered then .Owned else before.1.phase },
          { before.2 with registry := activation.2 })
  | .registration_is_active, answer, after =>
    answer = (!before.2.poisoned &&
      registration_is_active before.2.registry connection.key connection.session_id) ∧ after = before
  | .remove_if_current, _, after =>
    after = (before.1,
      { before.2 with registry := (before.2.registry.remove_if_current connection.key connection.session_id).2 })
  | .is_terminal, answer, after => answer = before.1.terminal ∧ after = before
  | .close, _, after => after = ({ before.1 with terminal := true }, before.2)
  | _, _, after => after = before

/-- A connection is admitted once, and what `admit` refuses or its owner drops is gone with its socket. -/
def tasks {κ : Type} (connection : κ → Connection) : Tasks κ interface Owner SharedRegistry Operation Outcome :=
  { world := fun k => world (connection k)
    program := fun k operation => operation.program (connection k)
    may_start := fun owner operation =>
      match operation with
      | .admit_ => owner.phase = .Fresh
      | _ => owner.phase = .Owned
    finish := fun owner operation outcome =>
      match operation, outcome with
      | .admit_, .admitted (.error _) => { phase := .Gone, terminal := true }
      | .drop, _ => { owner with phase := .Gone }
      | _, _ => owner
    -- a thread that panics while it holds the lock poisons it
    drift := fun before after => after.registry = before.registry ∧ after.poisoned = true }

end blueroute_daemon.registered_transport
