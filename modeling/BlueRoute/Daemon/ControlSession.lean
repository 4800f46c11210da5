import BlueRoute.Base.Interact
import BlueRoute.Protocol.Session
import BlueRoute.Protocol.SessionStream

namespace blueroute_protocol.session_activity

inductive InboundActivityError where
  | NotActive
  | Deadline (error : session.DeadlineError)
  | Scope (error : session_stream.SessionStreamError)
  | Terminal
deriving DecidableEq

end blueroute_protocol.session_activity

namespace blueroute_daemon.pinned_ingress

inductive PinnedIngressError where
  | Authorization (error : blueroute.CoreError)
  | Protocol (error : blueroute_protocol.session_activity.InboundActivityError)
  | Terminal
deriving DecidableEq

end blueroute_daemon.pinned_ingress

namespace blueroute_daemon.control_tls

open blueroute blueroute_protocol.control blueroute_protocol.session pinned_ingress Interact

inductive IoErrorKind where
  | TimedOut
  | WouldBlock
  | Other
deriving DecidableEq

structure IoError where
  kind : IoErrorKind
  message : String
deriving DecidableEq

inductive ControlSessionRead where
  | Frames (frames : List ControlEnvelope)
  | Idle
  | Closed
deriving DecidableEq

inductive ControlSessionError where
  | Ingress (error : PinnedIngressError)
  | Transport (error : IoError)
  | IdleDeadlineExpired
  | OutboundFailure
deriving DecidableEq

inductive SessionAdmissionError where
  | Registry (error : SessionRegistryError)
  | LockPoisoned
deriving DecidableEq

/-- What a session and its owner ask of the machine: the session's own terminal flag and socket, its
ingress with the durable approval behind it, the clock, and the registry. Times are in nanoseconds
where the source has a duration or an instant. -/
inductive Request where
  | is_terminal
  | close
  | require_approved
  | expires_ms
  | check_before_read (now_ms : Nat)
  | receive_verified_plaintext (plaintext : List UInt8) (now_ms : Nat)
  | finish_at (now_ms : Nat)
  | now
  | set_read_timeout (timeout : Nat)
  | read
  | write_heartbeat (deadline : Nat)
  | write_goodbye (deadline : Nat)
  | send_close_notify (deadline : Nat)
  | activate_registration
  | registration_is_active
  | remove_if_current
deriving DecidableEq

/-- Writes answer whether they have succeeded, and a read at the end of the stream with no bytes. -/
abbrev Request.Answer : Request → Type
  | is_terminal => Bool
  | close => Unit
  | require_approved => Except CoreError Unit
  | expires_ms => Nat
  | check_before_read _ => Except PinnedIngressError Unit
  | receive_verified_plaintext .. => Except PinnedIngressError (List ControlEnvelope)
  | finish_at _ => Except PinnedIngressError Unit
  | now => Nat
  | set_read_timeout _ => Except IoError Unit
  | read => Except IoError (List UInt8)
  | write_heartbeat _ => Bool
  | write_goodbye _ => Bool
  | send_close_notify _ => Bool
  | activate_registration => Except SessionAdmissionError SessionRegistration
  | registration_is_active => Bool
  | remove_if_current => Unit

/-- The requests that use the socket. -/
def Request.is_io : Request → Bool
  | set_read_timeout _ | read | write_heartbeat _ | write_goodbye _ | send_close_notify _ => true
  | _ => false

/-- The requests that change neither the session nor the registry. -/
def Request.observes : Request → Bool
  | close | activate_registration | remove_if_current => false
  | _ => true

abbrev interface : Interface := { Request, Answer := Request.Answer }

abbrev SessionAction (α : Type) := Action interface ControlSessionError α

def u64_saturating_add (left right : Nat) : Nat := min (left + right) (2 ^ 64 - 1)

/-- The terminal flag is set and the socket closed. -/
def close_owned_socket : SessionAction Unit := .perform (ι := interface) .close

/-- The socket is closed on the way out with an error. -/
def close_with {α : Type} (error : ControlSessionError) : SessionAction α := do
  close_owned_socket
  .fail error

namespace ActiveControlSession

def authorize_outbound : SessionAction Unit := do
  let terminal ← .perform (ι := interface) .is_terminal
  if terminal then .fail (.Ingress .Terminal)
  else do
    let approved ← .perform (ι := interface) .require_approved
    match approved with
    | .error error => close_with (.Ingress (.Authorization error))
    | .ok () => pure ()

def revalidate_approval : SessionAction Unit := authorize_outbound

def send_heartbeat_until (deadline : Nat) : SessionAction Unit := do
  authorize_outbound
  let written ← .perform (ι := interface) (.write_heartbeat deadline)
  if written then pure () else close_with .OutboundFailure

/-- The goodbye, and then the close-notify of the TLS stream. The socket stays open for the peer's. -/
def send_goodbye_until (deadline : Nat) : SessionAction Unit := do
  authorize_outbound
  let written ← .perform (ι := interface) (.write_goodbye deadline)
  if written then do
    let notified ← .perform (ι := interface) (.send_close_notify deadline)
    if notified then pure () else close_with .OutboundFailure
  else close_with .OutboundFailure

def is_timeout : Except IoError (List UInt8) → Bool
  | .error error => error.kind = .TimedOut || error.kind = .WouldBlock
  | .ok _ => false

/-- What is made of a read that was not late. -/
def handle_read (read_result : Except IoError (List UInt8)) (observed_now_ms : Nat) :
    SessionAction ControlSessionRead :=
  match read_result with
  | .ok [] => do
    close_owned_socket
    let finished ← .perform (ι := interface) (.finish_at observed_now_ms)
    match finished with
    | .ok () => pure .Closed
    | .error error => .fail (.Ingress error)
  | .ok plaintext => do
    let received ← .perform (ι := interface) (.receive_verified_plaintext plaintext observed_now_ms)
    match received with
    | .ok frames => pure (.Frames frames)
    | .error error => close_with (.Ingress error)
  | .error error =>
    if is_timeout (.error error) then do
      let received ← .perform (ι := interface) (.receive_verified_plaintext [] observed_now_ms)
      match received with
      | .ok _ => pure .Idle
      | .error error => close_with (.Ingress error)
    else do
      close_owned_socket
      let _ ← .perform (ι := interface) (.finish_at observed_now_ms)
      .fail (.Transport error)

/-- A late read must not refresh the peer's liveness. -/
def expire (expires_ms : Nat) : SessionAction ControlSessionRead := do
  let _ ← .perform (ι := interface) (.receive_verified_plaintext [] expires_ms)
  close_with .IdleDeadlineExpired

/-- The bounded read of `receive_next_with_budget_at`. -/
def read_within (now_ms expires_ms idle_remaining timeout : Nat) : SessionAction ControlSessionRead := do
  let read_started ← .perform (ι := interface) .now
  let read_result ← .perform (ι := interface) .read
  let read_finished ← .perform (ι := interface) .now
  if read_started + timeout ≤ read_finished ∧ is_timeout read_result = false then expire expires_ms
  else if timeout = idle_remaining ∧ is_timeout read_result = true then expire expires_ms
  else
    let elapsed_ms := min ((read_finished - read_started) / 1000000) (2 ^ 64 - 1)
    let observed_now_ms :=
      if read_started + timeout ≤ read_finished ∧ timeout = idle_remaining then expires_ms
      else u64_saturating_add now_ms elapsed_ms
    handle_read read_result observed_now_ms

def receive_next_with_budget_at (now_ms max_wait : Nat) : SessionAction ControlSessionRead := do
  let terminal ← .perform (ι := interface) .is_terminal
  if terminal then .fail (.Ingress .Terminal)
  else do
    let expires_ms ← .perform (ι := interface) .expires_ms
    if now_ms ≥ expires_ms then do
      let result ← .perform (ι := interface) (.receive_verified_plaintext [] now_ms)
      close_with (match result with
        | .error error => .Ingress error
        | .ok _ => .IdleDeadlineExpired)
    else do
      let checked ← .perform (ι := interface) (.check_before_read now_ms)
      match checked with
      | .error error => close_with (.Ingress error)
      | .ok () =>
        let idle_remaining := (expires_ms - now_ms) * 1000000
        let timeout := min idle_remaining max_wait
        if timeout = 0 then close_with .IdleDeadlineExpired
        else do
          let set ← .perform (ι := interface) (.set_read_timeout timeout)
          match set with
          | .error error => close_with (.Transport error)
          | .ok () => read_within now_ms expires_ms idle_remaining timeout

end ActiveControlSession

end blueroute_daemon.control_tls
