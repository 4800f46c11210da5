import BlueRoute.Core.NapAdmission.Scope
import BlueRoute.Daemon.ControlSession

namespace blueroute_daemon.nap_control_admission

open blueroute blueroute_protocol.session control_tls

/-- A NAP reservation bound to the exact TLS exporter session generation. -/
structure AuthenticatedNapTicket where
  ticket : NetworkNapTicket
  session_id : SessionId
deriving DecidableEq

/-- Owns one capacity reservation. The admission that it borrows is an argument
of everything that is done with it. -/
structure AuthenticatedNapLease where
  ticket : AuthenticatedNapTicket
  release_on_drop : Bool
deriving DecidableEq

/-- The registered session as its owner sees it. What its operations answer is
an argument of the functions that call them. -/
structure RegisteredControlSession where
  key : PeerSessionKey
  session_id : SessionId
  terminal : Bool
deriving DecidableEq

def RegisteredControlSession.cancel (self : RegisteredControlSession) : RegisteredControlSession :=
  { self with terminal := true }

def RegisteredControlSession.cancel_if_current (self : RegisteredControlSession) (expected_session_id : SessionId) :
    Bool × RegisteredControlSession :=
  if self.session_id ≠ expected_session_id then (false, self)
  else (true, self.cancel)

def same_session (network : NetworkId) (peer : NodeId) (session_id : SessionId) (ticket : AuthenticatedNapTicket) :
    Bool :=
  network = ticket.ticket.network && peer = ticket.ticket.inner.candidate && session_id = ticket.session_id

/-- The argument is what `revalidate_approval` answers, with the text of its error. -/
def recheck (revalidated : Except String Unit) : Result Unit :=
  revalidated.mapError fun error =>
    .with_diagnostic .AuthenticationFailed
      "NAP admission requires a currently approved authenticated control session" error

def reserve_authenticated_nap (session : RegisteredControlSession) (admission : NetworkNapAdmission)
    (revalidated : Except String Unit) :
    Result (AuthenticatedNapTicket × NapAdmissionDecision) × NetworkNapAdmission :=
  if session.key.network ≠ admission.network then
    (.error (.new .InvalidState "authenticated control session belongs to a different NAP network"), admission)
  else
    match recheck revalidated with
    | .error error => (.error error, admission)
    | .ok () =>
      let reserved := admission.reserve session.key.peer
      (reserved.1.map fun (ticket, decision) => ({ ticket, session_id := session.session_id }, decision), reserved.2)

def reserve_authenticated_nap_lease (session : RegisteredControlSession) (admission : NetworkNapAdmission)
    (revalidated : Except String Unit) :
    Result (AuthenticatedNapLease × NapAdmissionDecision) × NetworkNapAdmission :=
  let reserved := reserve_authenticated_nap session admission revalidated
  (reserved.1.map fun (ticket, decision) => ({ ticket, release_on_drop := true }, decision), reserved.2)

/-- A replacement session cannot activate a predecessor's reservation. -/
def activate_authenticated_nap (session : RegisteredControlSession) (admission : NetworkNapAdmission)
    (ticket : AuthenticatedNapTicket) (revalidated : Except String Unit) : Result Bool × NetworkNapAdmission :=
  if same_session session.key.network session.key.peer session.session_id ticket = false then
    (.error (.new .AuthenticationFailed "NAP reservation belongs to a different authenticated session"), admission)
  else
    match recheck revalidated with
    | .error error => (.error error, admission)
    | .ok () => admission.activate ticket.ticket

def retire_authenticated_nap (admission : NetworkNapAdmission) (ticket : AuthenticatedNapTicket) :
    Result Bool × NetworkNapAdmission :=
  admission.retire ticket.ticket

namespace AuthenticatedNapLease

def retain_capacity_on_drop (self : AuthenticatedNapLease) : AuthenticatedNapLease :=
  { self with release_on_drop := false }

def retire (self : AuthenticatedNapLease) (admission : NetworkNapAdmission) : Result Bool × NetworkNapAdmission :=
  retire_authenticated_nap admission self.ticket

def drop (self : AuthenticatedNapLease) (admission : NetworkNapAdmission) : NetworkNapAdmission :=
  if self.release_on_drop then (self.retire admission).2 else admission

end AuthenticatedNapLease

/-- `lease.take()` with its result dropped, as is a lease that goes out of scope. -/
def drop_lease (lease : Option AuthenticatedNapLease) (admission : NetworkNapAdmission) : NetworkNapAdmission :=
  lease.elim admission (·.drop admission)

def release_pending_on_transport_loss (lease : Option AuthenticatedNapLease) (attached : Bool)
    (admission : NetworkNapAdmission) : Option AuthenticatedNapLease × NetworkNapAdmission :=
  if attached then (lease, admission) else (none, drop_lease lease admission)

def preserve_attached_capacity_on_owner_drop (lease : Option AuthenticatedNapLease) (attached : Bool) :
    Option AuthenticatedNapLease :=
  if attached then lease.map (·.retain_capacity_on_drop) else lease

/-- An authenticated TLS session and its matching NAP reservation as one lifecycle unit. -/
structure RegisteredNapControlOwner where
  session : RegisteredControlSession
  lease : Option AuthenticatedNapLease
  attached : Bool
deriving DecidableEq

namespace RegisteredNapControlOwner

variable (self : RegisteredNapControlOwner)

def retire_observed_detach_if_current (admission : NetworkNapAdmission) (expected_network : NetworkId)
    (expected_peer : NodeId) (expected_session_id : SessionId) :
    Bool × RegisteredNapControlOwner × NetworkNapAdmission :=
  if self.attached = false || self.session.session_id ≠ expected_session_id ||
      self.lease.any (same_session expected_network expected_peer expected_session_id ·.ticket) = false then
    (false, self, admission)
  else (true, { self with attached := false, lease := none }, drop_lease self.lease admission)

def reserve (session : RegisteredControlSession) (admission : NetworkNapAdmission) (revalidated : Except String Unit) :
    Result (RegisteredNapControlOwner × NapAdmissionDecision) × NetworkNapAdmission :=
  let reserved := reserve_authenticated_nap_lease session admission revalidated
  (reserved.1.map fun (lease, decision) => ({ session, lease := some lease, attached := false }, decision), reserved.2)

/-- A closed or failed TLS stream releases only an unactivated reservation. -/
def on_transport_loss (admission : NetworkNapAdmission) : RegisteredNapControlOwner × NetworkNapAdmission :=
  let released := release_pending_on_transport_loss self.lease self.attached admission
  ({ self with session := self.session.cancel, lease := released.1 }, released.2)

def activate_after_observed_attachment (admission : NetworkNapAdmission) (revalidated : Except String Unit) :
    Result Unit × RegisteredNapControlOwner × NetworkNapAdmission :=
  match self.lease with
  | none => (.error (.new .InvalidState "NAP reservation was already retired"), self, admission)
  | some lease =>
    -- the caller has observed the PANU, so its radio slot stays taken even if what follows fails
    let attached : RegisteredNapControlOwner := { self with attached := true }
    let activated := activate_authenticated_nap self.session admission lease.ticket revalidated
    match activated.1 with
    | .ok true => (.ok (), attached, activated.2)
    | .ok false =>
      (.error (.new .InvalidState "NAP reservation was replaced or retired before attachment"),
        attached.on_transport_loss activated.2)
    | .error error => (.error error, attached.on_transport_loss activated.2)

def confirm_observed_detach_if_current (admission : NetworkNapAdmission) (expected_network : NetworkId)
    (expected_peer : NodeId) (expected_session_id : SessionId) :
    Bool × RegisteredNapControlOwner × NetworkNapAdmission :=
  if self.attached = false || self.session.key.network ≠ expected_network || self.session.key.peer ≠ expected_peer ||
      self.lease.all (same_session expected_network expected_peer expected_session_id ·.ticket = false) then
    (false, self, admission)
  else
    let (cancelled, session) := self.session.cancel_if_current expected_session_id
    if cancelled = false then (false, self, admission)
    else
      retire_observed_detach_if_current { self with session } admission expected_network expected_peer
        expected_session_id

/-- A stale TLS callback cannot close a replacement or free its slot. -/
def cancel_if_current (self : RegisteredNapControlOwner) (admission : NetworkNapAdmission)
    (expected_session_id : SessionId) : Bool × RegisteredNapControlOwner × NetworkNapAdmission :=
  let (cancelled, session) := self.session.cancel_if_current expected_session_id
  if cancelled = false then (false, self, admission)
  else
    let released := release_pending_on_transport_loss self.lease self.attached admission
    (true, { self with session, lease := released.1 }, released.2)

/-- What the owner does once an operation of its session has answered. -/
def after_operation (admission : NetworkNapAdmission) (lost : Bool) :
    RegisteredNapControlOwner × NetworkNapAdmission :=
  if lost then self.on_transport_loss admission else (self, admission)

def receive_next_at (admission : NetworkNapAdmission) (result : Except ControlSessionError ControlSessionRead) :
    RegisteredNapControlOwner × NetworkNapAdmission :=
  self.after_operation admission (result.toOption.all (· = .Closed))

def revalidate_approval (admission : NetworkNapAdmission) (result : Except ControlSessionError Unit) :
    RegisteredNapControlOwner × NetworkNapAdmission :=
  self.after_operation admission result.toOption.isNone

def send_heartbeat_until (admission : NetworkNapAdmission) (result : Except ControlSessionError Unit) :
    RegisteredNapControlOwner × NetworkNapAdmission :=
  self.after_operation admission result.toOption.isNone

/-- A goodbye ends the transport whatever it answers. -/
def send_goodbye_until (admission : NetworkNapAdmission) : RegisteredNapControlOwner × NetworkNapAdmission :=
  self.on_transport_loss admission

/-- The drop of the session changes no admission. -/
def drop (admission : NetworkNapAdmission) : NetworkNapAdmission :=
  drop_lease (preserve_attached_capacity_on_owner_drop self.lease self.attached) admission

end RegisteredNapControlOwner

/-- A call on an owner, with what the operation of its session answers. -/
inductive Call where
  | Activate (revalidated : Except String Unit)
  | Receive (result : Except ControlSessionError ControlSessionRead)
  | Heartbeat (result : Except ControlSessionError Unit)
  | Goodbye (result : Except ControlSessionError Unit)
  | Revalidate (result : Except ControlSessionError Unit)
  | TransportLoss
  | Cancel (expected_session_id : SessionId)
  | Detach (expected_network : NetworkId) (expected_peer : NodeId) (expected_session_id : SessionId)
  | Drop

inductive Reply where
  | done
  | activated (answer : Result Unit)
  | received (answer : Except ControlSessionError ControlSessionRead)
  | sent (answer : Except ControlSessionError Unit)
  | flag (answer : Bool)

/-- A dropped owner is `none`. -/
def Call.run (owner : RegisteredNapControlOwner) (admission : NetworkNapAdmission) :
    Call → Reply × Option RegisteredNapControlOwner × NetworkNapAdmission
  | Activate revalidated =>
    let after := owner.activate_after_observed_attachment admission revalidated
    (.activated after.1, some after.2.1, after.2.2)
  | Receive result =>
    let after := owner.receive_next_at admission result
    (.received result, some after.1, after.2)
  | Heartbeat result =>
    let after := owner.send_heartbeat_until admission result
    (.sent result, some after.1, after.2)
  | Goodbye result =>
    let after := owner.send_goodbye_until admission
    (.sent result, some after.1, after.2)
  | Revalidate result =>
    let after := owner.revalidate_approval admission result
    (.sent result, some after.1, after.2)
  | TransportLoss =>
    let after := owner.on_transport_loss admission
    (.done, some after.1, after.2)
  | Cancel expected_session_id =>
    let after := owner.cancel_if_current admission expected_session_id
    (.flag after.1, some after.2.1, after.2.2)
  | Detach expected_network expected_peer expected_session_id =>
    let after := owner.confirm_observed_detach_if_current admission expected_network expected_peer expected_session_id
    (.flag after.1, some after.2.1, after.2.2)
  | Drop => (.done, none, owner.drop admission)

/-- An owner and the position of the admission that its lease borrows. -/
structure Owned where
  nap : Nat
  owner : RegisteredNapControlOwner
deriving DecidableEq

/-- The admissions, and every owner made so far in the order of the reservations. -/
structure System where
  admissions : nap_admission_scope.World
  owners : List (Option Owned)
deriving DecidableEq

def System.new : System := { admissions := [], owners := [] }

inductive Event where
  | Admission (event : nap_admission_scope.Event)
  | Reserve (owner nap : Nat) (session : RegisteredControlSession) (revalidated : Except String Unit)
      (answer : Result (RegisteredNapControlOwner × NapAdmissionDecision))
  | Call (owner : Nat) (call : Call) (reply : Reply)

/-- A call uses the lock of one admission at most once, so calls of several owners take effect one
after the other. Any ticket may be presented to any admission besides. -/
def Step (state : System) : Event → System → Prop
  | .Admission event, next =>
    nap_admission_scope.Step state.admissions event next.admissions ∧ next.owners = state.owners
  | .Reserve owner nap session revalidated answer, next =>
    ∃ admission, state.admissions[nap]? = some admission ∧ owner = state.owners.length ∧
      answer = (RegisteredNapControlOwner.reserve session admission revalidated).1 ∧
      next.admissions = state.admissions.set nap (RegisteredNapControlOwner.reserve session admission revalidated).2 ∧
      next.owners = state.owners ++ (answer.toOption.map fun made => some { nap, owner := made.1 }).toList
  | .Call owner call reply, next =>
    ∃ owned admission, state.owners[owner]? = some (some owned) ∧ state.admissions[owned.nap]? = some admission ∧
      reply = (call.run owned.owner admission).1 ∧
      next.admissions = state.admissions.set owned.nap (call.run owned.owner admission).2.2 ∧
      next.owners = state.owners.set owner
        ((call.run owned.owner admission).2.1.map fun kept => { owned with owner := kept })

end blueroute_daemon.nap_control_admission
