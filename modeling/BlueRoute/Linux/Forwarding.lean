import BlueRoute.Base.Files
import BlueRoute.Linux.Pan.Lifecycle

namespace blueroute_linux.forwarding

open blueroute Interact Files

def LEASE_SCHEMA : String := "1"

structure ForwardingLease where
  baseline : Bool
deriving DecidableEq

namespace ForwardingLease

def serialize (self : ForwardingLease) : String :=
  "schema=" ++ LEASE_SCHEMA ++ "\nbaseline=" ++ (if self.baseline then "1" else "0") ++ "\n"

def parse (contents : String) : Result ForwardingLease :=
  let lines := Text.lines contents
  if lines[0]? ≠ some "schema=1" ∨ lines[2]? ≠ none then
    .error (.with_diagnostic .InvalidState
      "BlueRoute IPv4 forwarding lease is malformed or uses an unsupported schema" contents)
  else if lines[1]? = some "baseline=0" then .ok { baseline := false }
  else if lines[1]? = some "baseline=1" then .ok { baseline := true }
  else
    .error (.with_diagnostic .InvalidState "BlueRoute IPv4 forwarding lease has an invalid baseline value" contents)

end ForwardingLease

/-- The kernel control is read and written as a whole; the lease is a file. -/
inductive Request where
  | read_sysctl
  | write_sysctl (enabled : Bool)
  | file (request : Files.Request String Char)

def Request.Answer : Request → Type
  | read_sysctl => Except Failure String
  | write_sysctl _ => Except Failure Unit
  | file request => request.Answer

abbrev interface : Interface := { Request, Answer := Request.Answer }

abbrev ForwardingAction (α : Type) := Action interface CoreError α

/-- A file operation whose failure is looked at. -/
def file (request : Files.Request String Char) : ForwardingAction request.Answer :=
  .perform (ι := interface) (.file request)

def io_error (message path : String) (failure : Failure) : CoreError :=
  .with_diagnostic .NetworkBackendUnavailable message ("path=" ++ path ++ " error=" ++ failure.to_string)

/-- An answer whose failure ends the call. -/
def checked {α : Type} (message path : String) (answer : Except Failure α) : ForwardingAction α :=
  .lift (answer.mapError (io_error message path))

def diagnostic (error : CoreError) : String := error.diagnostic.getD error.message

def combined_rollback_error (primary cleanup : CoreError) : CoreError :=
  .with_diagnostic .NetworkBackendUnavailable
    "IPv4 forwarding operation failed and BlueRoute could not roll back its forwarding lease"
    ("primary-error=" ++ diagnostic primary ++ "; lease-cleanup-error=" ++ diagnostic cleanup)

/-- The value of the control, if its text is one of the two. -/
def parse_value (path text : String) : Result Bool :=
  let value := String.ofList (Text.trim net.is_whitespace text.toList)
  if value = "0" then .ok false
  else if value = "1" then .ok true
  else
    .error (.with_diagnostic .InvalidState "kernel IPv4 forwarding state is not 0 or 1"
      ("path=" ++ path ++ " value=" ++ pan.debug_string value))

def read_forwarding_value (path : String) : ForwardingAction Bool := do
  let answer ← .perform (ι := interface) .read_sysctl
  let text ← checked "failed to read kernel IPv4 forwarding state" path answer
  .lift (parse_value path text)

def write_forwarding_value (path : String) (enabled : Bool) : ForwardingAction Unit := do
  let answer ← .perform (ι := interface) (.write_sysctl enabled)
  checked
    (if enabled then "failed to enable kernel IPv4 forwarding" else "failed to restore kernel IPv4 forwarding state")
    path answer

/-- The mode is tightened to the owner's before the lease is read. -/
def secure_lease (path : String) (mode : Nat) : ForwardingAction Unit :=
  if mode &&& 0o077 = 0 then pure ()
  else do
    let answer ← file (.secure path)
    checked "failed to secure the BlueRoute IPv4 forwarding lease" path answer

/-- The lease at a path that was there when it was inspected. -/
def read_existing (path : String) (metadata : Metadata) : ForwardingAction (Option ForwardingLease) :=
  if metadata.is_file = false then
    .fail (.new .InvalidState "BlueRoute IPv4 forwarding lease is not a regular file")
  else do
    secure_lease path metadata.mode
    match ← file (.read path) with
    | .error .NotFound => pure none
    | .error failure => .fail (io_error "failed to read the BlueRoute IPv4 forwarding lease" path failure)
    | .ok contents => .lift ((ForwardingLease.parse (String.ofList contents)).map some)

def read_lease (path : String) : ForwardingAction (Option ForwardingLease) := do
  match ← file (.inspect path) with
  | .error .NotFound => pure none
  | .error failure => .fail (io_error "failed to inspect the BlueRoute IPv4 forwarding lease" path failure)
  | .ok metadata => read_existing path metadata

def remove_lease (path : String) : ForwardingAction Unit := do
  match ← file (.remove path) with
  | .ok () | .error .NotFound => pure ()
  | .error failure => .fail (io_error "failed to remove the BlueRoute IPv4 forwarding lease" path failure)

/-- The error of a call that tried to undo what it had done to the lease. -/
def after_cleanup {α : Type} (path : String) (error : CoreError) : ForwardingAction α := do
  match ← .attempt (remove_lease path) with
  | .error cleanup_error => .fail (combined_rollback_error error cleanup_error)
  | .ok () => .fail error

structure ForwardingController where
  sysctl_path : String
  lease_path : String
  /-- The directory of the lease path. -/
  lease_parent : Option String

namespace ForwardingController

variable (self : ForwardingController)

/-- Write and synchronize a lease that was just created. -/
def fill_lease (handle : Nat) (lease : ForwardingLease) : ForwardingAction Unit := do
  let text := lease.serialize.toList
  let written ← .attempt (ι := interface) (ε := Failure)
    (write_all (fun data => .ask (.file (.write handle data)) .ret) text.length text)
  checked "failed to write the BlueRoute IPv4 forwarding lease" self.lease_path written
  let synchronized ← file (.sync handle)
  checked "failed to synchronize the BlueRoute IPv4 forwarding lease" self.lease_path synchronized

/-- Ensure a runtime lease exists and return whether this call created it. -/
def create_lease (baseline : Bool) : ForwardingAction Bool :=
  match self.lease_parent with
  | none => .fail (.new .Internal "BlueRoute IPv4 forwarding lease path has no parent directory")
  | some parent => do
    let made ← file (.make_parent self.lease_path)
    checked "failed to create the BlueRoute runtime directory for IPv4 forwarding" parent made
    match ← file (.create_new self.lease_path) with
    | .ok handle =>
      match ← .attempt (self.fill_lease handle { baseline }) with
      | .error write_error => after_cleanup self.lease_path write_error
      | .ok () => pure true
    | .error .AlreadyExists =>
      match ← read_lease self.lease_path with
      | none =>
        .fail (.new .InvalidState "BlueRoute IPv4 forwarding lease disappeared during concurrent creation")
      | some _ => pure false
    | .error failure =>
      .fail (io_error "failed to create the BlueRoute IPv4 forwarding lease" self.lease_path failure)

/-- The error of an enable that did not take effect, without a lease that it created. -/
def undo_enable (created : Bool) (error : CoreError) : ForwardingAction Unit :=
  if created then after_cleanup self.lease_path error else .fail error

/-- The control is read again instead of trusting a successful write. -/
def confirm_enabled (created : Bool) : ForwardingAction Unit := do
  if ← read_forwarding_value self.sysctl_path then pure ()
  else do
    if created then remove_lease self.lease_path
    .fail (.new .NetworkBackendUnavailable
      "kernel IPv4 forwarding did not become enabled after the requested write")

/-- Under a lease the control is turned on, unless it was on before. -/
def turn_on (current created : Bool) : ForwardingAction Unit :=
  if current then pure ()
  else do
    match ← .attempt (write_forwarding_value self.sysctl_path true) with
    | .error write_error => self.undo_enable created write_error
    | .ok () => self.confirm_enabled created

def enable : ForwardingAction Unit := do
  let current ← read_forwarding_value self.sysctl_path
  match ← read_lease self.lease_path with
  | some _ => self.turn_on current false
  | none => do
    let created ← self.create_lease current
    self.turn_on current created

/-- Forwarding that the lease did not find enabled is disabled again. -/
def restore (lease : ForwardingLease) (current : Bool) : ForwardingAction Unit :=
  if current = true ∧ lease.baseline = false then do
    write_forwarding_value self.sysctl_path false
    if ← read_forwarding_value self.sysctl_path then
      .fail (.new .NetworkBackendUnavailable
        "kernel IPv4 forwarding remained enabled while releasing the BlueRoute forwarding lease")
    else pure ()
  else pure ()

def release : ForwardingAction Unit := do
  match ← read_lease self.lease_path with
  | none => pure ()
  | some lease =>
    let current ← read_forwarding_value self.sysctl_path
    self.restore lease current
    remove_lease self.lease_path

end ForwardingController

end blueroute_linux.forwarding
