import BlueRoute.Base.Runs
import BlueRoute.Linux.Pan.Lifecycle

namespace blueroute_linux.pan

open blueroute

/-- The answer to `Unregister`; a failure carries the error of the call and its rendering. -/
inductive UnregisterAnswer where
  | Unregistered
  | AlreadyAbsent (rendered : String)
  | Failed (error : CoreError) (rendered : String)
deriving DecidableEq

/-- How far a call of `start_nap` has come. -/
inductive StartPhase where
  | Called
  | Observed (registration : NapRegistration)
  | Registering (registration : NapRegistration)
  | Proxied (registration : NapRegistration)
  | Registered (registration : NapRegistration)
  | RollingBack (registration : NapRegistration) (error : CoreError)
  | Clearing (registration : NapRegistration) (error : CoreError)
  | Committed (registration : NapRegistration)
  | Completed (registration : NapRegistration) (attachment : PanAttachment)
  | Failed (error : CoreError)
deriving DecidableEq

/-- How far a call of `stop_nap` has come. -/
inductive StopPhase where
  | Called
  | Observed (owner : Option String)
  | Stopping (registration : NapRegistration)
  | Proxied (registration : NapRegistration)
  | Clearing (registration : NapRegistration)
  | Restoring (registration : NapRegistration) (error : CoreError)
  | Completed
  | Failed (error : CoreError)
deriving DecidableEq

inductive Call where
  | Start (adapter : AdapterHandle) (bridge : NetworkInterfaceHandle) (phase : StartPhase)
  | Stop (adapter : AdapterHandle) (phase : StopPhase)
deriving DecidableEq

def Call.adapter : Call → AdapterHandle
  | Start adapter _ _ => adapter
  | Stop adapter _ => adapter

/-- One step of a call: an asynchronous question with its answer, or a locked operation with
its outcome. -/
inductive Action where
  | observe_owner (answer : Result (Option String))
  | begin_registration (outcome : Result (Option NapRegistration))
  | begin_stop (outcome : Result (Option NapRegistration))
  | proxy (answer : Result Unit)
  | register (answer : Result Unit)
  | activate (registration : NapRegistration) (outcome : Result Unit)
  | unregister (answer : UnregisterAnswer)
  | clear
  | restore
  | finish (answer : Result Unit)

def rollback_error (error : CoreError) : UnregisterAnswer → CoreError
  | .Unregistered => error
  | .AlreadyAbsent rendered | .Failed _ rendered =>
    CoreError.with_diagnostic .Internal
      "registered the Bluetooth NAP but failed to record or fully roll back its ownership state"
      (s!"state error: {error.message}; D-Bus rollback: Err({rendered}); " ++
        "local-state rollback: Ok(())")

/-- One step of `start_nap`, with the BlueZ owner of the moment and the lifecycle entries. -/
def start_nap (owner : Option String) (control : NapControl) (adapter : AdapterHandle)
    (bridge : NetworkInterfaceHandle) : StartPhase → Action → Option (StartPhase × NapControl)
  -- `validate_nap_bridge`, `ensure_adapter_powered` and `current_bluez_owner`
  | .Called, .observe_owner (.error error) => some (.Failed error, control)
  | .Called, .observe_owner (.ok observed) =>
    if observed ≠ owner then none
    else match observed with
      | none => some (.Failed (CoreError.new .BluezUnavailable
          "BlueZ is not available on the system D-Bus"), control)
      | some bluez_owner => some (.Observed { bridge, bluez_owner }, control)
  | .Observed registration, .begin_registration outcome =>
    let (result, control) := begin_nap_registration control adapter registration
    if result ≠ outcome then none
    else match result with
      | .error error => some (.Failed error, control)
      | .ok (some existing) => some (.Committed existing, control)
      | .ok none => some (.Registering registration, control)
  | .Registering registration, .proxy (.ok _) => some (.Proxied registration, control)
  | .Registering registration, .proxy (.error error) => some (.Clearing registration error, control)
  | .Proxied registration, .register (.ok _) => some (.Registered registration, control)
  | .Proxied registration, .register (.error error) => some (.Clearing registration error, control)
  | .Registered registration, .activate requested outcome =>
    let (result, control) := activate_nap_registration control adapter registration
    if registration ≠ requested ∨ result ≠ outcome then none
    else match result with
      | .ok _ => some (.Committed registration, control)
      | .error error => some (.RollingBack registration error, control)
  | .RollingBack registration error, .unregister answer =>
    some (.Clearing registration (rollback_error error answer), control)
  | .Clearing _ error, .clear => some (.Failed error, clear_nap_registration control adapter)
  -- `nap_service_attachment`
  | .Committed registration, .finish (.ok _) =>
    some (.Completed registration { role := .Nap, interface := registration.bridge, peer := none }, control)
  | .Committed _, .finish (.error error) => some (.Failed error, control)
  | _, _ => none

/-- One step of `stop_nap`. -/
def stop_nap (owner : Option String) (control : NapControl) (adapter : AdapterHandle) :
    StopPhase → Action → Option (StopPhase × NapControl)
  | .Called, .observe_owner (.error error) => some (.Failed error, control)
  | .Called, .observe_owner (.ok observed) =>
    if observed ≠ owner then none else some (.Observed observed, control)
  | .Observed observed, .begin_stop outcome =>
    let (result, control) := begin_nap_stop control adapter observed
    if result ≠ outcome then none
    else match result with
      | .error error => some (.Failed error, control)
      | .ok none => some (.Completed, control)
      | .ok (some registration) => some (.Stopping registration, control)
  | .Stopping registration, .proxy (.ok _) => some (.Proxied registration, control)
  | .Stopping registration, .proxy (.error error) => some (.Restoring registration error, control)
  | .Proxied registration, .unregister .Unregistered => some (.Clearing registration, control)
  | .Proxied registration, .unregister (.AlreadyAbsent _) => some (.Clearing registration, control)
  | .Proxied registration, .unregister (.Failed error _) => some (.Restoring registration error, control)
  | .Clearing _, .clear => some (.Completed, clear_nap_registration control adapter)
  | .Restoring registration error, .restore =>
    some (.Failed error, restore_nap_registration control adapter registration)
  | _, _ => none

/-- One backend: the BlueZ owner of the moment, the lifecycle entries and the calls made so far. -/
structure System where
  owner : Option String
  control : NapControl
  calls : Nat → Option Call

inductive Event where
  | restart (owner : Option String)
  | invoke (id : Nat) (call : Call)
  | step (id : Nat) (adapter : AdapterHandle) (action : Action)

def Call.advance (owner : Option String) (control : NapControl) (action : Action) :
    Call → Option (Call × NapControl)
  | Start adapter bridge phase =>
    (start_nap owner control adapter bridge phase action).map (Prod.map (Start adapter bridge) id)
  | Stop adapter phase => (stop_nap owner control adapter phase action).map (Prod.map (Stop adapter) id)

def Call.is_fresh : Call → Bool
  | Start _ _ phase => phase = .Called
  | Stop _ phase => phase = .Called

namespace System

def init (owner : Option String) : System :=
  { owner, control := { states := fun _ => none }, calls := fun _ => none }

def set_call (s : System) (id : Nat) (call : Call) (control : NapControl) : System :=
  { s with control, calls := Function.update s.calls id (some call) }

def next (s : System) : Event → Option System
  | .restart owner => some { s with owner }
  | .invoke id call => if s.calls id = none ∧ call.is_fresh then some (s.set_call id call s.control) else none
  | .step id adapter action =>
    match s.calls id with
    | none => none
    | some call =>
      if call.adapter ≠ adapter then none
      else (call.advance s.owner s.control action).map fun (call, control) => s.set_call id call control

def Step (s : System) (event : Event) (t : System) : Prop := s.next event = some t

end System

end blueroute_linux.pan
