import BlueRoute.Linux.Interfaces

namespace blueroute_linux.pan

open blueroute

/-- A NAP on a bridge, registered with one instance of the BlueZ service. -/
structure NapRegistration where
  bridge : NetworkInterfaceHandle
  bluez_owner : String
deriving DecidableEq

inductive NapLifecycleState where
  | Registering (registration : NapRegistration)
  | Active (registration : NapRegistration)
  | Stopping (registration : NapRegistration)
deriving DecidableEq

def NapLifecycleState.registration : NapLifecycleState → NapRegistration
  | Registering registration => registration
  | Active registration => registration
  | Stopping registration => registration

/-- The lifecycle entries behind the lock, by adapter. -/
structure NapControl where
  states : AdapterHandle → Option NapLifecycleState

namespace NapControl

def insert (control : NapControl) (adapter : AdapterHandle) (state : NapLifecycleState) : NapControl :=
  { states := Function.update control.states adapter (some state) }

def remove (control : NapControl) (adapter : AdapterHandle) : NapControl :=
  { states := Function.update control.states adapter none }

end NapControl

/-- The quoting of `{:?}` for the characters that it escapes in an interface name. -/
def debug_string (value : String) : String :=
  "\"" ++ String.join (value.toList.map fun c =>
    if c = '"' then "\\\"" else if c = '\\' then "\\\\" else if c = '\n' then "\\n"
    else if c = '\r' then "\\r" else if c = '\t' then "\\t" else c.toString) ++ "\""

def operation_in_progress : CoreError :=
  .new .InvalidState "another Bluetooth NAP lifecycle operation is already in progress"

variable (control : NapControl) (adapter : AdapterHandle) (current_owner : Option String)

def begin_nap_registration (adapter : AdapterHandle) (requested : NapRegistration) :
    Result (Option NapRegistration) × NapControl :=
  match control.states adapter with
  | some (.Active existing) =>
    if existing.bluez_owner = requested.bluez_owner ∧ existing.bridge = requested.bridge then
      (.ok (some existing), control)
    else if existing.bluez_owner = requested.bluez_owner then
      (.error (.with_diagnostic .InvalidState
        "Bluetooth NAP is already active on a different bridge"
        ("active bridge " ++ debug_string existing.bridge.as_str ++
          "; requested bridge " ++ debug_string requested.bridge.as_str)), control)
    else (.ok none, control.insert adapter (.Registering requested))
  | some (.Registering existing) =>
    if existing.bluez_owner = requested.bluez_owner then (.error operation_in_progress, control)
    else (.ok none, control.insert adapter (.Registering requested))
  | some (.Stopping existing) =>
    if existing.bluez_owner = requested.bluez_owner then (.error operation_in_progress, control)
    else (.ok none, control.insert adapter (.Registering requested))
  | none => (.ok none, control.insert adapter (.Registering requested))

def activate_nap_registration (adapter : AdapterHandle) (registration : NapRegistration) : Result Unit × NapControl :=
  match control.states adapter with
  | some (.Registering current) =>
    if current = registration then (.ok (), control.insert adapter (.Active registration))
    else (.error (.new .Internal "Bluetooth NAP ownership state changed during registration"), control)
  | _ => (.error (.new .Internal "Bluetooth NAP ownership state changed during registration"), control)

def begin_nap_stop (adapter : AdapterHandle) (current_owner : Option String) :
    Result (Option NapRegistration) × NapControl :=
  match control.states adapter with
  | none => (.ok none, control)
  | some (.Active registration) =>
    if current_owner ≠ some registration.bluez_owner then (.ok none, control.remove adapter)
    else (.ok (some registration), control.insert adapter (.Stopping registration))
  | some _ => (.error operation_in_progress, control)

def restore_nap_registration (adapter : AdapterHandle) (registration : NapRegistration) : NapControl :=
  control.insert adapter (.Active registration)

def clear_nap_registration (adapter : AdapterHandle) : NapControl := control.remove adapter

/-- What the entry of an adapter is after a locked operation, and that no other entry changes. -/
def EntryBecomes (before after : NapControl) (adapter : AdapterHandle)
    (entry : Option NapLifecycleState) : Prop :=
  after.states = Function.update before.states adapter entry

theorem EntryBecomes.self {before after : NapControl} {adapter : AdapterHandle}
    {entry : Option NapLifecycleState} (h : EntryBecomes before after adapter entry) :
    after.states adapter = entry := by
  rw [h, Function.update_self]

theorem EntryBecomes.other {before after : NapControl} {adapter other : AdapterHandle}
    {entry : Option NapLifecycleState} (h : EntryBecomes before after adapter entry) (hne : other ≠ adapter) :
    after.states other = before.states other := by
  rw [h, Function.update_of_ne hne]

/-- The outcomes of the first locked step of a start. -/
inductive BeginsRegistration (control : NapControl) (adapter : AdapterHandle) (requested : NapRegistration) :
    Result (Option NapRegistration) → NapControl → Prop where
  | refused (error : CoreError) : BeginsRegistration control adapter requested (.error error) control
  | found (hentry : control.states adapter = some (.Active requested)) :
      BeginsRegistration control adapter requested (.ok (some requested)) control
  | inserted {after : NapControl}
      (hforeign : ∀ entry, control.states adapter = some entry →
        entry.registration.bluez_owner ≠ requested.bluez_owner)
      (hafter : EntryBecomes control after adapter (some (.Registering requested))) :
      BeginsRegistration control adapter requested (.ok none) after

theorem begin_nap_registration_spec (requested : NapRegistration) :
    BeginsRegistration control adapter requested (begin_nap_registration control adapter requested).1
      (begin_nap_registration control adapter requested).2 := by
  have hreplaced {entry : NapLifecycleState} (hentry : control.states adapter = some entry)
      (hother : entry.registration.bluez_owner ≠ requested.bluez_owner) :
      BeginsRegistration control adapter requested (.ok none)
        (control.insert adapter (.Registering requested)) := by
    refine .inserted (fun present hpresent => ?_) rfl
    obtain rfl := Option.some.inj (hentry.symm.trans hpresent)
    exact hother
  unfold begin_nap_registration
  split
  · next existing hentry =>
    split
    · next hsame =>
      obtain rfl : existing = requested := by
        cases existing
        cases requested
        simp_all
      exact .found hentry
    · split
      · exact .refused _
      · next hother => exact hreplaced hentry hother
  · next existing hentry =>
    split
    · exact .refused _
    · next hother => exact hreplaced hentry hother
  · next existing hentry =>
    split
    · exact .refused _
    · next hother => exact hreplaced hentry hother
  · next hentry => exact .inserted (fun entry hpresent => absurd (hentry.symm.trans hpresent) (by simp)) rfl

/-- The outcomes of the first locked step of a stop. -/
inductive BeginsStop (control : NapControl) (adapter : AdapterHandle) (current_owner : Option String) :
    Result (Option NapRegistration) → NapControl → Prop where
  | refused (error : CoreError) : BeginsStop control adapter current_owner (.error error) control
  | absent : BeginsStop control adapter current_owner (.ok none) control
  | discarded {after : NapControl} {stale : NapRegistration}
      (hentry : control.states adapter = some (.Active stale))
      (hforeign : current_owner ≠ some stale.bluez_owner)
      (hafter : EntryBecomes control after adapter none) :
      BeginsStop control adapter current_owner (.ok none) after
  | taken {after : NapControl} {registration : NapRegistration}
      (hentry : control.states adapter = some (.Active registration))
      (howner : current_owner = some registration.bluez_owner)
      (hafter : EntryBecomes control after adapter (some (.Stopping registration))) :
      BeginsStop control adapter current_owner (.ok (some registration)) after

theorem begin_nap_stop_spec :
    BeginsStop control adapter current_owner (begin_nap_stop control adapter current_owner).1
      (begin_nap_stop control adapter current_owner).2 := by
  unfold begin_nap_stop
  split
  · exact .absent
  · next registration hentry =>
    split
    · next hforeign => exact .discarded hentry hforeign rfl
    · next howner => exact .taken hentry (not_not.mp howner) rfl
  · exact .refused _

/-- The outcomes of the second locked step of a start. -/
inductive Activates (control : NapControl) (adapter : AdapterHandle) (registration : NapRegistration) :
    Result Unit → NapControl → Prop where
  | refused (error : CoreError) : Activates control adapter registration (.error error) control
  | activated {after : NapControl} (hentry : control.states adapter = some (.Registering registration))
      (hafter : EntryBecomes control after adapter (some (.Active registration))) :
      Activates control adapter registration (.ok ()) after

theorem activate_nap_registration_spec (registration : NapRegistration) :
    Activates control adapter registration (activate_nap_registration control adapter registration).1
      (activate_nap_registration control adapter registration).2 := by
  unfold activate_nap_registration
  split
  · next current hentry =>
    split
    · next hsame =>
      subst hsame
      exact .activated hentry rfl
    · exact .refused _
  · exact .refused _

end blueroute_linux.pan
