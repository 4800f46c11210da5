import BlueRoute.Base.Ordered
import BlueRoute.Linux.Pan.Lifecycle

namespace blueroute_linux.pan

open blueroute net Fallible

def NETWORK_INTERFACE : String := "org.bluez.Network1"

def DEVICE_INTERFACE : String := "org.bluez.Device1"

def OBJECT_MANAGER_INTERFACE : String := "org.freedesktop.DBus.ObjectManager"

def PROPERTIES_INTERFACE : String := "org.freedesktop.DBus.Properties"

def INTERFACES_REMOVED : String := "InterfacesRemoved"

def PROPERTIES_CHANGED : String := "PropertiesChanged"

def CONNECTED_PROPERTY : String := "Connected"

def INTERFACE_PROPERTY : String := "Interface"

inductive PanuEvent where
  | Lost (attachment : PanAttachment)
deriving DecidableEq

/-- An error of the bus: the name that a method error has, and the text. -/
structure BusError where
  method_error : Option String
  text : String
deriving DecidableEq

def pan_error (kind : ErrorKind) (message : String) (error : BusError) : CoreError :=
  .with_diagnostic kind message error.text

def property_error (property : String) (error : BusError) : CoreError :=
  pan_error .ProtocolError ("failed to read Bluetooth PAN " ++ property ++ " state") error

def network_interface_is_absent (error : BusError) : Bool :=
  error.method_error.any fun name =>
    name = "org.bluez.Error.DoesNotExist" ∨ name = "org.freedesktop.DBus.Error.UnknownObject" ∨
      name = "org.freedesktop.DBus.Error.UnknownInterface"

/-- The answers that one look at the link of a peer asks for: the proxy, two properties, the address of
the adapter, and the kernel's interfaces with that address. -/
structure PanuReads where
  proxy : Except BusError Unit
  connected : Except BusError Bool
  interface : Except BusError String
  local_address : Result String
  kernel_interfaces : String → Result (Finset String)

def debug_list (values : List String) : String :=
  "[" ++ ", ".intercalate (values.map debug_string) ++ "]"

def select_panu_interface_name (reported : String) (current : Finset String) (previous : Option (Finset String)) :
    Result String :=
  let candidates := match previous with
    | some previous => Ordered.ascending (current \ previous)
    | none => Ordered.ascending current
  if reported ∈ current then .ok reported
  else match candidates with
    | [name] => .ok name
    | _ =>
      .error (.with_diagnostic .PanFailure
        "Bluetooth PAN interface was renamed but its current Linux name could not be resolved"
        ("BlueZ reported " ++ debug_string reported ++ "; matching kernel interfaces: " ++
          debug_list (Ordered.ascending current)))

def panu_attachment (peer : PeerHandle) (interface : String) : Result PanAttachment :=
  if is_blank interface then .error (.new .ProtocolError "BlueZ returned an empty PAN interface name")
  else do
    let interface ← Handle.new .NetworkInterfaceHandle interface
    pure { role := .Panu, interface, peer := some peer }

/-- The attachment of a link that BlueZ reports as connected. -/
def connected_attachment (reads : PanuReads) (peer : PeerHandle) : Result PanAttachment := do
  let interface ← reads.interface.mapError (property_error INTERFACE_PROPERTY)
  let local_address ← reads.local_address
  let current_interfaces ← reads.kernel_interfaces local_address
  let interface ← select_panu_interface_name interface current_interfaces none
  panu_attachment peer interface

def current_panu_attachment (reads : PanuReads) (peer : PeerHandle) : Result (Option PanAttachment) :=
  match reads.proxy with
  | .error error => .error (pan_error .PanFailure "failed to access the Bluetooth PAN network profile" error)
  | .ok () =>
    match reads.connected with
    | .error error =>
      if network_interface_is_absent error then .ok none else .error (property_error CONNECTED_PROPERTY error)
    | .ok false => .ok none
    | .ok true => (connected_attachment reads peer).map some

def observed_panu_is_same (expected : PanAttachment) (observed : Option PanAttachment) : Bool :=
  observed = some expected

def validate_panu_attachment (attachment : PanAttachment) : Result Unit := do
  reject_if (attachment.role ≠ .Panu) (.new .InvalidInput "PANU event subscription requires a PANU attachment")
  reject_if (attachment.peer = none) (.new .InvalidInput "PANU event subscription requires a peer")

/-- A signal, with what the decoding of its body as either of the two kinds gives. -/
structure Message where
  interface : Option String
  member : Option String
  path : Option String
  removed : Except BusError (String × List String)
  changed : Except BusError (String × List String × List String)

/-- The names of the changed properties, without their values, and the invalidated ones. -/
def properties_change_can_affect_panu_state (interface : String) (changed invalidated : List String) : Bool :=
  let properties :=
    if interface = NETWORK_INTERFACE then [CONNECTED_PROPERTY, INTERFACE_PROPERTY]
    else if interface = DEVICE_INTERFACE then [CONNECTED_PROPERTY]
    else []
  properties.any fun property => property ∈ changed || property ∈ invalidated

def panu_loss_trigger (message : Message) (peer : PeerHandle) : Result Bool :=
  if message.interface = some OBJECT_MANAGER_INTERFACE ∧ message.member = some INTERFACES_REMOVED then do
    let (path, interfaces) ← message.removed.mapError
      (pan_error .ProtocolError "failed to decode a Bluetooth PAN InterfacesRemoved signal")
    pure (path = peer.as_str && interfaces.any fun name => name = NETWORK_INTERFACE || name = DEVICE_INTERFACE)
  else if message.interface ≠ some PROPERTIES_INTERFACE ∨ message.member ≠ some PROPERTIES_CHANGED ∨
      message.path ≠ some peer.as_str then .ok false
  else do
    let (interface_name, changed, invalidated) ← message.changed.mapError
      (pan_error .ProtocolError "failed to decode a Bluetooth PAN PropertiesChanged signal")
    pure (properties_change_can_affect_panu_state interface_name changed invalidated)

/-- The stream is a part of the system around the subscription. A validated attachment has a peer. -/
structure BluezPanuSubscription where
  attachment : PanAttachment
  peer : PeerHandle
  pending_loss : Bool
  finished : Bool
  has_peer : attachment.peer = some peer
deriving DecidableEq

/-- How a call of `next_event` goes on. -/
inductive Next where
  | Returns (answer : Result (Option PanuEvent))
  | Waits
  | Rereads

namespace BluezPanuSubscription

/-- The subscription that follows from the snapshot. -/
def new (attachment : PanAttachment) (peer : PeerHandle) (has_peer : attachment.peer = some peer)
    (observed : Option PanAttachment) : BluezPanuSubscription :=
  { attachment, peer, pending_loss := !observed_panu_is_same attachment observed, finished := false, has_peer }

variable (self : BluezPanuSubscription)

def lost : Result (Option PanuEvent) := .ok (some (.Lost self.attachment))

/-- `next_event` up to its loop. -/
def begin_call : Next × BluezPanuSubscription :=
  if self.finished then (.Returns (.ok none), self)
  else if self.pending_loss then (.Returns self.lost, { self with pending_loss := false, finished := true })
  else (.Waits, self)

/-- `next_event` with the next item of its stream. -/
def on_item : Option (Except BusError Message) → Next
  | none => .Returns (.ok none)
  | some (.error error) =>
    .Returns (.error (pan_error .BluezUnavailable "failed while receiving Bluetooth PAN link changes" error))
  | some (.ok message) =>
    match panu_loss_trigger message self.peer with
    | .error error => .Returns (.error error)
    | .ok false => .Waits
    | .ok true => .Rereads

/-- `next_event` with the state that it has read again. A replacement attachment on the same peer is
not the link of the original session. -/
def on_reread : Result (Option PanAttachment) → Next × BluezPanuSubscription
  | .error error => (.Returns (.error error), self)
  | .ok observed =>
    if observed_panu_is_same self.attachment observed then (.Waits, self)
    else (.Returns self.lost, { self with finished := true })

/-- Where the owner of a subscription is: it has a stream and not yet a snapshot, it has no
subscription, or it has one, and is in a call of it or not. -/
inductive Phase where
  | Subscribing
  | Refused
  | Idle (subscription : BluezPanuSubscription)
  | Waiting (subscription : BluezPanuSubscription)
  | Rereading (subscription : BluezPanuSubscription)
deriving DecidableEq

/-- BlueZ and the owner of a subscription. -/
structure System where
  /-- The interface of the link to the peer, if there is a link. -/
  link : Option NetworkInterfaceHandle
  /-- The changes of the link that have no signal yet. -/
  unsignalled : Nat
  stream : List (Except BusError Message)
  phase : Phase

/-- What a look at the link shows. -/
def shown (peer : PeerHandle) (link : Option NetworkInterfaceHandle) : Option PanAttachment :=
  link.map fun interface => { role := .Panu, interface, peer := some peer }

/-- BlueZ changes the link or sends a signal, or the owner takes a step, with its answer when it returns. -/
inductive Event where
  | Change (link : Option NetworkInterfaceHandle)
  | Signal (item : Except BusError Message)
  | Snapshot (reads : PanuReads)
  | Call (answer : Option (Result (Option PanuEvent)))
  | Take (answer : Option (Result (Option PanuEvent)))
  | End (answer : Option (Result (Option PanuEvent)))
  | Reread (reads : PanuReads) (answer : Option (Result (Option PanuEvent)))

/-- The phase of a call that goes on like this, and its answer. -/
def Next.phase (subscription : BluezPanuSubscription) : Next → Phase
  | .Returns _ => .Idle subscription
  | .Waits => .Waiting subscription
  | .Rereads => .Rereading subscription

def Next.answer : Next → Option (Result (Option PanuEvent))
  | .Returns answer => some answer
  | _ => none

/-- A signal of BlueZ that the link to the peer changed: a property of its network profile did, or the profile is
gone. -/
inductive Announces (peer : PeerHandle) : Except BusError Message → Prop where
  | changed {message : Message} {property : String} {changed invalidated : List String}
    (hinterface : message.interface = some "org.freedesktop.DBus.Properties")
    (hmember : message.member = some "PropertiesChanged") (hpath : message.path = some peer.as_str)
    (hbody : message.changed = .ok ("org.bluez.Network1", changed, invalidated))
    (hproperty : property = "Connected" ∨ property = "Interface")
    (hnamed : property ∈ changed ∨ property ∈ invalidated) :
    Announces peer (.ok message)
  | removed {message : Message} {interfaces : List String}
    (hinterface : message.interface = some "org.freedesktop.DBus.ObjectManager")
    (hmember : message.member = some "InterfacesRemoved") (hbody : message.removed = .ok (peer.as_str, interfaces))
    (hnamed : "org.bluez.Network1" ∈ interfaces) : Announces peer (.ok message)

section Steps

variable (attachment : PanAttachment) (peer : PeerHandle) (has_peer : attachment.peer = some peer)

/-- What follows from the snapshot: a failure of it refuses the subscription. -/
def Phase.subscribed : Result (Option PanAttachment) → Phase
  | .error _ => .Refused
  | .ok observed => .Idle (new attachment peer has_peer observed)

/-- A stream of signals was just opened, for a validated attachment. -/
def System.subscribing (link : Option NetworkInterfaceHandle) : System :=
  { link, unsignalled := 0, stream := [], phase := .Subscribing }

/-- Every change of the link is followed by a signal that announces it; any other items come in between. What a
look at the link answers is not restricted here. -/
def Step (s : System) : Event → System → Prop
  | .Change link, t => t = { s with link, unsignalled := s.unsignalled + 1 }
  | .Signal item, t =>
    ∃ unsignalled, (unsignalled = s.unsignalled ∨ Announces peer item ∧ unsignalled + 1 = s.unsignalled) ∧
      t = { s with unsignalled, stream := s.stream ++ [item] }
  | .Snapshot reads, t =>
    s.phase = .Subscribing ∧
      t = { s with phase := Phase.subscribed attachment peer has_peer (current_panu_attachment reads peer) }
  | .Call answer, t =>
    ∃ subscription, s.phase = .Idle subscription ∧ answer = Next.answer subscription.begin_call.1 ∧
      t = { s with phase := Next.phase subscription.begin_call.2 subscription.begin_call.1 }
  | .Take answer, t =>
    ∃ subscription item rest, s.phase = .Waiting subscription ∧ s.stream = item :: rest ∧
      answer = Next.answer (subscription.on_item (some item)) ∧
      t = { s with stream := rest, phase := Next.phase subscription (subscription.on_item (some item)) }
  | .End answer, t =>
    ∃ subscription, s.phase = .Waiting subscription ∧ s.stream = [] ∧
      answer = Next.answer (subscription.on_item none) ∧
      t = { s with phase := Next.phase subscription (subscription.on_item none) }
  | .Reread reads answer, t =>
    ∃ subscription, s.phase = .Rereading subscription ∧
      answer = Next.answer (subscription.on_reread (current_panu_attachment reads peer)).1 ∧
      t = { s with
        phase := Next.phase (subscription.on_reread (current_panu_attachment reads peer)).2
          (subscription.on_reread (current_panu_attachment reads peer)).1 }

end Steps

end BluezPanuSubscription

end blueroute_linux.pan
