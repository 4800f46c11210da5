import Mathlib

namespace blueroute

/-- High-level error categories exposed by the hardware-independent core. -/
inductive ErrorKind where
  | UnsupportedRuntime
  | MissingAdapter
  | AdapterDisabled
  | CapabilityUnavailable
  | BluezUnavailable
  | NetworkBackendUnavailable
  | PairingFailed
  | AuthenticationFailed
  | PanFailure
  | AddressConflict
  | RouteFailure
  | TopologyFailure
  | ProtocolError
  | InvalidState
  | InvalidInput
  | PersistenceError
  | Internal
deriving DecidableEq

/-- Whether another bounded transport attempt may help without changing configuration or credentials. -/
def ErrorKind.is_retryable_transport_failure : ErrorKind → Bool
  | BluezUnavailable | NetworkBackendUnavailable | PanFailure => true
  | _ => false

/-- A typed core error with a friendly message and optional diagnostic context. -/
structure CoreError where
  kind : ErrorKind
  message : String
  diagnostic : Option String
deriving DecidableEq

def CoreError.new (kind : ErrorKind) (message : String) : CoreError :=
  { kind, message, diagnostic := none }

def CoreError.with_diagnostic (kind : ErrorKind) (message diagnostic : String) : CoreError :=
  { kind, message, diagnostic := some diagnostic }

/-- The `Result<T, CoreError>` of the source. -/
abbrev Result (T : Type) := Except CoreError T

end blueroute
