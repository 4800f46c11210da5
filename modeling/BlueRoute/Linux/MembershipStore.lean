import BlueRoute.Core.Membership

namespace blueroute_linux.membership_store

open blueroute Fallible

def FORMAT_HEADER_PREFIX : String := "BLUEROUTE_MEMBERSHIP_V"

def LEGACY_FORMAT_VERSION : Nat := 1

def CURRENT_FORMAT_VERSION : Nat := 2

def malformed_state (message : String) : CoreError :=
  .new .PersistenceError ("network membership state is malformed: " ++ message)

def malformed_line (line_number : Nat) (message : String) : CoreError :=
  malformed_state s!"line {line_number}: {message}"

def malformed_value (line_number : Nat) (message error : String) : CoreError :=
  .with_diagnostic .PersistenceError s!"network membership state is malformed: line {line_number}: {message}" error

def format_header (version : Nat) : String := FORMAT_HEADER_PREFIX ++ toString version

/-- The fields of a record are taken one after the other. -/
def required_field (fields : List String) (line_number : Nat) (field_name : String) : Result (String × List String) :=
  match fields with
  | [] => .error (malformed_line line_number ("missing " ++ field_name))
  | field :: rest => .ok (field, rest)

def durable_state_code : MembershipState → Result String
  | .NotMember => .ok "not-member"
  | .Member => .ok "member"
  | .Joining | .Leaving => .error (.new .PersistenceError "cannot persist a transient network membership state")

def parse_durable_state (value : String) (line_number : Nat) : Result MembershipState :=
  if value = "not-member" then .ok .NotMember
  else if value = "member" then .ok .Member
  else .error (malformed_line line_number "invalid membership state")

def bool_code (value : Bool) : String := if value then "1" else "0"

def parse_bool (value : String) (line_number : Nat) : Result Bool :=
  if value = "0" then .ok false
  else if value = "1" then .ok true
  else .error (malformed_line line_number "invalid boolean flag")

def encode_hex (bytes : List UInt8) : String := String.ofList (Text.hex bytes)

def decode_nibble (value : UInt8) : Option UInt8 := Id.decode_nibble value

def decode_hex (value : String) (line_number : Nat) : Result (List UInt8) := do
  let bytes := Text.bytes value
  reject_if (bytes.length % 2 ≠ 0) (malformed_line line_number "hex field has an odd length")
  ok_or (Text.pairs decode_nibble bytes) (malformed_line line_number "hex field contains invalid data")

def parse_id {kind : IdKind} (value : String) (line_number : Nat) (message : String) : Result (Id kind) :=
  (Id.parse value).mapError fun error => malformed_value line_number message error.message

def parse_network_record (registry : MembershipRegistry) (fields : List String) (line_number : Nat) :
    Result (MembershipRegistry × List String) := do
  let (value, fields) ← required_field fields line_number "network id"
  let network_id ← parse_id value line_number "invalid network id"
  reject_if (network_id = .filled 0) (malformed_line line_number "all-zero network identity is invalid")
  reject_if (registry.network network_id).isSome (malformed_line line_number "duplicate network record")
  let (value, fields) ← required_field fields line_number "membership state"
  let state ← parse_durable_state value line_number
  let (encoded_name, fields) ← required_field fields line_number "network name"
  let name_bytes ← decode_hex encoded_name line_number
  let name ← ok_or (Text.from_utf8 name_bytes)
    (malformed_value line_number "network name is not valid UTF-8" (Text.utf8_error 0 0 [] name_bytes))
  let display_name ← (DisplayName.new name).mapError fun error =>
    malformed_value line_number "invalid network name" error.message
  pure (registry.remember_network { NetworkMembership.new network_id display_name with state }, fields)

/-- The facts that a record states about a peer of a network. -/
def add_peer (membership : NetworkMembership) (node_id : NodeId) (member trusted : Bool) : NetworkMembership :=
  let remembered := (membership.remember_peer node_id).2
  let joined := (remembered.set_peer_member node_id member).2
  if trusted then (joined.trust_peer node_id).2 else joined

def parse_peer_record (registry : MembershipRegistry) (fields : List String) (line_number : Nat) :
    Result (MembershipRegistry × List String) := do
  let (value, fields) ← required_field fields line_number "network id"
  let network_id ← parse_id value line_number "invalid network id"
  let (value, fields) ← required_field fields line_number "peer node id"
  let node_id ← parse_id value line_number "invalid peer node id"
  reject_if (network_id = .filled 0 ∨ node_id = .filled 0)
    (malformed_line line_number "all-zero network or peer identity is invalid")
  let (value, fields) ← required_field fields line_number "peer member flag"
  let member ← parse_bool value line_number
  let (value, fields) ← required_field fields line_number "peer trust flag"
  let trusted ← parse_bool value line_number
  let membership ← ok_or (registry.network network_id)
    (malformed_line line_number "peer record refers to a network that has not been declared")
  reject_if (membership.is_peer_known node_id) (malformed_line line_number "duplicate peer record")
  pure (registry.remember_network (add_peer membership node_id member trusted), fields)

def parse_record (registry : MembershipRegistry) (fields : List String) (line_number : Nat) :
    Result (MembershipRegistry × List String) :=
  match fields with
  | [] => .error (malformed_line line_number "missing record type")
  | record_type :: fields =>
    if record_type = "network" then parse_network_record registry fields line_number
    else if record_type = "peer" then parse_peer_record registry fields line_number
    else .error (malformed_line line_number "unknown record type")

/-- One turn of the loop over the lines after the header, with their numbers. -/
def parse_line (registry : MembershipRegistry) (line : String × Nat) : Result MembershipRegistry := do
  reject_if (line.1 = "") (malformed_line line.2 "blank records are not allowed")
  let (registry, fields) ← parse_record registry (Text.split '\t' line.1) line.2
  reject_if (fields ≠ []) (malformed_line line.2 "record has too many fields")
  pure registry

/-- The records of a document, whose first line has number 2. -/
def parse_records (records : List String) : Result MembershipRegistry :=
  (records.zipIdx 2).foldlM parse_line .default

def parse_registry (serialized : String) : Result MembershipRegistry := do
  let lines := Text.lines serialized
  reject_if (lines.head? ≠ some (format_header CURRENT_FORMAT_VERSION))
    (malformed_state "unsupported or missing current membership format header")
  parse_records lines.tail

def network_record (membership : NetworkMembership) (state : String) : String :=
  "network\t" ++ membership.network_id.to_string ++ "\t" ++ state ++ "\t" ++
    encode_hex (Text.bytes membership.network_name.as_str)

def peer_record (network_id : NetworkId) (peer : PeerMembership) : String :=
  "peer\t" ++ network_id.to_string ++ "\t" ++ peer.node_id.to_string ++ "\t" ++ bool_code peer.member ++ "\t" ++
    bool_code peer.trusted

def serialize_peer (network_id : NetworkId) (peer : PeerMembership) : Result String := do
  reject_if (peer.node_id = .filled 0) (malformed_state "cannot persist an all-zero peer identity")
  pure (peer_record network_id peer)

/-- The records of a network: its own and those of its peers. -/
def serialize_network (membership : NetworkMembership) : Result (List String) := do
  reject_if (membership.network_id = .filled 0) (malformed_state "cannot persist an all-zero network identity")
  let state ← durable_state_code membership.state
  let peers ← (membership.peers.toList.map Prod.snd).mapM (serialize_peer membership.network_id)
  pure (network_record membership state :: peers)

def serialize_registry (registry : MembershipRegistry) : Result String := do
  let records ← registry.networks.mapM serialize_network
  pure (Text.unlines (format_header CURRENT_FORMAT_VERSION :: records.flatten))

def is_ascii_digit (c : Char) : Bool := '0' ≤ c && c ≤ '9'

/-- The value of decimal digits, which `u32` may not hold. -/
def parse_u32 (digits : List Char) : Option Nat :=
  let value := digits.foldl (fun value c => 10 * value + (c.toNat - '0'.toNat)) 0
  if value < 2 ^ 32 then some value else none

def detect_format_version (serialized : String) : Result Nat := do
  let header ← ok_or (Text.lines serialized).head? (malformed_state "missing membership format header")
  let version ← ok_or (header.toList.dropPrefix? FORMAT_HEADER_PREFIX.toList)
    (malformed_state "unsupported or missing membership format header")
  reject_if (version = [] ∨ version.all is_ascii_digit = false) (malformed_state "membership format version is invalid")
  ok_or (parse_u32 version)
    (malformed_value 1 "invalid membership format version" "number too large to fit in target type")

def migrate_v1_to_v2 (serialized : String) : Result String := do
  let lines := Text.lines serialized
  reject_if (lines.head? ≠ some (format_header LEGACY_FORMAT_VERSION))
    (.new .PersistenceError "network membership v1 migration received the wrong source schema")
  let migrated := Text.unlines (format_header CURRENT_FORMAT_VERSION :: lines.tail)
  -- the complete migrated document is validated before any caller may rewrite disk state
  let _ ← parse_registry migrated
  pure migrated

structure MigrationResult where
  serialized : String
  migrated : Bool
deriving DecidableEq

/-- The loop from a version to the current one, which takes as many turns as there are versions between. -/
def migrate_steps : Nat → Nat → String → Result String
  | 0, _, current => .ok current
  | turns + 1, version, current =>
    if version = LEGACY_FORMAT_VERSION then do
      let current ← migrate_v1_to_v2 current
      migrate_steps turns (version + 1) current
    else
      .error (.new .PersistenceError
        s!"no network membership migration path exists from schema version {version}")

def migrate_to_current (serialized : String) : Result MigrationResult := do
  let original_version ← detect_format_version serialized
  reject_if (original_version > CURRENT_FORMAT_VERSION) (.new .PersistenceError
    (s!"network membership state uses unsupported future schema version {original_version}; " ++
      s!"current version is {CURRENT_FORMAT_VERSION}"))
  let serialized ← migrate_steps (CURRENT_FORMAT_VERSION - original_version) original_version serialized
  pure { serialized, migrated := original_version ≠ CURRENT_FORMAT_VERSION }

/-- What `load` makes of the text of the file. -/
def parse_document (serialized : String) : Result MembershipRegistry := do
  let migration ← migrate_to_current serialized
  parse_registry migration.serialized

end blueroute_linux.membership_store
