import BlueRoute.Core.Wire
import BlueRoute.Protocol.Control

/-! The JSON form of control envelopes, as the derived readers and writers have it. -/

namespace blueroute_protocol.control

open blueroute Derive Fallible NodeCapabilities
open Json (Tree)

/-! The local D-Bus API allows additional capability fields, the protocol between nodes does not: capabilities are
read through types that refuse unknown fields, and are converted to the domain types after that. -/

section Strict

variable {T P : Type}

structure StrictSourced (T : Type) where
  value : T
  source : CapabilitySource

structure StrictLinkQuality where
  score : UInt8

inductive StrictPowerState where
  | AcPowered
  | Battery (percent : UInt8)

structure StrictControlCapabilities where
  adapter_usable : Option (StrictSourced Bool)
  panu : Option (StrictSourced Bool)
  nap : Option (StrictSourced Bool)
  routing : Option (StrictSourced Bool)
  network_backend : Option (StrictSourced NetworkBackend)
  connection_policy_ceiling : Option (StrictSourced UInt16)
  link_quality : Option (StrictSourced StrictLinkQuality)
  power_state : Option (StrictSourced StrictPowerState)
  has_internet : Option (StrictSourced Bool)
  willing_to_share_internet : Option (StrictSourced Bool)

namespace StrictSourced

def serialize (write : T → Tree) (self : StrictSourced T) : Tree :=
  .object (Sourced.FIELDS.zip [write self.value, self.source.serialize])

def deserialize (buffered : Bool) (read : Tree → Option T) (tree : Tree) : Option (StrictSourced T) :=
  (Sourced.fields true buffered read tree).map fun (value, source) => { value, source }

/-- The strict form of a domain value. -/
def of (f : T → P) (sourced : Sourced T) : StrictSourced P :=
  { value := f sourced.value, source := sourced.source }

end StrictSourced

namespace StrictLinkQuality

def serialize (self : StrictLinkQuality) : Tree :=
  .object (LinkQuality.FIELDS.zip [.number self.score.toNat])

def deserialize (tree : Tree) : Option StrictLinkQuality :=
  (LinkQuality.fields true tree).map fun score => { score }

def of (quality : LinkQuality) : StrictLinkQuality := { score := quality.score }

theorem deserialize_serialize (quality : LinkQuality) : deserialize quality.serialize = some (of quality) := by
  rw [deserialize, LinkQuality.fields_serialize]
  rfl

end StrictLinkQuality

namespace StrictPowerState

def serialize : StrictPowerState → Tree
  | AcPowered => .string "ac_powered"
  | Battery percent => .object [("battery", .object (PowerState.FIELDS.zip [.number percent.toNat]))]

def deserialize (buffered : Bool) (tree : Tree) : Option StrictPowerState :=
  PowerState.variants true buffered AcPowered Battery tree

def of : PowerState → StrictPowerState
  | .AcPowered => AcPowered
  | .Battery percent => Battery percent

theorem deserialize_serialize (buffered : Bool) (power : PowerState) :
    deserialize buffered power.serialize = some (of power) := by
  rw [deserialize, PowerState.variants_serialize]
  cases power <;> rfl

theorem serialize_of (power : PowerState) : (of power).serialize = power.serialize := by
  cases power <;> rfl

end StrictPowerState

namespace StrictSourced

/-- An optional domain value is read as its strict form. -/
theorem optional_nullable_serialize {buffered : Bool} {write : T → Tree} {read : Tree → Option P} {f : T → P}
    (h : ∀ value, read (write value) = some (f value)) (sourced : Option (Sourced T)) :
    optional (deserialize buffered read) (some (nullable (Sourced.serialize write) sourced))
      = some (sourced.map (of f)) := by
  have hread : ∀ value, deserialize buffered read (Sourced.serialize write value) = some (of f value) := fun value => by
    rw [deserialize, Sourced.fields_serialize h]
    rfl
  exact optional_nullable (fun value _ => hread value) (fun _ => nofun)

/-- A strict form is written as the domain value is. -/
theorem nullable_serialize_of (write : P → Tree) (f : T → P) (sourced : Option (Sourced T)) :
    nullable (serialize write) (sourced.map (of f)) =
      nullable (Sourced.serialize fun value => write (f value)) sourced := by
  cases sourced <;> rfl

theorem map_of_surjective {f : T → P} (hf : Function.Surjective f) : Function.Surjective (Option.map (of f)) := by
  rintro (_ | ⟨value, source⟩)
  · exact ⟨none, rfl⟩
  · obtain ⟨value, rfl⟩ := hf value
    exact ⟨some ⟨value, source⟩, rfl⟩

end StrictSourced

open StrictSourced

namespace StrictControlCapabilities

def to_value (self : StrictControlCapabilities) : Tree :=
  .object (FIELDS.zip
    [nullable (serialize .bool) self.adapter_usable,
      nullable (serialize .bool) self.panu,
      nullable (serialize .bool) self.nap,
      nullable (serialize .bool) self.routing,
      nullable (serialize NetworkBackend.serialize) self.network_backend,
      nullable (serialize fun ceiling => .number ceiling.toNat) self.connection_policy_ceiling,
      nullable (serialize StrictLinkQuality.serialize) self.link_quality,
      nullable (serialize StrictPowerState.serialize) self.power_state,
      nullable (serialize .bool) self.has_internet,
      nullable (serialize .bool) self.willing_to_share_internet])

def deserialize (buffered : Bool) (tree : Tree) : Option StrictControlCapabilities := do
  let field ← record true FIELDS tree
  let flag := StrictSourced.deserialize buffered boolean
  let adapter_usable ← optional flag (field "adapter_usable")
  let panu ← optional flag (field "panu")
  let nap ← optional flag (field "nap")
  let routing ← optional flag (field "routing")
  let network_backend ←
    optional (StrictSourced.deserialize buffered (NetworkBackend.deserialize buffered)) (field "network_backend")
  let connection_policy_ceiling ← optional (StrictSourced.deserialize buffered u16) (field "connection_policy_ceiling")
  let link_quality ←
    optional (StrictSourced.deserialize buffered StrictLinkQuality.deserialize) (field "link_quality")
  let power_state ←
    optional (StrictSourced.deserialize buffered (StrictPowerState.deserialize buffered)) (field "power_state")
  let has_internet ← optional flag (field "has_internet")
  let willing_to_share_internet ← optional flag (field "willing_to_share_internet")
  some { adapter_usable, panu, nap, routing, network_backend, connection_policy_ceiling, link_quality, power_state,
         has_internet, willing_to_share_internet }

/-- The strict form of capabilities. -/
def of (capabilities : NodeCapabilities) : StrictControlCapabilities where
  adapter_usable := capabilities.adapter_usable.map (.of fun value => value)
  panu := capabilities.panu.map (.of fun value => value)
  nap := capabilities.nap.map (.of fun value => value)
  routing := capabilities.routing.map (.of fun value => value)
  network_backend := capabilities.network_backend.map (.of fun value => value)
  connection_policy_ceiling := capabilities.connection_policy_ceiling.map (.of fun value => value)
  link_quality := capabilities.link_quality.map (.of StrictLinkQuality.of)
  power_state := capabilities.power_state.map (.of .of)
  has_internet := capabilities.has_internet.map (.of fun value => value)
  willing_to_share_internet := capabilities.willing_to_share_internet.map (.of fun value => value)

theorem deserialize_serialize (buffered : Bool) (capabilities : NodeCapabilities) :
    deserialize buffered capabilities.serialize = some (of capabilities) := by
  rw [NodeCapabilities.serialize, deserialize, record_zip rfl (by decide : NodeCapabilities.FIELDS.Nodup)]
  simp [FIELDS, List.lookup_cons, of, optional_nullable_serialize boolean_bool,
    optional_nullable_serialize (NetworkBackend.deserialize_serialize buffered),
    optional_nullable_serialize u16_number,
    optional_nullable_serialize StrictLinkQuality.deserialize_serialize,
    optional_nullable_serialize (StrictPowerState.deserialize_serialize buffered)]

theorem to_value_of (capabilities : NodeCapabilities) : (of capabilities).to_value = capabilities.serialize := by
  have hquality : (fun quality => (StrictLinkQuality.of quality).serialize) = LinkQuality.serialize := rfl
  have hpower : (fun power => (StrictPowerState.of power).serialize) = PowerState.serialize :=
    funext StrictPowerState.serialize_of
  simp only [to_value, of, NodeCapabilities.serialize, nullable_serialize_of, hquality, hpower]

/-- Every strict form is that of some capabilities. -/
theorem of_surjective : Function.Surjective of := by
  rintro ⟨adapter, panu, nap, routing, backend, ceiling, quality, power, internet, share⟩
  have hsame {T : Type} : Function.Surjective (Option.map (StrictSourced.of fun value : T => value)) :=
    StrictSourced.map_of_surjective Function.surjective_id
  have hquality : Function.Surjective StrictLinkQuality.of := fun quality => ⟨⟨quality.score⟩, rfl⟩
  have hpower : Function.Surjective StrictPowerState.of
    | .AcPowered => ⟨.AcPowered, rfl⟩
    | .Battery percent => ⟨.Battery percent, rfl⟩
  obtain ⟨adapter, rfl⟩ := hsame adapter
  obtain ⟨panu, rfl⟩ := hsame panu
  obtain ⟨nap, rfl⟩ := hsame nap
  obtain ⟨routing, rfl⟩ := hsame routing
  obtain ⟨backend, rfl⟩ := hsame backend
  obtain ⟨ceiling, rfl⟩ := hsame ceiling
  obtain ⟨quality, rfl⟩ := map_of_surjective hquality quality
  obtain ⟨power, rfl⟩ := map_of_surjective hpower power
  obtain ⟨internet, rfl⟩ := hsame internet
  obtain ⟨share, rfl⟩ := hsame share
  exact ⟨⟨adapter, panu, nap, routing, backend, ceiling, quality, power, internet, share⟩, rfl⟩

/-- What is converted is written as its strict form is. -/
theorem to_value_eq {strict : StrictControlCapabilities} {capabilities : NodeCapabilities}
    (h : NodeCapabilities.deserialize strict.to_value = some capabilities) :
    strict.to_value = capabilities.serialize := by
  obtain ⟨found, rfl⟩ := of_surjective strict
  rw [to_value_of] at h ⊢
  rw [Option.some.inj (found.deserialize_serialize.symm.trans h)]

end StrictControlCapabilities

/-- Capabilities are read strictly, and what is read is converted through its JSON form. -/
def deserialize_control_capabilities (buffered : Bool) (tree : Tree) : Option NodeCapabilities := do
  let strict ← StrictControlCapabilities.deserialize buffered tree
  deserialize strict.to_value

theorem deserialize_control_capabilities_serialize (buffered : Bool) (capabilities : NodeCapabilities) :
    deserialize_control_capabilities buffered capabilities.serialize = some capabilities := by
  rw [deserialize_control_capabilities, StrictControlCapabilities.deserialize_serialize, Option.bind_eq_bind,
    Option.bind_some, StrictControlCapabilities.to_value_of, deserialize_serialize]

end Strict

def serialize_bytes (bytes : Vector UInt8 16) : Tree :=
  .array (bytes.toList.map fun byte => .number byte.toNat)

namespace HelloFacts

def FIELDS : List String := ["software_version", "capabilities", "segment", "direct_neighbors"]

def values (self : HelloFacts) : List Tree :=
  [.string self.software_version, self.capabilities.serialize, nullable IpPrefix.serialize self.segment,
    .array (self.direct_neighbors.map Id.serialize)]

def serialize (self : HelloFacts) : Tree := .object (FIELDS.zip self.values)

def deserialize (buffered : Bool) (tree : Tree) : Option HelloFacts := do
  let field ← record true FIELDS tree
  let software_version ← (field "software_version").bind text
  let capabilities ← (field "capabilities").bind (deserialize_control_capabilities buffered)
  let segment ← optional IpPrefix.deserialize (field "segment")
  let direct_neighbors ← (field "direct_neighbors").bind (list Id.deserialize)
  some { software_version, capabilities, segment, direct_neighbors }

theorem deserialize_serialize {self : HelloFacts}
    (hsegment : ∀ segment ∈ self.segment, ∃ address, segment.address = .V4 address)
    (buffered : Bool) : deserialize buffered self.serialize = some self := by
  have hread : optional IpPrefix.deserialize (some (nullable IpPrefix.serialize self.segment)) = some self.segment := by
    have hsome : ∀ segment ∈ self.segment, IpPrefix.deserialize segment.serialize = some segment := fun segment h =>
      (hsegment segment h).elim fun _ haddress => IpPrefix.deserialize_serialize haddress
    rw [optional_nullable hsome (fun _ => nofun), Option.map_id']
  have hneighbors := list_array (fun node : NodeId => Id.deserialize_serialize node) self.direct_neighbors
  have hnodup : FIELDS.Nodup := by decide
  have hfield : ∀ i name value, FIELDS[i]? = some name → self.values[i]? = some value →
      (FIELDS.zip self.values).lookup name = some value := fun _ _ _ => lookup_zip hnodup
  rw [serialize, deserialize, record_zip rfl hnodup]
  simp only [Option.bind_eq_bind, Option.bind_some, hfield 0 _ _ rfl rfl, hfield 1 _ _ rfl rfl, hfield 2 _ _ rfl rfl,
    hfield 3 _ _ rfl rfl, text_string, deserialize_control_capabilities_serialize, hread, hneighbors]

end HelloFacts

namespace ControlMessage

/-- The fields of `Hello` and `HelloAck`. -/
def FIELDS : List String := ["challenge", "facts"]

def serialize_data (challenge : Vector UInt8 16) (facts : HelloFacts) : Tree :=
  .object (FIELDS.zip [serialize_bytes challenge, facts.serialize])

def serialize : ControlMessage → Tree
  | Hello challenge facts => .object [("type", .string "hello"), ("data", serialize_data challenge facts)]
  | HelloAck challenge facts => .object [("type", .string "hello_ack"), ("data", serialize_data challenge facts)]
  | Heartbeat => .object [("type", .string "heartbeat")]
  | Goodbye => .object [("type", .string "goodbye")]

def deserialize_data (buffered : Bool) (tree : Tree) : Option (Vector UInt8 16 × HelloFacts) := do
  let field ← variant_record true FIELDS tree
  let challenge ← (field "challenge").bind (vector 16 u8)
  let facts ← (field "facts").bind (HelloFacts.deserialize buffered)
  some (challenge, facts)

def deserialize (tree : Tree) : Option ControlMessage := do
  let (buffered, tag, content) ← tagged "type" "data" tree
  let (name, inner) ← variant tag
  unit false inner
  if name = "hello" then
    (content.bind (deserialize_data buffered)).map fun (challenge, facts) => Hello challenge facts
  else if name = "hello_ack" then
    (content.bind (deserialize_data buffered)).map fun (challenge, facts) => HelloAck challenge facts
  else if name = "heartbeat" then (unit false content).map fun _ => Heartbeat
  else if name = "goodbye" then (unit false content).map fun _ => Goodbye
  else none

/-- The data of a hello is read as its facts are. -/
theorem deserialize_data_object (buffered : Bool) (challenge : Vector UInt8 16) (tree : Tree) :
    deserialize_data buffered (.object (FIELDS.zip [serialize_bytes challenge, tree]))
      = (HelloFacts.deserialize buffered tree).map fun facts => (challenge, facts) := by
  have hchallenge : vector 16 u8 (serialize_bytes challenge) = some challenge := vector_array u8_number challenge
  rw [deserialize_data, variant_record_zip rfl (by decide : FIELDS.Nodup)]
  show ((vector 16 u8 (serialize_bytes challenge)).bind fun challenge =>
    (HelloFacts.deserialize buffered tree).bind fun facts => some (challenge, facts)) = _
  rw [hchallenge]
  cases HelloFacts.deserialize buffered tree <;> rfl

theorem deserialize_data_serialize_data {facts : HelloFacts}
    (hsegment : ∀ segment ∈ facts.segment, ∃ address, segment.address = .V4 address) (buffered : Bool)
    (challenge : Vector UInt8 16) : deserialize_data buffered (serialize_data challenge facts) =
      some (challenge, facts) := by
  rw [serialize_data, deserialize_data_object, HelloFacts.deserialize_serialize hsegment, Option.map_some]

theorem deserialize_serialize {self : ControlMessage}
    (hsegment : ∀ facts ∈ facts_of self, ∀ segment ∈ facts.segment, ∃ address, segment.address = .V4 address) :
    deserialize self.serialize = some self := by
  cases self with
  | Hello challenge facts =>
    show ((deserialize_data false (serialize_data challenge facts)).map fun (challenge, facts) =>
      Hello challenge facts) = _
    rw [deserialize_data_serialize_data (hsegment facts rfl)]
    rfl
  | HelloAck challenge facts =>
    show ((deserialize_data false (serialize_data challenge facts)).map fun (challenge, facts) =>
      HelloAck challenge facts) = _
    rw [deserialize_data_serialize_data (hsegment facts rfl)]
    rfl
  | Heartbeat | Goodbye => rfl

end ControlMessage

namespace ControlEnvelope

def FIELDS : List String := ["version", "network", "sender", "session_id", "sequence", "message"]

def serialize (self : ControlEnvelope) : Tree :=
  .object (FIELDS.zip
    [.number self.version.toNat, self.network.serialize, self.sender.serialize, serialize_bytes self.session_id,
      .number self.sequence.toNat, self.message.serialize])

def deserialize (tree : Tree) : Option ControlEnvelope := do
  let field ← record true FIELDS tree
  let version ← (field "version").bind u16
  let network ← (field "network").bind Id.deserialize
  let sender ← (field "sender").bind Id.deserialize
  let session_id ← (field "session_id").bind (vector 16 u8)
  let sequence ← (field "sequence").bind u64
  let message ← (field "message").bind ControlMessage.deserialize
  some { version, network, sender, session_id, sequence, message }

/-- An envelope is read as its message is. -/
theorem deserialize_object (self : ControlEnvelope) (tree : Tree) :
    deserialize (.object (FIELDS.zip
      [.number self.version.toNat, self.network.serialize, self.sender.serialize, serialize_bytes self.session_id,
        .number self.sequence.toNat, tree])) = (ControlMessage.deserialize tree).map fun message =>
          { self with message } := by
  have hsession : vector 16 u8 (serialize_bytes self.session_id) = some self.session_id :=
    vector_array u8_number self.session_id
  rw [deserialize, record_zip rfl (by decide : FIELDS.Nodup)]
  simp only [FIELDS, List.zip_cons_cons, List.zip_nil_right, List.lookup_cons, String.reduceBEq, beq_self_eq_true,
    Option.bind_eq_bind, Option.bind_some]
  rw [u16_number, Id.deserialize_serialize, Id.deserialize_serialize, hsession, u64_number]
  cases ControlMessage.deserialize tree <;> rfl

theorem deserialize_serialize {self : ControlEnvelope}
    (hsegment : ∀ facts ∈ facts_of self.message, ∀ segment ∈ facts.segment, ∃ address, segment.address = .V4 address) :
    deserialize self.serialize = some self := by
  rw [serialize, deserialize_object, ControlMessage.deserialize_serialize hsegment, Option.map_some]

end ControlEnvelope

/-- The reader of JSON text. The text of its error for JSON that is no envelope is left open. -/
structure JsonText where
  parse : List UInt8 → Except String Tree
  refusal : List UInt8 → String

def JsonText.serde (json : JsonText) : Serde where
  to_vec envelope := .ok (Json.to_vec envelope.serialize)
  from_slice payload := do
    let tree ← json.parse payload
    ok_or (ControlEnvelope.deserialize tree) (json.refusal payload)

/-- The JSON text of an envelope is read back. -/
def JsonText.Inverts (json : JsonText) (envelope : ControlEnvelope) : Prop :=
  json.parse (Json.to_vec envelope.serialize) = .ok envelope.serialize

theorem from_slice_of_parse {json : JsonText} {payload : List UInt8} {tree : Tree} {envelope : ControlEnvelope}
    (hparse : json.parse payload = .ok tree) (h : ControlEnvelope.deserialize tree = some envelope) :
    json.serde.from_slice payload = .ok envelope :=
  bind_eq_ok_iff.mpr ⟨_, hparse, ok_or_eq_ok.mpr h⟩

end blueroute_protocol.control
