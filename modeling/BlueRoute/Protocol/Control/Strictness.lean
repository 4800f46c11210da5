import BlueRoute.Base.Schema
import BlueRoute.Protocol.Control.Codec

/-! Which JSON objects an accepted control frame can hold, and what is written for them. -/

namespace blueroute_protocol.control

open blueroute Derive Fallible ControlMessage
open Json (Tree)

section Schemas

def source_schema : Schema :=
  .enumeration [("discovered", .unit), ("measured", .unit), ("configured", .unit), ("conservative_default", .unit)]

def sourced_schema (value : Schema) : Schema :=
  .record [("value", value), ("source", source_schema)]

def backend_schema : Schema :=
  .enumeration [("network_manager", .unit), ("systemd_networkd", .unit), ("direct_netlink", .unit), ("other", .leaf)]

def quality_schema : Schema := .record [("score", .leaf)]

def power_schema : Schema :=
  .enumeration [("ac_powered", .unit), ("battery", .record [("percent", .leaf)])]

def capabilities_schema : Schema :=
  .record
    [("adapter_usable", .option (sourced_schema .leaf)),
      ("panu", .option (sourced_schema .leaf)),
      ("nap", .option (sourced_schema .leaf)),
      ("routing", .option (sourced_schema .leaf)),
      ("network_backend", .option (sourced_schema backend_schema)),
      ("connection_policy_ceiling", .option (sourced_schema .leaf)),
      ("link_quality", .option (sourced_schema quality_schema)),
      ("power_state", .option (sourced_schema power_schema)),
      ("has_internet", .option (sourced_schema .leaf)),
      ("willing_to_share_internet", .option (sourced_schema .leaf))]

/-- An address is written in its shortest text. -/
def address_schema : Schema :=
  .text fun value => (net.IpAddr.from_str value).toOption.elim value net.IpAddr.to_string

def segment_schema : Schema := .record [("address", address_schema), ("prefix_len", .leaf)]

/-- An identifier is written in lower case. -/
def id_schema (kind : IdKind) : Schema :=
  .text fun value => (Id.parse value : Result (Id kind)).toOption.elim value Id.to_string

def facts_schema : Schema :=
  .record
    [("software_version", .leaf), ("capabilities", capabilities_schema), ("segment", .option segment_schema),
      ("direct_neighbors", .list (id_schema .Node))]

def data_schema : Schema := .record [("challenge", .list .leaf), ("facts", facts_schema)]

def message_variants : List (String × Schema) :=
  [("hello", data_schema), ("hello_ack", data_schema), ("heartbeat", .unit), ("goodbye", .unit)]

def message_schema : Schema := .tagged "type" "data" message_variants

/-- The keys that the types of the protocol declare, position by position. -/
def envelope_schema : Schema :=
  .record
    [("version", .leaf), ("network", id_schema .Network), ("sender", id_schema .Node), ("session_id", .list .leaf),
      ("sequence", .leaf), ("message", message_schema)]

end Schemas

section Capabilities

variable {T : Type} {buffered : Bool}

theorem keeps_source : Keeps (CapabilitySource.deserialize buffered) CapabilitySource.serialize source_schema := by
  intro tree source h
  obtain ⟨⟨name, content⟩, hvariant, h⟩ := Option.bind_eq_some_iff.mp h
  obtain ⟨_, hsource, h⟩ := Option.bind_eq_some_iff.mp h
  obtain ⟨_, hunit, h⟩ := Option.bind_eq_some_iff.mp h
  obtain rfl := Option.some.inj h
  unfold CapabilitySource.of_name at hsource
  split_ifs at hsource with h₁ h₂ h₃ h₄ <;> obtain rfl := Option.some.inj hsource <;> subst name <;>
    exact unit_variant_keeps hvariant hunit (by simp)

theorem keeps_sourced {read : Tree → Option T} {write : T → Tree} {schema : Schema} (h : Keeps read write schema) :
    Keeps (StrictSourced.deserialize buffered read) (StrictSourced.serialize write) (sourced_schema schema) := by
  intro tree sourced hread
  simp only [StrictSourced.deserialize, Sourced.fields, Option.map_eq_some_iff, Option.bind_eq_bind,
    Option.bind_eq_some_iff, Option.some.injEq] at hread
  obtain ⟨_, ⟨field, hrecord, value, hvalue, source, hsource, rfl⟩, rfl⟩ := hread
  exact record_keeps hrecord rfl (by decide) (.cons (h.field hvalue) (.cons (keeps_source.field hsource) .nil))

theorem keeps_backend : Keeps (NetworkBackend.deserialize buffered) NetworkBackend.serialize backend_schema := by
  intro tree backend h
  obtain ⟨⟨name, content⟩, hvariant, h⟩ := Option.bind_eq_some_iff.mp h
  simp only at h
  split_ifs at h with hmanager hnetworkd hnetlink hother
  pick_goal 4
  · obtain ⟨value, htext, rfl⟩ := Option.map_eq_some_iff.mp h
    obtain ⟨content, rfl, htext⟩ := Option.bind_eq_some_iff.mp htext
    obtain ⟨hconforms, hnormal⟩ := keeps_text content value htext
    subst name
    refine content_variant_keeps hvariant (by simp) ?_ hconforms hnormal
    cases content <;> first | rfl | cases htext
  all_goals
    obtain ⟨_, hunit, rfl⟩ := Option.map_eq_some_iff.mp h
    subst name
    exact unit_variant_keeps hvariant hunit (by simp)

theorem keeps_quality : Keeps StrictLinkQuality.deserialize StrictLinkQuality.serialize quality_schema := by
  intro tree quality hread
  simp only [StrictLinkQuality.deserialize, LinkQuality.fields, Option.map_eq_some_iff, Option.bind_eq_bind,
    Option.bind_eq_some_iff] at hread
  obtain ⟨_, ⟨field, hrecord, hscore⟩, rfl⟩ := hread
  exact record_keeps hrecord rfl (by decide) (.cons (keeps_u8.field hscore) .nil)

theorem keeps_power : Keeps (StrictPowerState.deserialize buffered) StrictPowerState.serialize power_schema := by
  intro tree power h
  obtain ⟨⟨name, content⟩, hvariant, h⟩ := Option.bind_eq_some_iff.mp h
  simp only at h
  split_ifs at h with hac hbattery
  · obtain ⟨_, hunit, rfl⟩ := Option.map_eq_some_iff.mp h
    subst name
    exact unit_variant_keeps hvariant hunit (by simp)
  · obtain ⟨_, hread, rfl⟩ := Option.map_eq_some_iff.mp h
    obtain ⟨field, hrecord, hpercent⟩ := Option.bind_eq_some_iff.mp hread
    obtain ⟨content, rfl, hrecord⟩ := Option.bind_eq_some_iff.mp hrecord
    obtain ⟨_, hfield, -⟩ := Option.bind_eq_some_iff.mp hpercent
    have hkeeps : Conforms (.record [("percent", .leaf)]) content ∧ _ :=
      record_keeps hrecord rfl (by decide) (.cons (keeps_u8.field (Option.bind_eq_some_iff.mp hpercent)) .nil)
    subst name
    exact content_variant_keeps hvariant (by simp) (unit_of_record hrecord hfield) hkeeps.1 hkeeps.2

theorem keeps_capabilities :
    Keeps (deserialize_control_capabilities buffered) NodeCapabilities.serialize capabilities_schema := by
  intro tree capabilities h
  obtain ⟨strict, h, hvalue⟩ := Option.bind_eq_some_iff.mp h
  simp only [StrictControlCapabilities.deserialize, Option.bind_eq_bind, Option.bind_eq_some_iff,
    Option.some.injEq] at h
  obtain ⟨field, hrecord, _, hadapter, _, hpanu, _, hnap, _, hrouting, _, hbackend, _, hceiling, _, hquality, _, hpower,
    _, hinternet, _, hshare, rfl⟩ := h
  have hflag : Keeps (StrictSourced.deserialize buffered boolean) (StrictSourced.serialize .bool)
    (sourced_schema .leaf) :=
    keeps_sourced keeps_boolean
  rw [← StrictControlCapabilities.to_value_eq hvalue]
  exact record_keeps hrecord rfl (by decide)
    (.cons (hflag.optional hadapter) (.cons (hflag.optional hpanu) (.cons (hflag.optional hnap)
      (.cons (hflag.optional hrouting) (.cons ((keeps_sourced keeps_backend).optional hbackend)
        (.cons ((keeps_sourced keeps_u16).optional hceiling) (.cons ((keeps_sourced keeps_quality).optional hquality)
          (.cons ((keeps_sourced keeps_power).optional hpower) (.cons (hflag.optional hinternet)
            (.cons (hflag.optional hshare) .nil))))))))))

end Capabilities

section Segment

variable {buffered : Bool} {tree : Tree}

/-- What stands as the segment of the claims. -/
def HelloFacts.segment_of (tree : Tree) : Option Tree := do
  let field ← record true HelloFacts.FIELDS tree
  field "segment"

/-- What stands as the segment in the data of a hello. -/
def ControlMessage.data_segment_of (tree : Tree) : Option Tree := do
  let field ← variant_record true FIELDS tree
  HelloFacts.segment_of (← field "facts")

def ControlMessage.segment_of (tree : Tree) : Option Tree := do
  let (_, _, content) ← tagged "type" "data" tree
  data_segment_of (← content)

def ControlEnvelope.segment_of (tree : Tree) : Option Tree := do
  let field ← record true ControlEnvelope.FIELDS tree
  ControlMessage.segment_of (← field "message")

theorem exists_segment_fields {segment : IpPrefix} (h : IpPrefix.deserialize tree = some segment) :
    ∃ field, record false IpPrefix.FIELDS tree = some field ∧
      Fits address_schema (field "address") (.string segment.address.to_string) ∧
      Fits .leaf (field "prefix_len") (.number segment.prefix_len.toNat) := by
  simp only [IpPrefix.deserialize, Option.bind_eq_bind, Option.bind_eq_some_iff, Option.some.injEq] at h
  obtain ⟨field, hrecord, text, ⟨tree, hfield, htext⟩, address, haddress, _, hlen, rfl⟩ := h
  refine ⟨field, hrecord, keeps_canonical.field ⟨tree, hfield, ?_⟩, keeps_u8.field hlen⟩
  exact Option.bind_eq_some_iff.mpr ⟨text, htext, haddress⟩

/-- A segment may have additional keys, which its type does not declare. They are not written. -/
theorem segment_keeps {field : Option Tree} {segment : Option IpPrefix}
    (h : optional IpPrefix.deserialize field = some segment) :
    (∀ tree, field = some tree → (Conforms (.option segment_schema) tree ↔ Plain IpPrefix.FIELDS tree)) ∧
      field.elim .null (Schema.option segment_schema).normal = nullable IpPrefix.serialize segment := by
  constructor
  · rintro tree rfl
    obtain ⟨rfl, -⟩ | ⟨p, hp, -⟩ := optional_cases h
    · exact ⟨fun _ => nofun, fun _ => .absent⟩
    · obtain ⟨field, hrecord, haddress, hlen⟩ := exists_segment_fields hp
      have hnull : tree ≠ .null := by
        rintro rfl
        cases hrecord
      rw [option_conforms_iff hnull, segment_schema, record_conforms_iff hrecord rfl (by decide)]
      simp only [List.forall_mem_cons]
      exact ⟨And.left, fun hplain => ⟨hplain, haddress.1, hlen.1, by simp⟩⟩
  · refine optional_normal h fun tree p hp => ?_
    obtain ⟨field, hrecord, haddress, hlen⟩ := exists_segment_fields hp
    exact record_normal hrecord rfl (.cons haddress.2 (.cons hlen.2 .nil))

theorem keeps_id {kind : IdKind} : Keeps (Id.deserialize : Tree → Option (Id kind)) Id.serialize (id_schema kind) :=
  keeps_canonical

theorem facts_keeps {facts : HelloFacts} (h : HelloFacts.deserialize buffered tree = some facts) :
    (Conforms facts_schema tree ↔
      ∀ segment, HelloFacts.segment_of tree = some segment → Plain IpPrefix.FIELDS segment) ∧
    facts_schema.normal tree = facts.serialize := by
  simp only [HelloFacts.deserialize, Option.bind_eq_bind, Option.bind_eq_some_iff, Option.some.injEq] at h
  obtain ⟨field, hrecord, _, hversion, _, hcapabilities, _, hsegment, _, hneighbors, rfl⟩ := h
  obtain ⟨hiff, hnormal⟩ := segment_keeps hsegment
  have hversion := keeps_text.field hversion
  have hcapabilities := keeps_capabilities.field hcapabilities
  have hneighbors := (keeps_list keeps_id).field hneighbors
  have hof : HelloFacts.segment_of tree = field "segment" := by
    rw [HelloFacts.segment_of, hrecord]
    rfl
  refine ⟨?_, record_normal hrecord rfl
    (.cons hversion.2 (.cons hcapabilities.2 (.cons hnormal (.cons hneighbors.2 .nil))))⟩
  rw [facts_schema, record_conforms_iff hrecord rfl (by decide), hof]
  simp only [List.forall_mem_cons]
  constructor
  · rintro ⟨-, -, -, hconforms, -⟩ segment heq
    exact (hiff segment heq).mp (hconforms segment heq)
  · intro hplain
    exact ⟨plain_of_record hrecord, hversion.1, hcapabilities.1,
      fun segment heq => (hiff segment heq).mpr (hplain segment heq), hneighbors.1, by simp⟩

theorem keeps_bytes : Keeps (vector 16 u8) serialize_bytes (.list .leaf) := keeps_vector keeps_u8 16

theorem data_keeps {data : Vector UInt8 16 × HelloFacts}
    (h : deserialize_data buffered tree = some data) :
    (Conforms data_schema tree ↔
      ∀ segment, data_segment_of tree = some segment → Plain IpPrefix.FIELDS segment) ∧
    data_schema.normal tree = serialize_data data.1 data.2 ∧ unit true (some tree) = none := by
  simp only [deserialize_data, Option.bind_eq_bind, Option.bind_eq_some_iff, Option.some.injEq] at h
  obtain ⟨field, hrecord, _, hchallenge, _, ⟨facts, hfield, hfacts⟩, rfl⟩ := h
  obtain ⟨hiff, hnormal⟩ := facts_keeps hfacts
  have hchallenge := keeps_bytes.field hchallenge
  have hof : data_segment_of tree = HelloFacts.segment_of facts := by
    rw [data_segment_of, hrecord]
    simp [hfield]
  have hrecord := record_of_variant_record hrecord
  refine ⟨?_, record_normal hrecord rfl (.cons hchallenge.2 (.cons ?_ .nil)), unit_of_record hrecord hfield⟩
  · rw [hof, ← hiff, data_schema, record_conforms_iff hrecord rfl (by decide)]
    simp only [List.forall_mem_cons]
    constructor
    · rintro ⟨-, -, hconforms, -⟩
      exact hconforms facts hfield
    · intro hconforms
      refine ⟨plain_of_record hrecord, hchallenge.1, ?_, by simp⟩
      intro facts' hfield'
      obtain rfl := Option.some.inj (hfield.symm.trans hfield')
      exact hconforms
  · rw [hfield]
    exact hnormal

section Message

variable {name : String} {tag : Tree} {content : Option Tree}

theorem hello_keeps {data : Vector UInt8 16 × HelloFacts}
    (htagged : tagged "type" "data" tree = some (buffered, tag, content)) (hnames : Names name tag)
    (hmem : (name, data_schema) ∈ message_variants)
    (hcontent : normal_content message_variants name = data_schema.normal)
    (hread : content.bind (deserialize_data buffered) = some data) :
    (Conforms message_schema tree ↔
      ∀ segment, segment_of tree = some segment → Plain IpPrefix.FIELDS segment) ∧
    message_schema.normal tree
      = .object [("type", .string name), ("data", serialize_data data.1 data.2)] := by
  obtain ⟨data_tree, rfl, hread⟩ := Option.bind_eq_some_iff.mp hread
  obtain ⟨hiff, hnormal, hunit⟩ := data_keeps hread
  have hof : segment_of tree = data_segment_of data_tree := by
    rw [segment_of, htagged]
    rfl
  constructor
  · rw [message_schema, tagged_conforms_iff (by decide) (by decide) htagged hnames hmem, hof, ← hiff]
    constructor
    · exact fun hconforms => hconforms data_tree rfl
    · rintro hconforms _ ⟨⟩
      exact hconforms
  · rw [message_schema, tagged_normal htagged hnames, hunit, hcontent]
    exact congrArg (fun data => Tree.object [("type", .string name), ("data", data)]) hnormal

theorem liveness_keeps (htagged : tagged "type" "data" tree = some (buffered, tag, content))
    (hnames : Names name tag) (hmem : (name, Schema.unit) ∈ message_variants) (hunit : unit false content = some ()) :
    (Conforms message_schema tree ↔
      ∀ segment, segment_of tree = some segment → Plain IpPrefix.FIELDS segment) ∧
    message_schema.normal tree = .object [("type", .string name)] := by
  obtain ⟨hconforms, htrue⟩ := conforms_of_unit hunit
  have hof : segment_of tree = none := by
    rw [segment_of, htagged]
    obtain rfl | rfl := unit_cases hunit <;> rfl
  constructor
  · rw [message_schema, tagged_conforms_iff (by decide) (by decide) htagged hnames hmem, hof]
    exact ⟨fun _ _ => nofun, fun _ => hconforms⟩
  · rw [message_schema, tagged_normal htagged hnames, htrue]
    rfl

theorem message_keeps {message : ControlMessage} (h : deserialize tree = some message) :
    (Conforms message_schema tree ↔
      ∀ segment, segment_of tree = some segment → Plain IpPrefix.FIELDS segment) ∧
    message_schema.normal tree = message.serialize := by
  obtain ⟨⟨buffered, tag, content⟩, htagged, h⟩ := Option.bind_eq_some_iff.mp h
  obtain ⟨⟨name, inner⟩, hvariant, h⟩ := Option.bind_eq_some_iff.mp h
  obtain ⟨_, hunit, h⟩ := Option.bind_eq_some_iff.mp h
  have hnames := names_of_variant hvariant hunit
  simp only at h
  split_ifs at h with hhello hack hheartbeat hgoodbye <;>
    obtain ⟨_, hread, rfl⟩ := Option.map_eq_some_iff.mp h <;> subst name
  · exact hello_keeps htagged hnames (by simp [message_variants]) rfl hread
  · exact hello_keeps htagged hnames (by simp [message_variants]) rfl hread
  · exact liveness_keeps htagged hnames (by simp [message_variants]) hread
  · exact liveness_keeps htagged hnames (by simp [message_variants]) hread

end Message

theorem envelope_keeps {envelope : ControlEnvelope} (h : ControlEnvelope.deserialize tree = some envelope) :
    (Conforms envelope_schema tree ↔
      ∀ segment, ControlEnvelope.segment_of tree = some segment → Plain IpPrefix.FIELDS segment) ∧
    envelope_schema.normal tree = envelope.serialize := by
  simp only [ControlEnvelope.deserialize, Option.bind_eq_bind, Option.bind_eq_some_iff, Option.some.injEq] at h
  obtain ⟨field, hrecord, _, hversion, _, hnetwork, _, hsender, _, hsession, _, hsequence, _,
    ⟨message, hfield, hmessage⟩, rfl⟩ := h
  obtain ⟨hiff, hnormal⟩ := message_keeps hmessage
  have hversion := keeps_u16.field hversion
  have hnetwork := keeps_id.field hnetwork
  have hsender := keeps_id.field hsender
  have hsession := keeps_bytes.field hsession
  have hsequence := keeps_u64.field hsequence
  have hof : ControlEnvelope.segment_of tree = ControlMessage.segment_of message := by
    rw [ControlEnvelope.segment_of, hrecord]
    simp [hfield]
  refine ⟨?_, record_normal hrecord rfl (.cons hversion.2 (.cons hnetwork.2 (.cons hsender.2 (.cons hsession.2
    (.cons hsequence.2 (.cons ?_ .nil))))))⟩
  · rw [hof, ← hiff, envelope_schema, record_conforms_iff hrecord rfl (by decide)]
    simp only [List.forall_mem_cons]
    constructor
    · rintro ⟨-, -, -, -, -, -, hconforms, -⟩
      exact hconforms message hfield
    · intro hconforms
      refine ⟨plain_of_record hrecord, hversion.1, hnetwork.1, hsender.1, hsession.1, hsequence.1, ?_, by simp⟩
      intro message' hfield'
      obtain rfl := Option.some.inj (hfield.symm.trans hfield')
      exact hconforms
  · rw [hfield]
    exact hnormal

/-- An accepted payload is an envelope. -/
theorem deserialize_of_decode {json : JsonText} {framed : List UInt8} {envelope : ControlEnvelope} {payload : Tree}
    (h : decode_control_frame json.serde framed = .ok envelope)
    (hpayload : json.parse (framed.drop HEADER_LEN) = .ok payload) :
    ControlEnvelope.deserialize payload = some envelope := by
  obtain ⟨_, _, _, hslice, _⟩ := decode_control_frame_eq_ok_iff.mp h
  obtain ⟨tree, htree, henvelope⟩ := bind_eq_ok_iff.mp hslice
  obtain rfl := Except.ok.inj (hpayload.symm.trans htree)
  exact ok_or_eq_ok.mp henvelope

/-- The payload of an accepted frame has declared keys only, and no key twice, exactly when its segment has no keys
but its own two. -/
theorem accepted_frame_conforms_iff (json : JsonText) (framed : List UInt8) (envelope : ControlEnvelope)
    (payload : Tree)
    (h : decode_control_frame json.serde framed = .ok envelope)
    (hpayload : json.parse (framed.drop HEADER_LEN) = .ok payload) :
    Conforms envelope_schema payload ↔
      ∀ segment, ControlEnvelope.segment_of payload = some segment → Plain IpPrefix.FIELDS segment := by
  exact (envelope_keeps (deserialize_of_decode h hpayload)).1

/-- An accepted frame can be written again, and then is accepted again, exactly when the normal form of its payload
is of allowed length. -/
theorem accepted_frame_encodes_iff (json : JsonText) (framed : List UInt8) (envelope : ControlEnvelope) (payload : Tree)
    (h : decode_control_frame json.serde framed = .ok envelope)
    (hpayload : json.parse (framed.drop HEADER_LEN) = .ok payload) (hjson : json.Inverts envelope) :
    (∃ again, encode_control_frame json.serde envelope = .ok again ∧
      decode_control_frame json.serde again = .ok envelope) ↔
        (Json.to_vec (envelope_schema.normal payload)).length ≤ MAX_CONTROL_FRAME_BYTES := by
  rw [(envelope_keeps (deserialize_of_decode h hpayload)).2]
  have hwritten : (∃ again, encode_control_frame json.serde envelope = .ok again) ↔ _ :=
    encode_control_frame_eq_ok_iff (validate_of_decode h)
  refine Iff.trans ⟨?_, ?_⟩ hwritten
  · rintro ⟨again, hagain, -⟩
    exact ⟨again, hagain⟩
  · rintro ⟨again, hagain⟩
    exact ⟨again, hagain, decode_of_encode hjson hagain⟩

/-- Claims whose segment is written with a key of its own. -/
def gateway_facts : Tree :=
  .object
    [("software_version", .string "1"), ("capabilities", .object []),
      ("segment", .object [("address", .string "10.0.0.0"), ("prefix_len", .number 8), ("gateway", .bool true)]),
      ("direct_neighbors", .array [])]

/-- The same claims as they are read. -/
def segment_facts : HelloFacts where
  software_version := "1"
  capabilities := {}
  segment := some { address := .V4 (.new 10 0 0 0), prefix_len := 8 }
  direct_neighbors := []

theorem deserialize_gateway_facts : HelloFacts.deserialize false gateway_facts = some segment_facts := by
  decide +kernel

theorem decode_gateway_facts :
    decode_control_frame plain_reader.serde
      (to_be_bytes (Json.to_vec (first_hello_tree gateway_facts)).length ++
        Json.to_vec (first_hello_tree gateway_facts))
        = .ok (first_hello segment_facts) := by
  have hlength : (Json.to_vec (first_hello_tree gateway_facts)).length ≤ MAX_CONTROL_FRAME_BYTES := by
    rw [Json.length_to_vec]
    decide +kernel
  exact decode_control_frame_to_be_bytes (Json.to_vec_ne_nil _) hlength
    (from_slice_of_parse (plain_reader_to_vec _) (deserialize_first_hello deserialize_gateway_facts))
      (by decide +kernel)

theorem parse_gateway_facts :
    plain_reader.parse ((to_be_bytes (Json.to_vec (first_hello_tree gateway_facts)).length ++
      Json.to_vec (first_hello_tree gateway_facts)).drop HEADER_LEN) = .ok (first_hello_tree gateway_facts) := by
  have hheader : (to_be_bytes (Json.to_vec (first_hello_tree gateway_facts)).length).length = HEADER_LEN := rfl
  rw [List.drop_left' hheader]
  exact plain_reader_to_vec _

theorem accepted_frame_conforms_iff_gateway :
    Conforms envelope_schema (first_hello_tree gateway_facts) ↔
      ∀ segment, ControlEnvelope.segment_of (first_hello_tree gateway_facts) = some segment →
        Plain IpPrefix.FIELDS segment :=
  accepted_frame_conforms_iff plain_reader _ _ _ decode_gateway_facts parse_gateway_facts

/-- The frame can be written again, without the key. -/
theorem accepted_frame_encodes_iff_gateway :
    ∃ again, encode_control_frame plain_reader.serde (first_hello segment_facts) = .ok again ∧
      decode_control_frame plain_reader.serde again = .ok (first_hello segment_facts) := by
  refine (accepted_frame_encodes_iff plain_reader _ _ _ decode_gateway_facts parse_gateway_facts
    (plain_reader_inverts _)).mpr ?_
  rw [Json.length_to_vec]
  decide +kernel

/-- A frame with an unknown key in its segment is accepted. -/
theorem segment_key_accepted :
    ∃ framed envelope payload, decode_control_frame plain_reader.serde framed = .ok envelope ∧
      plain_reader.parse (framed.drop HEADER_LEN) = .ok payload ∧ ¬ Conforms envelope_schema payload := by
  refine ⟨_, _, _, decode_gateway_facts, parse_gateway_facts, fun hconforms => ?_⟩
  have hplain := (envelope_keeps (deserialize_first_hello deserialize_gateway_facts)).1.mp hconforms _ rfl
  have hmem := hplain _ rfl ("gateway", .bool true) (by simp)
  exact absurd hmem (by decide)

end Segment

end blueroute_protocol.control
