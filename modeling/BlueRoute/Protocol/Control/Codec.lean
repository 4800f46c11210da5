import BlueRoute.Protocol.Control.Wire

namespace blueroute_protocol.control

open blueroute Derive Fallible Json
open Json (Tree)

section RoundTrip

variable {serde : Serde} {json : JsonText} {envelope other : ControlEnvelope} {framed rest : List UInt8}

/-- The bytes of an envelope's compact JSON, in which every optional field is written out. -/
def json_size (envelope : ControlEnvelope) : Nat := (to_vec envelope.serialize).length

theorem validate_of_decode (h : decode_control_frame serde framed = .ok envelope) : validate envelope = .ok () := by
  obtain ⟨_, _, _, _, hvalid⟩ := decode_control_frame_eq_ok_iff.mp h
  exact hvalid

/-- The header alone says how long an accepted frame is, so nothing can follow one. -/
theorem eq_nil_of_decode_append (h : decode_control_frame serde framed = .ok envelope)
    (happend : decode_control_frame serde (framed ++ rest) = .ok other) : rest = [] := by
  obtain ⟨size, hsize, hlength, -⟩ := decode_control_frame_eq_ok_iff.mp h
  obtain ⟨size', hsize', hlength', -⟩ := decode_control_frame_eq_ok_iff.mp happend
  have hheader : HEADER_LEN ≤ framed.length := by omega
  rw [read_control_length_append hheader, hsize] at hsize'
  obtain rfl := Except.ok.inj hsize'
  rw [List.length_append] at hlength'
  exact List.length_eq_zero_iff.mp (by omega)

/-- Writing a valid envelope fails for its length only. -/
theorem encode_control_frame_eq_ok_iff (hvalid : validate envelope = .ok ()) :
    (∃ framed, encode_control_frame json.serde envelope = .ok framed) ↔
      json_size envelope ≤ MAX_CONTROL_FRAME_BYTES := by
  simp only [encode_control_frame, bind_eq_ok_iff, reject_if_eq_ok, mapError_eq_ok, not_or, not_lt, not_le]
  constructor
  · rintro ⟨framed, _, _, payload, hpayload, _, ⟨_, hbound⟩, -⟩
    obtain rfl := Except.ok.inj hpayload
    exact hbound
  · intro hbound
    exact ⟨_, (), hvalid, _, rfl, (), ⟨to_vec_ne_nil _, hbound⟩, (), hbound.trans_lt (by decide), rfl⟩

theorem encode_control_frame_of_large (hvalid : validate envelope = .ok ())
    (hlarge : json_size envelope > MAX_CONTROL_FRAME_BYTES) :
    encode_control_frame json.serde envelope = .error (invalid "control frame exceeds maximum length") := by
  have hreject : reject_if (to_vec envelope.serialize = [] ∨
      (to_vec envelope.serialize).length > MAX_CONTROL_FRAME_BYTES)
        (invalid "control frame exceeds maximum length")
      = .error (invalid "control frame exceeds maximum length") := if_pos (Or.inr hlarge)
  rw [encode_control_frame, hvalid]
  show (reject_if (to_vec envelope.serialize = [] ∨ _) _ >>= _) = _
  rw [hreject]
  rfl

theorem decode_of_encode (hjson : json.Inverts envelope) (h : encode_control_frame json.serde envelope = .ok framed) :
    decode_control_frame json.serde framed = .ok envelope := by
  refine decode_encode_control_frame (fun payload hvalid hpayload => ?_) h
  obtain rfl := Except.ok.inj hpayload
  exact from_slice_of_parse hjson (ControlEnvelope.deserialize_serialize (segment_of_validate hvalid))

/-- A valid envelope of allowed length is read back from its frame. No other text that begins the frame or begins
with it is accepted, and whatever is accepted is valid. -/
theorem control_frame_round_trip (json : JsonText) :
    (∀ envelope, json.Inverts envelope → validate envelope = .ok () → json_size envelope ≤ MAX_CONTROL_FRAME_BYTES →
      ∃ framed, encode_control_frame json.serde envelope = .ok framed ∧
        decode_control_frame json.serde framed = .ok envelope ∧
        ∀ other, other <+: framed ∨ framed <+: other → other ≠ framed →
          ∀ accepted, decode_control_frame json.serde other ≠ .ok accepted) ∧
    ∀ framed envelope, decode_control_frame json.serde framed = .ok envelope → validate envelope = .ok () := by
  refine ⟨fun envelope hjson hvalid hsize => ?_, fun framed envelope => validate_of_decode⟩
  obtain ⟨framed, hframed⟩ := (encode_control_frame_eq_ok_iff hvalid).mpr hsize
  have hdecode := decode_of_encode hjson hframed
  refine ⟨framed, hframed, hdecode, ?_⟩
  rintro other (⟨rest, rfl⟩ | ⟨rest, rfl⟩) hne accepted haccepted
  · obtain rfl := eq_nil_of_decode_append haccepted hdecode
    exact hne (List.append_nil other).symm
  · obtain rfl := eq_nil_of_decode_append hdecode haccepted
    exact hne (List.append_nil framed)

/-- The reader of JSON text that takes exactly the values it can print. -/
def plain_reader : JsonText where
  parse := from_slice
  refusal := fun _ => "invalid value"

theorem plain_reader_to_vec (tree : Tree) : plain_reader.parse (to_vec tree) = .ok tree :=
  from_slice_to_vec tree

theorem plain_reader_inverts (envelope : ControlEnvelope) : plain_reader.Inverts envelope :=
  plain_reader_to_vec envelope.serialize

/-- A valid envelope whose JSON is not too long has a frame. -/
theorem exists_frame (hvalid : validate envelope = .ok ())
    (hsize : width (print envelope.serialize) ≤ MAX_CONTROL_FRAME_BYTES) :
    ∃ framed, encode_control_frame plain_reader.serde envelope = .ok framed ∧
      decode_control_frame plain_reader.serde framed = .ok envelope := by
  rw [← length_to_vec] at hsize
  obtain ⟨framed, hframed⟩ := (encode_control_frame_eq_ok_iff hvalid).mpr hsize
  exact ⟨framed, hframed, decode_of_encode (plain_reader_inverts envelope) hframed⟩

/-- A message of a session after its hellos. -/
def session_frame (sequence : UInt64) (message : ControlMessage) : ControlEnvelope where
  version := 1
  network := .filled 1
  sender := .filled 2
  session_id := Vector.replicate 16 3
  sequence := sequence
  message := message

theorem exists_heartbeat : ∃ framed, encode_control_frame plain_reader.serde (session_frame 3 .Heartbeat) = .ok framed ∧
    decode_control_frame plain_reader.serde framed = .ok (session_frame 3 .Heartbeat) :=
  exists_frame (by decide +kernel) (by decide +kernel)

/-- A first hello with the given claims. -/
def first_hello (facts : HelloFacts) : ControlEnvelope where
  version := 1
  network := .filled 1
  sender := .filled 2
  session_id := Vector.replicate 16 3
  sequence := 1
  message := .Hello (Vector.replicate 16 4) facts

/-- Claims of an address segment, a neighbour and some capabilities. -/
def sample_facts : HelloFacts where
  software_version := "0.1.0"
  capabilities :=
    { panu := some { value := true, source := .Discovered }
      network_backend := some { value := .NetworkManager, source := .Measured }
      link_quality := some { value := { score := 80 }, source := .Measured }
      power_state := some { value := .Battery 55, source := .Configured } }
  segment := some { address := .V4 (.new 10 201 44 0), prefix_len := 24 }
  direct_neighbors := [.filled 5]

theorem validate_sample_facts : validate (first_hello sample_facts) = .ok () := by
  decide +kernel

theorem json_size_sample_facts : json_size (first_hello sample_facts) ≤ MAX_CONTROL_FRAME_BYTES := by
  rw [json_size, length_to_vec]
  decide +kernel

theorem control_frame_round_trip_hello :
    ∃ framed, encode_control_frame plain_reader.serde (first_hello sample_facts) = .ok framed ∧
      decode_control_frame plain_reader.serde framed = .ok (first_hello sample_facts) :=
  let ⟨framed, hencode, hdecode, _⟩ :=
    (control_frame_round_trip plain_reader).1 _ (plain_reader_inverts _) validate_sample_facts json_size_sample_facts
  ⟨framed, hencode, hdecode⟩

end RoundTrip

section Again

/-- Claims of a network backend of the given name and nothing else. -/
def backend_facts (name : String) : HelloFacts where
  software_version := "1"
  capabilities := { network_backend := some { value := .Other name, source := .Measured } }
  segment := none
  direct_neighbors := []

/-- The same claims with the unknown capabilities left out. -/
def sparse_facts (name : String) : Tree :=
  .object [("software_version", .string "1"),
    ("capabilities", .object [("network_backend",
      .object [("value", .object [("other", .string name)]), ("source", .string "measured")])]),
    ("direct_neighbors", .array [])]

theorem deserialize_sparse_facts (name : String) :
    HelloFacts.deserialize false (sparse_facts name) = some (backend_facts name) := by
  rfl

/-- The JSON of a first hello around the JSON of its claims. -/
def first_hello_tree (facts : Tree) : Tree :=
  .object (ControlEnvelope.FIELDS.zip
    [.number 1, (Id.filled 1 : NetworkId).serialize, (Id.filled 2 : NodeId).serialize,
      serialize_bytes (Vector.replicate 16 3), .number 1,
      .object [("type", .string "hello"),
        ("data", .object (ControlMessage.FIELDS.zip [serialize_bytes (Vector.replicate 16 4), facts]))]])

theorem deserialize_first_hello {tree : Tree} {facts : HelloFacts}
    (h : HelloFacts.deserialize false tree = some facts) :
    ControlEnvelope.deserialize (first_hello_tree tree) = some (first_hello facts) := by
  have hmessage : ControlMessage.deserialize (.object [("type", .string "hello"),
      ("data", .object (ControlMessage.FIELDS.zip [serialize_bytes (Vector.replicate 16 4), tree]))])
      = some (.Hello (Vector.replicate 16 4) facts) := by
    show ((ControlMessage.deserialize_data false _).map _) = _
    rw [ControlMessage.deserialize_data_object, h]
    rfl
  have hobject := ControlEnvelope.deserialize_object (first_hello facts) (.object [("type", .string "hello"),
    ("data", .object (ControlMessage.FIELDS.zip [serialize_bytes (Vector.replicate 16 4), tree]))])
  rw [hmessage] at hobject
  exact hobject

theorem serialize_first_hello (facts : HelloFacts) : (first_hello facts).serialize = first_hello_tree facts.serialize :=
  rfl

/-- The JSON of a first hello grows with that of its claims. -/
theorem width_first_hello_tree (facts : Tree) :
    width (print (first_hello_tree facts))
      = width (print (first_hello_tree .null)) + width (print facts) - 4 := by
  simp only [first_hello_tree, ControlEnvelope.FIELDS, ControlMessage.FIELDS, List.zip_cons_cons, List.zip_nil_right,
    print, print_entries, print_entry, commas, width_append, width_cons]
  have hnull : width "null".toList = 4 := by decide
  omega

theorem width_sparse_facts (name : String) :
    width (print (sparse_facts name)) + 2
      = width (print (sparse_facts "")) + width (quoted name) := by
  have hempty : width (quoted "") = 2 := by decide
  simp only [sparse_facts, print, print_entries, print_entry, commas, width_append, width_cons]
  omega

theorem width_backend_facts (name : String) :
    width (print (backend_facts name).serialize) + 2
      = width (print (backend_facts "").serialize) + width (quoted name) := by
  have hempty : width (quoted "") = 2 := by decide
  simp only [HelloFacts.serialize, HelloFacts.values, HelloFacts.FIELDS, backend_facts, NodeCapabilities.serialize,
    NodeCapabilities.FIELDS, nullable, Sourced.serialize, Sourced.FIELDS, NetworkBackend.serialize, List.zip_cons_cons,
    List.zip_nil_right, print, print_entries, print_entry, commas, width_append,
    width_cons]
  omega

theorem width_quoted_replicate (n : Nat) : width (quoted (String.ofList (List.replicate n 'a'))) = n + 2 := by
  have hletters : width ((List.replicate n 'a').flatMap escape) = n := by
    induction n with
    | zero => rfl
    | succ n ih =>
      have hletter : width (escape 'a') = 1 := by decide
      rw [List.replicate_succ, List.flatMap_cons, width_append, ih, hletter, Nat.add_comm]
  have hquote : Char.utf8Size '"' = 1 := by decide
  have hend : width ['"'] = 1 := by decide
  rw [quoted, String.toList_ofList, List.cons_append, width_cons, width_append, hletters, hquote, hend]
  omega

theorem validate_backend_facts (name : String) : validate (first_hello (backend_facts name)) = .ok () := by
  have hname : validate (first_hello (backend_facts name)) = validate (first_hello (backend_facts "")) := rfl
  rw [hname]
  decide +kernel

/-- A frame of the largest size that leaves out unknown capabilities is accepted and cannot be written again. -/
theorem largest_sparse_frame_not_encoded :
    ∃ framed envelope, decode_control_frame plain_reader.serde framed = .ok envelope ∧
      encode_control_frame plain_reader.serde envelope = .error (invalid "control frame exceeds maximum length") := by
  obtain ⟨name, hname⟩ : ∃ name, width (quoted name) = 16009 := ⟨_, width_quoted_replicate 16007⟩
  have houter : width (print (first_hello_tree .null)) = 257 := by decide +kernel
  have hsparse : width (print (sparse_facts "")) = 124 := by decide +kernel
  have hfull : width (print (backend_facts "").serialize) = 324 := by decide +kernel
  have hlength : (to_vec (first_hello_tree (sparse_facts name))).length = MAX_CONTROL_FRAME_BYTES := by
    have hfacts := width_sparse_facts name
    rw [length_to_vec, width_first_hello_tree, MAX_CONTROL_FRAME_BYTES]
    omega
  have hlarge : json_size (first_hello (backend_facts name)) > MAX_CONTROL_FRAME_BYTES := by
    have hfacts := width_backend_facts name
    rw [json_size, serialize_first_hello, length_to_vec, width_first_hello_tree, MAX_CONTROL_FRAME_BYTES]
    omega
  have hread : plain_reader.serde.from_slice (to_vec (first_hello_tree (sparse_facts name)))
      = .ok (first_hello (backend_facts name)) :=
    from_slice_of_parse (plain_reader_to_vec _) (deserialize_first_hello (deserialize_sparse_facts name))
  exact ⟨_, _, decode_control_frame_to_be_bytes (to_vec_ne_nil _) hlength.le hread (validate_backend_facts name),
    encode_control_frame_of_large (validate_backend_facts name) hlarge⟩

end Again

end blueroute_protocol.control
