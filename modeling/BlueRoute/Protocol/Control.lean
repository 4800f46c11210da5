import BlueRoute.Core.Addressing
import BlueRoute.Core.Capability

namespace blueroute_protocol.control

open blueroute Fallible

def CONTROL_VERSION : UInt16 := 1

def MAX_CONTROL_FRAME_BYTES : Nat := 16 * 1024

def HEADER_LEN : Nat := 4

/-- Version, capabilities and topology facts advertised by an untrusted peer. -/
structure HelloFacts where
  software_version : String
  capabilities : NodeCapabilities
  segment : Option IpPrefix
  direct_neighbors : List NodeId
deriving DecidableEq

inductive ControlMessage where
  | Hello (challenge : Vector UInt8 16) (facts : HelloFacts)
  | HelloAck (challenge : Vector UInt8 16) (facts : HelloFacts)
  | Heartbeat
  | Goodbye
deriving DecidableEq

/-- The claims that a message carries. -/
def facts_of : ControlMessage → Option HelloFacts
  | .Hello _ facts | .HelloAck _ facts => some facts
  | .Heartbeat | .Goodbye => none

/-- Sender and network fields are claims until verified by the session layer. -/
structure ControlEnvelope where
  version : UInt16
  network : NetworkId
  sender : NodeId
  session_id : Vector UInt8 16
  sequence : UInt64
  message : ControlMessage
deriving DecidableEq

structure ControlFrameError where
  message : String
deriving DecidableEq

def invalid (message : String) : ControlFrameError := { message }

def is_zero (bytes : Vector UInt8 16) : Bool := bytes.toList.all (· == 0)

/-- A character of a software version. -/
def is_version_byte (byte : UInt8) : Bool :=
  (48 ≤ byte && byte ≤ 57) || (65 ≤ byte && byte ≤ 90) || (97 ≤ byte && byte ≤ 122) ||
    [46, 45, 43, 95].contains byte

/-- The loop over the claimed neighbours, with those seen before. -/
def validate_neighbors (sender : NodeId) : List NodeId → List NodeId → Except ControlFrameError Unit
  | _, [] => .ok ()
  | ids, node :: rest => do
    reject_if (node = .filled 0) (invalid "zero direct neighbor identity")
    reject_if (node = sender ∨ node ∈ ids) (invalid "duplicated or self-referential neighbor")
    validate_neighbors sender (node :: ids) rest

def validate_facts (facts : HelloFacts) (sender : NodeId) : Except ControlFrameError Unit := do
  let version := Text.bytes facts.software_version
  reject_if (version = [] ∨ version.length > 64 ∨ version.all is_version_byte = false)
    (invalid "invalid software version")
  reject_if (facts.direct_neighbors.length > 32) (invalid "too many direct neighbor claims")
  validate_neighbors sender [] facts.direct_neighbors
  reject_if (facts.segment.any (fun segment =>
    (Except.toOption <| normalized_ipv4_prefix segment) ≠ some segment) = true)
    (invalid "hello requires canonical IPv4 segment")
  reject_if (facts.capabilities.link_quality.any (fun quality => quality.value.score > 100) = true)
    (invalid "link quality exceeds valid range")
  reject_if (facts.capabilities.connection_policy_ceiling.any (fun ceiling => ceiling.value = 0) = true)
    (invalid "zero peer connection policy ceiling")
  let drained : PowerState → Bool
    | .Battery percent => percent > 100
    | .AcPowered => false
  reject_if (facts.capabilities.power_state.any (fun power => drained power.value) = true)
    (invalid "battery percentage exceeds valid range")

def validate (envelope : ControlEnvelope) : Except ControlFrameError Unit := do
  reject_if (envelope.version ≠ CONTROL_VERSION) (invalid "unsupported control protocol version")
  reject_if (envelope.network = .filled 0) (invalid "zero network identity")
  reject_if (envelope.sender = .filled 0) (invalid "zero sender identity")
  reject_if (is_zero envelope.session_id = true) (invalid "zero session identifier")
  reject_if (envelope.sequence = 0) (invalid "zero control sequence")
  match envelope.message with
  | .Hello challenge facts | .HelloAck challenge facts => do
    reject_if (is_zero challenge = true) (invalid "zero hello challenge")
    validate_facts facts envelope.sender
  | .Heartbeat | .Goodbye => .ok ()

/-- The two functions of `serde_json` that turn envelopes into JSON text and back. -/
structure Serde where
  to_vec : ControlEnvelope → Except String (List UInt8)
  from_slice : List UInt8 → Except String ControlEnvelope

def to_be_bytes (len : Nat) : List UInt8 :=
  [.ofNat (len / 16777216), .ofNat (len / 65536), .ofNat (len / 256), .ofNat len]

def from_be_bytes (header : List UInt8) : Nat :=
  header.foldl (fun value byte => value * 256 + byte.toNat) 0

def encode_control_frame (serde : Serde) (envelope : ControlEnvelope) :
    Except ControlFrameError (List UInt8) := do
  validate envelope
  let payload ← (serde.to_vec envelope).mapError invalid
  reject_if (payload = [] ∨ payload.length > MAX_CONTROL_FRAME_BYTES)
    (invalid "control frame exceeds maximum length")
  reject_if (payload.length ≥ 2 ^ 32) (invalid "length overflow")
  pure (to_be_bytes payload.length ++ payload)

def read_control_length (bytes : List UInt8) : Except ControlFrameError Nat := do
  reject_if (bytes.length < HEADER_LEN) (invalid "truncated control length header")
  let declared := from_be_bytes (bytes.take HEADER_LEN)
  reject_if (declared = 0 ∨ declared > MAX_CONTROL_FRAME_BYTES) (invalid "invalid or oversized control frame length")
  pure declared

def decode_control_frame (serde : Serde) (framed : List UInt8) : Except ControlFrameError ControlEnvelope := do
  let expected_len ← read_control_length framed
  reject_if (framed.length ≠ HEADER_LEN + expected_len) (invalid "truncated control frame or trailing bytes")
  let message ← (serde.from_slice (framed.drop HEADER_LEN)).mapError fun error =>
    invalid s!"invalid control payload: {error}"
  validate message
  pure message

theorem read_control_length_eq_ok_iff {bytes : List UInt8} {size : Nat} :
    read_control_length bytes = .ok size ↔
      HEADER_LEN ≤ bytes.length ∧ from_be_bytes (bytes.take HEADER_LEN) = size ∧ 0 < size ∧
        size ≤ MAX_CONTROL_FRAME_BYTES := by
  simp only [read_control_length, bind_eq_ok_iff, reject_if_eq_ok, not_lt, not_or]
  constructor
  · rintro ⟨_, hlong, _, ⟨hzero, hbound⟩, hsize⟩
    obtain rfl := Except.ok.inj hsize
    exact ⟨hlong, rfl, Nat.pos_of_ne_zero hzero, hbound⟩
  · rintro ⟨hlong, rfl, hpos, hbound⟩
    exact ⟨(), hlong, (), ⟨hpos.ne', hbound⟩, rfl⟩

/-- Only the header is read. -/
theorem read_control_length_append {bytes : List UInt8} (h : HEADER_LEN ≤ bytes.length) (rest : List UInt8) :
    read_control_length (bytes ++ rest) = read_control_length bytes := by
  have hlong : HEADER_LEN ≤ (bytes ++ rest).length := by
    rw [List.length_append]
    omega
  rw [read_control_length, read_control_length, List.take_append_of_le_length h]
  simp only [reject_if, if_neg (not_lt.mpr h), if_neg (not_lt.mpr hlong)]

theorem from_be_bytes_to_be_bytes {len : Nat} (h : len < 2 ^ 32) : from_be_bytes (to_be_bytes len) = len := by
  simp only [from_be_bytes, to_be_bytes, List.foldl_cons, List.foldl_nil, UInt8.toNat_ofNat']
  omega

variable {envelope : ControlEnvelope}

variable {serde : Serde} {framed : List UInt8}

theorem decode_control_frame_eq_ok_iff :
    decode_control_frame serde framed = .ok envelope ↔
      ∃ size, read_control_length framed = .ok size ∧ framed.length = HEADER_LEN + size ∧
        serde.from_slice (framed.drop HEADER_LEN) = .ok envelope ∧ validate envelope = .ok () := by
  simp only [decode_control_frame, bind_eq_ok_iff, reject_if_eq_ok, mapError_eq_ok, not_not]
  constructor
  · rintro ⟨size, hsize, _, hlength, message, hmessage, _, hvalid, henvelope⟩
    obtain rfl := Except.ok.inj henvelope
    exact ⟨size, hsize, hlength, hmessage, hvalid⟩
  · rintro ⟨size, hsize, hlength, hmessage, hvalid⟩
    exact ⟨size, hsize, (), hlength, envelope, hmessage, (), hvalid, rfl⟩

/-- Only canonical IPv4 segments pass the validation. -/
theorem segment_of_validate (h : validate envelope = .ok ()) :
    ∀ facts ∈ facts_of envelope.message, ∀ segment ∈ facts.segment, ∃ address, segment.address = .V4 address := by
  have hfacts : ∀ facts ∈ facts_of envelope.message, validate_facts facts envelope.sender = .ok () := by
    simp only [validate, bind_eq_ok_iff] at h
    obtain ⟨_, _, _, _, _, _, _, _, _, _, hmessage⟩ := h
    intro facts hfacts
    cases heq : envelope.message with
    | Hello challenge facts' | HelloAck challenge facts' =>
      rw [heq] at hmessage hfacts
      obtain rfl := Option.some.inj hfacts
      simp only [bind_eq_ok_iff] at hmessage
      exact hmessage.choose_spec.2
    | Heartbeat | Goodbye =>
      rw [heq] at hfacts
      cases hfacts
  intro facts hmem segment hsegment
  have hvalid := hfacts facts hmem
  simp only [validate_facts, bind_eq_ok_iff, reject_if_eq_ok] at hvalid
  obtain ⟨_, _, _, _, _, _, _, hcanonical, -⟩ := hvalid
  cases haddress : segment.address with
  | V4 address => exact ⟨address, rfl⟩
  | V6 address =>
    have hnone : (Except.toOption <| normalized_ipv4_prefix segment) = none := by
      unfold normalized_ipv4_prefix
      rw [haddress]
      rfl
    rw [Option.mem_def.mp hsegment] at hcanonical
    simp [hnone] at hcanonical

/-- A payload of allowed length is accepted under its length, if it is the JSON of a valid envelope. -/
theorem decode_control_frame_to_be_bytes {payload : List UInt8} (hne : payload ≠ [])
    (hbound : payload.length ≤ MAX_CONTROL_FRAME_BYTES) (hserde : serde.from_slice payload = .ok envelope)
    (hvalid : validate envelope = .ok ()) :
    decode_control_frame serde (to_be_bytes payload.length ++ payload) = .ok envelope := by
  have hheader : (to_be_bytes payload.length).length = HEADER_LEN := rfl
  have hword : payload.length < 2 ^ 32 := hbound.trans_lt (by decide)
  rw [decode_control_frame_eq_ok_iff]
  refine ⟨payload.length, ?_, ?_, ?_, hvalid⟩
  · rw [read_control_length_eq_ok_iff, List.length_append, hheader, List.take_left' hheader,
      from_be_bytes_to_be_bytes hword]
    exact ⟨Nat.le_add_right _ _, rfl, List.length_pos_iff.mpr hne, hbound⟩
  · rw [List.length_append, hheader]
  · rw [List.drop_left' hheader]
    exact hserde

theorem validate_of_encode (h : encode_control_frame serde envelope = .ok framed) : validate envelope = .ok () := by
  simp only [encode_control_frame, bind_eq_ok_iff] at h
  obtain ⟨_, hvalid, _⟩ := h
  exact hvalid

/-- A frame that is written is read back, if JSON text is. -/
theorem decode_encode_control_frame
    (hserde : ∀ payload, validate envelope = .ok () → serde.to_vec envelope = .ok payload →
      serde.from_slice payload = .ok envelope)
    (h : encode_control_frame serde envelope = .ok framed) : decode_control_frame serde framed = .ok envelope := by
  simp only [encode_control_frame, bind_eq_ok_iff, reject_if_eq_ok, mapError_eq_ok, not_or, not_lt, not_le] at h
  obtain ⟨_, hvalid, payload, hpayload, _, ⟨hne, hbound⟩, _, -, hframed⟩ := h
  obtain rfl := Except.ok.inj hframed
  exact decode_control_frame_to_be_bytes hne hbound (hserde payload hvalid hpayload) hvalid

end blueroute_protocol.control
