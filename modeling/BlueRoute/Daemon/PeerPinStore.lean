import BlueRoute.Protocol.PeerPin

namespace blueroute_daemon.peer_pin_store

open blueroute blueroute_protocol.peer_pin Fallible

def HEADER : String := "BLUEROUTE_PEER_PINS_V1"

def MAX_BYTES : Nat := 256 * 1024

def MAX_RECORDS : Nat := 128

def invalid (message : String) : CoreError := .new .PersistenceError message

def decode_digest (text : String) : Result SpkiSha256 :=
  (SpkiSha256.parse_canonical_hex text).mapError fun _ =>
    invalid "peer key fingerprint must be canonical lowercase SHA-256 hex"

/-- One turn of the loop over the lines of the file. -/
def parse_record (pins : PeerKeyPins) (line : String) : Result PeerKeyPins := do
  reject_if (pins.len ≥ MAX_RECORDS) (invalid "too many peer key pins")
  let fields := Text.split '\t' line
  let network ← ok_or fields[0]? (invalid "missing key pin network identity")
  let network ← (Id.parse network).mapError fun _ => invalid "invalid key pin network identity"
  let node ← ok_or fields[1]? (invalid "missing key pin node identity")
  let node ← (Id.parse node).mapError fun _ => invalid "invalid key pin node identity"
  let fingerprint ← ok_or fields[2]? (invalid "missing key pin fingerprint")
  let fingerprint ← decode_digest fingerprint
  reject_if (fields[3]?.isSome = true) (invalid "unexpected key pin record fields")
  let (added, pins) ← (pins.enroll_verified network node fingerprint).mapError fun _ =>
    invalid "conflicting duplicate key pin"
  reject_if (added = false) (invalid "duplicate key pin record")
  pure pins

/-- What `PeerPinStore::load` makes of the bytes of the file. -/
def parse (contents : List UInt8) : Result PeerKeyPins := do
  reject_if (contents.length > MAX_BYTES) (invalid "peer-key pin file exceeds size limit")
  let document ← ok_or (Text.from_utf8 contents) (invalid "peer-key pin file is not valid UTF-8")
  let lines := Text.lines document
  reject_if (lines.head? ≠ some HEADER) (invalid "missing or unsupported peer-key pin format version")
  lines.tail.foldlM parse_record .new

/-- What `PeerPinStore::load` makes of the file, which need not exist. -/
def load : Option (List UInt8) → Result PeerKeyPins
  | none => .ok .new
  | some contents => parse contents

def record (network : NetworkId) (node : NodeId) (pin : SpkiSha256) : String :=
  network.to_string ++ "\t" ++ node.to_string ++ "\t" ++ pin.to_canonical_hex

def document (pins : PeerKeyPins) : List String :=
  HEADER :: pins.entries.map fun entry => record entry.1 entry.2.1 entry.2.2

/-- The bytes that `PeerPinStore::save` hands to the secret store. -/
def render (pins : PeerKeyPins) : Result (List UInt8) := do
  reject_if (pins.len > MAX_RECORDS) (invalid "too many peer key pins")
  let text := Text.unlines (document pins)
  reject_if ((Text.bytes text).length > MAX_BYTES) (invalid "peer-key pin file exceeds size limit")
  pure (Text.bytes text)

theorem notMem_to_canonical_hex {c : Char} (h : ∀ n : Fin 16, c ≠ Nat.digitChar n) (pin : SpkiSha256) :
    c ∉ pin.to_canonical_hex.toList := by
  rw [SpkiSha256.to_canonical_hex, String.toList_ofList]
  exact Text.notMem_hex h _

theorem notMem_record {c : Char} (h : ∀ n : Fin 16, c ≠ Nat.digitChar n) (htab : c ≠ '\t') (network : NetworkId)
    (node : NodeId) (pin : SpkiSha256) : c ∉ (record network node pin).toList := by
  simp [record, String.toList_append, Id.notMem_to_string h, notMem_to_canonical_hex h, htab]

theorem split_record (network : NetworkId) (node : NodeId) (pin : SpkiSha256) :
    Text.split '\t' (record network node pin) = [network.to_string, node.to_string, pin.to_canonical_hex] := by
  have hfields : record network node pin =
      String.ofList (['\t'].intercalate
        ([network.to_string, node.to_string, pin.to_canonical_hex].map String.toList)) := by
    rw [← String.toList_inj, String.toList_ofList]
    simp [record, List.intercalate]
  rw [hfields, Text.split_intercalate (by simp)]
  simp only [List.mem_cons, List.not_mem_nil, or_false, forall_eq_or_imp, forall_eq]
  exact ⟨Id.notMem_to_string (by decide) _, Id.notMem_to_string (by decide) _, notMem_to_canonical_hex (by decide) _⟩

variable {pins : PeerKeyPins}

/-- A record is read as the enrolment that it stands for. -/
theorem parse_record_record {network : NetworkId} {node : NodeId} {pin : SpkiSha256} (hroom : pins.len < MAX_RECORDS)
    (hnonzero : network ≠ .filled 0 ∧ node ≠ .filled 0)
    (hfree : ∀ other, pins.get network other = some pin → other = node) (hnone : pins.get network node = none) :
    parse_record pins (record network node pin) = .ok (pins.enroll network node pin hnonzero hfree) := by
  simp only [parse_record, split_record, decode_digest, bind_eq_ok_iff, reject_if_eq_ok, ok_or_eq_ok, mapError_eq_ok]
  exact ⟨(), not_le.mpr hroom, _, rfl, network, Id.parse_to_string network, _, rfl, node, Id.parse_to_string node,
    _, rfl, pin, SpkiSha256.parse_canonical_hex_to_canonical_hex pin, (), by simp,
    (true, _), PeerKeyPins.enroll_verified_of_free hnonzero hfree hnone, (), by simp, rfl⟩

/-- The records of the pins that are still missing lead to the pins they were taken from. -/
theorem foldlM_parse_record {target : PeerKeyPins} (hroom : target.len ≤ MAX_RECORDS)
    {rest : List ((NetworkId ×ₗ NodeId) × SpkiSha256)} (h : Ordered.Rebuilds target.pins pins.pins rest) :
    (rest.map fun entry => record (ofLex entry.1).1 (ofLex entry.1).2 entry.2).foldlM parse_record pins =
      .ok target := by
  induction rest generalizing pins with
  | nil =>
    refine congrArg Except.ok (PeerKeyPins.ext_get fun network node pin => ?_)
    rw [PeerKeyPins.get, PeerKeyPins.get, h.built_eq]
  | cons entry rest ih =>
    obtain ⟨key, pin⟩ := entry
    have hin : target.get (ofLex key).1 (ofLex key).2 = some pin := h.head_lookup
    have hnonzero := target.nonzero _ _ _ hin
    have hfree : ∀ other, pins.get (ofLex key).1 other = some pin → other = (ofLex key).2 := fun other hother =>
      target.injective _ _ _ _ ((h.lookup _ _).mpr (.inl hother)) hin
    have hsize : pins.len + (rest.length + 1) = target.len := h.size_eq
    rw [List.map_cons, List.foldlM_cons, parse_record_record (by omega) hnonzero hfree h.head_missing]
    exact ih h.step

theorem length_bytes_record (network : NetworkId) (node : NodeId) (pin : SpkiSha256) :
    (Text.bytes (record network node pin)).length = 130 := by
  have hnetwork : (Text.bytes network.to_string).length = 32 :=
    (Text.length_bytes_hex network.bytes.toList).trans (by simp)
  have hnode : (Text.bytes node.to_string).length = 32 :=
    (Text.length_bytes_hex node.bytes.toList).trans (by simp)
  have hpin : (Text.bytes pin.to_canonical_hex).length = 64 :=
    (Text.length_bytes_hex pin.as_bytes.toList).trans (by simp)
  have htab : (Text.bytes "\t").length = 1 := by decide
  simp only [record, Text.bytes_append, List.length_append, hnetwork, hnode, hpin, htab]

/-- A file of at most as many records as are allowed is never too long. -/
theorem exists_render (hroom : pins.len ≤ MAX_RECORDS) : ∃ contents, render pins = .ok contents := by
  have hheader : (Text.bytes HEADER).length = 22 := by decide
  have hsum : ((pins.entries.map fun entry => record entry.1 entry.2.1 entry.2.2).map
      fun line => (Text.bytes line).length + 1).sum = 131 * pins.len := by
    have hlength : pins.entries.length = pins.len := by simp [PeerKeyPins.entries, PeerKeyPins.len]
    rw [List.map_map, List.map_congr_left (g := fun _ => 131) fun entry _ => by simp [length_bytes_record],
      List.map_const', List.sum_replicate, hlength, smul_eq_mul, mul_comm]
  have hbytes : (Text.bytes (Text.unlines (document pins))).length ≤ MAX_BYTES := by
    rw [Text.length_bytes_unlines, document, List.map_cons, List.sum_cons, hheader, hsum]
    simp only [MAX_RECORDS, MAX_BYTES] at hroom ⊢
    omega
  refine ⟨Text.bytes (Text.unlines (document pins)), ?_⟩
  simp only [render, bind_eq_ok_iff, reject_if_eq_ok, not_lt]
  exact ⟨(), hroom, (), hbytes, rfl⟩

/-- What is saved is loaded again. -/
theorem parse_render {contents : List UInt8} (h : render pins = .ok contents) : parse contents = .ok pins := by
  simp only [render, bind_eq_ok_iff, reject_if_eq_ok, not_lt] at h
  obtain ⟨_, hroom, _, hbytes, hcontents⟩ := h
  obtain rfl := Except.ok.inj hcontents
  have hlines : Text.lines (Text.unlines (document pins)) = document pins := by
    apply Text.lines_unlines
    simp only [document, List.mem_cons, List.mem_map, forall_eq_or_imp, forall_exists_index, and_imp]
    refine ⟨by decide, ?_⟩
    rintro _ entry _ rfl
    exact ⟨notMem_record (by decide) (by decide) _ _ _, notMem_record (by decide) (by decide) _ _ _⟩
  simp only [parse, bind_eq_ok_iff, reject_if_eq_ok, ok_or_eq_ok, not_lt]
  refine ⟨(), hbytes, _, Text.from_utf8_bytes _, (), ?_, ?_⟩
  · rw [hlines]
    exact not_not.mpr rfl
  rw [hlines, document, List.tail_cons, PeerKeyPins.entries, List.map_map]
  exact foldlM_parse_record hroom (Ordered.Rebuilds.start pins.pins)

end blueroute_daemon.peer_pin_store
