import BlueRoute.Base.Ordered
import BlueRoute.Core.Id

namespace blueroute_protocol.peer_pin

open blueroute Fallible

inductive PeerPinError where
  | InvalidFingerprint
  | InvalidIdentity
  | UnknownEnrollment
  | KeyConflict
  | NotApprovedForNetwork
  | FingerprintMismatch
deriving DecidableEq

/-- What `Display` prints. -/
def PeerPinError.to_string : PeerPinError → String
  | InvalidFingerprint => "invalid peer key fingerprint"
  | InvalidIdentity => "zero network or node identity cannot be enrolled"
  | UnknownEnrollment => "no verified peer key enrollment exists"
  | KeyConflict => "peer key changed; explicit re-enrollment required"
  | NotApprovedForNetwork => "peer lacks network membership approval"
  | FingerprintMismatch => "authenticated peer public key differs from pin"

/-- Digest of a DER-encoded SubjectPublicKeyInfo, which is never all zero. -/
structure SpkiSha256 where
  as_bytes : Vector UInt8 32
  nonzero : ∃ byte ∈ as_bytes.toList, byte ≠ 0
deriving DecidableEq

namespace SpkiSha256

def from_verified_certificate_digest (digest : Vector UInt8 32) : Except PeerPinError SpkiSha256 :=
  if h : ∃ byte ∈ digest.toList, byte ≠ 0 then .ok { as_bytes := digest, nonzero := h } else .error .InvalidFingerprint

def decode_nibble (value : UInt8) : Option UInt8 :=
  if 48 ≤ value ∧ value ≤ 57 then some (value - 48)
  else if 97 ≤ value ∧ value ≤ 102 then some (value - 97 + 10)
  else none

def parse_canonical_hex (text : String) : Except PeerPinError SpkiSha256 := do
  let input := Text.bytes text
  reject_if (input.length ≠ 64) .InvalidFingerprint
  let digest ← ok_or (Text.unhex decode_nibble 32 input) .InvalidFingerprint
  from_verified_certificate_digest digest

def to_canonical_hex (self : SpkiSha256) : String := String.ofList (Text.hex self.as_bytes.toList)

theorem parse_canonical_hex_to_canonical_hex (self : SpkiSha256) :
    parse_canonical_hex self.to_canonical_hex = .ok self := by
  have hnibble : ∀ digit, digit < 16 → decode_nibble (Text.digit_byte digit) = some digit := fun _ =>
    Text.forall_digit (P := fun digit => decode_nibble (Text.digit_byte digit) = some digit) (by decide)
  have hlength : (Text.bytes self.to_canonical_hex).length = 64 :=
    (Text.length_bytes_hex self.as_bytes.toList).trans (by simp)
  have hunhex : Text.unhex decode_nibble 32 (Text.bytes self.to_canonical_hex) = some self.as_bytes :=
    Text.unhex_bytes_hex hnibble self.as_bytes
  have hdigest : from_verified_certificate_digest self.as_bytes = .ok self := dif_pos self.nonzero
  simp only [parse_canonical_hex, hlength, hunhex]
  exact hdigest

end SpkiSha256

/-- Security-sensitive mapping of a network and a node to the explicitly enrolled key. A key
stands for at most one node of a network. -/
structure PeerKeyPins where
  pins : Ordered.Map (NetworkId ×ₗ NodeId) SpkiSha256
  nonzero : ∀ (network : NetworkId) (node : NodeId) (pin : SpkiSha256),
    pins[toLex (network, node)]? = some pin → network ≠ .filled 0 ∧ node ≠ .filled 0
  injective : ∀ (network : NetworkId) (node other : NodeId) (pin : SpkiSha256),
    pins[toLex (network, node)]? = some pin → pins[toLex (network, other)]? = some pin → node = other

namespace PeerKeyPins

def new : PeerKeyPins := { pins := ∅, nonzero := by simp, injective := by simp }

/-- The key that is enrolled for a node of a network. -/
def get (self : PeerKeyPins) (network : NetworkId) (node : NodeId) : Option SpkiSha256 :=
  self.pins[toLex (network, node)]?

/-- Another node of the network has the key. -/
def conflicts (self : PeerKeyPins) (network : NetworkId) (node : NodeId) (pin : SpkiSha256) : Bool :=
  self.pins.toList.any fun entry =>
    (ofLex entry.1).1 = network && (ofLex entry.1).2 ≠ node && entry.2 = pin

theorem conflicts_eq_false_iff {self : PeerKeyPins} {network : NetworkId} {node : NodeId} {pin : SpkiSha256} :
    self.conflicts network node pin = false ↔ ∀ other, self.get network other = some pin → other = node := by
  simp only [conflicts, List.any_eq_false, Bool.and_eq_true, decide_eq_true_eq, not_and, and_imp]
  constructor
  · intro h other hother
    by_contra hne
    exact h (toLex (network, other), pin) (Ordered.mem_toList.mpr hother) rfl hne rfl
  · rintro h ⟨key, pin'⟩ hentry hnetwork hne rfl
    refine hne (h (ofLex key).2 ?_)
    subst hnetwork
    exact Ordered.mem_toList.mp hentry

/-- The pins with a key that is new for its node and not another node's. -/
def enroll (self : PeerKeyPins) (network : NetworkId) (node : NodeId) (pin : SpkiSha256)
    (hnonzero : network ≠ .filled 0 ∧ node ≠ .filled 0)
    (hfree : ∀ other, self.get network other = some pin → other = node) : PeerKeyPins :=
  { pins := self.pins.insert (toLex (network, node)) pin
    nonzero := by
      intro network' node' pin' h
      rw [Ordered.getElem?_insert_eq] at h
      split at h
      · rename_i hkey
        obtain ⟨rfl, rfl⟩ := Prod.mk.inj hkey
        exact hnonzero
      · exact self.nonzero network' node' pin' h
    injective := by
      intro network' node' other pin' h hother
      rw [Ordered.getElem?_insert_eq] at h hother
      split at h <;> split at hother
      · rename_i hkey hkey'
        exact (Prod.mk.inj hkey).2.symm.trans (Prod.mk.inj hkey').2
      · rename_i hkey _
        obtain ⟨rfl, rfl⟩ := Prod.mk.inj hkey
        obtain rfl := Option.some.inj h
        exact (hfree other hother).symm
      · rename_i hkey
        obtain ⟨rfl, rfl⟩ := Prod.mk.inj hkey
        obtain rfl := Option.some.inj hother
        exact hfree node' h
      · exact self.injective network' node' other pin' h hother }

def enroll_verified (self : PeerKeyPins) (network : NetworkId) (node : NodeId) (pin : SpkiSha256) :
    Except PeerPinError (Bool × PeerKeyPins) :=
  if hzero : network = .filled 0 ∨ node = .filled 0 then
    .error .InvalidIdentity
  else if hconflict : self.conflicts network node pin = true then
    .error .KeyConflict
  else
    match self.get network node with
    | some existing => if existing = pin then .ok (false, self) else .error .KeyConflict
    | none =>
      .ok (true, self.enroll network node pin (not_or.mp hzero)
        (conflicts_eq_false_iff.mp (Bool.not_eq_true _ ▸ hconflict)))

def revoke (self : PeerKeyPins) (network : NetworkId) (node : NodeId) : Bool × PeerKeyPins :=
  (self.pins.contains (toLex (network, node)),
    { pins := self.pins.erase (toLex (network, node))
      nonzero := by
        intro n other pin h
        rw [Ordered.getElem?_erase_eq] at h
        exact self.nonzero n other pin (by grind)
      injective := by
        intro n node' other pin h h'
        rw [Ordered.getElem?_erase_eq] at h h'
        exact self.injective n node' other pin (by grind) (by grind) })

def authorize (self : PeerKeyPins) (network : NetworkId) (node : NodeId) (current_network_approval : Bool)
    (verified_peer_spki_sha256 : SpkiSha256) : Except PeerPinError Unit := do
  reject_if (network = .filled 0 ∨ node = .filled 0) .InvalidIdentity
  reject_if (current_network_approval = false) .NotApprovedForNetwork
  let expected ← ok_or (self.get network node) .UnknownEnrollment
  reject_if (expected ≠ verified_peer_spki_sha256) .FingerprintMismatch

/-- The pins in the order of their networks and nodes. -/
def entries (self : PeerKeyPins) : List (NetworkId × NodeId × SpkiSha256) :=
  self.pins.toList.map fun entry => ((ofLex entry.1).1, (ofLex entry.1).2, entry.2)

def len (self : PeerKeyPins) : Nat := self.pins.size

variable {self other : PeerKeyPins} {network : NetworkId} {node : NodeId} {pin : SpkiSha256}

theorem ext_get (h : ∀ network node pin, self.get network node = some pin ↔ other.get network node = some pin) :
    self = other := by
  have hpins : self.pins = other.pins :=
    Ordered.ext_getElem?_some fun key pin => h (ofLex key).1 (ofLex key).2 pin
  cases self
  cases other
  simpa using hpins

@[simp]
theorem get_new (network : NetworkId) (node : NodeId) : new.get network node = none := by
  simp [get, new]

theorem get_enroll {hnonzero : network ≠ .filled 0 ∧ node ≠ .filled 0}
    {hfree : ∀ other, self.get network other = some pin → other = node} (network' : NetworkId) (node' : NodeId) :
    (self.enroll network node pin hnonzero hfree).get network' node' =
      if network = network' ∧ node = node' then some pin else self.get network' node' := by
  simp [get, enroll]

/-- An enrolment that changes something finds a node without a key and a key without a node. -/
theorem enroll_verified_eq_ok_true (h : self.enroll_verified network node pin = .ok (true, other)) :
    ∃ hnonzero hfree, self.get network node = none ∧ other = self.enroll network node pin hnonzero hfree := by
  unfold enroll_verified at h
  split at h
  · cases h
  · split at h
    · cases h
    · split at h
      · split at h <;> simp at h
      · rename_i hnone
        simp only [Except.ok.injEq, Prod.mk.injEq, true_and] at h
        exact ⟨_, _, hnone, h.symm⟩

/-- An enrolment that changes nothing finds the key in its place. -/
theorem enroll_verified_eq_ok_false (h : self.enroll_verified network node pin = .ok (false, other)) :
    other = self := by
  unfold enroll_verified at h
  split at h
  · cases h
  · split at h
    · cases h
    · split at h
      · split at h
        · exact (Prod.mk.inj (Except.ok.inj h)).2.symm
        · cases h
      · simp at h

/-- A node without a key can be given one that no other node of its network has. -/
theorem enroll_verified_of_free (hnonzero : network ≠ .filled 0 ∧ node ≠ .filled 0)
    (hfree : ∀ other, self.get network other = some pin → other = node) (hnone : self.get network node = none) :
    self.enroll_verified network node pin = .ok (true, self.enroll network node pin hnonzero hfree) := by
  rw [enroll_verified, dif_neg (not_or.mpr hnonzero),
    dif_neg (Bool.not_eq_true _ ▸ conflicts_eq_false_iff.mpr hfree), hnone]

theorem get_revoke (network' : NetworkId) (node' : NodeId) :
    (self.revoke network node).2.get network' node' =
      if network = network' ∧ node = node' then none else self.get network' node' := by
  simp [get, revoke]

theorem revoke_of_get (h : self.get network node = some pin) : (self.revoke network node).1 = true :=
  Std.ExtTreeMap.contains_eq_isSome_getElem?.trans
    (by rw [show self.pins[toLex (network, node)]? = some pin from h]; rfl)

theorem authorize_eq_ok_iff {approved : Bool} {u : Unit} :
    self.authorize network node approved pin = .ok u ↔
      (network ≠ .filled 0 ∧ node ≠ .filled 0) ∧ approved = true ∧ self.get network node = some pin := by
  simp only [authorize, bind_eq_ok_iff, reject_if_eq_ok, ok_or_eq_ok, not_or, Bool.not_eq_false, not_not]
  constructor
  · rintro ⟨_, hnonzero, _, happroved, expected, hget, rfl⟩
    exact ⟨hnonzero, happroved, hget⟩
  · rintro ⟨hnonzero, happroved, hget⟩
    exact ⟨(), hnonzero, (), happroved, pin, hget, rfl⟩

end PeerKeyPins

end blueroute_protocol.peer_pin
