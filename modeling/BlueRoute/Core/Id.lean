import BlueRoute.Base.Fallible
import BlueRoute.Base.Text
import BlueRoute.Core.Error
import BlueRoute.Core.Net

namespace blueroute

open Fallible

/-- The identifier types that the source generates with `define_id!`. -/
inductive IdKind where
  | Node
  | Network
  | Link
  | Segment

/-- Sixteen identity bytes, tagged with the kind of thing they identify. -/
structure Id (kind : IdKind) where
  bytes : Vector UInt8 16

/-- Stable authorization identity for a BlueRoute node. -/
abbrev NodeId := Id .Node

/-- Stable identity for a logical BlueRoute network. -/
abbrev NetworkId := Id .Network

/-- Stable identity for a BlueRoute PAN link observation. -/
abbrev LinkId := Id .Link

/-- Stable identity for a routed PAN segment. -/
abbrev SegmentId := Id .Segment

namespace Id

variable {kind : IdKind}

def from_bytes (bytes : Vector UInt8 16) : Id kind := { bytes }

def as_bytes (self : Id kind) : Vector UInt8 16 := self.bytes

/-- Sixteen copies of one byte. -/
def filled (byte : UInt8) : Id kind := from_bytes (Vector.replicate 16 byte)

/-- The derived Rust order compares the arrays lexicographically. -/
def octets (self : Id kind) : List Nat := self.bytes.toList.map UInt8.toNat

theorem octets_injective : Function.Injective (@octets kind) := by
  intro left right h
  have hmap : Function.Injective UInt8.toNat := fun _ _ => UInt8.toNat.inj
  have hlist := List.map_injective_iff.mpr hmap h
  cases left
  cases right
  simpa [Vector.toList_inj] using hlist

instance : LinearOrder (Id kind) :=
  LinearOrder.lift' octets octets_injective

instance (priority := high) transCmp_compare : Std.TransCmp (compare : Id kind → Id kind → Ordering) :=
  inferInstance

instance (priority := high) lawfulEqCmp_compare : Std.LawfulEqCmp (compare : Id kind → Id kind → Ordering) :=
  inferInstance

/-- The lower-case hexadecimal rendering used by `Display`. -/
def encode_hex (bytes : Vector UInt8 16) : String :=
  String.ofList (bytes.toList.flatMap fun (byte : UInt8) =>
    [Nat.digitChar (byte >>> 4).toNat, Nat.digitChar (byte &&& 0x0f).toNat])

def to_string (self : Id kind) : String := encode_hex self.bytes

def decode_nibble (value : UInt8) : Option UInt8 :=
  if 48 ≤ value ∧ value ≤ 57 then some (value - 48)
  else if 97 ≤ value ∧ value ≤ 102 then some (value - 97 + 10)
  else if 65 ≤ value ∧ value ≤ 70 then some (value - 65 + 10)
  else none

def decode_hex (value : String) : Result (Vector UInt8 16) := do
  let input := Text.bytes value
  reject_if (input.length ≠ 32) (.new .InvalidInput "identifier must contain exactly 32 hexadecimal characters")
  ok_or (Text.unhex decode_nibble 16 input) (.new .InvalidInput "identifier contains non-hexadecimal data")

def parse (value : String) : Result (Id kind) := (decode_hex value).map from_bytes

theorem decode_nibble_digit_byte {digit : UInt8} (h : digit < 16) :
    decode_nibble (Text.digit_byte digit) = some digit :=
  Text.forall_digit (P := fun digit => decode_nibble (Text.digit_byte digit) = some digit) (by decide) h

theorem parse_to_string (self : Id kind) : parse self.to_string = .ok self := by
  have hlength : (Text.bytes self.to_string).length = 32 :=
    (Text.length_bytes_hex self.bytes.toList).trans (by simp)
  have hunhex : Text.unhex decode_nibble 16 (Text.bytes self.to_string) = some self.bytes :=
    Text.unhex_bytes_hex (fun _ => decode_nibble_digit_byte) self.bytes
  simp only [parse, decode_hex, hlength, hunhex]
  rfl

theorem notMem_to_string {c : Char} (h : ∀ n : Fin 16, c ≠ Nat.digitChar n) (self : Id kind) :
    c ∉ self.to_string.toList := by
  rw [show self.to_string = String.ofList (Text.hex self.bytes.toList) from rfl, String.toList_ofList]
  exact Text.notMem_hex h _

/-- A character that stands for no digit is not in the text of an identifier. -/
theorem notMem_of_parse {value : String} {self : Id kind} (h : parse value = .ok self) {c : Char} {byte : UInt8}
    (hbyte : byte ∈ String.utf8EncodeChar c) (hnone : decode_nibble byte = none) : c ∉ value.toList := by
  have hdecode : decode_hex value = .ok self.bytes := by
    unfold parse at h
    obtain ⟨bytes, hbytes⟩ | ⟨error, herror⟩ : (∃ bytes, decode_hex value = .ok bytes) ∨
        ∃ error, decode_hex value = .error error := by
      cases decode_hex value <;> simp
    · rw [hbytes] at h
      rw [hbytes, ← Except.ok.inj h]
      rfl
    · rw [herror] at h
      cases h
  simp only [decode_hex, bind_eq_ok_iff, ok_or_eq_ok, Text.unhex, Option.bind_eq_bind,
    Option.bind_eq_some_iff] at hdecode
  obtain ⟨_, _, values, hpairs, _⟩ := hdecode
  exact Text.notMem_of_pairs hpairs hbyte hnone

end Id

/-- The control characters, and the marks that reorder or break a displayed line. -/
def is_control_or_bidi (c : Char) : Bool :=
  let point := c.toNat
  Text.is_control c || point = 0x061c || point = 0x200e || point = 0x200f || (0x2028 ≤ point && point ≤ 0x202e) ||
    (0x2066 ≤ point && point ≤ 0x2069)

/-- A user-editable presentation name that is intentionally separate from identity. -/
structure DisplayName where
  as_str : String
  safe : ∀ c ∈ as_str.toList, ¬ is_control_or_bidi c
  trimmed : Text.trim net.is_whitespace as_str.toList = as_str.toList
  not_empty : as_str.toList ≠ []
  bounded : as_str.toList.length ≤ 64

namespace DisplayName

/-- A name as a user could give it. -/
def lab : DisplayName where
  as_str := "Lab"
  safe := by
    simp
    decide
  trimmed := by
    simp
    decide
  not_empty := by decide
  bounded := by decide

def MAX_CHARS : Nat := 64

def new (value : String) : Result DisplayName :=
  if hsafe : ∃ c ∈ value.toList, is_control_or_bidi c then
    .error (.new .InvalidInput "display name contains control or bidirectional formatting characters")
  else
    let trimmed := Text.trim net.is_whitespace value.toList
    if hempty : trimmed.length = 0 then
      .error (.new .InvalidInput "display name cannot be empty")
    else if hlong : trimmed.length > MAX_CHARS then
      .error (.new .InvalidInput s!"display name cannot exceed {MAX_CHARS} characters")
    else
      .ok
        { as_str := String.ofList trimmed
          safe := by
            intro c hc hbad
            rw [String.toList_ofList] at hc
            exact hsafe ⟨c, Text.mem_of_mem_trim hc, hbad⟩
          trimmed := by rw [String.toList_ofList, Text.trim_trim]
          not_empty := by
            rw [String.toList_ofList]
            exact fun hnil => hempty (List.length_eq_zero_iff.mpr hnil)
          bounded := by
            rw [String.toList_ofList]
            exact not_lt.mp hlong }

/-- A name is a fixed point of its own check. -/
theorem new_as_str (self : DisplayName) : new self.as_str = .ok self := by
  have hsafe : ¬ ∃ c ∈ self.as_str.toList, is_control_or_bidi c := fun ⟨c, hc, hbad⟩ => self.safe c hc hbad
  have hempty : ¬ self.as_str.toList.length = 0 := fun hlength =>
    self.not_empty (List.length_eq_zero_iff.mp hlength)
  simp only [new, dif_neg hsafe, self.trimmed, dif_neg hempty, dif_neg (not_lt.mpr self.bounded : ¬ _ > MAX_CHARS),
    String.ofList_toList]

end DisplayName

end blueroute
