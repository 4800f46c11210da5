import Mathlib

/-! The parts of `std::net` and `char` that the sources use: IP addresses with their
order, their textual form and their parser. -/

namespace blueroute.net

/-- `char::is_whitespace`, the Unicode White_Space property. -/
def is_whitespace (c : Char) : Bool :=
  let code := c.toNat
  (0x09 ≤ code && code ≤ 0x0d) || (0x2000 ≤ code && code ≤ 0x200a) ||
    [0x20, 0x85, 0xa0, 0x1680, 0x2028, 0x2029, 0x202f, 0x205f, 0x3000].contains code

/-- `value.trim().is_empty()` -/
def is_blank (value : String) : Bool := value.toList.all is_whitespace

@[ext]
structure Ipv4Addr where
  bits : BitVec 32
deriving DecidableEq

@[ext]
structure Ipv6Addr where
  bits : BitVec 128
deriving DecidableEq

inductive IpAddr where
  | V4 (address : Ipv4Addr)
  | V6 (address : Ipv6Addr)
deriving DecidableEq

namespace Ipv4Addr

def new (a b c d : UInt8) : Ipv4Addr :=
  { bits := a.toBitVec ++ b.toBitVec ++ c.toBitVec ++ d.toBitVec }

def octets (address : Ipv4Addr) : List Nat :=
  [24, 16, 8, 0].map fun shift => (address.bits >>> shift).toNat % 256

def to_string (address : Ipv4Addr) : String := ".".intercalate (address.octets.map toString)

end Ipv4Addr

namespace Ipv6Addr

def segments (address : Ipv6Addr) : List Nat :=
  [112, 96, 80, 64, 48, 32, 16, 0].map fun shift => (address.bits >>> shift).toNat % 65536

def from_segments (segments : List Nat) : Ipv6Addr :=
  { bits := BitVec.ofNat 128 (segments.foldl (fun value segment => value * 65536 + segment) 0) }

/-- The start and the length of the first longest run of zero segments. -/
def longest_zeroes : List Nat → Nat → Nat × Nat → Nat × Nat → Nat × Nat
  | [], _, longest, _ => longest
  | segment :: rest, index, longest, current =>
    if segment = 0 then
      let current := (if current.2 = 0 then index else current.1, current.2 + 1)
      longest_zeroes rest (index + 1) (if current.2 > longest.2 then current else longest) current
    else
      longest_zeroes rest (index + 1) longest (0, 0)

def fmt_subslice (segments : List Nat) : String :=
  ":".intercalate (segments.map fun segment => String.ofList (Nat.toDigits 16 segment))

def to_string (address : Ipv6Addr) : String :=
  if address.bits.toNat / 2 ^ 32 = 0xffff then
    "::ffff:" ++ Ipv4Addr.to_string { bits := address.bits.setWidth 32 }
  else
    let (start, length) := longest_zeroes address.segments 0 (0, 0) (0, 0)
    if length > 1 then
      fmt_subslice (address.segments.take start) ++ "::" ++
        fmt_subslice (address.segments.drop (start + length))
    else
      fmt_subslice address.segments

end Ipv6Addr

/-! The recursive-descent parser behind `IpAddr::from_str`: a reader returns its value
and the input that it has not read. -/

def Reader (α : Type) := List Char → Option (α × List Char)

def to_digit (radix : Nat) (c : Char) : Option Nat :=
  let code := c.toNat
  let digit :=
    if 48 ≤ code ∧ code ≤ 57 then some (code - 48)
    else if 97 ≤ code ∧ code ≤ 122 then some (code - 87)
    else if 65 ≤ code ∧ code ≤ 90 then some (code - 55)
    else none
  digit.filter (· < radix)

/-- The digit loop of `read_number`: the digit count, the value and the unread input. -/
def read_digits (radix max_digits bound : Nat) : Nat → Nat → List Char → Option (Nat × Nat × List Char)
  | count, value, [] => some (count, value, [])
  | count, value, c :: rest =>
    match to_digit radix c with
    | none => some (count, value, c :: rest)
    | some digit =>
      if value * radix + digit < bound ∧ count + 1 ≤ max_digits then
        read_digits radix max_digits bound (count + 1) (value * radix + digit) rest
      else none

def read_number (radix max_digits : Nat) (allow_leading_zero : Bool) (bound : Nat) : Reader Nat :=
  fun input =>
    match read_digits radix max_digits bound 0 0 input with
    | none => none
    | some (count, value, rest) =>
      if count = 0 then none
      else if !allow_leading_zero && input.head? == some '0' && count > 1 then none
      else some (value, rest)

def read_given_char (target : Char) : Reader Unit
  | [] => none
  | c :: rest => if c = target then some ((), rest) else none

/-- Reads a separator before every element but the first. -/
def read_separator {α : Type} (separator : Char) (index : Nat) (inner : Reader α) : Reader α :=
  fun input =>
    if index > 0 then (read_given_char separator input).bind fun read => inner read.2
    else inner input

def read_ipv4_addr : Reader Ipv4Addr := fun input => do
  let (a, input) ← read_separator '.' 0 (read_number 10 3 false 256) input
  let (b, input) ← read_separator '.' 1 (read_number 10 3 false 256) input
  let (c, input) ← read_separator '.' 2 (read_number 10 3 false 256) input
  let (d, input) ← read_separator '.' 3 (read_number 10 3 false 256) input
  some (.new (.ofNat a) (.ofNat b) (.ofNat c) (.ofNat d), input)

/-- Reads up to `slots` more groups of a slice of `limit`, and says whether the last two
came from an embedded IPv4 address. -/
def read_groups (limit : Nat) : Nat → List Nat → List Char → List Nat × Bool × List Char
  | 0, groups, input => (groups, false, input)
  | slots + 1, groups, input =>
    let index := groups.length
    let ipv4 := if index < limit - 1 then read_separator ':' index read_ipv4_addr input else none
    match ipv4 with
    | some (address, rest) => (groups ++ [address.bits.toNat / 65536, address.bits.toNat % 65536], true, rest)
    | none =>
      match read_separator ':' index (read_number 16 4 true 65536) input with
      | some (group, rest) => read_groups limit slots (groups ++ [group]) rest
      | none => (groups, false, input)

def read_ipv6_addr : Reader Ipv6Addr := fun input =>
  let (head, head_ipv4, rest) := read_groups 8 8 [] input
  if head.length = 8 then some (Ipv6Addr.from_segments head, rest)
  else if head_ipv4 then none
  else do
    let ((), rest) ← read_given_char ':' rest
    let ((), rest) ← read_given_char ':' rest
    let limit := 8 - (head.length + 1)
    let (tail, _, rest) := read_groups limit limit [] rest
    some (Ipv6Addr.from_segments
      (head ++ List.replicate (8 - head.length - tail.length) 0 ++ tail), rest)

namespace IpAddr

def is_ipv4 : IpAddr → Bool
  | V4 _ => true
  | V6 _ => false

def to_string : IpAddr → String
  | V4 address => address.to_string
  | V6 address => address.to_string

/-- `IpAddr::from_str`; the error is the text of `AddrParseError`. -/
def from_str (value : String) : Except String IpAddr :=
  let read : Option (IpAddr × List Char) := match read_ipv4_addr value.toList with
    | some (address, rest) => some (V4 address, rest)
    | none => (read_ipv6_addr value.toList).map (Prod.map V6 id)
  match read with
  | some (address, []) => .ok address
  | _ => .error "invalid IP address syntax"

/-- The derived order: IPv4 before IPv6, and each by its value. -/
def key : IpAddr → ℕ ×ₗ ℕ
  | V4 address => toLex (0, address.bits.toNat)
  | V6 address => toLex (1, address.bits.toNat)

theorem key_injective : Function.Injective key := by
  rintro (left | left) (right | right) h
  · have hbits : left.bits.toNat = right.bits.toNat := congrArg (fun k => (ofLex k).2) h
    exact congrArg V4 (Ipv4Addr.ext (BitVec.eq_of_toNat_eq hbits))
  · exact absurd (congrArg (fun k => (ofLex k).1) h) (by simp [key])
  · exact absurd (congrArg (fun k => (ofLex k).1) h) (by simp [key])
  · have hbits : left.bits.toNat = right.bits.toNat := congrArg (fun k => (ofLex k).2) h
    exact congrArg V6 (Ipv6Addr.ext (BitVec.eq_of_toNat_eq hbits))

instance : LinearOrder IpAddr :=
  LinearOrder.lift' key key_injective

end IpAddr

section RoundTrip

/-- Digits are read up to the end of their text, whatever follows that is no digit. -/
theorem read_digits_append {radix max_digits bound count value : Nat} {digits rest : List Char}
    (hrest : ∀ c ∈ rest.head?, to_digit radix c = none) :
    read_digits radix max_digits bound count value (digits ++ rest) =
      (read_digits radix max_digits bound count value digits).map fun read => (read.1, read.2.1, read.2.2 ++ rest) := by
  induction digits generalizing count value with
  | nil =>
    cases rest with
    | nil => rfl
    | cons c rest =>
      have hc := hrest c rfl
      simp only [List.nil_append, read_digits, hc, Option.map_some]
  | cons c digits ih =>
    rw [List.cons_append, read_digits, read_digits]
    cases to_digit radix c with
    | none => rfl
    | some digit =>
      simp only []
      split
      · exact ih
      · rfl

theorem read_number_append {radix max_digits bound : Nat} {zero : Bool} {digits rest : List Char}
    (hdigits : digits ≠ [])
    (hrest : ∀ c ∈ rest.head?, to_digit radix c = none) :
    read_number radix max_digits zero bound (digits ++ rest) =
      (read_number radix max_digits zero bound digits).map fun read => (read.1, read.2 ++ rest) := by
  rw [read_number, read_number, read_digits_append hrest, List.head?_append_of_ne_nil _ hdigits]
  cases read_digits radix max_digits bound 0 0 digits with
  | none => rfl
  | some read =>
    obtain ⟨count, value, unread⟩ := read
    simp only [Option.map_some]
    split
    · rfl
    · split <;> rfl

theorem read_number_octet {octet : Nat} (h : octet < 256) {rest : List Char}
    (hrest : ∀ c ∈ rest.head?, to_digit 10 c = none) :
    read_number 10 3 false 256 (Nat.toDigits 10 octet ++ rest) = some (octet, rest) := by
  have hall : ∀ octet : Fin 256, read_number 10 3 false 256 (Nat.toDigits 10 octet) = some (octet.val, []) := by
    decide +kernel
  rw [read_number_append Nat.toDigits_ne_nil hrest, hall ⟨octet, h⟩]
  rfl

namespace Ipv4Addr

theorem toList_to_string (address : Ipv4Addr) :
    address.to_string.toList =
      Nat.toDigits 10 ((address.bits >>> 24).toNat % 256) ++
        '.' :: (Nat.toDigits 10 ((address.bits >>> 16).toNat % 256) ++
        '.' :: (Nat.toDigits 10 ((address.bits >>> 8).toNat % 256) ++
          '.' :: Nat.toDigits 10 ((address.bits >>> 0).toNat % 256))) := by
  rw [to_string, String.toList_intercalate]
  simp [octets, List.intercalate, Nat.toList_repr, -BitVec.ushiftRight_zero]

theorem new_octets (bits : BitVec 32) :
    Ipv4Addr.new (.ofNat ((bits >>> 24).toNat % 256)) (.ofNat ((bits >>> 16).toNat % 256))
      (.ofNat ((bits >>> 8).toNat % 256)) (.ofNat ((bits >>> 0).toNat % 256)) = { bits } := by
  rw [Ipv4Addr.ext_iff]
  apply BitVec.eq_of_toNat_eq
  have hbits := bits.isLt
  simp only [Ipv4Addr.new, BitVec.toNat_append, UInt8.toNat_toBitVec, UInt8.toNat_ofNat', BitVec.toNat_ushiftRight,
    Nat.shiftRight_eq_div_pow]
  rw [← Nat.shiftLeft_add_eq_or_of_lt, ← Nat.shiftLeft_add_eq_or_of_lt, ← Nat.shiftLeft_add_eq_or_of_lt]
  simp only [Nat.shiftLeft_eq]
  all_goals omega

/-- The text of an IPv4 address is read back as that address. -/
theorem from_str_to_string (address : Ipv4Addr) : IpAddr.from_str address.to_string = .ok (.V4 address) := by
  have hdot : ∀ {rest : List Char}, ∀ c ∈ ('.' :: rest).head?, to_digit 10 c = none := by
    rintro rest _ ⟨⟩
    decide
  have hoctet : ∀ shift : Nat, (address.bits >>> shift).toNat % 256 < 256 := fun shift => Nat.mod_lt _ (by decide)
  have hread : read_ipv4_addr address.to_string.toList = some (address, []) := by
    rw [Ipv4Addr.toList_to_string, read_ipv4_addr]
    simp only [read_separator, gt_iff_lt, lt_irrefl, if_false, Nat.one_pos, Nat.ofNat_pos, if_true, read_given_char,
      read_number_octet (hoctet _) hdot, Option.bind_eq_bind, Option.bind_some]
    have hlast := read_number_octet (hoctet 0) (fun c (hc : c ∈ ([] : List Char).head?) => by cases hc)
    rw [List.append_nil] at hlast
    rw [hlast, Option.bind_some, Ipv4Addr.new_octets]
  rw [IpAddr.from_str, hread]

end Ipv4Addr

end RoundTrip

example : IpAddr.from_str "10.201.44.99" = .ok (.V4 (.new 10 201 44 99)) := by decide

example : IpAddr.from_str "fe80::7" = .ok (.V6 { bits := 0xfe80#16 ++ 7#112 }) := by decide

end blueroute.net
