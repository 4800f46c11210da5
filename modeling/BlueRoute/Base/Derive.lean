import BlueRoute.Base.Json

/-! How derived readers and writers of records and enumerations go between values and JSON trees, and the schema
that a tree keeps to when its objects have declared keys only. -/

namespace Derive

open Json (Tree)

variable {α β : Type}

section Read

/-- The fields among the entries of an object, each at most once. Keys that are no field are refused by a strict
record and skipped by another. -/
def keyed (strict : Bool) (names : List String) (entries : List (String × Tree)) : Option (String → Option Tree) :=
  if strict ∧ ∃ entry ∈ entries, entry.1 ∉ names then none
  else if ((entries.map Prod.fst).filter (· ∈ names)).Nodup then some fun name => entries.lookup name
  else none

/-- The fields of a record by their names. An object gives some of them in any order, an array all of them in the
order of their names. -/
def record (strict : Bool) (names : List String) : Tree → Option (String → Option Tree)
  | .object entries => keyed strict names entries
  | .array items => if items.length = names.length then some fun name => (names.zip items).lookup name else none
  | _ => none

/-- The fields of a variant whose enumeration is tagged beside it; there is no array form of these. -/
def variant_record (strict : Bool) (names : List String) : Tree → Option (String → Option Tree)
  | .object entries => keyed strict names entries
  | _ => none

/-- A field that may be left out or null. -/
def optional (read : Tree → Option α) : Option Tree → Option (Option α)
  | none => some none
  | some .null => some none
  | some tree => (read tree).map some

def boolean : Tree → Option Bool
  | .bool value => some value
  | _ => none

def text : Tree → Option String
  | .string value => some value
  | _ => none

/-- A natural number below a bound. -/
def natural (bound : Nat) : Tree → Option Nat
  | .number value => if value < bound then some value else none
  | _ => none

def u8 (tree : Tree) : Option UInt8 := (natural (2 ^ 8) tree).map UInt8.ofNat

def u16 (tree : Tree) : Option UInt16 := (natural (2 ^ 16) tree).map UInt16.ofNat

def u64 (tree : Tree) : Option UInt64 := (natural (2 ^ 64) tree).map UInt64.ofNat

def list (read : Tree → Option α) : Tree → Option (List α)
  | .array items => items.mapM read
  | _ => none

/-- The items of an array of fixed length. -/
def vector (n : Nat) (read : Tree → Option α) (tree : Tree) : Option (Vector α n) :=
  (list read tree).bind fun items => if h : items.length = n then some ⟨items.toArray, by simp [h]⟩ else none

/-- The variant that an externally tagged enumeration names, with the content if there is one. -/
def variant : Tree → Option (String × Option Tree)
  | .string name => some (name, none)
  | .object [(name, content)] => some (name, some content)
  | _ => none

/-- The content of a variant without fields. A reader of buffered content also takes an empty object. -/
def unit (buffered : Bool) : Option Tree → Option Unit
  | none => some ()
  | some .null => some ()
  | some (.object []) => if buffered then some () else none
  | some _ => none

/-- The tag and the content of an enumeration tagged beside its content. Content that stands before the tag is
buffered until the tag is known. -/
def tagged (tag content : String) : Tree → Option (Bool × Tree × Option Tree)
  | .object [(key, value)] => if key = tag then some (false, value, none) else none
  | .object [(key, value), (key', value')] =>
    if key = tag ∧ key' = content then some (false, value, some value')
    else if key = content ∧ key' = tag then some (true, value', some value)
    else none
  | .array [value, value'] => some (false, value, some value')
  | _ => none

end Read

section Write

/-- A field that is written as null when there is no value. -/
def nullable (write : α → Tree) : Option α → Tree
  | none => .null
  | some value => write value

end Write

section RoundTrip

variable {names : List String} {values : List Tree}

variable {strict : Bool} {write : α → Tree}

theorem keyed_zip (hlength : names.length = values.length) (hnodup : names.Nodup) :
    keyed strict names (names.zip values) = some fun name => (names.zip values).lookup name := by
  have hkeys : (names.zip values).map Prod.fst = names := List.map_fst_zip hlength.le
  have hknown : ¬ (strict = true ∧ ∃ entry ∈ names.zip values, entry.1 ∉ names) := by
    rintro ⟨-, entry, hentry, hunknown⟩
    exact hunknown (List.of_mem_zip hentry).1
  have hfilter : names.filter (· ∈ names) = names := List.filter_eq_self.mpr fun name hname => by simpa using hname
  rw [keyed, if_neg hknown, hkeys, hfilter, if_pos hnodup]

/-- A record that is written with all its fields is read field by field. -/
theorem record_zip (hlength : names.length = values.length) (hnodup : names.Nodup) :
    record strict names (.object (names.zip values)) = some fun name => (names.zip values).lookup name :=
  keyed_zip hlength hnodup

theorem variant_record_zip (hlength : names.length = values.length) (hnodup : names.Nodup) :
    variant_record strict names (.object (names.zip values)) = some fun name => (names.zip values).lookup name :=
  keyed_zip hlength hnodup

/-- A field that is written is found at its place. -/
theorem lookup_zip (hnodup : names.Nodup) {i : Nat} {name : String} {value : Tree} (hname : names[i]? = some name)
    (hvalue : values[i]? = some value) :
    (names.zip values).lookup name = some value := by
  induction names generalizing values i with
  | nil => simp at hname
  | cons first names ih =>
    cases values with
    | nil => simp at hvalue
    | cons head values =>
      rw [List.zip_cons_cons]
      cases i with
      | zero =>
        obtain rfl := Option.some.inj hname
        obtain rfl := Option.some.inj hvalue
        exact List.lookup_cons_self
      | succ i =>
        have hmem : name ∈ names := List.mem_of_getElem? hname
        have hne : (name == first) = false := beq_eq_false_iff_ne.mpr fun h =>
          (List.nodup_cons.mp hnodup).1 (h ▸ hmem)
        rw [List.lookup_cons, hne]
        exact ih (List.nodup_cons.mp hnodup).2 hname hvalue

theorem optional_nullable {read : Tree → Option β} {f : α → β} {value : Option α}
    (hread : ∀ a ∈ value, read (write a) = some (f a)) (hwrite : ∀ a, write a ≠ .null) :
    optional read (some (nullable write value)) = some (value.map f) := by
  cases value with
  | none => rfl
  | some a =>
    have hsome : optional read (some (write a)) = (read (write a)).map some := by
      rw [optional]
      exact hwrite a
    rw [nullable, hsome, hread a rfl, Option.map_some, Option.map_some]

@[simp]
theorem boolean_bool (value : Bool) : boolean (.bool value) = some value := rfl

@[simp]
theorem text_string (value : String) : text (.string value) = some value := rfl

theorem natural_number {bound value : Nat} (h : value < bound) : natural bound (.number value) = some value :=
  if_pos h

@[simp]
theorem u8_number (value : UInt8) : u8 (.number value.toNat) = some value := by
  rw [u8, natural_number value.toNat_lt, Option.map_some, UInt8.ofNat_toNat]

@[simp]
theorem u16_number (value : UInt16) : u16 (.number value.toNat) = some value := by
  rw [u16, natural_number value.toNat_lt, Option.map_some, UInt16.ofNat_toNat]

@[simp]
theorem u64_number (value : UInt64) : u64 (.number value.toNat) = some value := by
  rw [u64, natural_number value.toNat_lt, Option.map_some, UInt64.ofNat_toNat]

theorem list_array {read : Tree → Option α} (hread : ∀ a, read (write a) = some a) (items : List α) :
    list read (.array (items.map write)) = some items := by
  induction items with
  | nil => rfl
  | cons item items ih =>
    rw [list] at ih ⊢
    rw [List.map_cons, List.mapM_cons, hread, ih]
    rfl

theorem vector_array {n : Nat} {read : Tree → Option α} (hread : ∀ a, read (write a) = some a) (items : Vector α n) :
    vector n read (.array (items.toList.map write)) = some items := by
  rw [vector, list_array hread, Option.bind_some, dif_pos (by simp)]
  exact congrArg some (Vector.toArray_inj.mp (Array.toArray_toList))

end RoundTrip

end Derive
