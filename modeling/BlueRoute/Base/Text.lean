import Mathlib

/-! Texts that are kept in files: their bytes, their lines and fields, and bytes as hexadecimal. -/

namespace Text

/-- The UTF-8 bytes of a text. -/
def bytes (text : String) : List UInt8 := text.toList.flatMap String.utf8EncodeChar

/-- The text that the bytes encode, if they are UTF-8. -/
def from_utf8 (encoded : List UInt8) : Option String := String.fromUTF8? encoded.toByteArray

/-- The bounds of the bytes that follow the first byte of a character. -/
def utf8_rest (first : UInt8) : Option (List (UInt8 × UInt8)) :=
  let tail := (0x80, 0xbf)
  if first < 0x80 then some []
  else if first < 0xc2 then none
  else if first < 0xe0 then some [tail]
  else if first = 0xe0 then some [(0xa0, 0xbf), tail]
  else if first = 0xed then some [(0x80, 0x9f), tail]
  else if first < 0xf0 then some [tail, tail]
  else if first = 0xf0 then some [(0x90, 0xbf), tail, tail]
  else if first < 0xf4 then some [tail, tail, tail]
  else if first = 0xf4 then some [(0x80, 0x8f), tail, tail]
  else none

/-- What the standard library says of bytes that are not UTF-8, `seen` bytes into the character at `start`. -/
def utf8_error (start seen : Nat) (expected : List (UInt8 × UInt8)) : List UInt8 → String
  | [] => s!"incomplete utf-8 byte sequence from index {start}"
  | byte :: rest =>
    match expected with
    | [] =>
      let start := start + seen
      match utf8_rest byte with
      | none => s!"invalid utf-8 sequence of 1 bytes from index {start}"
      | some expected => utf8_error start 1 expected rest
    | (low, high) :: expected =>
      if low ≤ byte ∧ byte ≤ high then utf8_error start (seen + 1) expected rest
      else s!"invalid utf-8 sequence of {seen} bytes from index {start}"

theorem from_utf8_bytes (text : String) : from_utf8 (bytes text) = some text := by
  have hbytes : (bytes text).toByteArray = text.toByteArray := by
    rw [bytes, ← List.utf8Encode, String.utf8Encode_toList]
  rw [from_utf8, hbytes]
  simp only [String.fromUTF8?, text.isValidUTF8, dite_true]
  rfl

theorem bytes_append (left right : String) : bytes (left ++ right) = bytes left ++ bytes right := by
  rw [bytes, String.toList_append, List.flatMap_append]
  rfl

theorem map_ofList_toList (texts : List String) : (texts.map String.toList).map String.ofList = texts := by
  have hid : String.ofList ∘ String.toList = id := funext fun _ => String.ofList_toList
  rw [List.map_map, hid, List.map_id]

section Lines

/-- A line that a newline ended, without the carriage return before it. -/
def strip_return (line : List Char) : List Char :=
  if line.getLast? = some '\r' then line.dropLast else line

/-- The lines of a text. A final newline ends the last line and starts no new one. -/
def lines (text : String) : List String :=
  let pieces := text.toList.splitOn '\n'
  let last := pieces.getLastD []
  (pieces.dropLast.map strip_return ++ if last = [] then [] else [last]).map String.ofList

/-- The fields of a line. -/
def split (separator : Char) (line : String) : List String :=
  (line.toList.splitOn separator).map String.ofList

/-- The text with the given lines, each ended by a newline. -/
def unlines (contents : List String) : String :=
  String.ofList (contents.flatMap fun line => line.toList ++ ['\n'])

theorem splitOn_unlines {contents : List (List Char)} (h : ∀ line ∈ contents, '\n' ∉ line) :
    (contents.flatMap fun line => line ++ ['\n']).splitOn '\n' = contents ++ [[]] := by
  induction contents with
  | nil => rfl
  | cons line rest ih =>
    rw [List.flatMap_cons, List.append_assoc, List.singleton_append,
      List.splitOn_append_cons_self_of_not_mem (h line List.mem_cons_self),
      ih fun other hother => h other (List.mem_cons_of_mem _ hother), List.cons_append]

variable {contents : List String} {line : String} {c separator : Char}

/-- Lines are read back as they were written, except that a carriage return at their end becomes a part
of the line end. -/
theorem lines_unlines_eq_map (h : ∀ line ∈ contents, '\n' ∉ line.toList) :
    lines (unlines contents) = contents.map fun line => String.ofList (strip_return line.toList) := by
  have hsplit : (unlines contents).toList.splitOn '\n' = contents.map String.toList ++ [[]] := by
    rw [unlines, String.toList_ofList, ← splitOn_unlines, List.flatMap_map]
    simpa using h
  simp only [lines, hsplit, List.dropLast_concat, List.getLastD_concat, if_true, List.append_nil, List.map_map]
  rfl

/-- A line that ends in a carriage return which is not a part of its line end. -/
def EndsInReturn (line : String) : Prop := line.toList.getLast? = some '\r'

theorem strip_return_of_not_ends (h : ¬ EndsInReturn line) : String.ofList (strip_return line.toList) = line := by
  unfold EndsInReturn at h
  rw [strip_return, if_neg h, String.ofList_toList]

theorem map_strip_return (h : ∀ line ∈ contents, ¬ EndsInReturn line) :
    (contents.map fun line => String.ofList (strip_return line.toList)) = contents := by
  conv_rhs => rw [← List.map_id contents]
  exact List.map_congr_left fun line hline => strip_return_of_not_ends (h line hline)

/-- Lines without line ends in them are read back as they were written. -/
theorem lines_unlines (h : ∀ line ∈ contents, '\n' ∉ line.toList ∧ '\r' ∉ line.toList) :
    lines (unlines contents) = contents := by
  rw [lines_unlines_eq_map fun line hline => (h line hline).1]
  exact map_strip_return fun line hline hends => (h line hline).2 (List.mem_of_getLast? hends)

theorem notMem_of_mem_splitOn {text piece : List Char} (h : piece ∈ text.splitOn c) : c ∉ piece := by
  induction text generalizing piece with
  | nil =>
    rw [List.splitOn_nil, List.mem_singleton] at h
    rw [h]
    exact List.not_mem_nil
  | cons x text ih =>
    rw [List.splitOn_cons_eq_if_modifyHead] at h
    split at h
    · obtain rfl | hrest := List.mem_cons.mp h
      · exact List.not_mem_nil
      · exact ih hrest
    · rename_i hother
      obtain ⟨head, rest, hpieces⟩ := List.exists_cons_of_ne_nil (List.splitOn_ne_nil c text)
      rw [hpieces, List.modifyHead_cons] at h
      obtain rfl | hrest := List.mem_cons.mp h
      · rintro (_ | ⟨_, hin⟩)
        · exact hother (beq_self_eq_true _)
        · exact ih (hpieces ▸ List.mem_cons_self) hin
      · exact ih (hpieces ▸ List.mem_cons_of_mem _ hrest)

theorem notMem_of_mem_lines {text : String} (h : line ∈ lines text) : '\n' ∉ line.toList := by
  obtain ⟨chars, hchars, rfl⟩ := List.mem_map.mp h
  rw [String.toList_ofList]
  obtain hinner | hlast := List.mem_append.mp hchars
  · obtain ⟨piece, hpiece, rfl⟩ := List.mem_map.mp hinner
    intro hin
    refine notMem_of_mem_splitOn (List.mem_of_mem_dropLast hpiece) ?_
    unfold strip_return at hin
    split at hin
    · exact List.mem_of_mem_dropLast hin
    · exact hin
  · split at hlast
    · cases hlast
    · rename_i hne
      obtain rfl := List.mem_singleton.mp hlast
      have hmem : (text.toList.splitOn '\n').getLastD [] ∈ text.toList.splitOn '\n' := by
        rw [List.getLastD_eq_getLast?, List.getLast?_eq_some_getLast (List.splitOn_ne_nil _ _), Option.getD_some]
        exact List.getLast_mem _
      exact notMem_of_mem_splitOn hmem

theorem length_bytes_unlines (contents : List String) :
    (bytes (unlines contents)).length = (contents.map fun line => (bytes line).length + 1).sum := by
  rw [bytes, unlines, String.toList_ofList, List.flatMap_assoc, List.length_flatMap]
  congr 1
  refine List.map_congr_left fun line _ => ?_
  have hnewline : ['\n'].flatMap String.utf8EncodeChar = [10] := by decide
  rw [List.flatMap_append, List.length_append, hnewline]
  rfl

/-- Fields without separators in them are read back as they were written. -/
theorem split_intercalate {fields : List String} (hne : fields ≠ [])
    (h : ∀ field ∈ fields, separator ∉ field.toList) :
    split separator (String.ofList ([separator].intercalate (fields.map String.toList))) = fields := by
  rw [split, String.toList_ofList, List.splitOn_intercalate _ (by simpa using h) (by simpa using hne),
    map_ofList_toList]

theorem mem_intercalate {pieces : List (List Char)} (h : c ∈ [separator].intercalate pieces) :
    c = separator ∨ ∃ piece ∈ pieces, c ∈ piece := by
  induction pieces with
  | nil => exact absurd h List.not_mem_nil
  | cons piece rest ih =>
    obtain rfl | hne := eq_or_ne rest []
    · rw [List.intercalate_singleton] at h
      exact .inr ⟨piece, List.mem_cons_self, h⟩
    · rw [List.intercalate_cons_of_ne_nil hne, List.append_assoc, List.mem_append, List.mem_append] at h
      obtain hpiece | hseparator | hrest := h
      · exact .inr ⟨piece, List.mem_cons_self, hpiece⟩
      · exact .inl (List.mem_singleton.mp hseparator)
      · exact (ih hrest).imp_right fun ⟨other, hother, hc⟩ => ⟨other, List.mem_cons_of_mem _ hother, hc⟩

/-- A character of a line that separates no fields is in one of them. -/
theorem exists_mem_split (h : c ∈ line.toList) (hne : c ≠ separator) :
    ∃ field ∈ split separator line, c ∈ field.toList := by
  have hjoin : [separator].intercalate (line.toList.splitOn separator) = line.toList :=
    List.intercalate_splitOn separator
  rw [← hjoin] at h
  obtain ⟨piece, hpiece, hc⟩ := (mem_intercalate h).resolve_left hne
  exact ⟨String.ofList piece, List.mem_map_of_mem hpiece, by rwa [String.toList_ofList]⟩

end Lines

section Trim

/-- The control characters of Unicode. -/
def is_control (c : Char) : Bool :=
  let point := c.toNat
  point ≤ 0x1f || (0x7f ≤ point && point ≤ 0x9f)

/-- A text without the blanks around it. -/
def trim (blank : Char → Bool) (text : List Char) : List Char :=
  (text.dropWhile blank).rdropWhile blank

variable {blank : Char → Bool}

theorem trim_append (text : List Char) :
    trim blank text ++ (text.dropWhile blank).rtakeWhile blank = text.dropWhile blank :=
  List.rdropWhile_append_rtakeWhile

theorem mem_of_mem_trim {c : Char} {text : List Char} (h : c ∈ trim blank text) : c ∈ text := by
  apply (List.dropWhile_sublist blank).subset
  rw [← trim_append text]
  exact List.mem_append_left _ h

theorem dropWhile_of_append {α : Type} {p : α → Bool} {kept rest : List α}
    (h : (kept ++ rest).dropWhile p = kept ++ rest) : kept.dropWhile p = kept := by
  rw [List.dropWhile_eq_self_iff] at h ⊢
  intro hpos
  have hhead := h (by rw [List.length_append]; omega)
  rwa [List.getElem_append_left hpos] at hhead

@[simp]
theorem trim_trim (text : List Char) : trim blank (trim blank text) = trim blank text := by
  have hkept : ∀ kept, kept = text.dropWhile blank → kept.dropWhile blank = kept := by
    rintro _ rfl
    exact List.dropWhile_idempotent _ _
  have hhead : (trim blank text).dropWhile blank = trim blank text :=
    dropWhile_of_append (hkept _ (trim_append text))
  rw [trim, hhead, trim, List.rdropWhile_idempotent]

end Trim

section Hex

/-- The two lower-case digits of each byte. -/
def hex (values : List UInt8) : List Char :=
  values.flatMap fun (byte : UInt8) => [Nat.digitChar (byte >>> 4).toNat, Nat.digitChar (byte &&& 0x0f).toNat]

/-- The bytes that pairs of digits stand for, with a given reading of a digit. -/
def pairs (nibble : UInt8 → Option UInt8) : List UInt8 → Option (List UInt8)
  | [] => some []
  | [_] => none
  | high :: low :: rest => do
    let high ← nibble high
    let low ← nibble low
    let rest ← pairs nibble rest
    pure (((high <<< 4) ||| low) :: rest)

/-- The pairs of digits of an array of a fixed length. -/
def unhex (nibble : UInt8 → Option UInt8) (n : Nat) (digits : List UInt8) : Option (Vector UInt8 n) := do
  let values ← pairs nibble digits
  if h : values.length = n then pure ⟨values.toArray, h⟩ else none

/-- The byte of a digit. -/
def digit_byte (digit : UInt8) : UInt8 := (Nat.digitChar digit.toNat).val.toUInt8

variable {digit : UInt8} {nibble : UInt8 → Option UInt8}

theorem forall_digit {P : UInt8 → Prop} (h : ∀ n : Fin 16, P (UInt8.ofNat n)) (hdigit : digit < 16) : P digit := by
  have := h ⟨digit.toNat, UInt8.lt_iff_toNat_lt.mp hdigit⟩
  simpa using this

theorem utf8EncodeChar_digitChar (hdigit : digit < 16) :
    String.utf8EncodeChar (Nat.digitChar digit.toNat) = [digit_byte digit] :=
  forall_digit (P := fun digit => String.utf8EncodeChar (Nat.digitChar digit.toNat) = [digit_byte digit])
    (by decide) hdigit

theorem shiftRight_lt (byte : UInt8) : byte >>> 4 < 16 := by
  rw [UInt8.lt_iff_toNat_lt]
  have := byte.toNat_lt
  simp [UInt8.toNat_shiftRight, Nat.shiftRight_eq_div_pow]
  omega

theorem and_lt (byte : UInt8) : byte &&& 0x0f < 16 := by
  rw [UInt8.lt_iff_toNat_lt, UInt8.toNat_and]
  exact Nat.and_lt_two_pow (n := 4) _ (by decide)

theorem bytes_hex (values : List UInt8) :
    bytes (String.ofList (hex values)) =
      values.flatMap fun (byte : UInt8) => [digit_byte (byte >>> 4), digit_byte (byte &&& 0x0f)] := by
  rw [bytes, String.toList_ofList, hex, List.flatMap_assoc]
  congr 1
  funext byte
  simp only [List.flatMap_cons, List.flatMap_nil, utf8EncodeChar_digitChar (shiftRight_lt byte),
    utf8EncodeChar_digitChar (and_lt byte)]
  rfl

@[simp]
theorem length_bytes_hex (values : List UInt8) : (bytes (String.ofList (hex values))).length = 2 * values.length := by
  rw [bytes_hex, List.length_flatMap]
  simp [mul_comm]

theorem high_or_low (byte : UInt8) : ((byte >>> 4) <<< 4) ||| (byte &&& 0x0f) = byte := by
  apply UInt8.toBitVec_inj.mp
  apply BitVec.eq_of_getLsbD_eq
  intro i hi
  interval_cases i <;> simp

/-- Hexadecimal digits are read back by every reading that knows the sixteen digits. -/
theorem pairs_bytes_hex (hnibble : ∀ digit, digit < 16 → nibble (digit_byte digit) = some digit)
    (values : List UInt8) : pairs nibble (bytes (String.ofList (hex values))) = some values := by
  rw [bytes_hex]
  induction values with
  | nil => rfl
  | cons byte rest ih =>
    simp only [List.flatMap_cons, List.cons_append, List.nil_append, pairs, hnibble _ (shiftRight_lt byte),
      hnibble _ (and_lt byte), ih]
    exact congrArg (fun byte => some (byte :: rest)) (high_or_low byte)

/-- Every byte of digits that are read is one of the digits. -/
theorem nibble_ne_none_of_pairs {digits values : List UInt8} (h : pairs nibble digits = some values)
    (hdigit : digit ∈ digits) : nibble digit ≠ none := by
  induction digits using pairs.induct generalizing values with
  | case1 => exact absurd hdigit List.not_mem_nil
  | case2 => cases h
  | case3 high low rest ih =>
    simp only [pairs, Option.bind_eq_bind, Option.bind_eq_some_iff] at h
    obtain ⟨_, hhigh, _, hlow, _, hrest, _⟩ := h
    simp only [List.mem_cons] at hdigit
    obtain rfl | rfl | hdigit := hdigit
    · rw [hhigh]
      exact Option.some_ne_none _
    · rw [hlow]
      exact Option.some_ne_none _
    · exact ih hrest hdigit

/-- A character that stands for no digit is not in a text of digits. -/
theorem notMem_of_pairs {text : String} {values : List UInt8} {c : Char} {byte : UInt8}
    (h : pairs nibble (bytes text) = some values) (hbyte : byte ∈ String.utf8EncodeChar c)
    (hnone : nibble byte = none) : c ∉ text.toList := fun hc =>
  nibble_ne_none_of_pairs h (List.mem_flatMap.mpr ⟨c, hc, hbyte⟩) hnone

theorem unhex_bytes_hex (hnibble : ∀ digit, digit < 16 → nibble (digit_byte digit) = some digit) {n : Nat}
    (values : Vector UInt8 n) : unhex nibble n (bytes (String.ofList (hex values.toList))) = some values := by
  simp only [unhex, pairs_bytes_hex hnibble, Option.bind_eq_bind, Option.bind_some, Vector.length_toList, dite_true]
  exact congrArg some (Vector.toList_inj.mp rfl)

theorem notMem_hex {c : Char} (h : ∀ n : Fin 16, c ≠ Nat.digitChar n) (values : List UInt8) : c ∉ hex values := by
  simp only [hex, List.mem_flatMap, List.mem_cons, List.not_mem_nil, or_false, not_exists, not_and, not_or]
  exact fun byte _ => ⟨h ⟨_, shiftRight_lt byte⟩, h ⟨_, and_lt byte⟩⟩

end Hex

end Text
