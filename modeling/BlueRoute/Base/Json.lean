import BlueRoute.Base.Text

/-! JSON trees, their compact text, and a reader of JSON text that gives the tree back. -/

namespace Json

/-- A JSON value. An object keeps its keys in their order, repeated ones too. Numbers that are not natural are
not told apart. -/
inductive Tree where
  | null
  | bool (value : Bool)
  | number (value : Nat)
  | other_number
  | string (value : String)
  | array (items : List Tree)
  | object (entries : List (String × Tree))

section Print

def hex_digit (n : Nat) : Char := Nat.digitChar n

/-- A character inside a string, escaped if it has to be. -/
def escape (c : Char) : List Char :=
  if c = '"' then ['\\', '"']
  else if c = '\\' then ['\\', '\\']
  else if c = '\x08' then ['\\', 'b']
  else if c = '\x0c' then ['\\', 'f']
  else if c = '\n' then ['\\', 'n']
  else if c = '\r' then ['\\', 'r']
  else if c = '\t' then ['\\', 't']
  else if c.toNat < 32 then ['\\', 'u', '0', '0', hex_digit (c.toNat / 16), hex_digit (c.toNat % 16)]
  else [c]

def quoted (value : String) : List Char := '"' :: value.toList.flatMap escape ++ ['"']

/-- Texts with commas between them. -/
def commas : List (List Char) → List Char
  | [] => []
  | [text] => text
  | text :: next :: texts => text ++ ',' :: commas (next :: texts)

mutual

/-- The compact text of a tree, without blanks. -/
def print : Tree → List Char
  | .null => "null".toList
  | .bool true => "true".toList
  | .bool false => "false".toList
  | .number value => Nat.toDigits 10 value
  | .other_number => "-1".toList
  | .string value => quoted value
  | .array items => '[' :: (commas (print_items items) ++ [']'])
  | .object entries => '\x7b' :: (commas (print_entries entries) ++ ['\x7d'])

def print_items : List Tree → List (List Char)
  | [] => []
  | item :: items => print item :: print_items items

def print_entry : String × Tree → List Char
  | (key, value) => quoted key ++ ':' :: print value

def print_entries : List (String × Tree) → List (List Char)
  | [] => []
  | entry :: entries => print_entry entry :: print_entries entries

end

def to_vec (tree : Tree) : List UInt8 := Text.bytes (String.ofList (print tree))

end Print

section Read

def is_blank (c : Char) : Bool := c = ' ' || c = '\n' || c = '\t' || c = '\r'

def skip (text : List Char) : List Char := text.dropWhile is_blank

def hex_value (c : Char) : Option Nat :=
  if '0' ≤ c ∧ c ≤ '9' then some (c.toNat - '0'.toNat)
  else if 'a' ≤ c ∧ c ≤ 'f' then some (c.toNat - 'a'.toNat + 10)
  else if 'A' ≤ c ∧ c ≤ 'F' then some (c.toNat - 'A'.toNat + 10)
  else none

/-- The rest of a string after its first quotation mark. Pairs of surrogates are not read. -/
def read_string : List Char → Option (List Char × List Char)
  | [] => none
  | '"' :: rest => some ([], rest)
  | '\\' :: 'u' :: a :: b :: c :: d :: rest => do
    let value := 4096 * (← hex_value a) + 256 * (← hex_value b) + 16 * (← hex_value c) + (← hex_value d)
    let (value', rest') ← read_string rest
    if 0xd800 ≤ value ∧ value < 0xe000 then none else some (Char.ofNat value :: value', rest')
  | '\\' :: c :: rest => do
    let value ←
      if c = '"' ∨ c = '\\' ∨ c = '/' then some c
      else if c = 'b' then some '\x08'
      else if c = 'f' then some '\x0c'
      else if c = 'n' then some '\n'
      else if c = 'r' then some '\r'
      else if c = 't' then some '\t'
      else none
    let (value', rest') ← read_string rest
    some (value :: value', rest')
  | c :: rest => do
    let (value', rest') ← read_string rest
    if c.toNat < 32 then none else some (c :: value', rest')

def is_number_char (c : Char) : Bool :=
  c.isDigit || c = '-' || c = '+' || c = '.' || c = 'e' || c = 'E'

def read_number (text : List Char) : Option (Tree × List Char) :=
  let token := text.takeWhile is_number_char
  if token = [] then none
  else if token.all Char.isDigit then
    if token.head? = some '0' ∧ token ≠ ['0'] then none
    else some (.number (Nat.ofDigitChars 10 token 0), text.dropWhile is_number_char)
  else some (.other_number, text.dropWhile is_number_char)

/-- The rest of a word that stands for a tree. -/
def read_word (word : String) (tree : Tree) (text : List Char) : Option (Tree × List Char) :=
  (text.dropPrefix? word.toList).map fun rest => (tree, rest)

mutual

/-- A value at the front of a text. The fuel bounds how deep it may be and how many items it may have. -/
def read_value : Nat → List Char → Option (Tree × List Char)
  | 0, _ => none
  | fuel + 1, text =>
    match skip text with
    | [] => none
    | c :: rest =>
      if c = 'n' then read_word "ull" .null rest
      else if c = 't' then read_word "rue" (.bool true) rest
      else if c = 'f' then read_word "alse" (.bool false) rest
      else if c = '"' then (read_string rest).map fun read => (.string (String.ofList read.1), read.2)
      else if c = '[' then
        if (skip rest).head? = some ']' then some (.array [], (skip rest).tail)
        else (read_items fuel rest).map fun read => (.array read.1, read.2)
      else if c = '\x7b' then
        if (skip rest).head? = some '\x7d' then some (.object [], (skip rest).tail)
        else (read_entries fuel rest).map fun read => (.object read.1, read.2)
      else read_number (c :: rest)

/-- The items of an array up to its end. -/
def read_items : Nat → List Char → Option (List Tree × List Char)
  | 0, _ => none
  | fuel + 1, text =>
    (read_value fuel text).bind fun read =>
      match skip read.2 with
      | [] => none
      | c :: rest =>
        if c = ',' then (read_items fuel rest).map fun more => (read.1 :: more.1, more.2)
        else if c = ']' then some ([read.1], rest)
        else none

/-- The entries of an object up to its end. -/
def read_entries : Nat → List Char → Option (List (String × Tree) × List Char)
  | 0, _ => none
  | fuel + 1, text =>
    match skip text with
    | [] => none
    | mark :: rest =>
      if mark = '"' then
        (read_string rest).bind fun key =>
          match skip key.2 with
          | [] => none
          | colon :: rest =>
            if colon = ':' then
              (read_value fuel rest).bind fun read =>
                match skip read.2 with
                | [] => none
                | c :: rest =>
                  if c = ',' then
                    (read_entries fuel rest).map fun more => ((String.ofList key.1, read.1) :: more.1, more.2)
                  else if c = '\x7d' then some ([(String.ofList key.1, read.1)], rest)
                  else none
            else none
      else none

end

/-- The tree of a text, if it is one JSON value and nothing else. -/
def from_slice (bytes : List UInt8) : Except String Tree :=
  match Text.from_utf8 bytes with
  | none => .error "invalid unicode code point"
  | some text =>
    match read_value (text.toList.length + 1) text.toList with
    | some (tree, rest) => if skip rest = [] then .ok tree else .error "trailing characters"
    | none => .error "expected value"

end Read

section Inverse

variable {rest : List Char}

theorem skip_cons {c : Char} (h : is_blank c = false) : skip (c :: rest) = c :: rest := by
  rw [skip, List.dropWhile_cons_of_neg (by simp [h])]

theorem hex_value_hex_digit {n : Nat} (h : n < 16) : hex_value (hex_digit n) = some n := by
  have hall : ∀ n : Fin 16, hex_value (hex_digit n) = some n := by decide
  exact hall ⟨n, h⟩

/-- A character of a string is read back from its escaped form. -/
theorem read_string_escape (c : Char) (text : List Char) :
    read_string (escape c ++ text) = (read_string text).bind fun read => some (c :: read.1, read.2) := by
  unfold escape
  split_ifs with hquote hslash hb hf hn hr ht hcontrol
  · subst hquote
    rfl
  · subst hslash
    rfl
  · subst hb
    rfl
  · subst hf
    rfl
  · subst hn
    rfl
  · subst hr
    rfl
  · subst ht
    rfl
  · have hzero : hex_value '0' = some 0 := by decide
    have hhigh := hex_value_hex_digit (show c.toNat / 16 < 16 by omega)
    have hlow := hex_value_hex_digit (Nat.mod_lt c.toNat (by decide : 16 > 0))
    have hvalue : 4096 * 0 + 256 * 0 + 16 * (c.toNat / 16) + c.toNat % 16 = c.toNat := by omega
    have hplain : ¬ (0xd800 ≤ c.toNat ∧ c.toNat < 0xe000) := by omega
    simp only [List.cons_append, List.nil_append, read_string, hzero, hhigh, hlow, Option.bind_eq_bind,
      Option.bind_some, hvalue, if_neg hplain, Char.ofNat_toNat]
  · rw [List.singleton_append, read_string]
    · simp only [if_neg hcontrol]
      rfl
    · exact fun h => hquote h
    · intro a b d e tail h
      exact absurd h hslash
    · intro d tail h
      exact absurd h hslash

theorem read_string_quoted (value : List Char) :
    read_string (value.flatMap escape ++ '"' :: rest) = some (value, rest) := by
  induction value with
  | nil => rfl
  | cons c value ih => rw [List.flatMap_cons, List.append_assoc, read_string_escape, ih, Option.bind_some]

/-- The text does not go on with a number. -/
def Stops (text : List Char) : Prop := ∀ c ∈ text.head?, is_number_char c = false

theorem takeWhile_number {digits : List Char} (hdigits : ∀ c ∈ digits, is_number_char c = true) (hrest : Stops rest) :
    (digits ++ rest).takeWhile is_number_char = digits ∧ (digits ++ rest).dropWhile is_number_char = rest := by
  have htake : rest.takeWhile is_number_char = [] ∧ rest.dropWhile is_number_char = rest := by
    cases rest with
    | nil => exact ⟨rfl, rfl⟩
    | cons c rest =>
      have hc := hrest c rfl
      exact ⟨List.takeWhile_cons_of_neg (by simp [hc]), List.dropWhile_cons_of_neg (by simp [hc])⟩
  rw [List.takeWhile_append_of_pos hdigits, List.dropWhile_append_of_pos hdigits, htake.1, htake.2, List.append_nil]
  exact ⟨rfl, rfl⟩

/-- A number of more than one digit does not start with a zero. -/
theorem head_toDigits {n : Nat} (h : 0 < n) : (Nat.toDigits 10 n).head? ≠ some '0' := by
  induction n using Nat.strong_induction_on with
  | h n ih =>
    by_cases hsmall : n < 10
    · rw [Nat.toDigits_of_lt_base hsmall]
      interval_cases n <;> decide
    · rw [Nat.toDigits_of_base_le (by decide) (by omega), List.head?_append_of_ne_nil _ Nat.toDigits_ne_nil]
      exact ih (n / 10) (by omega) (by omega)

theorem read_number_toDigits (n : Nat) (hrest : Stops rest) :
    read_number (Nat.toDigits 10 n ++ rest) = some (.number n, rest) := by
  have hdigit : ∀ c ∈ Nat.toDigits 10 n, c.isDigit = true := fun c hc =>
    Nat.isDigit_of_mem_toDigits (by decide) (by decide) hc
  have hnumber : ∀ c ∈ Nat.toDigits 10 n, is_number_char c = true := fun c hc => by
    simp [is_number_char, hdigit c hc]
  obtain ⟨htake, hdrop⟩ := takeWhile_number hnumber hrest
  have hzero : ¬ ((Nat.toDigits 10 n).head? = some '0' ∧ Nat.toDigits 10 n ≠ ['0']) := by
    rintro ⟨hhead, hne⟩
    obtain rfl | hpos := Nat.eq_zero_or_pos n
    · exact hne (Nat.toDigits_zero 10)
    · exact head_toDigits hpos hhead
  simp only [read_number, htake, hdrop, if_neg Nat.toDigits_ne_nil, List.all_eq_true.mpr hdigit, if_true, if_neg hzero,
    Nat.ofDigitChars_ten_toDigits]

theorem quoted_append (value : String) (text : List Char) :
    quoted value ++ text = '"' :: (value.toList.flatMap escape ++ '"' :: text) := by
  simp [quoted]

/-- The first character of a printed tree is no blank, and tells what is printed. -/
theorem exists_print_eq (tree : Tree) : ∃ c text, print tree = c :: text ∧ is_blank c = false ∧ c ≠ ']' := by
  cases tree with
  | null => exact ⟨_, _, rfl, by decide, by decide⟩
  | bool value => cases value <;> exact ⟨_, _, rfl, by decide, by decide⟩
  | number value =>
    obtain ⟨c, digits, hdigits⟩ := List.exists_cons_of_ne_nil (Nat.toDigits_ne_nil : Nat.toDigits 10 value ≠ [])
    have hdigit : c.isDigit = true :=
      Nat.isDigit_of_mem_toDigits (by decide) (by decide) (hdigits ▸ List.mem_cons_self : c ∈ Nat.toDigits 10 value)
    refine ⟨c, digits, hdigits, ?_, ?_⟩
    · rw [Bool.eq_false_iff]
      intro hblank
      simp only [is_blank, Bool.or_eq_true, decide_eq_true_eq] at hblank
      obtain ((rfl | rfl) | rfl) | rfl := hblank <;> revert hdigit <;> decide
    · rintro rfl
      revert hdigit
      decide
  | other_number | string value | array items | object entries => exact ⟨_, _, rfl, by decide, by decide⟩

theorem read_number_tree {fuel n : Nat} (hrest : Stops rest) :
    read_value (fuel + 1) (Nat.toDigits 10 n ++ rest) = some (.number n, rest) := by
  obtain ⟨c, digits, hdigits⟩ := List.exists_cons_of_ne_nil (Nat.toDigits_ne_nil : Nat.toDigits 10 n ≠ [])
  have hdigit : c.isDigit = true :=
    Nat.isDigit_of_mem_toDigits (by decide) (by decide) (hdigits ▸ List.mem_cons_self : c ∈ Nat.toDigits 10 n)
  obtain ⟨c', text, hprint, hblank, -⟩ := exists_print_eq (.number n)
  have hprint' : Nat.toDigits 10 n = c' :: text := hprint
  obtain ⟨rfl, rfl⟩ := List.cons.inj (hdigits.symm.trans hprint')
  have hne : ∀ other : Char, other.isDigit = false → c ≠ other := by
    rintro other hother rfl
    rw [hdigit] at hother
    cases hother
  have hread := read_number_toDigits n hrest
  rw [hdigits, List.cons_append] at hread
  simp only [hdigits, List.cons_append, read_value, skip_cons hblank, if_neg (hne 'n' (by decide)),
    if_neg (hne 't' (by decide)), if_neg (hne 'f' (by decide)), if_neg (hne '"' (by decide)),
    if_neg (hne '[' (by decide)), if_neg (hne '\x7b' (by decide)), hread]

theorem stops_cons {c : Char} (h : is_number_char c = false) : Stops (c :: rest) := by
  rintro _ ⟨⟩
  exact h

theorem read_word_append (word : String) (tree : Tree) :
    read_word word tree (word.toList ++ rest) = some (tree, rest) := by
  rw [read_word, List.dropPrefix?_append_of_beq _ (beq_self_eq_true _), Option.map_some]

theorem commas_cons_append (text : List Char) (texts : List (List Char)) (tail : List Char) :
    commas (text :: texts) ++ tail
      = text ++ match texts with
        | [] => tail
        | next :: texts => ',' :: (commas (next :: texts) ++ tail) := by
  cases texts with
  | nil => rfl
  | cons next texts => rw [commas, List.append_assoc, List.cons_append]

/-- An entry is read up to the mark after its value. -/
theorem read_entries_quoted {fuel : Nat} {text : List Char} {value : Tree} {c : Char} (key : String)
    (hvalue : read_value fuel text = some (value, c :: rest)) (hblank : is_blank c = false) :
    read_entries (fuel + 1) (quoted key ++ ':' :: text) =
      if c = ',' then (read_entries fuel rest).map fun more => ((key, value) :: more.1, more.2)
      else if c = '\x7d' then some ([(key, value)], rest)
      else none := by
  rw [quoted_append, read_entries, skip_cons (by decide)]
  show (read_string _).bind _ = _
  rw [read_string_quoted, Option.bind_some, String.ofList_toList]
  show (read_value fuel text).bind _ = _
  rw [hvalue, Option.bind_some]
  simp only [skip_cons hblank]

/-- Whatever follows, a printed tree is read back, and so are the items of an array and the entries of an object
with the bracket that ends them. The induction is on the fuel, which the length of the text bounds. -/
theorem read_print (fuel : Nat) :
    (∀ tree rest, (print tree).length ≤ fuel → Stops rest → read_value fuel (print tree ++ rest) = some (tree, rest)) ∧
    (∀ item items rest, (commas (print_items (item :: items))).length < fuel →
      read_items fuel (commas (print_items (item :: items)) ++ ']' :: rest) = some (item :: items, rest)) ∧
    ∀ entry entries rest, (commas (print_entries (entry :: entries))).length < fuel →
      read_entries fuel (commas (print_entries (entry :: entries)) ++ '\x7d' :: rest) =
        some (entry :: entries, rest) := by
  induction fuel with
  | zero =>
    refine ⟨fun tree rest hfuel => ?_, fun _ _ _ hfuel => absurd hfuel (Nat.not_lt_zero _),
      fun _ _ _ hfuel => absurd hfuel (Nat.not_lt_zero _)⟩
    obtain ⟨c, text, hprint, -⟩ := exists_print_eq tree
    rw [hprint, List.length_cons] at hfuel
    omega
  | succ fuel ih =>
    obtain ⟨ihvalue, ihitems, ihentries⟩ := ih
    refine ⟨fun tree rest hfuel hrest => ?_, fun item items rest hfuel => ?_, fun entry entries rest hfuel => ?_⟩
    · cases tree with
      | null => exact read_word_append "ull" .null
      | bool value =>
        cases value with
        | true => exact read_word_append "rue" (.bool true)
        | false => exact read_word_append "alse" (.bool false)
      | number value => exact read_number_tree hrest
      | other_number =>
        have hsign : ∀ c ∈ ['-', '1'], is_number_char c = true := by simp [is_number_char]
        obtain ⟨htake, hdrop⟩ := takeWhile_number hsign hrest
        show read_number (['-', '1'] ++ rest) = some (.other_number, rest)
        rw [read_number, htake, hdrop]
        rfl
      | string value =>
        rw [print, quoted_append]
        show (read_string _).map _ = _
        rw [read_string_quoted, Option.map_some, String.ofList_toList]
      | array items =>
        cases items with
        | nil => rfl
        | cons item items =>
          simp only [print, List.length_cons, List.length_append] at hfuel
          have hitems := ihitems item items rest (by simpa using by omega)
          obtain ⟨c, text, hprint, hblank, hend⟩ := exists_print_eq item
          have hhead : (skip (commas (print_items (item :: items)) ++ ']' :: rest)).head? ≠ some ']' := by
            rw [print_items, hprint, commas_cons_append, List.cons_append, skip_cons hblank, List.head?_cons]
            simpa using hend
          rw [print, List.cons_append, List.append_assoc, List.singleton_append]
          show (if _ then _ else (read_items fuel _).map _) = _
          rw [if_neg hhead, hitems, Option.map_some]
      | object entries =>
        cases entries with
        | nil => rfl
        | cons entry entries =>
          simp only [print, List.length_cons, List.length_append] at hfuel
          have hentries := ihentries entry entries rest (by simpa using by omega)
          have hhead : (skip (commas (print_entries (entry :: entries)) ++ '\x7d' :: rest)).head? ≠ some '\x7d' := by
            rw [print_entries, print_entry, commas_cons_append, List.append_assoc, quoted_append,
              skip_cons (by decide), List.head?_cons]
            decide
          rw [print, List.cons_append, List.append_assoc, List.singleton_append]
          show (if _ then _ else (read_entries fuel _).map _) = _
          rw [if_neg hhead, hentries, Option.map_some]
    · cases items with
      | nil =>
        have hlength : (print item).length ≤ fuel := Nat.le_of_lt_succ hfuel
        show (read_value fuel (print item ++ ']' :: rest)).bind _ = _
        rw [ihvalue item _ hlength (stops_cons (by decide)), Option.bind_some]
        rfl
      | cons next items =>
        simp only [print_items, commas, List.length_append, List.length_cons] at hfuel
        have hmore := ihitems next items rest (by simp only [print_items]; omega)
        rw [print_items, print_items, commas, List.append_assoc, List.cons_append, read_items,
          ihvalue item _ (by omega) (stops_cons (by decide)), Option.bind_some]
        show (read_items fuel _).map _ = _
        rw [← print_items, hmore, Option.map_some]
    · obtain ⟨key, value⟩ := entry
      cases entries with
      | nil =>
        have hlength : (quoted key ++ ':' :: print value).length ≤ fuel := Nat.le_of_lt_succ hfuel
        rw [List.length_append, List.length_cons] at hlength
        have hvalue := ihvalue value ('\x7d' :: rest) (by omega) (stops_cons (by decide))
        show read_entries (fuel + 1) (quoted key ++ ':' :: print value ++ '\x7d' :: rest) = _
        rw [List.append_assoc, List.cons_append, read_entries_quoted key hvalue (by decide)]
        rfl
      | cons next entries =>
        simp only [print_entries, print_entry, commas, List.length_append, List.length_cons] at hfuel
        have hmore := ihentries next entries rest (by simp only [print_entries]; omega)
        have hvalue := ihvalue value (',' :: (commas (print_entries (next :: entries)) ++ '\x7d' :: rest)) (by omega)
          (stops_cons (by decide))
        rw [print_entries, commas_cons_append, print_entry]
        show read_entries (fuel + 1)
          (quoted key ++ ':' :: print value ++ ',' :: (commas (print_entries (next :: entries)) ++ '\x7d' :: rest)) = _
        rw [List.append_assoc, List.cons_append, read_entries_quoted key hvalue (by decide), if_pos rfl, hmore,
          Option.map_some]

/-- The compact text of a tree is read back as that tree. -/
theorem from_slice_to_vec (tree : Tree) : from_slice (to_vec tree) = .ok tree := by
  have hread := (read_print ((print tree).length + 1)).1 tree [] (Nat.le_succ _) (fun _ h => by cases h)
  rw [List.append_nil] at hread
  rw [from_slice, to_vec, Text.from_utf8_bytes]
  simp only [String.toList_ofList, hread]
  rfl

end Inverse

section Width

/-- The number of bytes of a text. -/
def width (text : List Char) : Nat := (text.map Char.utf8Size).sum

theorem width_cons (c : Char) (text : List Char) : width (c :: text) = c.utf8Size + width text := by
  rw [width, List.map_cons, List.sum_cons, width]

theorem width_append (left right : List Char) : width (left ++ right) = width left + width right := by
  rw [width, List.map_append, List.sum_append, width, width]

theorem length_to_vec (tree : Tree) : (to_vec tree).length = width (print tree) := by
  rw [to_vec, Text.bytes, String.toList_ofList, List.length_flatMap, width]
  exact congrArg List.sum (List.map_congr_left fun c _ => String.length_utf8EncodeChar c)

theorem to_vec_ne_nil (tree : Tree) : to_vec tree ≠ [] := by
  obtain ⟨c, text, hprint, -⟩ := exists_print_eq tree
  have hpos := c.utf8Size_pos
  rw [← List.length_pos_iff, length_to_vec, hprint, width_cons]
  omega

end Width

end Json
