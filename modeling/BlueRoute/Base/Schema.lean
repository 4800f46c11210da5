import BlueRoute.Base.Derive

/-! Schemas of JSON trees: which keys an object may have at each position, and how a tree that keeps to its schema is
written in full. -/

namespace Derive

open Json (Tree)

variable {α : Type}

/-- A leaf is any value without parts. A text may stand for a value that has a canonical text. -/
inductive Schema where
  | leaf
  | text (canonical : String → String)
  | option (inner : Schema)
  | list (item : Schema)
  | record (fields : List (String × Schema))
  | enumeration (variants : List (String × Schema))
  | tagged (tag content : String) (variants : List (String × Schema))

/-- What may stand as the content of a variant without fields. -/
def Schema.unit : Schema := .option (.record [])

/-- The value of a tag that names a variant. -/
def Names (name : String) (value : Tree) : Prop :=
  value = .string name ∨ value = .object [(name, .null)]

/-- Every object in the tree has only the keys that are declared at its position, and none of them twice. -/
inductive Conforms : Schema → Tree → Prop
  | leaf {tree : Tree} (harray : ∀ items, tree ≠ .array items) (hobject : ∀ entries, tree ≠ .object entries) :
    Conforms .leaf tree
  | text {canonical : String → String} {value : String} : Conforms (.text canonical) (.string value)
  | absent {inner : Schema} : Conforms (.option inner) .null
  | present {inner : Schema} {tree : Tree} (h : Conforms inner tree) : Conforms (.option inner) tree
  | list {item : Schema} {items : List Tree} (h : ∀ tree ∈ items, Conforms item tree) :
    Conforms (.list item) (.array items)
  | object {fields : List (String × Schema)} {entries : List (String × Tree)} (hnodup : (entries.map Prod.fst).Nodup)
    (hkeys : ∀ entry ∈ entries, entry.1 ∈ fields.map Prod.fst)
    (hvalues : ∀ name schema value, (name, schema) ∈ fields → (name, value) ∈ entries → Conforms schema value) :
    Conforms (.record fields) (.object entries)
  | places {fields : List (String × Schema)} {items : List Tree} (hlength : items.length = fields.length)
    (hvalues : ∀ name schema value, ((name, schema), value) ∈ fields.zip items → Conforms schema value) :
    Conforms (.record fields) (.array items)
  | name {variants : List (String × Schema)} {name : String} (hname : name ∈ variants.map Prod.fst) :
    Conforms (.enumeration variants) (.string name)
  | variant {variants : List (String × Schema)} {name : String} {schema : Schema} {content : Tree}
    (hvariant : (name, schema) ∈ variants) (hcontent : Conforms schema content) :
    Conforms (.enumeration variants) (.object [(name, content)])
  | tagged {tag content name : String} {variants : List (String × Schema)} {schema : Schema}
    {entries : List (String × Tree)} (hnodup : (entries.map Prod.fst).Nodup)
    (hkeys : ∀ entry ∈ entries, entry.1 = tag ∨ entry.1 = content)
    (hname : ∀ value, (tag, value) ∈ entries → Names name value)
    (hvariant : (name, schema) ∈ variants)
    (hcontent : ∀ value, (content, value) ∈ entries → Conforms schema value) :
    Conforms (.tagged tag content variants) (.object entries)
  | pair {tag content name : String} {variants : List (String × Schema)} {schema : Schema} {value value' : Tree}
    (hname : Names name value) (hvariant : (name, schema) ∈ variants)
    (hcontent : Conforms schema value') : Conforms (.tagged tag content variants) (.array [value, value'])

mutual

/-- The tree as derived writers have it: a record is an object with all its fields in their order, null where they
are absent, and a variant without fields is its name. -/
def Schema.normal : Schema → Tree → Tree
  | .leaf, tree => tree
  | .text canonical, tree => (Derive.text tree).elim tree fun value => .string (canonical value)
  | .option inner, tree => inner.normal tree
  | .list item, .array items => .array (items.map fun tree => item.normal tree)
  | .list _, tree => tree
  | .record fields, tree =>
    (Derive.record false (fields.map Prod.fst) tree).elim tree fun field => .object (normal_fields fields field)
  | .enumeration variants, tree =>
    (variant tree).elim tree fun (name, content) =>
      if (Derive.unit true content).isSome then .string name
      else .object [(name, normal_content variants name (content.getD .null))]
  | .tagged tag content variants, tree =>
    (Derive.tagged tag content tree).elim tree fun (_, value, data) =>
      let name := (variant value).elim "" Prod.fst
      if (Derive.unit true data).isSome then .object [(tag, .string name)]
      else .object [(tag, .string name), (content, normal_content variants name (data.getD .null))]

def normal_fields : List (String × Schema) → (String → Option Tree) → List (String × Tree)
  | [], _ => []
  | (name, schema) :: fields, field =>
    (name, (field name).elim .null fun tree => schema.normal tree) :: normal_fields fields field

/-- The content of the variant with the name. -/
def normal_content : List (String × Schema) → String → Tree → Tree
  | [], _, tree => tree
  | (variant, schema) :: variants, name, tree =>
    if variant = name then schema.normal tree else normal_content variants name tree

end

/-- An object that has no keys but the given ones. -/
def Plain (names : List String) (tree : Tree) : Prop :=
  ∀ entries, tree = .object entries → ∀ entry ∈ entries, entry.1 ∈ names

/-- Whatever the reader takes conforms to the schema, and its normal form is what is written. -/
def Keeps (read : Tree → Option α) (write : α → Tree) (schema : Schema) : Prop :=
  ∀ tree a, read tree = some a → Conforms schema tree ∧ schema.normal tree = write a

/-- What stands at a field conforms to the schema, and is written like this. -/
def Fits (schema : Schema) (field : Option Tree) (written : Tree) : Prop :=
  (∀ tree, field = some tree → Conforms schema tree) ∧ field.elim .null schema.normal = written

section Record

theorem lookup_eq_some_iff_mem {entries : List (String × Tree)} (hnodup : (entries.map Prod.fst).Nodup) {name : String}
    {value : Tree} : entries.lookup name = some value ↔ (name, value) ∈ entries := by
  induction entries with
  | nil => simp
  | cons entry entries ih =>
    obtain ⟨key, first⟩ := entry
    rw [List.map_cons, List.nodup_cons] at hnodup
    rw [List.lookup_cons, List.mem_cons, Prod.mk.injEq]
    by_cases heq : name = key
    · subst heq
      have hnot : (name, value) ∉ entries := fun h => hnodup.1 (List.mem_map.mpr ⟨_, h, rfl⟩)
      simp [hnot, eq_comm]
    · rw [beq_eq_false_iff_ne.mpr heq]
      simp [heq, ih hnodup.2]

/-- A name is declared with one schema. -/
theorem eq_of_mem_fields {fields : List (String × Schema)} (hnodup : (fields.map Prod.fst).Nodup) {name : String}
    {schema schema' : Schema} (h : (name, schema) ∈ fields) (h' : (name, schema') ∈ fields) : schema = schema' :=
  congrArg Prod.snd (List.inj_on_of_nodup_map hnodup h h' rfl)

variable {strict : Bool} {names : List String} {entries : List (String × Tree)} {field : String → Option Tree}

theorem keyed_eq_some_iff : keyed strict names entries = some field ↔
    (strict = true → ∀ entry ∈ entries, entry.1 ∈ names) ∧ ((entries.map Prod.fst).filter (· ∈ names)).Nodup ∧
      field = fun name => entries.lookup name := by
  unfold keyed
  split
  · rename_i h
    obtain ⟨hstrict, entry, hentry, hunknown⟩ := h
    simp only [reduceCtorEq, false_iff, not_and]
    exact fun hall => absurd (hall hstrict entry hentry) hunknown
  · rename_i h
    have hall : strict = true → ∀ entry ∈ entries, entry.1 ∈ names := fun hstrict entry hentry => by
      by_contra hunknown
      exact h ⟨hstrict, entry, hentry, hunknown⟩
    split
    · rename_i hnodup
      rw [Option.some.injEq, eq_comm]
      exact ⟨fun hfield => ⟨hall, hnodup, hfield⟩, fun h => h.2.2⟩
    · rename_i hnodup
      simp [hnodup]

variable {fields : List (String × Schema)} {tree : Tree}

/-- An object conforms when its keys are declared and what stands at each field does. -/
theorem object_conforms_iff (h : keyed strict names entries = some field) (hnames : fields.map Prod.fst = names) :
    Conforms (.record fields) (.object entries) ↔ Plain names (.object entries) ∧
      ∀ declared ∈ fields, ∀ value, field declared.1 = some value → Conforms declared.2 value := by
  obtain ⟨-, hfilter, rfl⟩ := keyed_eq_some_iff.mp h
  constructor
  · intro hconforms
    cases hconforms with
    | object hnodup hkeys hvalues =>
      refine ⟨?_, fun declared hfield value hvalue => ?_⟩
      · rintro _ ⟨⟩ entry hentry
        exact hnames ▸ hkeys entry hentry
      · exact hvalues _ _ value hfield ((lookup_eq_some_iff_mem hnodup).mp hvalue)
  · rintro ⟨hplain, hvalues⟩
    have hknown := hplain entries rfl
    have hall : (entries.map Prod.fst).filter (· ∈ names) = entries.map Prod.fst :=
      List.filter_eq_self.mpr fun name hname => by
        obtain ⟨entry, hentry, rfl⟩ := List.mem_map.mp hname
        exact decide_eq_true (hknown entry hentry)
    have hnodup : (entries.map Prod.fst).Nodup := hall ▸ hfilter
    refine .object hnodup (fun entry hentry => hnames ▸ hknown entry hentry) fun name schema value hfield hvalue => ?_
    exact hvalues _ hfield value ((lookup_eq_some_iff_mem hnodup).mpr hvalue)

/-- A record conforms when its keys are declared and what stands at each field does, also if it is an array. -/
theorem record_conforms_iff (h : record strict names tree = some field) (hnames : fields.map Prod.fst = names)
    (hnodup : names.Nodup) : Conforms (.record fields) tree ↔ Plain names tree ∧
      ∀ declared ∈ fields, ∀ value, field declared.1 = some value → Conforms declared.2 value := by
  cases tree with
  | object entries => exact object_conforms_iff h hnames
  | array items =>
    obtain ⟨hlength, rfl⟩ : items.length = names.length ∧ field = fun name => (names.zip items).lookup name := by
      rw [record] at h
      split at h
      · exact ⟨by assumption, (Option.some.inj h).symm⟩
      · cases h
    have hkeys : ((names.zip items).map Prod.fst).Nodup := by
      rw [List.map_fst_zip hlength.ge]
      exact hnodup
    have hzip : names.zip items = (fields.zip items).map (Prod.map Prod.fst id) := by
      rw [← hnames, List.zip_map_left]
    have hmem : ∀ {name schema value}, (name, schema) ∈ fields →
        ((name, value) ∈ names.zip items ↔ ((name, schema), value) ∈ fields.zip items) := by
      intro name schema value hfield
      rw [hzip, List.mem_map]
      constructor
      · rintro ⟨⟨⟨name', schema'⟩, value'⟩, hentry, heq⟩
        obtain ⟨rfl, rfl⟩ := Prod.mk.inj heq
        obtain rfl := eq_of_mem_fields (hnames ▸ hnodup) (List.of_mem_zip hentry).1 hfield
        exact hentry
      · exact fun hentry => ⟨_, hentry, rfl⟩
    constructor
    · intro hconforms
      cases hconforms with
      | places _ hvalues =>
        refine ⟨(fun _ h => by cases h), fun declared hfield value hvalue => ?_⟩
        exact hvalues _ _ value ((hmem hfield).mp ((lookup_eq_some_iff_mem hkeys).mp hvalue))
    · rintro ⟨-, hvalues⟩
      have hfields : items.length = fields.length := by rw [hlength, ← hnames, List.length_map]
      refine .places hfields fun name schema value hentry => ?_
      have hfield := (List.of_mem_zip hentry).1
      exact hvalues _ hfield value ((lookup_eq_some_iff_mem hkeys).mpr ((hmem hfield).mpr hentry))
  | null | bool _ | number _ | other_number | string _ => cases h

theorem plain_of_keyed (h : keyed true names entries = some field) : Plain names (.object entries) := by
  rintro _ ⟨⟩
  exact (keyed_eq_some_iff.mp h).1 rfl

theorem plain_of_record (h : record true names tree = some field) : Plain names tree := by
  cases tree with
  | object entries => exact plain_of_keyed h
  | array items => exact fun _ h => by cases h
  | null | bool _ | number _ | other_number | string _ => cases h

theorem record_of_variant_record (h : variant_record strict names tree = some field) :
    record strict names tree = some field := by
  cases tree with
  | object entries => exact h
  | null | bool _ | number _ | other_number | string _ | array _ => cases h

theorem record_of_strict (h : record strict names tree = some field) : record false names tree = some field := by
  cases tree with
  | object entries => exact keyed_eq_some_iff.mpr ⟨nofun, (keyed_eq_some_iff.mp h).2⟩
  | _ => exact h

variable {values : List Tree}

theorem record_normal (h : record strict names tree = some field) (hnames : fields.map Prod.fst = names)
    (hvalues : List.Forall₂ (fun declared value => (field declared.1).elim .null declared.2.normal = value) fields
      values) :
    (Schema.record fields).normal tree = .object (names.zip values) := by
  subst hnames
  rw [Schema.normal, record_of_strict h, Option.elim_some]
  clear h
  congr 1
  induction hvalues with
  | nil => rfl
  | cons hvalue _ ih =>
    rw [normal_fields, ih, ← hvalue]
    rfl

/-- A strict record whose fields are read and written back. -/
theorem record_keeps (h : record true names tree = some field) (hnames : fields.map Prod.fst = names)
    (hnodup : names.Nodup)
    (hfits : List.Forall₂ (fun declared value => Fits declared.2 (field declared.1) value) fields values) :
    Conforms (.record fields) tree ∧ (Schema.record fields).normal tree = .object (names.zip values) := by
  refine ⟨(record_conforms_iff h hnames hnodup).mpr ⟨plain_of_record h, ?_⟩, record_normal h hnames ?_⟩
  · clear hnames
    induction hfits with
    | nil => exact fun _ h => absurd h List.not_mem_nil
    | cons hfirst _ ih => exact List.forall_mem_cons.mpr ⟨hfirst.1, ih⟩
  · exact hfits.imp fun _ _ => And.right

/-- A record with a field is not what stands for a variant without fields. -/
theorem unit_of_record (h : record strict names tree = some field) {name : String} {value : Tree}
    (hfield : field name = some value) : unit true (some tree) = none := by
  cases tree with
  | object entries =>
    cases entries with
    | nil =>
      obtain ⟨-, -, rfl⟩ := keyed_eq_some_iff.mp h
      cases hfield
    | cons entry entries => rfl
  | null => cases h
  | _ => rfl

end Record

section Readers

variable {read : Tree → Option α} {write : α → Tree} {schema : Schema} {tree : Tree}

theorem keeps_boolean : Keeps boolean .bool .leaf := by
  rintro (_ | _ | _ | _ | _ | _ | _) _ h
  case bool => exact ⟨.leaf nofun nofun, congrArg Tree.bool (Option.some.inj h)⟩
  all_goals cases h

theorem keeps_text : Keeps text .string .leaf := by
  rintro (_ | _ | _ | _ | _ | _ | _) _ h
  case string => exact ⟨.leaf nofun nofun, congrArg Tree.string (Option.some.inj h)⟩
  all_goals cases h

/-- A number that another type takes without loss. -/
theorem keeps_number {bound : Nat} {f : Nat → α} {g : α → Nat} (hf : ∀ n < bound, g (f n) = n) :
    Keeps (fun tree => (natural bound tree).map f) (fun a => .number (g a)) .leaf := by
  rintro (_ | _ | n | _ | _ | _ | _) _ h
  case number =>
    obtain ⟨_, hn, rfl⟩ := Option.map_eq_some_iff.mp h
    obtain ⟨hbound, ⟨⟩⟩ := Option.ite_none_right_eq_some.mp hn
    exact ⟨.leaf nofun nofun, congrArg Tree.number (hf n hbound).symm⟩
  all_goals cases h

theorem keeps_u8 : Keeps u8 (fun byte => .number byte.toNat) .leaf :=
  keeps_number fun _ => UInt8.toNat_ofNat_of_lt'

theorem keeps_u16 : Keeps u16 (fun word => .number word.toNat) .leaf :=
  keeps_number fun _ => UInt16.toNat_ofNat_of_lt'

theorem keeps_u64 : Keeps u64 (fun word => .number word.toNat) .leaf :=
  keeps_number fun _ => UInt64.toNat_ofNat_of_lt'

/-- A text is written back as the canonical text of what it stands for. -/
theorem keeps_canonical {parse : String → Option α} {print : α → String} :
    Keeps (fun tree => (text tree).bind parse) (fun a => .string (print a))
      (.text fun value => (parse value).elim value print) := by
  rintro (_ | _ | _ | _ | value | _ | _) a h
  case string =>
    have hparse : parse value = some a := h
    refine ⟨.text, ?_⟩
    rw [Schema.normal]
    simp [text, hparse]
  all_goals cases h

theorem Keeps.mapM (h : Keeps read write schema) {items : List Tree} {values : List α}
    (hread : items.mapM read = some values) :
    (∀ tree ∈ items, Conforms schema tree) ∧ items.map schema.normal = values.map write := by
  induction items generalizing values with
  | nil =>
    obtain rfl := Option.some.inj hread
    exact ⟨fun _ h => absurd h List.not_mem_nil, rfl⟩
  | cons item items ih =>
    rw [List.mapM_cons] at hread
    obtain ⟨a, ha, hread⟩ := Option.bind_eq_some_iff.mp hread
    obtain ⟨rest, hrest, hvalues⟩ := Option.bind_eq_some_iff.mp hread
    obtain rfl := Option.some.inj hvalues
    obtain ⟨hconforms, hnormal⟩ := h item a ha
    obtain ⟨hall, hmap⟩ := ih hrest
    exact ⟨List.forall_mem_cons.mpr ⟨hconforms, hall⟩, by rw [List.map_cons, List.map_cons, hnormal, hmap]⟩

theorem keeps_list (h : Keeps read write schema) :
    Keeps (list read) (fun values => .array (values.map write)) (.list schema) := by
  rintro (_ | _ | _ | _ | _ | items | _) values hread
  case array =>
    obtain ⟨hall, hmap⟩ := h.mapM hread
    exact ⟨.list hall, congrArg Tree.array hmap⟩
  all_goals cases hread

theorem keeps_vector (h : Keeps read write schema) (n : Nat) :
    Keeps (vector n read) (fun items => .array (items.toList.map write)) (.list schema) := by
  intro tree items hread
  obtain ⟨values, hvalues, hread⟩ := Option.bind_eq_some_iff.mp hread
  split at hread
  · obtain rfl := Option.some.inj hread
    exact keeps_list h tree values hvalues
  · cases hread

/-- A field that is read by itself. -/
theorem Keeps.field (h : Keeps read write schema) {field : Option Tree} {a : α}
    (hread : ∃ tree, field = some tree ∧ read tree = some a) : Fits schema field (write a) := by
  obtain ⟨tree, rfl, hread⟩ := hread
  obtain ⟨hconforms, hnormal⟩ := h tree a hread
  exact ⟨fun _ heq => Option.some.inj heq ▸ hconforms, hnormal⟩

variable {field : Option Tree} {value : Option α}

/-- An optional field is null or what its reader takes. -/
theorem optional_cases (hread : optional read (some tree) = some value) :
    (tree = .null ∧ value = none) ∨ ∃ a, read tree = some a ∧ value = some a := by
  unfold optional at hread
  split at hread
  case h_1 heq => cases heq
  case h_2 heq => exact .inl ⟨Option.some.inj heq, (Option.some.inj hread).symm⟩
  case h_3 heq =>
    obtain rfl := Option.some.inj heq
    obtain ⟨a, ha, hvalue⟩ := Option.map_eq_some_iff.mp hread
    exact .inr ⟨a, ha, hvalue.symm⟩

theorem option_conforms_iff (hnull : tree ≠ .null) : Conforms (.option schema) tree ↔ Conforms schema tree := by
  constructor
  · intro hconforms
    cases hconforms with
    | absent => exact absurd rfl hnull
    | present h => exact h
  · exact .present

theorem normal_null : ∀ schema : Schema, schema.normal .null = .null
  | .leaf | .text _ | .list _ | .record _ | .enumeration _ | .tagged .. => rfl
  | .option inner => normal_null inner

theorem optional_normal (hread : optional read field = some value)
    (h : ∀ tree a, read tree = some a → schema.normal tree = write a) :
    field.elim .null (Schema.option schema).normal = nullable write value := by
  cases field with
  | none =>
    obtain rfl := Option.some.inj hread
    rfl
  | some tree =>
    obtain ⟨rfl, rfl⟩ | ⟨a, ha, rfl⟩ := optional_cases hread
    · exact normal_null schema
    · exact h tree a ha

theorem Keeps.optional (h : Keeps read write schema) (hread : optional read field = some value) :
    Fits (.option schema) field (nullable write value) := by
  refine ⟨?_, optional_normal hread fun tree a ha => (h tree a ha).2⟩
  rintro tree rfl
  obtain ⟨rfl, -⟩ | ⟨a, ha, -⟩ := optional_cases hread
  · exact .absent
  · exact .present (h tree a ha).1

theorem conforms_of_unit {buffered : Bool} {content : Option Tree} (h : unit buffered content = some ()) :
    (∀ tree, content = some tree → Conforms .unit tree) ∧ unit true content = some () := by
  unfold unit at h
  split at h
  case h_1 => exact ⟨nofun, rfl⟩
  case h_2 => exact ⟨fun _ heq => Option.some.inj heq ▸ .absent, rfl⟩
  case h_3 =>
    refine ⟨fun _ heq => Option.some.inj heq ▸ .present (.object List.nodup_nil (fun _ h => ?_) fun _ _ _ h => ?_), rfl⟩
    · exact absurd h List.not_mem_nil
    · exact absurd h List.not_mem_nil
  case h_4 => cases h

theorem unit_cases {content : Option Tree} (h : unit false content = some ()) :
    content = none ∨ content = some .null := by
  unfold unit at h
  split at h
  · exact .inl rfl
  · exact .inr rfl
  · cases h
  · cases h

section Enumeration

variable {variants : List (String × Schema)} {name : String}

theorem unit_variant_keeps {buffered : Bool} {content : Option Tree} (h : variant tree = some (name, content))
    (hunit : unit buffered content = some ()) (hvariant : (name, .unit) ∈ variants) :
    Conforms (.enumeration variants) tree ∧ (Schema.enumeration variants).normal tree = .string name := by
  obtain ⟨hcontent, htrue⟩ := conforms_of_unit hunit
  refine ⟨?_, by simp [Schema.normal, h, htrue]⟩
  unfold variant at h
  split at h
  · obtain ⟨rfl, rfl⟩ := Prod.mk.inj (Option.some.inj h)
    exact .name (List.mem_map.mpr ⟨_, hvariant, rfl⟩)
  · obtain ⟨rfl, rfl⟩ := Prod.mk.inj (Option.some.inj h)
    exact .variant hvariant (hcontent _ rfl)
  · cases h

theorem content_variant_keeps {content written : Tree} (h : variant tree = some (name, some content))
    (hvariant : (name, schema) ∈ variants) (hunit : unit true (some content) = none)
    (hcontent : Conforms schema content)
    (hwritten : normal_content variants name content = written) :
    Conforms (.enumeration variants) tree ∧ (Schema.enumeration variants).normal tree = .object [(name, written)] := by
  refine ⟨?_, by simp [Schema.normal, h, hunit, hwritten]⟩
  unfold variant at h
  split at h
  · cases h
  · cases h
    exact .variant hvariant hcontent
  · cases h

end Enumeration

section Tagged

variable {tag content name : String} {variants : List (String × Schema)} {value : Tree} {inner data : Option Tree}
  {entries : List (String × Tree)}

theorem names_of_variant (hname : variant value = some (name, inner)) (hunit : unit false inner = some ()) :
    Names name value := by
  unfold variant at hname
  split at hname
  · obtain ⟨rfl, -⟩ := Prod.mk.inj (Option.some.inj hname)
    exact .inl rfl
  · obtain ⟨rfl, rfl⟩ := Prod.mk.inj (Option.some.inj hname)
    obtain heq | heq := unit_cases hunit
    · cases heq
    · obtain rfl := Option.some.inj heq
      exact .inr rfl
  · cases hname

theorem Names.unique {name' : String} (h : Names name value) (h' : Names name' value) : name = name' := by
  obtain rfl | rfl := h <;> obtain heq | heq := h'
  · exact Tree.string.inj heq
  · cases heq
  · cases heq
  · simpa using heq

/-- An object with a tag and perhaps a content conforms when the content does. -/
theorem tagged_object_conforms_iff (hvariants : (variants.map Prod.fst).Nodup) (hvalue : Names name value)
    (hvariant : (name, schema) ∈ variants) (hnodup : (entries.map Prod.fst).Nodup)
    (hkeys : ∀ entry ∈ entries, entry.1 = tag ∨ entry.1 = content) (htag : entries.lookup tag = some value)
    (hdata : entries.lookup content = data) :
    Conforms (.tagged tag content variants) (.object entries) ↔ ∀ tree, data = some tree → Conforms schema tree := by
  constructor
  · intro hconforms tree htree
    cases hconforms with
    | tagged _ _ hname hvariant' hcontent =>
      obtain rfl := hvalue.unique (hname value ((lookup_eq_some_iff_mem hnodup).mp htag))
      obtain rfl := eq_of_mem_fields hvariants hvariant hvariant'
      exact hcontent tree ((lookup_eq_some_iff_mem hnodup).mp (hdata.trans htree))
  · intro hcontent
    refine .tagged hnodup hkeys (fun tree htree => ?_) hvariant fun tree htree => ?_
    · rw [← lookup_eq_some_iff_mem hnodup, htag] at htree
      obtain rfl := Option.some.inj htree
      exact hvalue
    · exact hcontent tree (hdata.symm.trans ((lookup_eq_some_iff_mem hnodup).mpr htree))

theorem tagged_normal {buffered : Bool} (h : tagged tag content tree = some (buffered, value, data))
    (hvalue : Names name value) : (Schema.tagged tag content variants).normal tree =
      if (unit true data).isSome then .object [(tag, .string name)]
      else .object [(tag, .string name), (content, normal_content variants name (data.getD .null))] := by
  rw [Schema.normal, h]
  obtain rfl | rfl := hvalue <;> rfl

/-- An enumeration that is tagged beside its content conforms when that content does. -/
theorem tagged_conforms_iff {buffered : Bool} (hne : tag ≠ content) (hvariants : (variants.map Prod.fst).Nodup)
    (h : tagged tag content tree = some (buffered, value, data)) (hvalue : Names name value)
    (hvariant : (name, schema) ∈ variants) :
    Conforms (.tagged tag content variants) tree ↔ ∀ tree, data = some tree → Conforms schema tree := by
  unfold tagged at h
  split at h
  · split at h
    · rename_i key value' hkey
      obtain ⟨-, rfl, rfl⟩ := h
      subst hkey
      exact tagged_object_conforms_iff hvariants hvalue hvariant (List.nodup_singleton _) (by simp) (by simp)
        (by simp [hne.symm])
    · cases h
  · split at h
    · rename_i hkeys
      obtain ⟨rfl, rfl⟩ := hkeys
      obtain ⟨-, rfl, rfl⟩ := h
      exact tagged_object_conforms_iff hvariants hvalue hvariant (by simp [hne]) (by simp) (by simp)
        (by simp [List.lookup_cons, beq_eq_false_iff_ne.mpr hne.symm])
    · split at h
      · rename_i hkeys
        obtain ⟨rfl, rfl⟩ := hkeys
        obtain ⟨-, rfl, rfl⟩ := h
        exact tagged_object_conforms_iff hvariants hvalue hvariant (by simp [hne.symm]) (by simp)
          (by simp [List.lookup_cons, beq_eq_false_iff_ne.mpr hne]) (by simp)
      · cases h
  · obtain ⟨-, rfl, rfl⟩ := h
    constructor
    · rintro hconforms _ ⟨⟩
      cases hconforms with
      | pair hname hvariant' hcontent =>
        obtain rfl := hvalue.unique hname
        obtain rfl := eq_of_mem_fields hvariants hvariant hvariant'
        exact hcontent
    · exact fun hcontent => .pair hvalue hvariant (hcontent _ rfl)
  · cases h

end Tagged

end Readers

end Derive
