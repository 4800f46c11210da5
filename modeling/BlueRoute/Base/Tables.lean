import BlueRoute.Base.Fallible
import BlueRoute.Base.Ordered

/-! Tables that are filled row by row, and in which no key may come twice. -/

namespace Tables

open Fallible Ordered

variable {α K V L W ε : Type} [LinearOrder K] [LinearOrder L]

/-- One row of a loop that computes an entry and refuses a key that is taken. -/
def fill (entry : α → Except ε (K × V)) (duplicate : ε) (table : Map K V) (row : α) :
    Except ε (Map K V) := do
  let (key, value) ← entry row
  reject_if (key ∈ table) duplicate
  pure (table.insert key value)

/-- The same with two tables at once, for rows that have been checked. -/
def fill_both (check : α → Except ε Unit) (first : α → K × V) (second : α → L × W)
    (first_duplicate second_duplicate : ε)
    (tables : Map K V × Map L W) (row : α) : Except ε (Map K V × Map L W) := do
  check row
  reject_if ((first row).1 ∈ tables.1) first_duplicate
  reject_if ((second row).1 ∈ tables.2) second_duplicate
  pure (tables.1.insert (first row).1 (first row).2, tables.2.insert (second row).1 (second row).2)

/-- The table of some entries. -/
def of_entries (entries : List (K × V)) : Map K V :=
  entries.foldl (fun table entry => table.insert entry.1 entry.2) ∅

section Entries

variable {entries others : List (K × V)} {k : K} {v : V}

theorem of_entries_append (entries : List (K × V)) (entry : K × V) :
    of_entries (entries ++ [entry]) = (of_entries entries).insert entry.1 entry.2 := by
  rw [of_entries, List.foldl_append]
  rfl

theorem mem_of_entries : k ∈ of_entries entries ↔ k ∈ entries.map Prod.fst := by
  induction entries using List.reverseRecOn with
  | nil => simp [of_entries]
  | append_singleton entries entry ih =>
    rw [of_entries_append, mem_insert_iff, ih, List.map_append, List.mem_append, or_comm]
    simp

omit [LinearOrder K] in
theorem nodup_append {f : α → K} {rows : List α} {row : α} :
    ((rows ++ [row]).map f).Nodup ↔ (rows.map f).Nodup ∧ f row ∉ rows.map f := by
  rw [List.map_append, List.map_singleton, ← List.concat_eq_append, List.nodup_concat, and_comm]

theorem getElem?_of_entries (hdistinct : (entries.map Prod.fst).Nodup) :
    (of_entries entries)[k]? = some v ↔ (k, v) ∈ entries := by
  induction entries using List.reverseRecOn with
  | nil => simp [of_entries]
  | append_singleton entries entry ih =>
    obtain ⟨hentries, hfresh⟩ := nodup_append.mp hdistinct
    obtain ⟨key, value⟩ := entry
    rw [of_entries_append, getElem?_insert_eq, List.mem_append, List.mem_singleton]
    dsimp only at hfresh ⊢
    split
    · next hk =>
      subst hk
      constructor
      · intro h
        exact .inr (congrArg (Prod.mk key) (Option.some.inj h).symm)
      · rintro (hold | hnew)
        · exact absurd (List.mem_map.mpr ⟨(key, v), hold, rfl⟩) hfresh
        · rw [Prod.mk.injEq] at hnew
          rw [hnew.2]
    · next hk =>
      rw [ih hentries]
      refine ⟨.inl, ?_⟩
      rintro (hold | hnew)
      · exact hold
      · exact absurd (congrArg Prod.fst hnew).symm hk

/-- Entries with distinct keys make the same table in every order. -/
theorem of_entries_perm (hdistinct : (entries.map Prod.fst).Nodup) (hperm : entries.Perm others) :
    of_entries entries = of_entries others := by
  refine ext_getElem?_some fun k v => ?_
  rw [getElem?_of_entries hdistinct, getElem?_of_entries ((hperm.map Prod.fst).nodup_iff.mp hdistinct), hperm.mem_iff]

theorem toList_of_entries_perm (hdistinct : (entries.map Prod.fst).Nodup) :
    (of_entries entries).toList.Perm entries := by
  have hkeys : (of_entries entries).toList.Nodup := by
    refine Std.ExtTreeMap.distinct_keys_toList.imp fun hne heq => hne ?_
    rw [heq, Std.LawfulEqCmp.compare_eq_iff_eq]
  rw [List.perm_ext_iff_of_nodup hkeys (List.Nodup.of_map _ hdistinct)]
  rintro ⟨k, v⟩
  rw [mem_toList, getElem?_of_entries hdistinct]

theorem keys_pairwise (table : Map K V) : (table.toList.map Prod.fst).Pairwise (· < ·) := by
  rw [List.pairwise_map]
  exact Std.ExtTreeMap.ordered_keys_toList.imp fun h => compare_lt_iff_lt.mp h

end Entries

variable {entry : α → Except ε (K × V)}

variable {rows : List α}

/-- From some entries on, a table can be filled exactly if every row has an entry and no key comes twice. -/
theorem foldlM_fill_of_entries {duplicate : ε} {before : List (K × V)} {table : Map K V}
    (hbefore : (before.map Prod.fst).Nodup) :
    rows.foldlM (fill entry duplicate) (of_entries before) = .ok table ↔
      ∃ entries, List.Forall₂ (fun row made => entry row = .ok made) rows entries ∧
        ((before ++ entries).map Prod.fst).Nodup ∧ table = of_entries (before ++ entries) := by
  induction rows generalizing before with
  | nil =>
    simp only [List.foldlM_nil, pure, Except.pure, Except.ok.injEq, List.forall₂_nil_left_iff, exists_eq_left,
      List.append_nil]
    exact ⟨fun h => ⟨hbefore, h.symm⟩, fun h => h.2.symm⟩
  | cons row rows ih =>
    simp only [foldlM_cons_eq_ok_iff, fill, bind_eq_ok_iff, reject_if_eq_ok, mem_of_entries]
    constructor
    · rintro ⟨_, ⟨made, hmade, ⟨⟩, hfresh, hinsert⟩, hrest⟩
      obtain rfl := Except.ok.inj hinsert
      have hnext := nodup_append.mpr ⟨hbefore, hfresh⟩
      rw [← of_entries_append] at hrest
      obtain ⟨entries, hentries, hdistinct, rfl⟩ := (ih hnext).mp hrest
      refine ⟨made :: entries, .cons hmade hentries, ?_, ?_⟩
      · rwa [List.append_assoc] at hdistinct
      · rw [List.append_assoc]
        rfl
    · rintro ⟨all, hall, hdistinct, rfl⟩
      cases hall with
      | @cons _ made _ entries hmade hentries =>
        have hsplit : before ++ made :: entries = before ++ [made] ++ entries := by rw [List.append_assoc]; rfl
        rw [hsplit] at hdistinct
        have hnext : ((before ++ [made]).map Prod.fst).Nodup := by
          rw [List.map_append] at hdistinct
          exact hdistinct.of_append_left
        refine ⟨_, ⟨made, hmade, (), (nodup_append.mp hnext).2, rfl⟩, ?_⟩
        rw [← of_entries_append]
        exact (ih hnext).mpr ⟨entries, hentries, hdistinct, by rw [hsplit]⟩

theorem foldlM_fill_eq_ok_iff {duplicate : ε} {table : Map K V} :
    rows.foldlM (fill entry duplicate) ∅ = .ok table ↔
      ∃ entries, List.Forall₂ (fun row made => entry row = .ok made) rows entries ∧ (entries.map Prod.fst).Nodup ∧
        table = of_entries entries :=
  foldlM_fill_of_entries (show (([] : List (K × V)).map Prod.fst).Nodup from List.nodup_nil)

/-- Two tables can be filled exactly if every row passes its check and no key comes twice in either. -/
theorem foldlM_fill_both_eq_ok_iff {check : α → Except ε Unit} {first : α → K × V} {second : α → L × W}
    {first_duplicate second_duplicate : ε} {tables : Map K V × Map L W} :
    rows.foldlM (fill_both check first second first_duplicate second_duplicate) (∅, ∅) = .ok tables ↔
      (∀ row ∈ rows, check row = .ok ()) ∧ (rows.map fun row => (first row).1).Nodup ∧
        (rows.map fun row => (second row).1).Nodup ∧
        tables = (of_entries (rows.map first), of_entries (rows.map second)) := by
  induction rows using List.reverseRecOn generalizing tables with
  | nil => simp [of_entries, pure, Except.pure, eq_comm]
  | append_singleton rows row ih =>
    have hall : (∀ other ∈ rows ++ [row], check other = .ok ()) ↔
        (∀ other ∈ rows, check other = .ok ()) ∧ check row = .ok () := by
      simp [List.mem_append, or_imp, forall_and]
    rw [List.foldlM_append, bind_eq_ok_iff, hall, nodup_append, nodup_append, List.map_append, List.map_append]
    simp only [ih, fill_both, List.foldlM_cons, List.foldlM_nil, bind_eq_ok_iff, reject_if_eq_ok, pure, Except.pure,
      Except.ok.injEq, List.map_singleton, of_entries_append]
    constructor
    · rintro ⟨_, ⟨hrows, hfirst, hsecond, rfl⟩, _, ⟨⟨⟩, hcheck, ⟨⟩, hfresh, ⟨⟩, hfresh', rfl⟩, rfl⟩
      rw [mem_of_entries, List.map_map] at hfresh hfresh'
      exact ⟨⟨hrows, hcheck⟩, ⟨hfirst, hfresh⟩, ⟨hsecond, hfresh'⟩, rfl⟩
    · rintro ⟨⟨hrows, hcheck⟩, ⟨hfirst, hfresh⟩, ⟨hsecond, hfresh'⟩, rfl⟩
      refine ⟨_, ⟨hrows, hfirst, hsecond, rfl⟩, _, ⟨(), hcheck, (), ?_, (), ?_, rfl⟩, rfl⟩
      · rw [mem_of_entries, List.map_map]
        exact hfresh
      · rw [mem_of_entries, List.map_map]
        exact hfresh'

omit [LinearOrder K] in
theorem exists_row {entries : List (K × V)} (h : List.Forall₂ (fun row made => entry row = .ok made) rows entries)
    {made : K × V} (hmade : made ∈ entries) : ∃ row ∈ rows, entry row = .ok made := by
  induction h with
  | nil => cases hmade
  | cons hrow _ ih =>
    obtain rfl | hmem := List.mem_cons.mp hmade
    · exact ⟨_, List.mem_cons_self, hrow⟩
    · obtain ⟨row, hin, hok⟩ := ih hmem
      exact ⟨row, List.mem_cons_of_mem _ hin, hok⟩

omit [LinearOrder K] in
/-- Rows in another order have the same entries, in another order. -/
theorem forall₂_perm {entry : α → Except ε (K × V)} {others : List α} {entries : List (K × V)}
    (hperm : rows.Perm others) (h : List.Forall₂ (fun row made => entry row = .ok made) rows entries) :
    ∃ made, List.Forall₂ (fun row made => entry row = .ok made) others made ∧ made.Perm entries :=
  List.perm_comp_forall₂ hperm.symm h

end Tables
