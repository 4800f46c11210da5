import BlueRoute.Base.Reconcile.Plan

namespace Reconcile

open Ordered

variable {R K ε : Type} [LinearOrder K]

/-! The difference as two maps: the rows still to be written, and those still to be removed. -/

section Diff

variable [DecidableEq R]

def pending (wanted existing : Map K R) : Map K R :=
  wanted.filter fun k row => existing[k]? ≠ some row

def stale (wanted existing : Map K R) : Map K R := existing.filter fun k _ => k ∉ wanted

variable {wanted existing : Map K R}

theorem diff_eq : diff wanted existing =
    ⟨(pending wanted existing).toList.map Prod.snd, (stale wanted existing).toList.map Prod.snd⟩ := by
  rw [pending, stale, Std.ExtTreeMap.toList_filter, Std.ExtTreeMap.toList_filter]
  rfl

variable {k : K} {row : R}

theorem getElem?_pending :
    (pending wanted existing)[k]? = some row ↔ wanted[k]? = some row ∧ existing[k]? ≠ some row := by
  rw [pending, Std.ExtTreeMap.getElem?_filter', Option.filter_eq_some_iff, decide_eq_true_eq]

omit [DecidableEq R] in
theorem getElem?_stale : (stale wanted existing)[k]? = some row ↔ existing[k]? = some row ∧ k ∉ wanted := by
  rw [stale, Std.ExtTreeMap.getElem?_filter', Option.filter_eq_some_iff, decide_eq_true_eq]

theorem pending_insert (h : wanted[k]? = some row) :
    pending wanted (existing.insert k row) = (pending wanted existing).erase k := by
  apply ext_getElem?_some
  intro other found
  rw [getElem?_pending, getElem?_insert_eq, getElem?_erase_eq]
  split
  · next hk =>
    subst hk
    rw [h]
    simp
  · exact getElem?_pending.symm

omit [DecidableEq R] in
theorem stale_insert (h : wanted[k]? = some row) : stale wanted (existing.insert k row) = stale wanted existing := by
  apply ext_getElem?_some
  intro other found
  rw [getElem?_stale, getElem?_stale, getElem?_insert_eq]
  split
  · next hk =>
    subst hk
    have hmem : k ∈ wanted := mem_iff_exists.mpr ⟨row, h⟩
    simp [hmem]
  · rfl

theorem pending_erase (h : k ∉ wanted) : pending wanted (existing.erase k) = pending wanted existing := by
  apply ext_getElem?_some
  intro other found
  rw [getElem?_pending, getElem?_pending, getElem?_erase_eq]
  split
  · next hk =>
    subst hk
    have hnone : wanted[k]? = none := Std.ExtTreeMap.getElem?_eq_none h
    simp [hnone]
  · rfl

omit [DecidableEq R] in
theorem stale_erase : stale wanted (existing.erase k) = (stale wanted existing).erase k := by
  apply ext_getElem?_some
  intro other found
  rw [getElem?_stale, getElem?_erase_eq, getElem?_erase_eq]
  split
  · simp
  · exact getElem?_stale.symm

/-- The first step of a plan, and the plan that is left after it. -/
theorem diff_steps_cons {change : Change R} {rest : List (Change R)}
    (h : (diff wanted existing).steps = change :: rest) :
    (∃ (k : K) (row : R), change = .Upsert row ∧ wanted[k]? = some row ∧
        (diff wanted (existing.insert k row)).steps = rest) ∨
      ∃ (k : K) (row : R), change = .Remove row ∧ existing[k]? = some row ∧ k ∉ wanted ∧
        (diff wanted (existing.erase k)).steps = rest := by
  rw [diff_eq] at h
  cases hpending : (pending wanted existing).toList with
  | cons entry others =>
    obtain ⟨k, row⟩ := entry
    rw [hpending] at h
    obtain ⟨rfl, rfl⟩ := List.cons.inj h
    have hrow : (pending wanted existing)[k]? = some row := mem_toList.mp (hpending ▸ List.mem_cons_self)
    obtain ⟨hwanted, -⟩ := getElem?_pending.mp hrow
    refine .inl ⟨k, row, rfl, hwanted, ?_⟩
    rw [diff_eq, pending_insert hwanted, stale_insert hwanted, toList_erase_head hpending]
    rfl
  | nil =>
    cases hstale : (stale wanted existing).toList with
    | nil =>
      rw [hpending, hstale] at h
      cases h
    | cons entry others =>
      obtain ⟨k, row⟩ := entry
      rw [hpending, hstale] at h
      obtain ⟨rfl, rfl⟩ := List.cons.inj h
      have hrow : (stale wanted existing)[k]? = some row := mem_toList.mp (hstale ▸ List.mem_cons_self)
      obtain ⟨hexisting, hunwanted⟩ := getElem?_stale.mp hrow
      refine .inr ⟨k, row, rfl, hexisting, hunwanted, ?_⟩
      rw [diff_eq, pending_erase hunwanted, stale_erase, hpending, toList_erase_head hstale]
      rfl

/-- Nothing is left to do exactly where the wanted rows are there, and no others. -/
theorem diff_steps_eq_nil : (diff wanted existing).steps = [] ↔ existing = wanted := by
  rw [Plan.steps_eq_nil, diff_eq]
  simp only [List.map_eq_nil_iff, toList_eq_nil_iff, ne_eq, getElem?_pending, getElem?_stale]
  constructor
  · rintro ⟨hpending, hstale⟩
    apply ext_getElem?_some
    intro k row
    constructor
    · intro hrow
      have hmem : k ∈ wanted := by
        by_contra hnot
        exact hstale k row ⟨hrow, hnot⟩
      obtain ⟨found, hfound⟩ := mem_iff_exists.mp hmem
      have hsame : existing[k]? = some found := by
        by_contra hnot
        exact hpending k found ⟨hfound, hnot⟩
      rw [hfound, ← hsame, hrow]
    · intro hrow
      by_contra hnot
      exact hpending k row ⟨hrow, hnot⟩
  · rintro rfl
    refine ⟨fun k row hrow => hrow.2 hrow.1, fun k row hrow => hrow.2 ?_⟩
    exact mem_iff_exists.mpr ⟨row, hrow.1⟩

end Diff

namespace Policy

variable [DecidableEq R] {P : Policy R K ε} {desired table : List R}

/-- The steps of the plan for a table. -/
def steps (P : Policy R K ε) (desired table : List R) : List (Change R) :=
  (diff (index P.key desired) (P.existing table)).steps

variable {row : R}

theorem filter_owned_upsert (h : P.owned row = true) :
    (P.apply table (.Upsert row)).filter P.owned =
      (table.filter P.owned).filter (fun other => P.key other ≠ P.key row) ++ [row] := by
  rw [apply, List.filter_append, List.filter_singleton, h, List.filter_filter, List.filter_filter, cond_true]
  congr 1
  apply List.filter_congr
  intro other _
  cases P.owned other <;> simp

theorem filter_owned_remove :
    (P.apply table (.Remove row)).filter P.owned = (table.filter P.owned).filter (· ≠ row) := by
  rw [apply, List.filter_filter, List.filter_filter]
  simp only [Bool.and_comm]

variable {change : Change R}

/-- A step on an owned row leaves the rows of others as they are. -/
theorem filter_foreign_apply (h : P.owned change.row = true) :
    (P.apply table change).filter (fun row => !P.owned row) = table.filter fun row => !P.owned row := by
  cases change with
  | Upsert row =>
    have hrow : P.owned row = true := h
    rw [apply, List.filter_append, List.filter_singleton, hrow, List.filter_filter]
    simp only [Bool.not_true, cond_false, List.append_nil]
    apply List.filter_congr
    intro other _
    cases P.owned other <;> simp
  | Remove row =>
    have hrow : P.owned row = true := h
    rw [apply, List.filter_filter]
    apply List.filter_congr
    intro other _
    by_cases hother : other = row
    · simp [hother, hrow]
    · simp [hother]

theorem Valid.upsert (hlawful : P.Lawful) (h : P.Valid desired table) (hrow : row ∈ desired) :
    P.Valid desired (P.apply table (.Upsert row)) where
  owner := h.owner
  wanted := h.wanted
  distinct := h.distinct
  owned := by
    intro other hother howned
    obtain hother | hother := List.mem_append.mp hother
    · exact h.owned other (List.mem_of_mem_filter hother) howned
    · obtain rfl := List.mem_singleton.mp hother
      have hcheck := h.wanted other hrow
      exact ⟨hlawful.canonical other hcheck, hlawful.observed other hcheck⟩
  foreign := by
    intro other hother hforeign
    have howned := hlawful.owned row (h.wanted row hrow)
    obtain hother | hother := List.mem_append.mp hother
    · obtain ⟨k, hk, hfresh, hapart⟩ := h.foreign other (List.mem_of_mem_filter hother) hforeign
      refine ⟨k, hk, hfresh, ?_⟩
      rw [filter_owned_upsert howned, List.map_append, List.mem_append, List.map_singleton, List.mem_singleton]
      rintro (hkept | rfl)
      · exact hapart ((List.filter_sublist.map P.key).subset hkept)
      · exact hfresh (List.mem_map_of_mem hrow)
    · rw [List.mem_singleton.mp hother, howned] at hforeign
      cases hforeign
  unambiguous := by
    rw [filter_owned_upsert (hlawful.owned row (h.wanted row hrow)), nodup_append_key]
    refine ⟨h.unambiguous.sublist (List.filter_sublist.map P.key), fun hmem => ?_⟩
    obtain ⟨other, hother, hkey⟩ := List.mem_map.mp hmem
    exact of_decide_eq_true (List.mem_filter.mp hother).2 hkey

theorem Valid.remove (h : P.Valid desired table) : P.Valid desired (P.apply table (.Remove row)) where
  owner := h.owner
  wanted := h.wanted
  distinct := h.distinct
  owned := fun other hother => h.owned other (List.mem_of_mem_filter hother)
  foreign := by
    intro other hother hforeign
    obtain ⟨k, hk, hfresh, hapart⟩ := h.foreign other (List.mem_of_mem_filter hother) hforeign
    refine ⟨k, hk, hfresh, fun hmem => hapart ?_⟩
    rw [filter_owned_remove] at hmem
    exact (List.filter_sublist.map P.key).subset hmem
  unambiguous := by
    rw [filter_owned_remove]
    exact h.unambiguous.sublist (List.filter_sublist.map P.key)

/-- A step writes the index of the owned rows as it writes the table. -/
theorem Valid.existing_upsert (hlawful : P.Lawful) (h : P.Valid desired table) (hrow : row ∈ desired) :
    P.existing (P.apply table (.Upsert row)) = (P.existing table).insert (P.key row) row := by
  have howned := hlawful.owned row (h.wanted row hrow)
  apply ext_getElem?_some
  intro k other
  rw [(h.upsert hlawful hrow).getElem?_existing, getElem?_insert_eq]
  simp only [apply, List.mem_append, List.mem_filter, List.mem_singleton]
  split
  · next hk =>
    subst hk
    constructor
    · rintro ⟨⟨-, hkept⟩ | rfl, hother, hkey⟩
      · simp [hother, hkey] at hkept
      · rfl
    · intro hsome
      obtain rfl := Option.some.inj hsome
      exact ⟨.inr rfl, howned, rfl⟩
  · next hk =>
    rw [h.getElem?_existing]
    constructor
    · rintro ⟨⟨hmem, -⟩ | rfl, hother, hkey⟩
      · exact ⟨hmem, hother, hkey⟩
      · exact absurd hkey hk
    · rintro ⟨hmem, hother, rfl⟩
      exact ⟨.inl ⟨hmem, by simp [Ne.symm hk]⟩, hother, rfl⟩

theorem Valid.existing_remove (h : P.Valid desired table) (hrow : row ∈ table) (howned : P.owned row = true) :
    P.existing (P.apply table (.Remove row)) = (P.existing table).erase (P.key row) := by
  apply ext_getElem?_some
  intro k other
  rw [h.remove.getElem?_existing, getElem?_erase_eq]
  simp only [apply, List.mem_filter, decide_eq_true_eq]
  split
  · next hk =>
    subst hk
    simp only [reduceCtorEq, iff_false]
    rintro ⟨⟨hmem, hne⟩, hother, hkey⟩
    have hsame := (h.getElem?_existing.mpr ⟨hmem, hother, hkey⟩).symm.trans
      (h.getElem?_existing.mpr ⟨hrow, howned, rfl⟩)
    exact hne (Option.some.inj hsame)
  · next hk =>
    rw [h.getElem?_existing]
    constructor
    · rintro ⟨⟨hmem, -⟩, hother, hkey⟩
      exact ⟨hmem, hother, hkey⟩
    · rintro ⟨hmem, hother, rfl⟩
      exact ⟨⟨hmem, fun heq => hk (heq ▸ rfl)⟩, hother, rfl⟩

/-- What a step of a plan is about: a wanted row, or an owned row that is not wanted. -/
inductive Justified (P : Policy R K ε) (desired table : List R) : Change R → Prop where
  | upsert {row : R} (hrow : row ∈ desired) : Justified P desired table (.Upsert row)
  | remove {row : R} (hrow : row ∈ table) (howned : P.owned row = true) (hunwanted : P.key row ∉ desired.map P.key) :
      Justified P desired table (.Remove row)

/-- The step lemma: the first step of the plan for a table leaves a table for which the plan is the
rest of the steps. -/
theorem Valid.step {rest : List (Change R)} (hlawful : P.Lawful) (h : P.Valid desired table)
    (hsteps : P.steps desired table = change :: rest) :
    P.Justified desired table change ∧ P.Valid desired (P.apply table change) ∧
      P.steps desired (P.apply table change) = rest := by
  obtain ⟨k, row, rfl, hwanted, hrest⟩ | ⟨k, row, rfl, hexisting, hunwanted, hrest⟩ := diff_steps_cons hsteps
  · obtain ⟨hrow, rfl⟩ := (getElem?_index h.distinct).mp hwanted
    refine ⟨.upsert hrow, h.upsert hlawful hrow, ?_⟩
    rw [steps, h.existing_upsert hlawful hrow, hrest]
  · obtain ⟨hrow, howned, rfl⟩ := h.getElem?_existing.mp hexisting
    refine ⟨.remove hrow howned (mem_index.not.mp hunwanted), h.remove, ?_⟩
    rw [steps, h.existing_remove hrow howned, hrest]

omit [LinearOrder K] [DecidableEq R] in
theorem Justified.owned (hlawful : P.Lawful) (h : P.Valid desired table)
    (hchange : P.Justified desired table change) : P.owned change.row = true := by
  cases hchange with
  | upsert hrow => exact hlawful.owned _ (h.wanted _ hrow)
  | remove _ howned _ => exact howned

/-- The run lemma: after any number of steps the plan is the remaining ones, and the rows of others
are as they were. -/
theorem Valid.run (hlawful : P.Lawful) (h : P.Valid desired table) (count : Nat) :
    P.Valid desired (P.apply_all table ((P.steps desired table).take count)) ∧
      P.steps desired (P.apply_all table ((P.steps desired table).take count)) =
        (P.steps desired table).drop count ∧
      (P.apply_all table ((P.steps desired table).take count)).filter (fun row => !P.owned row) =
        table.filter fun row => !P.owned row := by
  induction count generalizing table with
  | zero => exact ⟨h, rfl, rfl⟩
  | succ count ih =>
    cases hsteps : P.steps desired table with
    | nil => exact ⟨h, hsteps, rfl⟩
    | cons change rest =>
      obtain ⟨hjustified, hvalid, hrest⟩ := h.step hlawful hsteps
      have hih := ih hvalid
      rw [hrest, filter_foreign_apply (hjustified.owned hlawful h)] at hih
      exact hih

/-- Where no step is left, the owned rows are the wanted ones. -/
theorem Valid.steps_eq_nil_iff (h : P.Valid desired table) :
    P.steps desired table = [] ↔ ∀ row, row ∈ table.filter P.owned ↔ row ∈ desired := by
  rw [steps, diff_steps_eq_nil]
  constructor
  · intro heq row
    have hrow : (P.existing table)[P.key row]? = some row ↔ (index P.key desired)[P.key row]? = some row := by
      rw [heq]
    rw [existing, getElem?_index h.unambiguous, getElem?_index h.distinct] at hrow
    simpa using hrow
  · exact index_eq_of_mem_iff h.unambiguous h.distinct

theorem Valid.perm_of_steps_eq_nil (h : P.Valid desired table) (hsteps : P.steps desired table = []) :
    (table.filter P.owned).Perm desired := by
  rw [List.perm_ext_iff_of_nodup (h.unambiguous.of_map _) (h.distinct.of_map _)]
  exact h.steps_eq_nil_iff.mp hsteps

/-- Every step of a plan is about a key of its owner's own. -/
theorem Valid.mem_steps (h : P.Valid desired table) (hchange : change ∈ P.steps desired table) :
    P.Justified desired table change := by
  rw [steps, diff_eq, Plan.steps, List.mem_append] at hchange
  simp only [List.mem_map, List.map_map, Prod.exists, Function.comp] at hchange
  obtain ⟨k, row, hentry, rfl⟩ | ⟨k, row, hentry, rfl⟩ := hchange
  · obtain ⟨hwanted, -⟩ := getElem?_pending.mp (mem_toList.mp hentry)
    exact .upsert ((getElem?_index h.distinct).mp hwanted).1
  · obtain ⟨hexisting, hunwanted⟩ := getElem?_stale.mp (mem_toList.mp hentry)
    obtain ⟨hrow, howned, rfl⟩ := h.getElem?_existing.mp hexisting
    exact .remove hrow howned (mem_index.not.mp hunwanted)

/-- No step is about the canonical key of a row of another owner. -/
theorem Valid.canonical_ne (hlawful : P.Lawful) (h : P.Valid desired table) (hchange : change ∈ P.steps desired table)
    (hrow : row ∈ table) (hforeign : P.owned row = false) :
    P.canonical change.row = .ok (P.key change.row) ∧ P.canonical row ≠ .ok (P.key change.row) := by
  obtain ⟨k, hk, hfresh, hapart⟩ := h.foreign row hrow hforeign
  rw [hk]
  cases h.mem_steps hchange with
  | @upsert mine hmine =>
    refine ⟨hlawful.canonical mine (h.wanted mine hmine), fun heq => hfresh ?_⟩
    rw [Except.ok.inj heq]
    exact List.mem_map_of_mem hmine
  | @remove mine hmine howned _ =>
    refine ⟨(h.owned mine hmine howned).1, fun heq => hapart ?_⟩
    rw [Except.ok.inj heq]
    exact List.mem_map_of_mem (List.mem_filter.mpr ⟨hmine, howned⟩)

end Policy

/-- What a planner promises about the tables that it plans for. -/
structure Correct [DecidableEq R] (P : Policy R K ε) (plan : List R → List R → Except ε (Plan R)) : Prop where
  exact : ∀ {desired observed : List R} {p : Plan R}, plan desired observed = .ok p →
    ((P.apply_all observed p.steps).filter P.owned).Perm desired ∧
      (P.apply_all observed p.steps).filter (fun row => !P.owned row) = observed.filter fun row => !P.owned row
  apart : ∀ {desired observed : List R} {p : Plan R}, plan desired observed = .ok p →
    ∀ change ∈ p.steps, ∃ k, P.canonical change.row = .ok k ∧
      ∀ row ∈ observed, P.owned row = false → P.canonical row ≠ .ok k
  empty_iff : ∀ {desired observed : List R} {p : Plan R}, plan desired observed = .ok p →
    ((p.upsert = [] ∧ p.remove = []) ↔ ∀ row, row ∈ observed.filter P.owned ↔ row ∈ desired)
  unordered : ∀ {desired observed desired₂ observed₂ : List R}, desired.Perm desired₂ → observed.Perm observed₂ →
    ∀ p, plan desired observed = .ok p ↔ plan desired₂ observed₂ = .ok p
  resumes : ∀ {desired observed : List R} {p : Plan R}, plan desired observed = .ok p → ∀ count, ∃ left,
    plan desired (P.apply_all observed (p.steps.take count)) = .ok left ∧ left.steps = p.steps.drop count

theorem Policy.Lawful.correct [DecidableEq R] {P : Policy R K ε} (hlawful : P.Lawful) : Correct P P.plan where
  exact := by
    intro desired observed p hplan
    obtain ⟨hvalid, rfl⟩ := plan_eq_ok_iff.mp hplan
    obtain ⟨hfinal, hsteps, hforeign⟩ := hvalid.run hlawful (P.steps desired observed).length
    rw [List.take_length] at hfinal hsteps hforeign
    rw [List.drop_length] at hsteps
    exact ⟨hfinal.perm_of_steps_eq_nil hsteps, hforeign⟩
  apart := by
    intro desired observed p hplan change hchange
    obtain ⟨hvalid, rfl⟩ := plan_eq_ok_iff.mp hplan
    refine ⟨P.key change.row, ?_, fun row hrow hforeign => (hvalid.canonical_ne hlawful hchange hrow hforeign).2⟩
    cases hvalid.mem_steps hchange with
    | upsert hmine => exact hlawful.canonical _ (hvalid.wanted _ hmine)
    | remove hmine howned _ => exact (hvalid.owned _ hmine howned).1
  empty_iff := by
    intro desired observed p hplan
    obtain ⟨hvalid, rfl⟩ := plan_eq_ok_iff.mp hplan
    rw [← Plan.steps_eq_nil]
    exact hvalid.steps_eq_nil_iff
  unordered := fun hdesired hobserved _ =>
    ⟨plan_perm hdesired hobserved, plan_perm hdesired.symm hobserved.symm⟩
  resumes := by
    intro desired observed p hplan count
    obtain ⟨hvalid, rfl⟩ := plan_eq_ok_iff.mp hplan
    obtain ⟨hafter, hsteps, -⟩ := hvalid.run hlawful count
    exact ⟨_, plan_eq_ok_iff.mpr ⟨hafter, rfl⟩, hsteps⟩

end Reconcile
