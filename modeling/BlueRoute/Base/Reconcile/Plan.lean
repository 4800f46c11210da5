import BlueRoute.Base.Fallible
import BlueRoute.Base.Ordered

/-! Reconciliation of a shared table with the rows that one owner wants in it. Rows are compared by
key; the rows of other owners are read under a canonical key and must never be touched. -/

namespace Reconcile

open Fallible Ordered

variable {R K ε : Type} [LinearOrder K]

/-! Rows by their keys. -/

def index (key : R → K) (rows : List R) : Map K R :=
  rows.foldl (fun m row => m.insert (key row) row) ∅

section Index

variable {key : R → K} {rows others : List R}

theorem index_append_singleton (rows : List R) (row : R) :
    index key (rows ++ [row]) = (index key rows).insert (key row) row := by
  rw [index, List.foldl_append]
  rfl

theorem mem_index {k : K} : k ∈ index key rows ↔ k ∈ rows.map key := by
  induction rows using List.reverseRecOn with
  | nil => simp [index]
  | append_singleton rows row ih =>
    rw [index_append_singleton, mem_insert_iff, ih, List.map_append, List.mem_append, or_comm]
    simp

omit [LinearOrder K] in
theorem nodup_append_key {row : R} :
    ((rows ++ [row]).map key).Nodup ↔ (rows.map key).Nodup ∧ key row ∉ rows.map key := by
  rw [List.map_append, List.map_singleton, ← List.concat_eq_append, List.nodup_concat, and_comm]

theorem getElem?_index (hdistinct : (rows.map key).Nodup) {k : K} {row : R} :
    (index key rows)[k]? = some row ↔ row ∈ rows ∧ key row = k := by
  induction rows using List.reverseRecOn with
  | nil => simp [index]
  | append_singleton rows last ih =>
    obtain ⟨hrows, hlast⟩ := nodup_append_key.mp hdistinct
    rw [index_append_singleton, getElem?_insert_eq, List.mem_append, List.mem_singleton]
    split
    · next hk =>
      subst hk
      constructor
      · intro h
        obtain rfl := Option.some.inj h
        exact ⟨.inr rfl, rfl⟩
      · rintro ⟨hrow | rfl, hkey⟩
        · exact absurd (List.mem_map.mpr ⟨row, hrow, hkey⟩) hlast
        · rfl
    · next hk =>
      rw [ih hrows]
      constructor
      · exact fun h => ⟨.inl h.1, h.2⟩
      · rintro ⟨hrow | rfl, hkey⟩
        · exact ⟨hrow, hkey⟩
        · exact absurd hkey hk

/-- Rows with distinct keys are indexed as a set. -/
theorem index_eq_of_mem_iff (hrows : (rows.map key).Nodup) (hothers : (others.map key).Nodup)
    (hmem : ∀ row, row ∈ rows ↔ row ∈ others) : index key rows = index key others := by
  apply Std.ExtTreeMap.ext_getElem?
  intro k
  apply Option.ext
  intro row
  rw [getElem?_index hrows, getElem?_index hothers, hmem]

end Index

/-- Replacements and insertions, and the removals that follow them. -/
structure Plan (R : Type) where
  upsert : List R
  remove : List R
deriving DecidableEq

inductive Change (R : Type) where
  | Upsert (row : R)
  | Remove (row : R)
deriving DecidableEq

def Change.row : Change R → R
  | .Upsert row => row
  | .Remove row => row

def Plan.steps (plan : Plan R) : List (Change R) :=
  plan.upsert.map .Upsert ++ plan.remove.map .Remove

theorem Plan.steps_eq_nil {plan : Plan R} : plan.steps = [] ↔ plan.upsert = [] ∧ plan.remove = [] := by
  simp [steps]

/-- What one owner accepts in a table, with the errors for what it does not accept. -/
structure Policy (R K ε : Type) where
  check_owner : Except ε Unit
  key : R → K
  owned : R → Bool
  check_desired : R → Except ε Unit
  canonical : R → Except ε K
  check_observed : R → Except ε Unit
  duplicate_desired : ε
  desired_conflict : ε
  noncanonical : ε
  duplicate_observed : ε
  owned_conflict : ε

/-- What the pass over an observation has collected. -/
structure Seen (R K : Type) [LinearOrder K] where
  existing : Map K R
  foreign : Finset K

/-- The intents that lead from the existing rows to the wanted ones, in the order of the keys. -/
def diff [DecidableEq R] (wanted existing : Map K R) : Plan R where
  upsert := (wanted.toList.filter fun (k, row) => existing[k]? ≠ some row).map Prod.snd
  remove := (existing.toList.filter fun (k, _) => k ∉ wanted).map Prod.snd

namespace Policy

variable (P : Policy R K ε)

def want (wanted : Map K R) (row : R) : Except ε (Map K R) := do
  P.check_desired row
  reject_if (P.key row ∈ wanted) P.duplicate_desired
  pure (wanted.insert (P.key row) row)

def observe (wanted : Map K R) (seen : Seen R K) (row : R) : Except ε (Seen R K) := do
  let k ← P.canonical row
  if !P.owned row then
    reject_if (k ∈ wanted) P.desired_conflict
    pure { seen with foreign := insert k seen.foreign }
  else
    P.check_observed row
    reject_if (k ≠ P.key row) P.noncanonical
    reject_if (k ∈ seen.existing) P.duplicate_observed
    pure { seen with existing := seen.existing.insert k row }

def plan [DecidableEq R] (desired observed : List R) : Except ε (Plan R) := do
  P.check_owner
  let wanted ← desired.foldlM P.want ∅
  let seen ← observed.foldlM (P.observe wanted) ⟨∅, ∅⟩
  reject_if (seen.existing.keys.any (· ∈ seen.foreign)) P.owned_conflict
  pure (diff wanted seen.existing)

/-- The meaning of an intent on a table. -/
def apply [DecidableEq R] (table : List R) : Change R → List R
  | .Upsert row => (table.filter fun other => !(P.owned other && P.key other = P.key row)) ++ [row]
  | .Remove row => table.filter (· ≠ row)

def apply_all [DecidableEq R] (table : List R) (changes : List (Change R)) : List R :=
  changes.foldl P.apply table

/-- A wanted row is one that its owner would accept in an observation, under its own key. -/
structure Lawful : Prop where
  owned : ∀ row, P.check_desired row = .ok () → P.owned row = true
  canonical : ∀ row, P.check_desired row = .ok () → P.canonical row = .ok (P.key row)
  observed : ∀ row, P.check_desired row = .ok () → P.check_observed row = .ok ()

/-- The inputs for which there is a plan. -/
structure Valid (desired observed : List R) : Prop where
  owner : P.check_owner = .ok ()
  wanted : ∀ row ∈ desired, P.check_desired row = .ok ()
  distinct : (desired.map P.key).Nodup
  owned : ∀ row ∈ observed, P.owned row = true → P.canonical row = .ok (P.key row) ∧ P.check_observed row = .ok ()
  foreign : ∀ row ∈ observed, P.owned row = false → ∃ k, P.canonical row = .ok k ∧ k ∉ desired.map P.key ∧
    k ∉ (observed.filter P.owned).map P.key
  unambiguous : ((observed.filter P.owned).map P.key).Nodup

/-- The owned rows of a table by their keys. -/
def existing (table : List R) : Map K R := index P.key (table.filter P.owned)

/-- The canonical keys of the rows of others. -/
def foreign_keys (table : List R) : Finset K :=
  (table.filterMap fun row => if P.owned row then none else (P.canonical row).toOption).toFinset

variable {P} {desired observed table : List R}

variable {wanted : Map K R} {k : K} {row : R}

theorem foldlM_want_eq_ok_iff :
    desired.foldlM P.want ∅ = .ok wanted ↔
      (∀ row ∈ desired, P.check_desired row = .ok ()) ∧ (desired.map P.key).Nodup ∧ wanted = index P.key desired := by
  induction desired using List.reverseRecOn generalizing wanted with
  | nil => simp [index, pure, Except.pure, eq_comm]
  | append_singleton rows row ih =>
    rw [List.foldlM_append, bind_eq_ok_iff, nodup_append_key, index_append_singleton]
    simp only [ih, want, List.foldlM_cons, List.foldlM_nil, bind_eq_ok_iff, reject_if_eq_ok, List.mem_append,
      List.mem_singleton, pure, Except.pure, Except.ok.injEq]
    constructor
    · rintro ⟨_, ⟨hrows, hdistinct, rfl⟩, _, ⟨⟨⟩, hcheck, ⟨⟩, hfresh, rfl⟩, rfl⟩
      rw [mem_index] at hfresh
      refine ⟨?_, ⟨hdistinct, hfresh⟩, rfl⟩
      rintro other (hother | rfl)
      · exact hrows other hother
      · exact hcheck
    · rintro ⟨hrows, ⟨hdistinct, hfresh⟩, rfl⟩
      refine ⟨_, ⟨fun other hother => hrows other (.inl hother), hdistinct, rfl⟩, _, ?_, rfl⟩
      exact ⟨(), hrows row (.inr rfl), (), mem_index.not.mpr hfresh, rfl⟩

theorem mem_foreign_keys :
    k ∈ P.foreign_keys table ↔ ∃ row ∈ table, P.owned row = false ∧ P.canonical row = .ok k := by
  rw [foreign_keys, List.mem_toFinset, List.mem_filterMap]
  refine exists_congr fun row => and_congr_right fun _ => ?_
  cases P.owned row <;> cases P.canonical row <;> simp [Except.toOption]

/-- What the pass over an observation asks of each row. -/
def Admitted (P : Policy R K ε) (wanted : Map K R) (row : R) : Prop :=
  ∃ k, P.canonical row = .ok k ∧ (P.owned row = false → k ∉ wanted) ∧
    (P.owned row = true → P.check_observed row = .ok () ∧ k = P.key row)

theorem observe_eq_ok_iff {seen after : Seen R K} :
    P.observe wanted seen row = .ok after ↔ ∃ k, P.canonical row = .ok k ∧
      ((P.owned row = false ∧ k ∉ wanted ∧ after = { seen with foreign := insert k seen.foreign }) ∨
        (P.owned row = true ∧ P.check_observed row = .ok () ∧ k = P.key row ∧ k ∉ seen.existing ∧
          after = { seen with existing := seen.existing.insert k row })) := by
  rw [observe, bind_eq_ok_iff]
  refine exists_congr fun k => and_congr_right fun _ => ?_
  cases P.owned row with
  | false =>
    simp only [Bool.not_false, if_true, bind_eq_ok_iff, reject_if_eq_ok, pure, Except.pure, Except.ok.injEq]
    constructor
    · rintro ⟨⟨⟩, hfresh, rfl⟩
      exact .inl ⟨trivial, hfresh, rfl⟩
    · rintro (⟨-, hfresh, rfl⟩ | ⟨habsurd, -⟩)
      · exact ⟨(), hfresh, rfl⟩
      · cases habsurd
  | true =>
    simp only [Bool.not_true, Bool.false_eq_true, if_false, bind_eq_ok_iff, reject_if_eq_ok, not_not, pure,
      Except.pure, Except.ok.injEq]
    constructor
    · rintro ⟨⟨⟩, hcheck, ⟨⟩, hkey, ⟨⟩, hfresh, rfl⟩
      exact .inr ⟨trivial, hcheck, hkey, hfresh, rfl⟩
    · rintro (⟨habsurd, -⟩ | ⟨-, hcheck, hkey, hfresh, rfl⟩)
      · cases habsurd
      · exact ⟨(), hcheck, (), hkey, (), hfresh, rfl⟩

theorem existing_append_owned (h : P.owned row = true) :
    P.existing (table ++ [row]) = (P.existing table).insert (P.key row) row := by
  rw [existing, List.filter_append, List.filter_singleton, h, cond_true, index_append_singleton]
  rfl

theorem existing_append_foreign (h : P.owned row = false) : P.existing (table ++ [row]) = P.existing table := by
  rw [existing, List.filter_append, List.filter_singleton, h, cond_false, List.append_nil]
  rfl

theorem foreign_keys_append_owned (h : P.owned row = true) :
    P.foreign_keys (table ++ [row]) = P.foreign_keys table := by
  simp [foreign_keys, List.filterMap_append, h]

theorem foreign_keys_append_foreign (h : P.owned row = false) (hk : P.canonical row = .ok k) :
    P.foreign_keys (table ++ [row]) = insert k (P.foreign_keys table) := by
  ext other
  simp only [mem_foreign_keys, Finset.mem_insert, List.mem_append, List.mem_singleton]
  constructor
  · rintro ⟨found, hfound | rfl, howned, hother⟩
    · exact .inr ⟨found, hfound, howned, hother⟩
    · exact .inl (Except.ok.inj (hother.symm.trans hk))
  · rintro (rfl | ⟨found, hfound, hrest⟩)
    · exact ⟨row, .inr rfl, h, hk⟩
    · exact ⟨found, .inl hfound, hrest⟩

/-- A pass over an observation succeeds where it admits every row and no two owned rows share a key. -/
theorem foldlM_observe_eq_ok_iff {seen : Seen R K} :
    observed.foldlM (P.observe wanted) ⟨∅, ∅⟩ = .ok seen ↔
      (∀ row ∈ observed, P.Admitted wanted row) ∧ ((observed.filter P.owned).map P.key).Nodup ∧
        seen = ⟨P.existing observed, P.foreign_keys observed⟩ := by
  induction observed using List.reverseRecOn generalizing seen with
  | nil => simp [existing, foreign_keys, index, pure, Except.pure, eq_comm (a := seen)]
  | append_singleton rows row ih =>
    have hall : (∀ other ∈ rows ++ [row], P.Admitted wanted other) ↔
        (∀ other ∈ rows, P.Admitted wanted other) ∧ P.Admitted wanted row := by
      simp [List.mem_append, or_imp, forall_and]
    rw [List.foldlM_append, bind_eq_ok_iff, hall]
    simp only [ih, List.foldlM_cons, List.foldlM_nil, bind_pure, observe_eq_ok_iff]
    cases howned : P.owned row with
    | false =>
      have hfilter : (rows ++ [row]).filter P.owned = rows.filter P.owned := by
        simp [List.filter_append, howned]
      rw [hfilter]
      constructor
      · rintro ⟨_, ⟨hrows, hdistinct, rfl⟩, k, hk, ⟨-, hfresh, rfl⟩ | ⟨habsurd, -⟩⟩
        · refine ⟨⟨hrows, k, hk, fun _ => hfresh, fun habsurd => ?_⟩, hdistinct, ?_⟩
          · rw [howned] at habsurd
            cases habsurd
          · rw [existing_append_foreign howned, foreign_keys_append_foreign howned hk]
        · cases habsurd
      · rintro ⟨⟨hrows, k, hk, hfresh, -⟩, hdistinct, rfl⟩
        refine ⟨_, ⟨hrows, hdistinct, rfl⟩, k, hk, .inl ⟨rfl, hfresh howned, ?_⟩⟩
        rw [existing_append_foreign howned, foreign_keys_append_foreign howned hk]
    | true =>
      have hfilter : (rows ++ [row]).filter P.owned = rows.filter P.owned ++ [row] := by
        simp [List.filter_append, howned]
      rw [hfilter, nodup_append_key]
      constructor
      · rintro ⟨_, ⟨hrows, hdistinct, rfl⟩, k, hk, ⟨habsurd, -⟩ | ⟨-, hcheck, rfl, hfresh, rfl⟩⟩
        · cases habsurd
        · refine ⟨⟨hrows, _, hk, fun habsurd => ?_, fun _ => ⟨hcheck, rfl⟩⟩, ⟨hdistinct, mem_index.not.mp hfresh⟩, ?_⟩
          · rw [howned] at habsurd
            cases habsurd
          · rw [existing_append_owned howned, foreign_keys_append_owned howned]
      · rintro ⟨⟨hrows, k, hk, -, hkey⟩, ⟨hdistinct, hfresh⟩, rfl⟩
        obtain ⟨hcheck, rfl⟩ := hkey howned
        refine ⟨_, ⟨hrows, hdistinct, rfl⟩, _, hk, .inr ⟨rfl, hcheck, rfl, mem_index.not.mpr hfresh, ?_⟩⟩
        rw [existing_append_owned howned, foreign_keys_append_owned howned]

/-- There is a plan exactly for valid inputs, and it is the difference of the wanted and the owned rows. -/
theorem plan_eq_ok_iff [DecidableEq R] {p : Plan R} :
    P.plan desired observed = .ok p ↔
      P.Valid desired observed ∧ p = diff (index P.key desired) (P.existing observed) := by
  simp only [plan, bind_eq_ok_iff, foldlM_want_eq_ok_iff, foldlM_observe_eq_ok_iff, reject_if_eq_ok,
    List.any_eq_true, decide_eq_true_eq, Std.ExtTreeMap.mem_keys, pure, Except.pure, Except.ok.injEq]
  constructor
  · rintro ⟨⟨⟩, howner, _, ⟨hwanted, hdistinct, rfl⟩, _, ⟨hadmitted, hunambiguous, rfl⟩, ⟨⟩, happart, rfl⟩
    refine ⟨⟨howner, hwanted, hdistinct, fun row hrow howned => ?_, fun row hrow hforeign => ?_, hunambiguous⟩, rfl⟩
    · obtain ⟨k, hk, -, hkey⟩ := hadmitted row hrow
      obtain ⟨hcheck, rfl⟩ := hkey howned
      exact ⟨hk, hcheck⟩
    · obtain ⟨k, hk, hfresh, -⟩ := hadmitted row hrow
      refine ⟨k, hk, mem_index.not.mp (hfresh hforeign), fun hmem => happart ⟨k, mem_index.mpr hmem, ?_⟩⟩
      exact mem_foreign_keys.mpr ⟨row, hrow, hforeign, hk⟩
  · rintro ⟨hvalid, rfl⟩
    refine ⟨(), hvalid.owner, _, ⟨hvalid.wanted, hvalid.distinct, rfl⟩, _,
      ⟨fun row hrow => ?_, hvalid.unambiguous, rfl⟩, (), ?_, rfl⟩
    · cases howned : P.owned row with
      | false =>
        obtain ⟨k, hk, hfresh, -⟩ := hvalid.foreign row hrow howned
        exact ⟨k, hk, fun _ => mem_index.not.mpr hfresh, fun habsurd => by rw [howned] at habsurd; cases habsurd⟩
      | true =>
        obtain ⟨hk, hcheck⟩ := hvalid.owned row hrow howned
        exact ⟨_, hk, fun habsurd => (by rw [howned] at habsurd; cases habsurd), fun _ => ⟨hcheck, rfl⟩⟩
    · rintro ⟨k, hexisting, hforeign⟩
      obtain ⟨row, hrow, howned, hk⟩ := mem_foreign_keys.mp hforeign
      obtain ⟨other, hother, -, hapart⟩ := hvalid.foreign row hrow howned
      obtain rfl := Except.ok.inj (hk.symm.trans hother)
      exact hapart (mem_index.mp hexisting)

theorem Valid.getElem?_existing (h : P.Valid desired table) :
    (P.existing table)[k]? = some row ↔ row ∈ table ∧ P.owned row = true ∧ P.key row = k := by
  rw [existing, getElem?_index h.unambiguous, List.mem_filter, and_assoc]

omit [LinearOrder K] in
/-- Whether there is a plan does not depend on the order of the rows. -/
theorem Valid.perm {desired₂ observed₂ : List R} (h : P.Valid desired observed) (hdesired : desired.Perm desired₂)
    (hobserved : observed.Perm observed₂) : P.Valid desired₂ observed₂ where
  owner := h.owner
  wanted := fun row hrow => h.wanted row (hdesired.mem_iff.mpr hrow)
  distinct := (hdesired.map P.key).nodup_iff.mp h.distinct
  owned := fun row hrow => h.owned row (hobserved.mem_iff.mpr hrow)
  foreign := by
    intro row hrow hforeign
    obtain ⟨k, hk, hfresh, hapart⟩ := h.foreign row (hobserved.mem_iff.mpr hrow) hforeign
    refine ⟨k, hk, (hdesired.map P.key).mem_iff.not.mp hfresh, ?_⟩
    exact ((hobserved.filter P.owned).map P.key).mem_iff.not.mp hapart
  unambiguous := ((hobserved.filter P.owned).map P.key).nodup_iff.mp h.unambiguous

theorem Valid.existing_perm {observed₂ : List R} (h : P.Valid desired observed) (hobserved : observed.Perm observed₂) :
    P.existing observed = P.existing observed₂ := by
  have hperm := hobserved.filter P.owned
  exact index_eq_of_mem_iff h.unambiguous ((hperm.map P.key).nodup_iff.mp h.unambiguous) fun row => hperm.mem_iff

theorem plan_perm [DecidableEq R] {desired₂ observed₂ : List R} {p : Plan R} (hdesired : desired.Perm desired₂)
    (hobserved : observed.Perm observed₂) (h : P.plan desired observed = .ok p) :
    P.plan desired₂ observed₂ = .ok p := by
  obtain ⟨hvalid, rfl⟩ := plan_eq_ok_iff.mp h
  have hvalid₂ := hvalid.perm hdesired hobserved
  refine plan_eq_ok_iff.mpr ⟨hvalid₂, ?_⟩
  rw [index_eq_of_mem_iff hvalid.distinct hvalid₂.distinct fun row => hdesired.mem_iff, hvalid.existing_perm hobserved]

end Policy

end Reconcile
