import Mathlib

namespace Ordered

section Lists

variable {α : Type} [DecidableEq α] {r : α → α → Prop} [DecidableRel r]

theorem mem_destutter_ne {a : α} {l : List α} : a ∈ l.destutter (· ≠ ·) ↔ a ∈ l := by
  have hmem : ∀ (l : List α) (b : α), a ∈ l.destutter' (· ≠ ·) b ↔ a = b ∨ a ∈ l := by
    intro l
    induction l with
    | nil => simp
    | cons c rest ih =>
      intro b
      by_cases hbc : b = c
      · subst hbc
        rw [List.destutter'_cons_neg rest (not_not.mpr rfl), ih b]
        simp
      · rw [List.destutter'_cons_pos rest hbc, List.mem_cons, ih c, List.mem_cons]
  cases l with
  | nil => rfl
  | cons b rest => rw [List.destutter_cons', hmem, List.mem_cons]

/-- A list sorted by a comparison, without its adjacent repetitions. -/
def sort_dedup (r : α → α → Prop) [DecidableRel r] (l : List α) : List α :=
  (l.insertionSort r).destutter (· ≠ ·)

@[simp]
theorem mem_sort_dedup {a : α} {l : List α} : a ∈ sort_dedup r l ↔ a ∈ l := by
  rw [sort_dedup, mem_destutter_ne, List.mem_insertionSort]

end Lists

section Sets

variable {α : Type} [LinearOrder α]

/-- The elements of a finite set in ascending order, which is the iteration
order of a B-tree set. Insertion sort keeps it computable on closed terms. -/
def ascending (s : Finset α) : List α :=
  Quot.liftOn s.val (fun l => l.insertionSort (· ≤ ·)) fun left right hperm =>
    List.Perm.eq_of_pairwise'
      (List.pairwise_insertionSort (· ≤ ·) left) (List.pairwise_insertionSort (· ≤ ·) right)
      ((List.perm_insertionSort (· ≤ ·) left).trans
        (hperm.trans (List.perm_insertionSort (· ≤ ·) right).symm))

theorem ascending_eq_sort (s : Finset α) : ascending s = s.sort (· ≤ ·) := by
  obtain ⟨val, hnodup⟩ := s
  obtain ⟨l, rfl⟩ := Quotient.exists_rep val
  exact (List.mergeSort_eq_insertionSort (· ≤ ·) l).symm

variable {s : Finset α} {a : α}

@[simp]
theorem mem_ascending : a ∈ ascending s ↔ a ∈ s := by
  rw [ascending_eq_sort, Finset.mem_sort]

theorem ascending_pairwise_lt (s : Finset α) : (ascending s).Pairwise (· < ·) := by
  rw [ascending_eq_sort]
  exact (Finset.sortedLT_sort s).pairwise

theorem ascending_nodup (s : Finset α) : (ascending s).Nodup := by
  rw [ascending_eq_sort]
  exact Finset.sort_nodup s (· ≤ ·)

@[simp]
theorem length_ascending (s : Finset α) : (ascending s).length = s.card := by
  rw [ascending_eq_sort, Finset.length_sort]

/-- A strictly ascending list enumerates the set of its elements. -/
theorem ascending_eq_of_pairwise_lt {l : List α} (hsorted : l.Pairwise (· < ·)) (hmem : ∀ a, a ∈ l ↔ a ∈ s) :
    ascending s = l := by
  have hperm : (ascending s).Perm l := by
    rw [List.perm_ext_iff_of_nodup (ascending_nodup s) (hsorted.imp ne_of_lt)]
    intro a
    rw [mem_ascending, hmem]
  exact List.Perm.eq_of_pairwise' ((ascending_pairwise_lt s).imp le_of_lt) (hsorted.imp le_of_lt) hperm

/-- Removing the least element drops the head of the enumeration. -/
theorem ascending_erase_head {rest : List α} (h : ascending s = a :: rest) : ascending (s.erase a) = rest := by
  have hsorted := ascending_pairwise_lt s
  rw [h, List.pairwise_cons] at hsorted
  apply ascending_eq_of_pairwise_lt hsorted.2
  intro b
  have hmem : b ∈ s ↔ b = a ∨ b ∈ rest := by rw [← mem_ascending, h, List.mem_cons]
  rw [Finset.mem_erase, hmem]
  constructor
  · intro hb
    exact ⟨(ne_of_lt (hsorted.1 b hb)).symm, .inr hb⟩
  · rintro ⟨hne, heq | hb⟩
    · exact absurd heq hne
    · exact hb

/-- The first element, in ascending order, that satisfies the predicate. -/
def first (p : α → Bool) (s : Finset α) : Option α := (ascending s).find? p

theorem first_eq_some {p : α → Bool} (h : first p s = some a) : a ∈ s ∧ p a = true := by
  exact ⟨mem_ascending.mp (List.mem_of_find?_eq_some h), List.find?_some h⟩

theorem first_eq_none {p : α → Bool} : first p s = none ↔ ∀ a ∈ s, p a = false := by
  simp [first, List.find?_eq_none]

end Sets

section Maps

variable {K V : Type} [LinearOrder K]

/-- A finite map whose iteration order is the order of its keys. -/
abbrev Map (K V : Type) [LinearOrder K] := Std.ExtTreeMap K V compare

/-- The order of the keys compares them transitively, as every operation of a map needs it. -/
instance transCmp_compare : Std.TransCmp (compare : K → K → Ordering) :=
  inferInstance

instance lawfulEqCmp_compare : Std.LawfulEqCmp (compare : K → K → Ordering) :=
  inferInstance

@[simp]
theorem getElem?_insert_eq (m : Map K V) (k a : K) (v : V) :
    (m.insert k v)[a]? = if k = a then some v else m[a]? := by
  simp [Std.ExtTreeMap.getElem?_insert]

@[simp]
theorem getElem?_erase_eq (m : Map K V) (k a : K) : (m.erase k)[a]? = if k = a then none else m[a]? := by
  simp [Std.ExtTreeMap.getElem?_erase]

theorem getElem?_filter_key (m : Map K V) (p : K → Bool) (a : K) :
    (m.filter fun k _ => p k)[a]? = if p a = true then m[a]? else none := by
  rw [Std.ExtTreeMap.getElem?_filter']
  cases m[a]? <;> simp [Option.filter]

variable {m : Map K V} {k : K} {v : V} {W : Type}

theorem mem_iff_exists : k ∈ m ↔ ∃ v, m[k]? = some v := by
  rw [Std.ExtTreeMap.mem_iff_isSome_getElem?, Option.isSome_iff_exists]

theorem mem_toList : (k, v) ∈ m.toList ↔ m[k]? = some v :=
  Std.ExtTreeMap.mem_toList_iff_getElem?_eq_some

theorem mem_insert_iff {a : K} : a ∈ m.insert k v ↔ a = k ∨ a ∈ m := by
  rw [Std.ExtTreeMap.mem_insert, Std.LawfulEqCmp.compare_eq_iff_eq, eq_comm]

theorem mem_erase_iff {a : K} : a ∈ m.erase k ↔ a ≠ k ∧ a ∈ m := by
  rw [Std.ExtTreeMap.mem_erase, ne_eq, Std.LawfulEqCmp.compare_eq_iff_eq, eq_comm]

theorem size_insert_of_notMem (v : V) (h : k ∉ m) : (m.insert k v).size = m.size + 1 := by
  simp [Std.ExtTreeMap.size_insert, h]

theorem size_erase_of_mem (h : k ∈ m) : (m.erase k).size + 1 = m.size := by
  have hpos : 0 < m.size := by
    rw [Nat.pos_iff_ne_zero, ne_eq, ← Std.ExtTreeMap.eq_empty_iff_size_eq_zero]
    rintro rfl
    simp at h
  simp only [Std.ExtTreeMap.size_erase, Std.ExtTreeMap.mem_iff_contains.mp h, if_true]
  omega

/-- What a map shows of its entries. -/
def view {W : Type} (f : V → Option W) (m : Map K V) (k : K) : Option W := (m[k]?).bind f

theorem view_of_some {f : V → Option W} (h : m[k]? = some v) : view f m k = f v := by
  rw [view, h]
  rfl

theorem view_insert (f : V → Option W) (m : Map K V) (k : K) (v : V) :
    view f (m.insert k v) = Function.update (view f m) k (f v) := by
  funext a
  rw [view, getElem?_insert_eq]
  by_cases ha : k = a
  · subst ha
    rw [if_pos rfl, Function.update_self]
    rfl
  · rw [if_neg ha, Function.update_of_ne (Ne.symm ha)]
    rfl

theorem view_erase (f : V → Option W) (m : Map K V) (k : K) :
    view f (m.erase k) = Function.update (view f m) k none := by
  funext a
  rw [view, getElem?_erase_eq]
  by_cases ha : k = a
  · subst ha
    rw [if_pos rfl, Function.update_self]
    rfl
  · rw [if_neg ha, Function.update_of_ne (Ne.symm ha)]
    rfl

theorem ext_getElem?_some {left right : Map K V}
    (h : ∀ (k : K) (v : V), left[k]? = some v ↔ right[k]? = some v) : left = right :=
  Std.ExtTreeMap.ext_getElem? fun k => Option.ext (h k)

theorem insert_insert (m : Map K V) (k : K) (first second : V) :
    (m.insert k first).insert k second = m.insert k second := by
  refine Std.ExtTreeMap.ext_getElem? fun a => ?_
  simp only [getElem?_insert_eq]
  split <;> rfl

theorem toList_eq_nil_iff : m.toList = [] ↔ ∀ (k : K) (v : V), m[k]? ≠ some v := by
  rw [List.eq_nil_iff_forall_not_mem]
  exact ⟨fun h k v hv => h (k, v) (mem_toList.mpr hv), fun h entry hentry => h entry.1 entry.2 (mem_toList.mp hentry)⟩

/-- Dropping the least key drops the head of the enumeration. -/
theorem toList_erase_head {rest : List (K × V)} (h : m.toList = (k, v) :: rest) : (m.erase k).toList = rest := by
  have herase : m.erase k = m.filter fun other _ => decide (other ≠ k) := by
    apply Std.ExtTreeMap.ext_getElem?
    intro other
    rw [getElem?_filter_key, getElem?_erase_eq]
    by_cases hk : k = other
    · simp [hk]
    · simp [hk, Ne.symm hk]
  have hdistinct := Std.ExtTreeMap.distinct_keys_toList (t := m)
  rw [h, List.pairwise_cons] at hdistinct
  rw [herase, Std.ExtTreeMap.toList_filter, h, List.filter_cons_of_neg (by simp), List.filter_eq_self]
  intro other hother
  have hne := hdistinct.1 other hother
  rw [Std.LawfulEqCmp.compare_eq_iff_eq] at hne
  simpa using Ne.symm hne

/-- A map that is written entry by entry: what is built of it already and the entries still to come. -/
structure Rebuilds (target built : Map K V) (rest : List (K × V)) : Prop where
  distinct : rest.Pairwise fun left right => left.1 ≠ right.1
  missing : ∀ entry ∈ rest, built[entry.1]? = none
  lookup : ∀ (k : K) (v : V), target[k]? = some v ↔ built[k]? = some v ∨ (k, v) ∈ rest

namespace Rebuilds

variable {target built : Map K V} {rest : List (K × V)} {k : K} {v : V}

theorem start (target : Map K V) : Rebuilds target ∅ target.toList where
  distinct := Std.ExtTreeMap.distinct_keys_toList.imp fun hne heq => hne (compare_eq_iff_eq.mpr heq)
  missing := by simp
  lookup k v := by simp

theorem head_lookup (h : Rebuilds target built ((k, v) :: rest)) : target[k]? = some v :=
  (h.lookup k v).mpr (.inr List.mem_cons_self)

theorem head_missing (h : Rebuilds target built ((k, v) :: rest)) : built[k]? = none :=
  h.missing _ List.mem_cons_self

theorem step (h : Rebuilds target built ((k, v) :: rest)) : Rebuilds target (built.insert k v) rest := by
  obtain ⟨hhead, hdistinct⟩ := List.pairwise_cons.mp h.distinct
  refine ⟨hdistinct, fun other hother => ?_, fun k' v' => ?_⟩
  · rw [getElem?_insert_eq, if_neg (hhead other hother)]
    exact h.missing other (List.mem_cons_of_mem _ hother)
  · rw [getElem?_insert_eq, h.lookup, List.mem_cons, Prod.mk.injEq]
    by_cases hkey : k = k'
    · subst hkey
      have hnot : (k, v') ∉ rest := fun hmem => hhead _ hmem rfl
      simp [h.head_missing, hnot, eq_comm]
    · simp [hkey, Ne.symm hkey]

theorem built_eq (h : Rebuilds target built []) : built = target :=
  ext_getElem?_some fun k v => by rw [h.lookup, or_iff_left List.not_mem_nil]

theorem size_eq (h : Rebuilds target built rest) : built.size + rest.length = target.size := by
  induction rest generalizing built with
  | nil => rw [h.built_eq, List.length_nil, add_zero]
  | cons entry rest ih =>
    have hsize : (built.insert entry.1 entry.2).size = built.size + 1 :=
      size_insert_of_notMem entry.2 (by simp [mem_iff_exists, h.head_missing])
    rw [← ih h.step, hsize, List.length_cons]
    omega

end Rebuilds

end Maps

end Ordered
