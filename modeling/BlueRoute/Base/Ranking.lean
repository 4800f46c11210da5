import Mathlib

namespace Ranking

variable {α β : Type} [LinearOrder β]

/-- The first element with the greatest score, as a loop that replaces its
candidate only by a strictly better one finds it. -/
def strongest (score : α → β) (l : List α) : Option α :=
  l.foldl (fun best a =>
    match best with
    | none => some a
    | some b => if score b < score a then some a else some b) none

theorem foldl_strongest (score : α → β) (l : List α) (start : α) :
    ∃ a, l.foldl (fun best a =>
        match best with
        | none => some a
        | some b => if score b < score a then some a else some b) (some start) = some a ∧
      (a = start ∨ a ∈ l) ∧ score start ≤ score a ∧ ∀ b ∈ l, score b ≤ score a := by
  induction l generalizing start with
  | nil => exact ⟨start, rfl, .inl rfl, le_refl _, by simp⟩
  | cons first rest ih =>
    rw [List.foldl_cons]
    by_cases hlt : score start < score first
    · simp only [hlt, if_true]
      obtain ⟨a, ha, hmem, hfirst, hrest⟩ := ih first
      refine ⟨a, ha, ?_, hlt.le.trans hfirst, ?_⟩
      · exact .inr (hmem.elim (fun heq => heq ▸ List.mem_cons_self) (List.mem_cons_of_mem first))
      · exact List.forall_mem_cons.mpr ⟨hfirst, hrest⟩
    · simp only [hlt, if_false]
      obtain ⟨a, ha, hmem, hstart, hrest⟩ := ih start
      refine ⟨a, ha, hmem.imp_right (List.mem_cons_of_mem first), hstart, ?_⟩
      exact List.forall_mem_cons.mpr ⟨(not_lt.mp hlt).trans hstart, hrest⟩

variable {score key : α → β} {l : List α} {a : α} {n : Nat}

theorem strongest_eq_some (h : strongest score l = some a) : a ∈ l ∧ ∀ b ∈ l, score b ≤ score a := by
  cases l with
  | nil => cases h
  | cons first rest =>
    obtain ⟨b, hb, hmem, hfirst, hrest⟩ := foldl_strongest score rest first
    have heq : some b = some a := hb.symm.trans h
    cases heq
    exact ⟨List.mem_cons.mpr hmem, List.forall_mem_cons.mpr ⟨hfirst, hrest⟩⟩

theorem strongest_eq_none : strongest score l = none ↔ l = [] := by
  cases l with
  | nil => simp [strongest]
  | cons first rest =>
    obtain ⟨b, hb, _⟩ := foldl_strongest score rest first
    have hsome : strongest score (first :: rest) = some b := hb
    simp [hsome]

/-- An element that beats all others is the one that is found. -/
theorem strongest_eq_of_lt (hmem : a ∈ l) (hbest : ∀ b ∈ l, b = a ∨ score b < score a) :
    strongest score l = some a := by
  cases hfound : strongest score l with
  | none =>
    rw [strongest_eq_none.mp hfound] at hmem
    cases hmem
  | some b =>
    obtain ⟨hb, hmax⟩ := strongest_eq_some hfound
    obtain rfl | hlt := hbest b hb
    · rfl
    · exact absurd hlt (not_lt.mpr (hmax a hmem))

/-- The first `n` elements of a pool in the order of a key. -/
def top (key : α → β) (n : Nat) (pool : List α) : List α :=
  (pool.insertionSort fun a b => key a ≤ key b).take n

theorem length_top (key : α → β) (n : Nat) (pool : List α) : (top key n pool).length = min n pool.length := by
  rw [top, List.length_take, List.length_insertionSort]

theorem mem_of_mem_top {pool : List α} (h : a ∈ top key n pool) : a ∈ pool :=
  (List.perm_insertionSort _ pool).mem_iff.mp (List.mem_of_mem_take h)

/-- A pool that does not fill the places is taken as a whole. -/
theorem mem_top_of_room {pool : List α} (h : a ∈ pool) (hroom : (top key n pool).length < n) :
    a ∈ top key n pool := by
  rw [length_top] at hroom
  rw [top, List.take_of_length_le (by rw [List.length_insertionSort]; omega)]
  exact (List.perm_insertionSort _ pool).mem_iff.mpr h

/-- A pool that grows does not offer fewer elements. -/
theorem length_top_filterMap_le {γ : Type} {narrow wide : γ → Option α} (l : List γ)
    (h : ∀ c ∈ l, ∀ a, narrow c = some a → ∃ b, wide c = some b) :
    (top key n (l.filterMap narrow)).length ≤ (top key n (l.filterMap wide)).length := by
  have hpool : (l.filterMap narrow).length ≤ (l.filterMap wide).length := by
    induction l with
    | nil => exact le_refl _
    | cons c rest ih =>
      have hrest := ih fun d hd => h d (List.mem_cons_of_mem c hd)
      rw [List.filterMap_cons, List.filterMap_cons]
      cases hnarrow : narrow c with
      | none =>
        cases wide c with
        | none => exact hrest
        | some b => exact hrest.trans (Nat.le_succ _)
      | some a =>
        obtain ⟨b, hb⟩ := h c List.mem_cons_self a hnarrow
        rw [hb]
        exact Nat.succ_le_succ hrest
  rw [length_top, length_top]
  omega

end Ranking
