import Mathlib

/-! Marked entries of a log, and what has come after them. -/

namespace Marks

variable {α : Type} {p q : α → Bool} {log : List α} {entry other : α}

/-- A marked entry after which no entry has the second mark. -/
def Latest (p q : α → Bool) (log : List α) (entry : α) : Prop :=
  ∃ before after, log = before ++ entry :: after ∧ p entry = true ∧ ∀ later ∈ after, q later = false

/-- After every marked entry there is one with the second mark. -/
def Settled (p q : α → Bool) (log : List α) : Prop :=
  ∀ before entry after, log = before ++ entry :: after → p entry = true → ∃ later ∈ after, q later = true

theorem latest_concat (hp : p entry = true) : Latest p q (log ++ [entry]) entry :=
  ⟨log, [], rfl, hp, by simp⟩

theorem Latest.concat (h : Latest p q log entry) (hq : q other = false) : Latest p q (log ++ [other]) entry := by
  obtain ⟨before, after, rfl, hp, hafter⟩ := h
  refine ⟨before, after ++ [other], by simp, hp, ?_⟩
  exact List.forall_mem_append.mpr ⟨hafter, List.forall_mem_singleton.mpr hq⟩

theorem settled_nil : Settled p q ([] : List α) := by
  intro before entry after h
  simp at h

/-- The entries before a last one that does not have the first mark. -/
theorem exists_after_of_concat {before after : List α} (hlog : log ++ [other] = before ++ entry :: after)
    (hother : p other = false) (hentry : p entry = true) :
    ∃ between, after = between ++ [other] ∧ log = before ++ entry :: between := by
  induction after using List.reverseRecOn with
  | nil =>
    obtain ⟨-, hlast⟩ := List.append_inj' hlog rfl
    obtain rfl : other = entry := by simpa using hlast
    rw [hother] at hentry
    cases hentry
  | append_singleton between last _ =>
    rw [← List.cons_append, ← List.append_assoc] at hlog
    obtain ⟨rfl, hlast⟩ := List.append_inj' hlog rfl
    obtain rfl : other = last := by simpa using hlast
    exact ⟨between, rfl, rfl⟩

theorem Settled.concat (h : Settled p q log) (hother : p other = false) : Settled p q (log ++ [other]) := by
  intro before entry after hlog hentry
  obtain ⟨between, rfl, rfl⟩ := exists_after_of_concat hlog hother hentry
  obtain ⟨later, hlater, hq⟩ := h before entry between rfl hentry
  exact ⟨later, List.mem_append_left _ hlater, hq⟩

theorem settled_concat (hother : p other = false) (hq : q other = true) : Settled p q (log ++ [other]) := by
  intro before entry after hlog hentry
  obtain ⟨between, rfl, -⟩ := exists_after_of_concat hlog hother hentry
  exact ⟨other, by simp, hq⟩

end Marks
