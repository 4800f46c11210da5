import Mathlib

/-! A log of which only the newest entries are kept, to refuse entries that were seen lately. -/

namespace Window

variable {α : Type}

/-- The newest entries of a log. -/
def recent (capacity : Nat) (log : List α) : List α := log.drop (log.length - capacity)

/-- A queue with one more entry, which makes the oldest one fall out of a full queue. -/
def push (capacity : Nat) (queue : List α) (entry : α) : List α :=
  if queue.length = capacity then queue.tail ++ [entry] else queue ++ [entry]

variable {capacity : Nat} {log : List α} {entry : α}

theorem length_recent (capacity : Nat) (log : List α) : (recent capacity log).length = min log.length capacity := by
  rw [recent, List.length_drop]
  omega

/-- The queue of the newest entries is kept up to date by pushing. -/
theorem push_recent (hpos : 0 < capacity) :
    push capacity (recent capacity log) entry = recent capacity (log ++ [entry]) := by
  have hdrop : recent capacity (log ++ [entry]) = log.drop (log.length + 1 - capacity) ++ [entry] := by
    rw [recent, List.length_append, List.length_singleton, List.drop_append_of_le_length (by omega)]
  rw [push, length_recent, hdrop]
  split_ifs with hfull
  · rw [recent, List.tail_drop, show log.length - capacity + 1 = log.length + 1 - capacity by omega]
  · rw [recent, show log.length - capacity = log.length + 1 - capacity by omega]

variable [DecidableEq α]

/-- Between two occurrences of an entry there are at least so many other entries. -/
def Spaced (gap : Nat) (log : List α) : Prop :=
  ∀ (earlier between later : List α) (entry : α), log = earlier ++ entry :: (between ++ entry :: later) →
    gap ≤ (between.filter (· ≠ entry)).length

theorem spaced_nil (gap : Nat) : Spaced gap ([] : List α) := by
  intro earlier between later entry h
  simp at h

/-- An entry that the window does not show has been followed by a window of other entries. -/
theorem le_length_filter_of_notMem_recent {earlier between : List α}
    (h : entry ∉ recent capacity (earlier ++ entry :: between)) :
    capacity ≤ (between.filter (· ≠ entry)).length := by
  have hlength : (earlier ++ entry :: between).length = earlier.length + (between.length + 1) := by simp
  have hlong : capacity ≤ between.length := by
    by_contra hshort
    refine h ?_
    rw [recent, hlength, List.drop_append_of_le_length (by omega)]
    exact List.mem_append_right _ List.mem_cons_self
  have hwindow : recent capacity (earlier ++ entry :: between) = between.drop (between.length - capacity) := by
    rw [recent, hlength, List.drop_append, List.drop_eq_nil_of_le (by omega), List.nil_append,
      show earlier.length + (between.length + 1) - capacity - earlier.length = between.length - capacity + 1 by omega,
      List.drop_succ_cons]
  rw [hwindow] at h
  calc
    capacity = (between.drop (between.length - capacity)).length := by rw [List.length_drop]; omega
    _ = ((between.drop (between.length - capacity)).filter (· ≠ entry)).length := by
      rw [List.filter_eq_self.mpr]
      intro other hother
      simpa using fun hsame : other = entry => h (hsame ▸ hother)
    _ ≤ (between.filter (· ≠ entry)).length := ((List.drop_sublist _ _).filter _).length_le

/-- A log to which only entries outside its window are added. -/
theorem Spaced.concat (h : Spaced capacity log) (hfresh : entry ∉ recent capacity log) :
    Spaced capacity (log ++ [entry]) := by
  intro earlier between later other hlog
  induction later using List.reverseRecOn with
  | nil =>
    rw [← List.cons_append, ← List.append_assoc] at hlog
    obtain ⟨rfl, hlast⟩ := List.append_inj' hlog rfl
    obtain rfl : entry = other := by simpa using hlast
    exact le_length_filter_of_notMem_recent hfresh
  | append_singleton later last _ =>
    have hsplit : log ++ [entry] = (earlier ++ other :: (between ++ other :: later)) ++ [last] := by simpa using hlog
    obtain ⟨hbefore, -⟩ := List.append_inj' hsplit rfl
    exact h earlier between later other hbefore

/-- The window of such a log shows no entry twice. -/
theorem Spaced.nodup_recent (h : Spaced capacity log) : (recent capacity log).Nodup := by
  rw [List.nodup_iff_sublist]
  intro entry htwice
  obtain ⟨front, back, hwindow, hfront, hback⟩ := List.cons_sublist_iff.mp htwice
  obtain ⟨earlier, between, rfl⟩ := List.append_of_mem hfront
  obtain ⟨between', later, rfl⟩ := List.append_of_mem (List.singleton_sublist.mp hback)
  have hlog : log = (log.take (log.length - capacity) ++ earlier) ++
    entry :: ((between ++ between') ++ entry :: later) := by
    conv_lhs => rw [← List.take_append_drop (log.length - capacity) log]
    rw [show log.drop (log.length - capacity) = _ from hwindow]
    simp
  have hgap := h _ _ _ _ hlog
  have hshort := List.length_filter_le (· ≠ entry) (between ++ between')
  have hlength := congrArg List.length hwindow
  rw [length_recent] at hlength
  simp only [List.length_append, List.length_cons] at hlength hshort
  omega

end Window
