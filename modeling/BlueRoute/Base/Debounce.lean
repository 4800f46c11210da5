import Mathlib

/-! Debounced loss: something that was present counts as lost once it has been absent from two
looks that lie an interval apart. -/

namespace Debounce

/-- What one look tells about the thing that is watched. A withdrawal ends the watch. -/
inductive Sighting where
  | present
  | withdrawn
  | absent (time : Nat)

inductive Watch where
  | idle
  | present
  | missing (since : Nat)
  | lost

def step (interval : Nat) : Watch → Sighting → Watch
  | _, .present => .present
  | _, .withdrawn => .idle
  | .idle, .absent _ => .idle
  | .present, .absent time => .missing time
  | .missing since, .absent time => if interval ≤ time - since then .lost else .missing since
  | .lost, .absent _ => .lost

/-- The watch after a history of looks. -/
def run (interval : Nat) (sightings : List Sighting) : Watch :=
  sightings.foldl (step interval) .idle

variable {interval : Nat}

theorem run_append (before after : List Sighting) :
    run interval (before ++ after) = after.foldl (step interval) (run interval before) :=
  List.foldl_append

theorem absent_idle (times : List Nat) : (times.map .absent).foldl (step interval) .idle = .idle := by
  induction times with
  | nil => rfl
  | cons time rest ih => exact ih

theorem absent_lost (times : List Nat) : (times.map .absent).foldl (step interval) .lost = .lost := by
  induction times with
  | nil => rfl
  | cons time rest ih => exact ih

/-- The first look that lies far enough from the start of an absence decides it. -/
theorem absent_missing (since : Nat) (times : List Nat) :
    (times.map .absent).foldl (step interval) (.missing since) = .lost ↔ ∃ time ∈ times, interval ≤ time - since := by
  induction times with
  | nil => simp
  | cons time rest ih =>
    rw [List.map_cons, List.foldl_cons, step]
    split
    · rename_i hlong
      rw [absent_lost]
      simp [hlong]
    · rename_i hshort
      rw [ih]
      simp [hshort]

theorem absent_present (times : List Nat) :
    (times.map .absent).foldl (step interval) .present = .lost ↔
      ∃ first rest, times = first :: rest ∧ ∃ time ∈ rest, interval ≤ time - first := by
  cases times with
  | nil => simp
  | cons first rest =>
    rw [List.map_cons, List.foldl_cons, step, absent_missing]
    constructor
    · exact fun hlong => ⟨first, rest, rfl, hlong⟩
    · rintro ⟨_, _, hsame, hlong⟩
      cases hsame
      exact hlong

/-- A history ends in absences, after the last look that was none. -/
theorem exists_split (sightings : List Sighting) :
    (∃ times : List Nat, sightings = times.map .absent) ∨
      ∃ (before : List Sighting) (last : Sighting) (times : List Nat),
        sightings = before ++ last :: times.map .absent ∧ (last = .present ∨ last = .withdrawn) := by
  induction sightings with
  | nil => exact .inl ⟨[], rfl⟩
  | cons sighting rest ih =>
    obtain ⟨times, rfl⟩ | ⟨before, last, times, rfl, hlast⟩ := ih
    · cases sighting with
      | present => exact .inr ⟨[], .present, times, rfl, .inl rfl⟩
      | withdrawn => exact .inr ⟨[], .withdrawn, times, rfl, .inr rfl⟩
      | absent time => exact .inl ⟨time :: times, rfl⟩
    · exact .inr ⟨sighting :: before, last, times, rfl, hlast⟩

/-- What is lost was present at some look and absent from all looks after it, two of which, the
first among them, lie an interval apart. -/
theorem run_eq_lost_iff (sightings : List Sighting) :
    run interval sightings = .lost ↔
      ∃ (before : List Sighting) (first : Nat) (rest : List Nat),
        sightings = before ++ .present :: (first :: rest).map .absent ∧ ∃ time ∈ rest, interval ≤ time - first := by
  constructor
  · intro hlost
    obtain ⟨times, rfl⟩ | ⟨before, last, times, rfl, hlast⟩ := exists_split sightings
    · rw [run, absent_idle] at hlost
      cases hlost
    · rw [run_append, List.foldl_cons] at hlost
      obtain rfl | rfl := hlast
      · obtain ⟨first, rest, rfl, hlong⟩ := (absent_present times).mp hlost
        exact ⟨before, first, rest, rfl, hlong⟩
      · rw [step, absent_idle] at hlost
        cases hlost
  · rintro ⟨before, first, rest, rfl, hlong⟩
    rw [run_append, List.foldl_cons]
    exact (absent_present _).mpr ⟨first, rest, rfl, hlong⟩

section Sweep

variable {σ κ ω : Type} {update : σ → κ → σ} {View : σ → κ → ω → Prop}

/-- A loop over keys that updates what belongs to one key at a time leaves other keys alone. -/
theorem sweep_of_notMem (hother : ∀ s key other view, key ≠ other → View s key view → View (update s other) key view)
    {keys : List κ} {s : σ} {key : κ} {view : ω} (hout : key ∉ keys) (h : View s key view) :
    View (keys.foldl update s) key view := by
  induction keys generalizing s with
  | nil => exact h
  | cons other rest ih =>
    rw [List.mem_cons, not_or] at hout
    exact ih hout.2 (hother s key other view hout.1 h)

/-- Such a loop acts once on each of its keys when they are distinct. -/
theorem sweep_of_mem (View : σ → κ → ω → Prop) (act : ω → ω)
    (hself : ∀ s key view, View s key view → View (update s key) key (act view))
    (hother : ∀ s key other view, key ≠ other → View s key view → View (update s other) key view)
    {keys : List κ} (hnodup : keys.Nodup) {s : σ} {key : κ} {view : ω} (hin : key ∈ keys) (h : View s key view) :
    View (keys.foldl update s) key (act view) := by
  induction keys generalizing s with
  | nil => cases hin
  | cons other rest ih =>
    rw [List.nodup_cons] at hnodup
    by_cases hsame : key = other
    · subst hsame
      rw [List.foldl_cons]
      exact sweep_of_notMem hother hnodup.1 (hself s key view h)
    · rw [List.foldl_cons]
      exact ih hnodup.2 (List.mem_of_ne_of_mem hsame hin) (hother s key other view hsame h)

end Sweep

end Debounce
