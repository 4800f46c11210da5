import Mathlib

namespace Loop

variable {ε σ : Type}

/-- Fuelled execution of a loop whose body reports either that it is finished
or the state of the next iteration. -/
def run (body : σ → Except ε (Option σ)) : Nat → σ → Except ε σ
  | 0, s => .ok s
  | fuel + 1, s =>
    match body s with
    | .error e => .error e
    | .ok none => .ok s
    | .ok (some next) => run body fuel next

/-- The unbounded meaning of the loop: it stops exactly when its body asks to
stop, or fails, and there is no fuel to run out of. -/
inductive Exits (body : σ → Except ε (Option σ)) : σ → Except ε σ → Prop where
  | stop {s : σ} (hbody : body s = .ok none) : Exits body s (.ok s)
  | fail {s : σ} {e : ε} (hbody : body s = .error e) : Exits body s (.error e)
  | next {s t : σ} {result : Except ε σ} (hbody : body s = .ok (some t))
      (hrest : Exits body t result) : Exits body s result

variable {body : σ → Except ε (Option σ)} {s : σ} {Inv : σ → Prop}

/-- Fuel above a rank that every iteration decreases is never exhausted. -/
theorem run_exits (Inv : σ → Prop) (rank : σ → Nat) (hpreserve : ∀ s t, Inv s → body s = .ok (some t) → Inv t)
    (hrank : ∀ s t, Inv s → body s = .ok (some t) → rank t < rank s) :
    ∀ (fuel : Nat) (s : σ), Inv s → rank s < fuel → Exits body s (run body fuel s) := by
  intro fuel
  induction fuel with
  | zero =>
    intro s _ hfuel
    omega
  | succ fuel ih =>
    intro s hinv hfuel
    unfold run
    cases hbody : body s with
    | error e => exact .fail hbody
    | ok outcome =>
      cases outcome with
      | none => exact .stop hbody
      | some t =>
        have hless := hrank s t hinv hbody
        exact .next hbody (ih t (hpreserve s t hinv hbody) (by omega))

/-- Backward induction over the iterations of a loop that exits normally. -/
@[elab_as_elim]
theorem Exits.backward {motive : σ → Prop} {final : σ} (h : Exits body s (.ok final))
    (hstop : body final = .ok none → motive final) (hnext : ∀ s t, body s = .ok (some t) → motive t → motive s) :
    motive s := by
  generalize hresult : (Except.ok final : Except ε σ) = result at h
  induction h with
  | stop hbody =>
    cases hresult
    exact hstop hbody
  | fail hbody => cases hresult
  | next hbody hrest ih => exact hnext _ _ hbody (ih hresult)

/-- What every iteration preserves holds where a loop stops. -/
theorem Exits.invariant {final : σ} (hpreserve : ∀ s t, Inv s → body s = .ok (some t) → Inv t)
    (h : Exits body s (.ok final)) (hinv : Inv s) : Inv final ∧ body final = .ok none := by
  generalize hresult : (Except.ok final : Except ε σ) = result at h
  induction h with
  | stop hbody =>
    cases hresult
    exact ⟨hinv, hbody⟩
  | fail hbody => cases hresult
  | next hbody hrest ih => exact ih (hpreserve _ _ hinv hbody) hresult

/-- A loop ends in a state that keeps the invariant, where its body stops or fails. -/
theorem Exits.reaches {result : Except ε σ} (hpreserve : ∀ s t, Inv s → body s = .ok (some t) → Inv t)
    (h : Exits body s result) (hinv : Inv s) :
    ∃ final, Inv final ∧ ((result = .ok final ∧ body final = .ok none) ∨
      ∃ e, result = .error e ∧ body final = .error e) := by
  induction h with
  | stop hbody => exact ⟨_, hinv, .inl ⟨rfl, hbody⟩⟩
  | fail hbody => exact ⟨_, hinv, .inr ⟨_, rfl, hbody⟩⟩
  | next hbody hrest ih => exact ih (hpreserve _ _ hinv hbody)

/-- A loop whose body cannot fail while the invariant holds exits normally. -/
theorem Exits.exists_ok {result : Except ε σ} (hpreserve : ∀ s t, Inv s → body s = .ok (some t) → Inv t)
    (hsafe : ∀ s e, Inv s → body s ≠ .error e) (h : Exits body s result) (hinv : Inv s) :
    ∃ final, result = .ok final := by
  induction h with
  | stop hbody => exact ⟨_, rfl⟩
  | fail hbody => exact absurd hbody (hsafe _ _ hinv)
  | next hbody hrest ih => exact ih (hpreserve _ _ hinv hbody)

/-- The result of an unbounded loop is determined by its starting state. -/
theorem Exits.unique {left right : Except ε σ} (hleft : Exits body s left) (hright : Exits body s right) :
    left = right := by
  induction hleft with
  | stop hbody =>
    cases hright with
    | stop => rfl
    | fail hother => rw [hbody] at hother; cases hother
    | next hother => rw [hbody] at hother; cases hother
  | fail hbody =>
    cases hright with
    | stop hother => rw [hbody] at hother; cases hother
    | fail hother => rw [hbody] at hother; cases hother; rfl
    | next hother => rw [hbody] at hother; cases hother
  | next hbody hrest ih =>
    cases hright with
    | stop hother => rw [hbody] at hother; cases hother
    | fail hother => rw [hbody] at hother; cases hother
    | next hother hrest' =>
      rw [hbody] at hother
      cases hother
      exact ih hrest'

end Loop
