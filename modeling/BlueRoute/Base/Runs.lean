import Mathlib

namespace Runs

variable {σ ε : Type} {step : σ → ε → σ → Prop}

/-- The runs of a labelled transition system, with the events they show. -/
inductive Run (step : σ → ε → σ → Prop) : σ → List ε → σ → Prop where
  | nil {s : σ} : Run step s [] s
  | cons {s t u : σ} {event : ε} {events : List ε} (hstep : step s event t) (hrest : Run step t events u) :
      Run step s (event :: events) u

variable {s t : σ} {events : List ε}

theorem Run.append_iff {before after : List ε} {u : σ} :
    Run step s (before ++ after) u ↔ ∃ t, Run step s before t ∧ Run step t after u := by
  induction before generalizing s with
  | nil =>
    constructor
    · exact fun h => ⟨s, .nil, h⟩
    · rintro ⟨t, hbefore, hafter⟩
      cases hbefore
      exact hafter
  | cons event before ih =>
    constructor
    · intro h
      cases h with
      | cons hstep hrest =>
        obtain ⟨t, hbefore, hafter⟩ := ih.mp hrest
        exact ⟨t, .cons hstep hbefore, hafter⟩
    · rintro ⟨t, hbefore, hafter⟩
      cases hbefore with
      | cons hstep hbefore => exact .cons hstep (ih.mpr ⟨t, hbefore, hafter⟩)

theorem Run.deterministic (hstep : ∀ s event t u, step s event t → step s event u → t = u) {u : σ}
    (hleft : Run step s events t) (hright : Run step s events u) : t = u := by
  induction hleft with
  | nil =>
    cases hright
    rfl
  | cons hfirst _ ih =>
    cases hright with
    | cons hsecond hrest =>
      cases hstep _ _ _ _ hfirst hsecond
      exact ih hrest

theorem Run.mono {weaker : σ → ε → σ → Prop} (hweaker : ∀ s event t, step s event t → weaker s event t)
    (h : Run step s events t) : Run weaker s events t := by
  induction h with
  | nil => exact .nil
  | cons hstep _ ih => exact .cons (hweaker _ _ _ hstep) ih

/-- What every step preserves holds at the end of every run. -/
theorem Run.invariant (Inv : σ → Prop) (hpreserve : ∀ s event t, Inv s → step s event t → Inv t)
    (h : Run step s events t) (hinv : Inv s) : Inv t := by
  induction h with
  | nil => exact hinv
  | cons hstep _ ih => exact ih (hpreserve _ _ _ hinv hstep)

/-- What every step with a permitted event preserves holds at the end of every
run with permitted events only. -/
theorem Run.invariant_of_forall (Inv : σ → Prop) {P : ε → Prop}
    (hpreserve : ∀ s event t, P event → Inv s → step s event t → Inv t) (h : Run step s events t)
    (hevents : ∀ event ∈ events, P event) (hinv : Inv s) : Inv t := by
  induction h with
  | nil => exact hinv
  | cons hstep _ ih =>
    exact ih (fun event hevent => hevents event (List.mem_cons_of_mem _ hevent))
      (hpreserve _ _ _ (hevents _ List.mem_cons_self) hinv hstep)

/-- What each step shows, where an invariant holds, is true of all events of a run. -/
theorem Run.forall_mem (Inv : σ → Prop) {P : ε → Prop} (hpreserve : ∀ s event t, Inv s → step s event t → Inv t)
    (hevent : ∀ s event t, Inv s → step s event t → P event) (h : Run step s events t) (hinv : Inv s) :
    ∀ event ∈ events, P event := by
  induction h with
  | nil => exact fun _ hin => absurd hin List.not_mem_nil
  | cons hstep _ ih =>
    exact List.forall_mem_cons.mpr ⟨hevent _ _ _ hinv hstep, ih (hpreserve _ _ _ hinv hstep)⟩

/-- A fact about the events so far and the state they led to, kept by every
further step. -/
theorem Run.history (Inv : List ε → σ → Prop) (hinit : Inv [] s)
    (hpreserve : ∀ events t event u, Inv events t → step t event u → Inv (events ++ [event]) u)
    (h : Run step s events t) : Inv events t := by
  induction events using List.reverseRecOn generalizing t with
  | nil =>
    cases h
    exact hinit
  | append_singleton events event ih =>
    obtain ⟨middle, hbefore, hlast⟩ := Run.append_iff.mp h
    cases hlast with
    | cons hstep hnil =>
      cases hnil
      exact hpreserve events middle event t (ih hbefore) hstep

/-- A quantity that no step lowers is not lowered by a run. -/
theorem Run.le_rank {ρ : Type} [Preorder ρ] (Inv : σ → Prop) (rank : σ → ρ)
    (hpreserve : ∀ s event t, Inv s → step s event t → Inv t)
    (hrank : ∀ s event t, Inv s → step s event t → rank s ≤ rank t) (h : Run step s events t) (hinv : Inv s) :
    rank s ≤ rank t := by
  induction h with
  | nil => exact le_refl _
  | cons hstep _ ih => exact (hrank _ _ _ hinv hstep).trans (ih (hpreserve _ _ _ hinv hstep))

/-- An event that takes a quantity past a mark which no step takes it back
over happens at most once, and not at all from beyond the mark. -/
theorem Run.countP_le_one {ρ : Type} [LinearOrder ρ] (Inv : σ → Prop) (rank : σ → ρ) (mark : ρ) {p : ε → Bool}
    (hpreserve : ∀ s event t, Inv s → step s event t → Inv t)
    (hrank : ∀ s event t, Inv s → step s event t → rank s ≤ rank t)
    (hpass : ∀ s event t, Inv s → step s event t → p event → rank s < mark ∧ mark ≤ rank t)
    (h : Run step s events t) (hinv : Inv s) : events.countP p ≤ 1 ∧ (mark ≤ rank s → events.countP p = 0) := by
  induction h with
  | nil => simp
  | @cons s t u event events hstep _ ih =>
    obtain ⟨honce, hnever⟩ := ih (hpreserve _ _ _ hinv hstep)
    rw [List.countP_cons]
    split
    · rename_i hp
      obtain ⟨hbelow, habove⟩ := hpass _ _ _ hinv hstep hp
      rw [hnever habove]
      exact ⟨le_refl _, fun hbeyond => absurd hbelow (not_lt.mpr hbeyond)⟩
    · exact ⟨honce, fun hbeyond => hnever (hbeyond.trans (hrank _ _ _ hinv hstep))⟩

variable {κ ρ : Type}

/-- The events of calls made one after the other, and the state they end in. -/
def trace (show_call : κ → ρ → ε) (call : σ → κ → ρ × σ) : σ → List κ → List ε × σ
  | s, [] => ([], s)
  | s, request :: rest =>
    let (answer, t) := call s request
    let (events, last) := trace show_call call t rest
    (show_call request answer :: events, last)

theorem Run.trace {show_call : κ → ρ → ε} {call : σ → κ → ρ × σ}
    (hstep : ∀ s request, step s (show_call request (call s request).1) (call s request).2) (s : σ)
    (requests : List κ) : Run step s (trace show_call call s requests).1 (trace show_call call s requests).2 := by
  induction requests generalizing s with
  | nil => exact .nil
  | cons request rest ih => exact .cons (hstep s request) (ih _)

end Runs
