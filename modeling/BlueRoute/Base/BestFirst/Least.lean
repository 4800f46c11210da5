import BlueRoute.Base.BestFirst

/-! The label that a search expands is the least one that any chain of offers gives to its vertex,
provided that better labels make better offers. -/

namespace BestFirst

open State

variable {V Λ ε : Type} [LinearOrder V] [LinearOrder Λ]

/-- A better label offers at least what a worse one does. -/
def Monotone (offers : V → Λ → List (Except ε (V × Λ))) : Prop :=
  ∀ v label better w next, better ≤ label → .ok (w, next) ∈ offers v label →
    ∃ sooner, sooner ≤ next ∧ .ok (w, sooner) ∈ offers v better

variable {offers : V → Λ → List (Except ε (V × Λ))} {start : V} {first : Λ} {s : State V Λ}

/-- A derived label is matched by a settled one, or else the queue holds an entry that comes before it. -/
theorem Searching.reached (hgrowing : Growing offers) (hmonotone : Monotone offers)
    (h : Searching offers start first s) {v : V} {label : Λ} (hderived : Derived offers start first v label) :
    (∃ better, better ≤ label ∧ s.Settled v better) ∨ ∃ entry ∈ s.queue, (ofLex entry).1 ≤ label := by
  -- a label in the table is settled or queued
  have hsplit {u : V} {present bound : Λ} (hpresent : s.best[u]? = some present) (hle : present ≤ bound) :
      (∃ better, better ≤ bound ∧ s.Settled u better) ∨ ∃ entry ∈ s.queue, (ofLex entry).1 ≤ bound := by
    by_cases hqueue : toLex (present, u) ∈ s.queue
    · exact .inr ⟨_, hqueue, hle⟩
    · exact .inl ⟨present, hle, hpresent, hqueue⟩
  induction hderived with
  | start =>
    obtain ⟨present, hpresent, hle⟩ := h.started
    exact hsplit hpresent hle
  | @offer u w label next _ _ hoffer ih =>
    obtain ⟨better, hle, hsettled⟩ | ⟨entry, hentry, hle⟩ := ih
    · obtain ⟨sooner, hsooner, hoffered⟩ := hmonotone u label better w next hle hoffer
      obtain ⟨offered, hoffers, hkept⟩ := h.closed u better hsettled
      rw [hoffers] at hoffered
      obtain ⟨o, ho, heq⟩ := List.mem_map.mp hoffered
      obtain rfl := Except.ok.inj heq
      obtain ⟨present, hpresent, hpresent_le⟩ := hkept _ ho
      exact hsplit hpresent (hpresent_le.trans hsooner)
    · exact .inr ⟨entry, hentry, hle.trans (hgrowing u label w next hoffer).le⟩

/-- An entry that is popped while it is up to date has the least label of its vertex. -/
theorem Searching.least_of_pop (hgrowing : Growing offers) (hmonotone : Monotone offers)
    (h : Searching offers start first s) {v : V} {label other : Λ} {rest : List (Λ ×ₗ V)}
    (hqueue : s.queue = toLex (label, v) :: rest) (hbest : s.best[v]? = some label)
    (hderived : Derived offers start first v other) : label ≤ other := by
  obtain ⟨better, -, hbetter, hnot⟩ | ⟨entry, hentry, hle⟩ := h.reached hgrowing hmonotone hderived
  · obtain rfl := Option.some.inj (hbest.symm.trans hbetter)
    exact absurd (hqueue ▸ List.mem_cons_self) hnot
  · refine le_trans ?_ hle
    have hsorted := List.pairwise_cons.mp (hqueue ▸ h.queued.sorted)
    rw [hqueue] at hentry
    obtain rfl | hrest := List.mem_cons.mp hentry
    · exact le_refl _
    · obtain hlt | ⟨heq, -⟩ := Prod.Lex.le_iff.mp (hsorted.1 entry hrest)
      · exact hlt.le
      · exact heq.le

theorem State.error_mem_of_relax {e : ε} {results : List (Except ε (V × Λ))} (h : s.relax results = .error e) :
    .error e ∈ results := by
  induction results generalizing s with
  | nil => cases h
  | cons result rest ih =>
    cases result with
    | error other =>
      obtain rfl := Except.error.inj h
      exact List.mem_cons_self
    | ok offered => exact List.mem_cons_of_mem _ (ih h)

/-- A failing iteration has expanded an entry that is up to date and makes a failing offer. -/
theorem State.error_of_body {e : ε} (h : s.body offers = .error e) :
    ∃ v label rest, s.queue = toLex (label, v) :: rest ∧ s.best[v]? = some label ∧ .error e ∈ offers v label := by
  unfold body at h
  split at h
  · cases h
  · next entry rest hqueue =>
    dsimp only at h
    split at h
    · cases h
    · next hbest =>
      refine ⟨_, _, rest, hqueue, not_not.mp hbest, ?_⟩
      cases hrelax : ({ s with queue := rest } : State V Λ).relax (offers (ofLex entry).2 (ofLex entry).1) with
      | ok next =>
        rw [hrelax] at h
        cases h
      | error other =>
        rw [hrelax] at h
        obtain rfl := Except.error.inj h
        exact error_mem_of_relax hrelax

/-- A search in which the least label of a vertex makes no failing offer does not fail. -/
theorem exists_ok_of_exits (hgrowing : Growing offers) (hmonotone : Monotone offers)
    (hsafe : ∀ v label e, Derived offers start first v label →
      (∀ other, Derived offers start first v other → label ≤ other) → .error e ∉ offers v label)
    {result : Except ε (State V Λ)} (h : Loop.Exits (body offers) (init start first) result) :
    ∃ final, result = .ok final := by
  refine h.exists_ok (fun s t hs hbody => Searching.iterate hgrowing hs (iteration_of_body hbody)) ?_ searching_init
  intro s e hs hbody
  obtain ⟨v, label, rest, hqueue, hbest, herror⟩ := error_of_body hbody
  refine hsafe v label e (hs.derived v label hbest) (fun other hother => ?_) herror
  exact hs.least_of_pop hgrowing hmonotone hqueue hbest hother

end BestFirst
