import BlueRoute.Base.Fallible
import BlueRoute.Base.Loop
import BlueRoute.Base.Ordered

/-! Best-first search with a queue in which outdated entries stay until they are popped. The
labels are taken from a linear order and every offer that an expansion makes is larger than the
label it comes from. -/

namespace BestFirst

variable {V Λ ε : Type} [LinearOrder V] [LinearOrder Λ]

/-- The best label of each vertex so far, and the entries still to be popped, least first. -/
structure State (V Λ : Type) [LinearOrder V] where
  best : Ordered.Map V Λ
  queue : List (Λ ×ₗ V)

namespace State

/-- A label is taken over, and queued, when it is better than the one before. -/
def offer (s : State V Λ) (v : V) (label : Λ) : State V Λ :=
  if s.best[v]?.all (label < ·) then
    { best := s.best.insert v label, queue := s.queue.orderedInsert (· ≤ ·) (toLex (label, v)) }
  else s

/-- Offers, one after the other. -/
def offer_all (s : State V Λ) (offered : List (V × Λ)) : State V Λ :=
  offered.foldl (fun s o => s.offer o.1 o.2) s

theorem offer_all_cons (s : State V Λ) (o : V × Λ) (rest : List (V × Λ)) :
    s.offer_all (o :: rest) = (s.offer o.1 o.2).offer_all rest :=
  rfl

/-- Offers that can fail, one after the other. -/
def relax (s : State V Λ) (offers : List (Except ε (V × Λ))) : Except ε (State V Λ) :=
  offers.foldlM (fun s offered => do
    let (v, label) ← offered
    pure (s.offer v label)) s

/-- One iteration: the least entry is popped, and expanded unless it is outdated. -/
def body (offers : V → Λ → List (Except ε (V × Λ))) (s : State V Λ) : Except ε (Option (State V Λ)) :=
  match s.queue with
  | [] => .ok none
  | entry :: rest =>
    let label := (ofLex entry).1
    let v := (ofLex entry).2
    if s.best[v]? ≠ some label then .ok (some { s with queue := rest })
    else do
      let next ← { s with queue := rest }.relax (offers v label)
      pure (some next)

def init (start : V) (label : Λ) : State V Λ :=
  { best := (∅ : Ordered.Map V Λ).insert start label, queue := [toLex (label, start)] }

/-- A vertex whose label is not queued any more. -/
def Settled (s : State V Λ) (v : V) (label : Λ) : Prop :=
  s.best[v]? = some label ∧ toLex (label, v) ∉ s.queue

def is_settled (s : State V Λ) (v : V) : Bool :=
  s.best[v]?.any fun label => toLex (label, v) ∉ s.queue

variable {s : State V Λ}

variable {v : V} {s t : State V Λ} {label bound : Λ}

theorem is_settled_iff : s.is_settled v = true ↔ ∃ label, s.Settled v label := by
  unfold is_settled Settled
  cases s.best[v]? <;> simp

/-- The labels of `t` are at least as good as those of `s`. -/
def Improves (s t : State V Λ) : Prop :=
  ∀ (v : V) (label : Λ), s.best[v]? = some label → ∃ better, t.best[v]? = some better ∧ better ≤ label

theorem Improves.refl (s : State V Λ) : s.Improves s := fun _ label h => ⟨label, h, le_refl label⟩

theorem Improves.trans {u : State V Λ} (hst : s.Improves t) (htu : t.Improves u) : s.Improves u := by
  intro v label h
  obtain ⟨better, ht, hle⟩ := hst v label h
  obtain ⟨best, hu, hle'⟩ := htu v better ht
  exact ⟨best, hu, hle'.trans hle⟩

/-- The two outcomes of an offer. -/
theorem offer_cases (s : State V Λ) (v : V) (label : Λ) :
    (s.offer v label = s ∧ ∃ present, s.best[v]? = some present ∧ present ≤ label) ∨
      ((s.offer v label).best = s.best.insert v label ∧
        (s.offer v label).queue = s.queue.orderedInsert (· ≤ ·) (toLex (label, v)) ∧
        ∀ present, s.best[v]? = some present → label < present) := by
  unfold offer
  cases hbest : s.best[v]? with
  | none => simp
  | some present =>
    by_cases hlt : label < present
    · simp [hlt]
    · left
      simp [hlt, not_lt.mp hlt]

theorem improves_offer (s : State V Λ) (v : V) (label : Λ) : s.Improves (s.offer v label) := by
  obtain ⟨hsame, -⟩ | ⟨hbest, -, hless⟩ := s.offer_cases v label
  · rw [hsame]
    exact .refl s
  · intro u present hpresent
    rw [hbest, Ordered.getElem?_insert_eq]
    split
    · next huv =>
      subst huv
      exact ⟨label, rfl, (hless present hpresent).le⟩
    · exact ⟨present, hpresent, le_refl present⟩

/-- An offered label, or a better one, is there afterwards. -/
theorem best_offer (s : State V Λ) (v : V) (label : Λ) :
    ∃ better, (s.offer v label).best[v]? = some better ∧ better ≤ label := by
  obtain ⟨hsame, present, hpresent, hle⟩ | ⟨hbest, -, -⟩ := s.offer_cases v label
  · rw [hsame]
    exact ⟨present, hpresent, hle⟩
  · refine ⟨label, ?_, le_refl label⟩
    rw [hbest, Ordered.getElem?_insert_eq, if_pos rfl]

/-- A label that an offer has changed is the offered one. -/
theorem best_offer_eq {u : V} {found : Λ} (h : (s.offer v label).best[u]? = some found) :
    s.best[u]? = some found ∨ u = v ∧ found = label := by
  obtain ⟨hsame, -⟩ | ⟨hbest, -, -⟩ := s.offer_cases v label
  · rw [hsame] at h
    exact .inl h
  · rw [hbest, Ordered.getElem?_insert_eq] at h
    split at h
    · next huv => exact .inr ⟨huv.symm, (Option.some.inj h).symm⟩
    · exact .inl h

theorem length_queue_offer_le (s : State V Λ) (v : V) (label : Λ) :
    (s.offer v label).queue.length ≤ s.queue.length + 1 := by
  obtain ⟨hsame, -⟩ | ⟨-, hqueue, -⟩ := s.offer_cases v label
  · rw [hsame]
    omega
  · rw [hqueue, List.orderedInsert_length]

/-- A round of offers that succeeds is a round of plain offers. -/
theorem relax_eq_ok {offers : List (Except ε (V × Λ))} (h : s.relax offers = .ok t) :
    ∃ offered : List (V × Λ), offers = offered.map .ok ∧ t = s.offer_all offered := by
  induction offers generalizing s with
  | nil => exact ⟨[], rfl, (Except.ok.inj h).symm⟩
  | cons first rest ih =>
    obtain ⟨middle, hmiddle, hrest⟩ := Fallible.foldlM_cons_eq_ok_iff.mp h
    obtain ⟨⟨v, label⟩, rfl, hoffer⟩ := Fallible.bind_eq_ok_iff.mp hmiddle
    obtain rfl := Except.ok.inj hoffer
    obtain ⟨offered, rfl, rfl⟩ := ih hrest
    exact ⟨(v, label) :: offered, rfl, rfl⟩

/-- The queue is sorted, its entries are not better than the labels they are for, and no settled
label is worse than an entry. -/
structure WellQueued (s : State V Λ) : Prop where
  sorted : s.queue.Pairwise (· ≤ ·)
  nodup : s.queue.Nodup
  queued : ∀ {v : V} {label : Λ}, toLex (label, v) ∈ s.queue → ∃ present, s.best[v]? = some present ∧ present ≤ label
  settled_le : ∀ {v : V} {label : Λ}, s.Settled v label → ∀ entry ∈ s.queue, label ≤ (ofLex entry).1

omit [LinearOrder Λ] in
theorem best_init {start v : V} {first label : Λ} (h : (init start first).best[v]? = some label) :
    v = start ∧ label = first := by
  simp only [init, Ordered.getElem?_insert_eq] at h
  split at h
  · next hstart => exact ⟨hstart.symm, (Option.some.inj h).symm⟩
  · simp at h

theorem wellQueued_init (start : V) (label : Λ) : (init start label).WellQueued where
  sorted := List.pairwise_singleton _ _
  nodup := List.nodup_singleton _
  queued := by
    intro v other hmem
    obtain ⟨rfl, rfl⟩ := Prod.mk.inj (List.mem_singleton.mp hmem)
    exact ⟨other, by simp [init], le_refl other⟩
  settled_le := by
    rintro v found ⟨hbest, hqueue⟩
    obtain ⟨rfl, rfl⟩ := best_init hbest
    exact absurd (List.mem_singleton.mpr rfl) hqueue

/-- The state in the middle of an expansion at the label `bound`. -/
structure Expanding (bound : Λ) (s : State V Λ) : Prop extends s.WellQueued where
  settled_le_bound : ∀ {v : V} {label : Λ}, s.Settled v label → label ≤ bound

/-- An offer beyond the expanded label settles nothing and unsettles nothing. -/
theorem Expanding.settled_offer (h : s.Expanding bound) (hlt : bound < label) {u : V} {found : Λ} :
    (s.offer v label).Settled u found ↔ s.Settled u found := by
  obtain ⟨hsame, -⟩ | ⟨hbest, hqueue, hless⟩ := s.offer_cases v label
  · rw [hsame]
  · unfold Settled
    rw [hbest, hqueue, Ordered.getElem?_insert_eq, List.mem_orderedInsert]
    by_cases huv : v = u
    · subst huv
      constructor
      · rintro ⟨hfound, hnot⟩
        rw [if_pos rfl] at hfound
        exact absurd (.inl (by rw [Option.some.inj hfound])) hnot
      · intro hsettled
        have hle := h.settled_le_bound hsettled
        exact absurd (hless found hsettled.1) (not_lt.mpr (hle.trans hlt.le))
    · have hne : ¬ toLex (found, u) = toLex (label, v) := fun heq => huv (congrArg (fun e => (ofLex e).2) heq).symm
      simp only [huv, if_false, hne, false_or]

theorem Expanding.offer (h : s.Expanding bound) (hlt : bound < label) : (s.offer v label).Expanding bound := by
  have hsettled (u : V) (found : Λ) : (s.offer v label).Settled u found ↔ s.Settled u found := h.settled_offer hlt
  obtain ⟨hsame, -⟩ | ⟨hbest, hqueue, hless⟩ := s.offer_cases v label
  · rw [hsame]
    exact h
  · have hfresh : toLex (label, v) ∉ s.queue := by
      intro hmem
      obtain ⟨present, hpresent, hle⟩ := h.queued hmem
      exact absurd (hless present hpresent) (not_lt.mpr hle)
    refine { sorted := ?_, nodup := ?_, queued := ?_, settled_le := ?_, settled_le_bound := ?_ }
    · rw [hqueue]
      exact h.sorted.orderedInsert _ _
    · rw [hqueue, (List.perm_orderedInsert _ _ _).nodup_iff]
      exact List.nodup_cons.mpr ⟨hfresh, h.nodup⟩
    · intro u other hmem
      rw [hqueue, List.mem_orderedInsert] at hmem
      rw [hbest, Ordered.getElem?_insert_eq]
      obtain hnew | hold := hmem
      · obtain ⟨rfl, rfl⟩ := Prod.mk.inj hnew
        exact ⟨other, if_pos rfl, le_refl other⟩
      · obtain ⟨present, hpresent, hle⟩ := h.queued hold
        split
        · next huv =>
          subst huv
          exact ⟨label, rfl, (hless present hpresent).le.trans hle⟩
        · exact ⟨present, hpresent, hle⟩
    · intro u found hfound entry hmem
      rw [hqueue, List.mem_orderedInsert] at hmem
      obtain rfl | hold := hmem
      · exact (h.settled_le_bound ((hsettled u found).mp hfound)).trans hlt.le
      · exact h.settled_le ((hsettled u found).mp hfound) entry hold
    · intro u found hfound
      exact h.settled_le_bound ((hsettled u found).mp hfound)

/-- What a round of offers does to the state. -/
structure Round (bound : Λ) (offered : List (V × Λ)) (s t : State V Λ) : Prop where
  expanding : t.Expanding bound
  settled_iff : ∀ u found, t.Settled u found ↔ s.Settled u found
  improves : s.Improves t
  kept : ∀ o ∈ offered, ∃ better, t.best[o.1]? = some better ∧ better ≤ o.2
  origin : ∀ (u : V) (found : Λ), t.best[u]? = some found → s.best[u]? = some found ∨ (u, found) ∈ offered
  length_le : t.queue.length ≤ s.queue.length + offered.length

theorem Expanding.round {offered : List (V × Λ)} (h : s.Expanding bound) (hlt : ∀ o ∈ offered, bound < o.2) :
    Round bound offered s (s.offer_all offered) := by
  induction offered generalizing s with
  | nil => exact ⟨h, fun _ _ => Iff.rfl, .refl s, by simp, fun _ _ hfound => .inl hfound, le_refl _⟩
  | cons first rest ih =>
    have hfirst := hlt first List.mem_cons_self
    have hround := ih (h.offer hfirst (v := first.1)) fun o ho => hlt o (List.mem_cons_of_mem _ ho)
    refine ⟨hround.expanding, fun u found => ?_, (s.improves_offer first.1 first.2).trans hround.improves, ?_, ?_, ?_⟩
    · rw [offer_all_cons, hround.settled_iff, h.settled_offer hfirst]
    · intro o ho
      obtain rfl | ho := List.mem_cons.mp ho
      · obtain ⟨better, hbetter, hle⟩ := s.best_offer o.1 o.2
        obtain ⟨best, hbest, hle'⟩ := hround.improves _ _ hbetter
        exact ⟨best, hbest, hle'.trans hle⟩
      · exact hround.kept o ho
    · intro u found hfound
      obtain hmiddle | hmem := hround.origin u found hfound
      · obtain hearlier | ⟨rfl, rfl⟩ := best_offer_eq hmiddle
        · exact .inl hearlier
        · exact .inr List.mem_cons_self
      · exact .inr (List.mem_cons_of_mem _ hmem)
    · have hlength := hround.length_le
      have hoffer := s.length_queue_offer_le first.1 first.2
      rw [offer_all_cons, List.length_cons]
      omega

variable {offers : V → Λ → List (Except ε (V × Λ))}

/-- The two kinds of iterations that go on. -/
inductive Iteration (offers : V → Λ → List (Except ε (V × Λ))) (s : State V Λ) : State V Λ → Prop where
  | outdated {v : V} {label : Λ} {rest : List (Λ ×ₗ V)} (hqueue : s.queue = toLex (label, v) :: rest)
      (hbest : s.best[v]? ≠ some label) : Iteration offers s { s with queue := rest }
  | expand {v : V} {label : Λ} {rest : List (Λ ×ₗ V)} {offered : List (V × Λ)}
      (hqueue : s.queue = toLex (label, v) :: rest) (hbest : s.best[v]? = some label)
      (hoffers : offers v label = offered.map .ok) :
      Iteration offers s (offer_all { s with queue := rest } offered)

theorem iteration_of_body (h : s.body offers = .ok (some t)) : Iteration offers s t := by
  unfold body at h
  split at h
  · cases h
  · next entry rest hqueue =>
    dsimp only at h
    split at h
    · next hbest =>
      cases h
      exact .outdated hqueue hbest
    · next hbest =>
      obtain ⟨next, hrelax, hnext⟩ := Fallible.bind_eq_ok_iff.mp h
      obtain rfl := Option.some.inj (Except.ok.inj hnext)
      obtain ⟨offered, hoffers, rfl⟩ := relax_eq_ok hrelax
      exact .expand hqueue (not_not.mp hbest) hoffers

theorem queue_eq_nil_of_body (h : s.body offers = .ok none) : s.queue = [] := by
  unfold body at h
  split at h
  · assumption
  · dsimp only at h
    split at h
    · cases h
    · obtain ⟨next, -, hnext⟩ := Fallible.bind_eq_ok_iff.mp h
      cases hnext

section Pop

variable {rest : List (Λ ×ₗ V)} (h : s.WellQueued) (hqueue : s.queue = toLex (label, v) :: rest)

include h hqueue

/-- Popping the first entry settles its vertex if it is up to date. -/
theorem WellQueued.settled_pop {u : V} {found : Λ} : ({ s with queue := rest } : State V Λ).Settled u found ↔
    s.Settled u found ∨ s.best[v]? = some label ∧ u = v ∧ found = label := by
  constructor
  · rintro ⟨hfound, hrest⟩
    by_cases heq : toLex (found, u) = toLex (label, v)
    · obtain ⟨rfl, rfl⟩ := Prod.mk.inj heq
      exact .inr ⟨hfound, rfl, rfl⟩
    · refine .inl ⟨hfound, fun hentry => ?_⟩
      rw [hqueue] at hentry
      exact (List.mem_cons.mp hentry).elim heq hrest
  · rintro (⟨hfound, hentry⟩ | ⟨hbest, rfl, rfl⟩)
    · exact ⟨hfound, fun hrest => hentry (hqueue ▸ List.mem_cons_of_mem _ hrest)⟩
    · exact ⟨hbest, (List.nodup_cons.mp (hqueue ▸ h.nodup)).1⟩

theorem WellQueued.pop : ({ s with queue := rest } : State V Λ).WellQueued := by
  have hmem {entry : Λ ×ₗ V} (hrest : entry ∈ rest) : entry ∈ s.queue := hqueue ▸ List.mem_cons_of_mem _ hrest
  have hsorted := List.pairwise_cons.mp (hqueue ▸ h.sorted)
  refine ⟨hsorted.2, (List.nodup_cons.mp (hqueue ▸ h.nodup)).2, fun hrest => h.queued (hmem hrest), ?_⟩
  intro u found hfound entry hrest
  obtain hold | ⟨-, -, rfl⟩ := (h.settled_pop hqueue).mp hfound
  · exact h.settled_le hold entry (hmem hrest)
  · obtain hlt | ⟨heq, -⟩ := Prod.Lex.le_iff.mp (hsorted.1 entry hrest)
    · exact hlt.le
    · exact heq.le

/-- Popping an outdated entry changes nothing else. -/
theorem WellQueued.pop_outdated (hbest : s.best[v]? ≠ some label) : ({ s with queue := rest } : State V Λ).WellQueued ∧
    ∀ u found, ({ s with queue := rest } : State V Λ).Settled u found ↔ s.Settled u found :=
  ⟨h.pop hqueue, fun _ _ => (h.settled_pop hqueue).trans (or_iff_left fun hnew => hbest hnew.1)⟩

/-- Popping an entry that is up to date settles its vertex and opens its expansion. -/
theorem WellQueued.pop_current (hbest : s.best[v]? = some label) :
    ({ s with queue := rest } : State V Λ).Expanding label ∧
      ∀ u found, ({ s with queue := rest } : State V Λ).Settled u found ↔
        s.Settled u found ∨ u = v ∧ found = label := by
  have hsettled (u : V) (found : Λ) : ({ s with queue := rest } : State V Λ).Settled u found ↔ _ :=
    (h.settled_pop hqueue).trans (or_congr_right (and_iff_right hbest))
  refine ⟨{ h.pop hqueue with settled_le_bound := ?_ }, hsettled⟩
  intro u found hfound
  obtain hold | ⟨-, rfl⟩ := (hsettled u found).mp hfound
  · exact h.settled_le hold _ (hqueue ▸ List.mem_cons_self)
  · exact le_refl _

end Pop

/-- The queue length plus the work that the unsettled vertices can still make. -/
def rank (vertices : Finset V) (width : Nat) (s : State V Λ) : Nat :=
  s.queue.length + width * (vertices.filter fun v => ¬ s.is_settled v).card

end State

open State

/-- Every offer is larger than the label it comes from. -/
def Growing (offers : V → Λ → List (Except ε (V × Λ))) : Prop :=
  ∀ v label w next, .ok (w, next) ∈ offers v label → label < next

/-- The labels that chains of offers lead to, in which the start has its first label only. -/
inductive Derived (offers : V → Λ → List (Except ε (V × Λ))) (start : V) (first : Λ) : V → Λ → Prop where
  | start : Derived offers start first start first
  | offer {v w : V} {label next : Λ} (hderived : Derived offers start first v label)
      (hstart : v = start → label = first) (hoffer : .ok (w, next) ∈ offers v label) :
      Derived offers start first w next

/-- What holds throughout a search: its labels are derived, and the offers of the settled ones have
been made. -/
structure Searching (offers : V → Λ → List (Except ε (V × Λ))) (start : V) (first : Λ)
    (s : State V Λ) : Prop where
  queued : s.WellQueued
  derived : ∀ (v : V) (label : Λ), s.best[v]? = some label → Derived offers start first v label
  started : ∃ label, s.best[start]? = some label ∧ label ≤ first
  closed : ∀ (v : V) (label : Λ), s.Settled v label → ∃ offered : List (V × Λ), offers v label = offered.map .ok ∧
    ∀ o ∈ offered, ∃ better, s.best[o.1]? = some better ∧ better ≤ o.2

section Search

variable {offers : V → Λ → List (Except ε (V × Λ))} {start : V} {first : Λ} {s t final : State V Λ}

omit [LinearOrder V] in
theorem Derived.first_le {v : V} {label : Λ} (hgrowing : Growing offers)
    (h : Derived offers start first v label) : first ≤ label := by
  induction h with
  | start => exact le_refl _
  | offer _ _ hoffer ih => exact ih.trans (hgrowing _ _ _ _ hoffer).le

theorem Searching.start_label {label : Λ} (hgrowing : Growing offers) (h : Searching offers start first s)
    (hlabel : s.best[start]? = some label) : label = first := by
  obtain ⟨present, hpresent, hle⟩ := h.started
  obtain rfl := Option.some.inj (hpresent.symm.trans hlabel)
  exact le_antisymm hle ((h.derived start present hpresent).first_le hgrowing)

theorem searching_init : Searching offers start first (init start first) where
  queued := wellQueued_init start first
  derived := by
    intro v label hlabel
    obtain ⟨rfl, rfl⟩ := best_init hlabel
    exact .start
  started := ⟨first, by simp [init], le_refl first⟩
  closed := by
    rintro v label ⟨hlabel, hqueue⟩
    obtain ⟨rfl, rfl⟩ := best_init hlabel
    exact absurd (List.mem_singleton.mpr rfl) hqueue

/-- The offers of an expansion, as a round on the state without the popped entry. -/
theorem round_of_expand {v : V} {label : Λ} {rest : List (Λ ×ₗ V)} {offered : List (V × Λ)}
    (hgrowing : Growing offers) (hqueued : s.WellQueued) (hqueue : s.queue = toLex (label, v) :: rest)
    (hbest : s.best[v]? = some label) (hoffers : offers v label = offered.map .ok) :
    Round label offered { s with queue := rest } (offer_all { s with queue := rest } offered) := by
  refine (hqueued.pop_current hqueue hbest).1.round fun o ho => hgrowing v label o.1 o.2 ?_
  rw [hoffers]
  exact List.mem_map_of_mem ho

theorem Searching.iterate (hgrowing : Growing offers) (h : Searching offers start first s)
    (hiteration : Iteration offers s t) : Searching offers start first t := by
  cases hiteration with
  | outdated hqueue hbest =>
    obtain ⟨hqueued, hsettled⟩ := h.queued.pop_outdated hqueue hbest
    exact ⟨hqueued, h.derived, h.started, fun u found hfound => h.closed u found ((hsettled u found).mp hfound)⟩
  | @expand v label rest offered hqueue hbest hoffers =>
    have hround := round_of_expand hgrowing h.queued hqueue hbest hoffers
    have hsettled := (h.queued.pop_current hqueue hbest).2
    refine ⟨hround.expanding.toWellQueued, fun u found hfound => ?_, ?_, fun u found hfound => ?_⟩
    · obtain hold | hnew := hround.origin u found hfound
      · exact h.derived u found hold
      · refine .offer (h.derived v label hbest) (fun hstart => ?_) ?_
        · exact h.start_label hgrowing (hstart ▸ hbest)
        · rw [hoffers]
          exact List.mem_map_of_mem hnew
    · obtain ⟨present, hpresent, hle⟩ := h.started
      obtain ⟨better, hbetter, hle'⟩ := hround.improves start present hpresent
      exact ⟨better, hbetter, hle'.trans hle⟩
    · obtain hold | ⟨rfl, rfl⟩ := (hsettled u found).mp ((hround.settled_iff u found).mp hfound)
      · obtain ⟨earlier, hearlier, hkept⟩ := h.closed u found hold
        refine ⟨earlier, hearlier, fun o ho => ?_⟩
        obtain ⟨present, hpresent, hle⟩ := hkept o ho
        obtain ⟨better, hbetter, hle'⟩ := hround.improves o.1 present hpresent
        exact ⟨better, hbetter, hle'.trans hle⟩
      · exact ⟨offered, hoffers, hround.kept⟩

/-- An iteration uses up an entry, or a vertex that pays for the entries it makes. -/
theorem rank_lt {vertices : Finset V} {width : Nat} (hgrowing : Growing offers)
    (hwidth : ∀ v label, (offers v label).length ≤ width) (hqueued : s.WellQueued)
    (hvertices : ∀ (v : V) (label : Λ), s.best[v]? = some label → v ∈ vertices)
    (hiteration : Iteration offers s t) : t.rank vertices width < s.rank vertices width := by
  cases hiteration with
  | @outdated v label rest hqueue hbest =>
    have hsettled := (hqueued.pop_outdated hqueue hbest).2
    have hsame (u : V) : ({ s with queue := rest } : State V Λ).is_settled u = s.is_settled u := by
      rw [Bool.eq_iff_iff, is_settled_iff, is_settled_iff]
      exact exists_congr (hsettled u)
    unfold rank
    simp only [hsame, hqueue, List.length_cons]
    omega
  | @expand v label rest offered hqueue hbest hoffers =>
    have hround := round_of_expand hgrowing hqueued hqueue hbest hoffers
    have hsettled := (hqueued.pop_current hqueue hbest).2
    have hopen : ¬ s.is_settled v = true := by
      rw [is_settled_iff]
      rintro ⟨found, hfound, hnot⟩
      obtain rfl := Option.some.inj (hbest.symm.trans hfound)
      exact hnot (hqueue ▸ List.mem_cons_self)
    have hfewer : (vertices.filter fun u => ¬ (offer_all { s with queue := rest } offered).is_settled u).card + 1 ≤
        (vertices.filter fun u => ¬ s.is_settled u).card := by
      refine Finset.card_lt_card ⟨fun u hu => ?_, fun hsubset => ?_⟩
      · rw [Finset.mem_filter] at hu ⊢
        refine ⟨hu.1, fun hearlier => hu.2 ?_⟩
        obtain ⟨found, hfound⟩ := is_settled_iff.mp hearlier
        exact is_settled_iff.mpr ⟨found, (hround.settled_iff u found).mpr ((hsettled u found).mpr (.inl hfound))⟩
      · have hv := (Finset.mem_filter.mp (hsubset (Finset.mem_filter.mpr ⟨hvertices v label hbest, hopen⟩))).2
        refine hv (is_settled_iff.mpr ⟨label, ?_⟩)
        exact (hround.settled_iff v label).mpr ((hsettled v label).mpr (.inr ⟨rfl, rfl⟩))
    have hpaid := Nat.mul_le_mul_left width hfewer
    have hlength := hround.length_le
    have hcount : offered.length ≤ width := by
      have := hwidth v label
      rwa [hoffers, List.length_map] at this
    unfold rank
    rw [hqueue, List.length_cons]
    rw [mul_add, mul_one] at hpaid
    dsimp only at hlength
    omega

/-- Enough fuel for a search: one entry, and the offers of every vertex once. -/
theorem search_exits {vertices : Finset V} {width fuel : Nat} (hgrowing : Growing offers)
    (hwidth : ∀ v label, (offers v label).length ≤ width)
    (hvertices : ∀ v label, Derived offers start first v label → v ∈ vertices)
    (hfuel : 1 + width * vertices.card < fuel) :
    Loop.Exits (body offers) (init start first) (Loop.run (body offers) fuel (init start first)) := by
  refine Loop.run_exits (Searching offers start first) (rank vertices width) ?_ ?_ fuel _ searching_init ?_
  · exact fun s t hs hbody => hs.iterate hgrowing (iteration_of_body hbody)
  · intro s t hs hbody
    exact rank_lt hgrowing hwidth hs.queued (fun v label h => hvertices v label (hs.derived v label h))
      (iteration_of_body hbody)
  · have hcard := Finset.card_filter_le vertices fun v => ¬ (init start first).is_settled v
    have hwork := Nat.mul_le_mul_left width hcard
    unfold rank
    simp only [init, List.length_singleton] at hwork ⊢
    omega

/-- Where a search stops, every label is derived and all its offers have been made. -/
theorem found_of_exits (hgrowing : Growing offers)
    (h : Loop.Exits (body offers) (init start first) (.ok final)) :
    (∀ (v : V) (label : Λ), final.best[v]? = some label → Derived offers start first v label) ∧
      final.best[start]? = some first ∧
      ∀ (v : V) (label : Λ), final.best[v]? = some label → ∃ offered : List (V × Λ),
        offers v label = offered.map .ok ∧
          ∀ o ∈ offered, ∃ better, final.best[o.1]? = some better ∧ better ≤ o.2 := by
  obtain ⟨hfinal, hstop⟩ := h.invariant
    (fun s t hs hbody => Searching.iterate hgrowing hs (iteration_of_body hbody)) searching_init
  have hempty := queue_eq_nil_of_body hstop
  refine ⟨hfinal.derived, ?_, fun v label hlabel => hfinal.closed v label ⟨hlabel, ?_⟩⟩
  · obtain ⟨label, hlabel, -⟩ := hfinal.started
    rwa [hfinal.start_label hgrowing hlabel] at hlabel
  · rw [hempty]
    exact List.not_mem_nil

end Search

end BestFirst
