import BlueRoute.Core.NapAdmission.Scope

open Ordered Runs

namespace blueroute.nap_admission_ledger

/-- The life of a ticket. No call takes it back to an earlier stage. -/
inductive Stage where
  | Unissued
  | Pending
  | Active
  | Ended
deriving DecidableEq

def Stage.rank : Stage → Nat
  | .Unissued => 0
  | .Pending => 1
  | .Active => 2
  | .Ended => 3

theorem Stage.rank_injective : Function.Injective Stage.rank := by
  intro left right h
  cases left <;> cases right <;> first | rfl | cases h

instance : LinearOrder Stage :=
  LinearOrder.lift' Stage.rank Stage.rank_injective

def State.stage (self : State) (ticket : NapAdmissionTicket) : Stage :=
  if self.next_generation < ticket.generation then .Unissued
  else if self.pending[ticket.candidate]? = some ticket.generation then .Pending
  else if self.active[ticket.candidate]? = some ticket.generation then .Active
  else .Ended

variable {ticket : NapAdmissionTicket}

variable {state : State}

theorem stage_lt_ended_iff :
    state.stage ticket < .Ended ↔
      state.next_generation < ticket.generation ∨ state.Holds ticket.candidate ticket.generation := by
  unfold State.stage State.Holds
  split
  · rename_i hnew
    exact ⟨fun _ => .inl hnew, fun _ => by decide⟩
  rename_i hnew
  split
  · rename_i hpending
    exact ⟨fun _ => .inr (.inr hpending), fun _ => by decide⟩
  rename_i hpending
  split
  · rename_i hactive
    exact ⟨fun _ => .inr (.inl hactive), fun _ => by decide⟩
  · rename_i hactive
    simp [hnew, hpending, hactive]

theorem stage_le_pending
    (h : state.next_generation < ticket.generation ∨ state.pending[ticket.candidate]? = some ticket.generation) :
    state.stage ticket ≤ .Pending := by
  unfold State.stage
  split
  · decide
  · rw [if_pos (h.resolve_left ‹_›)]

theorem stage_le_active
    (h : state.next_generation < ticket.generation ∨ state.Holds ticket.candidate ticket.generation) :
    state.stage ticket ≤ .Active := by
  have hlt := stage_lt_ended_iff.mpr h
  revert hlt
  cases state.stage ticket <;> decide

variable {state next : State}

/-- A call that issues nothing old again does not take a ticket back. -/
theorem stage_le (hgeneration : state.next_generation ≤ next.next_generation)
    (hpending : next.pending[ticket.candidate]? = some ticket.generation → state.next_generation < ticket.generation ∨
      state.pending[ticket.candidate]? = some ticket.generation)
    (hactive : next.active[ticket.candidate]? = some ticket.generation → state.next_generation < ticket.generation ∨
      state.Holds ticket.candidate ticket.generation) :
    state.stage ticket ≤ next.stage ticket := by
  rw [State.stage.eq_1 next]
  split
  · have hnew : state.next_generation < ticket.generation := by omega
    rw [State.stage, if_pos hnew]
  split
  · exact stage_le_pending (hpending ‹_›)
  split
  · exact stage_le_active (hactive ‹_›)
  · cases state.stage ticket <;> decide

theorem Effect.le_stage {event : Event} (h : Effect state event next) (ticket : NapAdmissionTicket) :
    state.stage ticket ≤ next.stage ticket := by
  refine stage_le h.le_generation ?_ ?_
  · intro hnext
    cases h with
    | failed | confirmed | stale | updated | detached => exact .inr hnext
    | closed => simp at hnext
    | reserved =>
      simp only [getElem?_insert_eq] at hnext
      split at hnext
      · have hnew := Option.some.inj hnext
        exact .inl (by omega)
      · exact .inr hnext
    | promoted | cancelled =>
      simp only [getElem?_erase_eq] at hnext
      split at hnext
      · cases hnext
      · exact .inr hnext
  · intro hnext
    obtain hholds | ⟨hnew, _⟩ := h.holds (.inl hnext)
    · exact .inr hholds
    · exact .inl hnew

theorem Booked.pending_eq_none {peer : NodeId} {generation : Nat} (h : Booked state)
    (hactive : state.active[peer]? = some generation) : state.pending[peer]? = none := by
  by_contra hsome
  obtain ⟨other, hother⟩ := Option.ne_none_iff_exists'.mp hsome
  exact h.disjoint peer (mem_iff_exists.mpr ⟨_, hactive⟩) (mem_iff_exists.mpr ⟨_, hother⟩)

/-- Whatever it answers, a retirement leaves nothing of an issued ticket. -/
theorem Booked.stage_retire (h : Booked state) (hissued : .Pending ≤ state.stage ticket) :
    .Ended ≤ (state.retire ticket).2.stage ticket := by
  have hknown : ¬ state.next_generation < ticket.generation := by
    intro hnew
    rw [State.stage, if_pos hnew] at hissued
    exact absurd hissued (by decide)
  rw [← not_lt, stage_lt_ended_iff]
  unfold State.retire
  split
  · rename_i hpending
    rintro (hnew | hactive | hheld)
    · exact hknown hnew
    · rw [h.pending_eq_none hactive] at hpending
      cases hpending
    · simp at hheld
  rename_i hpending
  split
  · rintro (hnew | hheld | hheld)
    · exact hknown hnew
    · simp at hheld
    · exact hpending hheld
  · rename_i hactive
    rintro (hnew | hheld | hheld)
    · exact hknown hnew
    · exact hactive hheld
    · exact hpending hheld

theorem Booked.retired_ended (h : Booked state) (heffect : Effect state (.Retire ticket (.ok true)) next) :
    state.stage ticket < .Ended ∧ .Ended ≤ next.stage ticket := by
  have hgone : state.Holds ticket.candidate ticket.generation ∧
      ¬ next.Holds ticket.candidate ticket.generation ∧ next.next_generation = state.next_generation := by
    cases heffect with
    | failed hfailed =>
      obtain ⟨e, he⟩ := hfailed
      cases he
    | cancelled hpending =>
      refine ⟨.inr hpending, ?_, rfl⟩
      simp only [State.Holds, getElem?_erase_eq, if_true, reduceCtorEq, or_false]
      intro hactive
      rw [h.pending_eq_none hactive] at hpending
      cases hpending
    | detached hactive =>
      refine ⟨.inl hactive, ?_, rfl⟩
      simp [State.Holds, h.pending_eq_none hactive]
  obtain ⟨hholds, hfree, hgeneration⟩ := hgone
  refine ⟨stage_lt_ended_iff.mpr (.inr hholds), not_lt.mp fun hlt => ?_⟩
  obtain hnew | hholds' := stage_lt_ended_iff.mp hlt
  · have hle := h.bounded _ _ hholds
    omega
  · exact hfree hholds'

theorem Booked.activated_active (h : Booked state) (heffect : Effect state (.Activate ticket (.ok true)) next) :
    state.stage ticket < .Active ∧ .Active ≤ next.stage ticket := by
  cases heffect with
  | failed hfailed =>
    obtain ⟨e, he⟩ := hfailed
    cases he
  | promoted hopen hpending hplan =>
    have hle := h.bounded _ _ (.inr hpending)
    have hbefore : state.stage ticket = .Pending := by
      rw [State.stage, if_neg (by omega), if_pos hpending]
    refine ⟨hbefore ▸ by decide, ?_⟩
    simp only [State.stage, getElem?_erase_eq, getElem?_insert_eq, if_true, reduceCtorEq, if_false]
    rw [if_neg (by omega)]

/-- A reservation ends by its own retirement or with the whole ledger. -/
theorem Booked.released {event : Event} {peer : NodeId} {generation : Nat} (h : Booked state)
    (heffect : Effect state event next) (hholds : state.Holds peer generation) (hgone : ¬ next.Holds peer generation) :
    (∃ answer, event = .Retire { candidate := peer, generation } answer) ∨ ∃ answer, event = .Close answer := by
  cases heffect with
  | failed | confirmed | stale | updated => exact absurd hholds hgone
  | closed => exact .inr ⟨_, rfl⟩
  | @reserved candidate decision hopen hpending hactive =>
    refine absurd (hholds.imp_right fun hheld => ?_) hgone
    rwa [getElem?_insert_eq, if_neg]
    rintro rfl
    exact hpending (mem_iff_exists.mpr ⟨_, hheld⟩)
  | @promoted ticket decision hopen hpending =>
    refine absurd ?_ hgone
    simp only [State.Holds, getElem?_insert_eq, getElem?_erase_eq]
    split
    · rename_i heq
      subst heq
      obtain hheld | hheld := hholds
      · exact absurd (mem_iff_exists.mpr ⟨_, hpending⟩) (h.disjoint _ (mem_iff_exists.mpr ⟨_, hheld⟩))
      · exact .inl (hpending ▸ hheld)
    · exact hholds
  | @cancelled ticket hpending =>
    obtain ⟨candidate, issued⟩ := ticket
    by_cases heq : candidate = peer
    · subst heq
      obtain hheld | hheld := hholds
      · exact absurd (.inl hheld) hgone
      · rw [hpending] at hheld
        cases hheld
        exact .inl ⟨_, rfl⟩
    · refine absurd (hholds.imp_right fun hheld => ?_) hgone
      rwa [getElem?_erase_eq, if_neg heq]
  | @detached ticket hactive =>
    obtain ⟨candidate, issued⟩ := ticket
    by_cases heq : candidate = peer
    · subst heq
      obtain hheld | hheld := hholds
      · rw [hactive] at hheld
        cases hheld
        exact .inl ⟨_, rfl⟩
      · exact absurd (.inr hheld) hgone
    · refine absurd (hholds.imp_left fun hheld => ?_) hgone
      rwa [getElem?_erase_eq, if_neg heq]

/-- Nothing but the entry of one peer differs. -/
structure OnlyEntry (state next : State) (peer : NodeId) : Prop where
  host : next.host = state.host
  next_generation : next.next_generation = state.next_generation
  closed : next.closed = state.closed
  active : ∀ other : NodeId, other ≠ peer → next.active[other]? = state.active[other]?
  pending : ∀ other : NodeId, other ≠ peer → next.pending[other]? = state.pending[other]?

theorem Effect.activate_touches {answer : Result Bool} (h : Effect state (.Activate ticket answer) next) :
    next = state ∨ state.Holds ticket.candidate ticket.generation ∧ OnlyEntry state next ticket.candidate := by
  cases h with
  | failed | confirmed => exact .inl rfl
  | promoted hopen hpending hplan =>
    refine .inr ⟨.inr hpending, rfl, rfl, rfl, ?_, ?_⟩
    · intro other hne
      simp [hne.symm]
    · intro other hne
      simp [hne.symm]

theorem Effect.retire_touches {answer : Result Bool} (h : Effect state (.Retire ticket answer) next) :
    next = state ∨ state.Holds ticket.candidate ticket.generation ∧ OnlyEntry state next ticket.candidate := by
  cases h with
  | failed | stale => exact .inl rfl
  | cancelled hpending =>
    refine .inr ⟨.inr hpending, rfl, rfl, rfl, fun _ _ => rfl, ?_⟩
    intro other hne
    simp [hne.symm]
  | detached hactive =>
    refine .inr ⟨.inl hactive, rfl, rfl, rfl, ?_, fun _ _ => rfl⟩
    intro other hne
    simp [hne.symm]

end blueroute.nap_admission_ledger
