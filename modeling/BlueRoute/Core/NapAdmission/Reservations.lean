import BlueRoute.Core.NapAdmission.Ledger

open Ordered Runs

namespace blueroute.nap_admission_ledger

/-- The call was refused. -/
def Event.Failed : Event → Prop
  | .Reserve _ answer => ∃ e, answer = .error e
  | .Activate _ answer => ∃ e, answer = .error e
  | .Retire _ answer => ∃ e, answer = .error e
  | .UpdateCapabilities _ answer => ∃ e, answer = .error e
  | .Close answer => ∃ e, answer = .error e

/-- Everything that one call can do to the ledger. -/
inductive Effect (state : State) : Event → State → Prop where
  | failed {event : Event} (hfailed : event.Failed) : Effect state event state
  | confirmed {ticket : NapAdmissionTicket} (hopen : state.closed = false)
      (hactive : state.active[ticket.candidate]? = some ticket.generation) :
      Effect state (.Activate ticket (.ok false)) state
  | stale {ticket : NapAdmissionTicket} (hpending : state.pending[ticket.candidate]? ≠ some ticket.generation)
      (hactive : state.active[ticket.candidate]? ≠ some ticket.generation) :
      Effect state (.Retire ticket (.ok false)) state
  | reserved {candidate : NodeId} {decision : NapAdmissionDecision} (hopen : state.closed = false)
      (hpending : candidate ∉ state.pending) (hactive : candidate ∉ state.active)
      (hplan : nap_admission.plan_nap_client_admission state.host state.observed candidate = .ok decision)
      (hfits : state.next_generation + 1 < 2 ^ 64) :
      Effect state (.Reserve candidate (.ok ({ candidate, generation := state.next_generation + 1 }, decision)))
        { state with
          next_generation := state.next_generation + 1
          pending := state.pending.insert candidate (state.next_generation + 1) }
  | promoted {ticket : NapAdmissionTicket} {decision : NapAdmissionDecision} (hopen : state.closed = false)
      (hpending : state.pending[ticket.candidate]? = some ticket.generation)
      (hplan : nap_admission.plan_nap_client_admission state.host state.observed ticket.candidate = .ok decision) :
      Effect state (.Activate ticket (.ok true))
        { state with
          pending := state.pending.erase ticket.candidate
          active := state.active.insert ticket.candidate ticket.generation }
  | cancelled {ticket : NapAdmissionTicket}
      (hpending : state.pending[ticket.candidate]? = some ticket.generation) :
      Effect state (.Retire ticket (.ok true)) { state with pending := state.pending.erase ticket.candidate }
  | detached {ticket : NapAdmissionTicket}
      (hactive : state.active[ticket.candidate]? = some ticket.generation) :
      Effect state (.Retire ticket (.ok true)) { state with active := state.active.erase ticket.candidate }
  | updated {host : NodeCapabilities} (hopen : state.closed = false) :
      Effect state (.UpdateCapabilities host (.ok ())) { state with host }
  | closed : Effect state (.Close (.ok ())) { state with closed := true, active := ∅, pending := ∅ }

variable {state next : State}

theorem reserve_effect {candidate : NodeId} {answer : Result (NapAdmissionTicket × NapAdmissionDecision)}
    (h : state.reserve candidate = (answer, next)) : Effect state (.Reserve candidate answer) next := by
  unfold State.reserve at h
  split at h
  · cases h
    exact .failed ⟨_, rfl⟩
  rename_i hopen
  split at h
  · cases h
    exact .failed ⟨_, rfl⟩
  rename_i hpending
  split at h
  · cases h
    exact .failed ⟨_, rfl⟩
  rename_i hactive
  split at h
  · cases h
    exact .failed ⟨_, rfl⟩
  rename_i decision hplan
  split at h
  · cases h
    exact .failed ⟨_, rfl⟩
  rename_i hfits
  cases h
  exact .reserved (by simpa using hopen) hpending hactive hplan (by omega)

theorem activate_effect {ticket : NapAdmissionTicket} {answer : Result Bool}
    (h : state.activate ticket = (answer, next)) : Effect state (.Activate ticket answer) next := by
  unfold State.activate at h
  split at h
  · cases h
    exact .failed ⟨_, rfl⟩
  rename_i hopen
  split at h
  · rename_i hactive
    cases h
    exact .confirmed (by simpa using hopen) hactive
  split at h
  · cases h
    exact .failed ⟨_, rfl⟩
  rename_i hpending
  split at h
  · cases h
    exact .failed ⟨_, rfl⟩
  rename_i decision hplan
  cases h
  exact .promoted (by simpa using hopen) (not_not.mp hpending) hplan

theorem retire_effect {ticket : NapAdmissionTicket} {answer : Result Bool}
    (h : state.retire ticket = (answer, next)) : Effect state (.Retire ticket answer) next := by
  unfold State.retire at h
  split at h
  · rename_i hpending
    cases h
    exact .cancelled hpending
  rename_i hpending
  split at h
  · rename_i hactive
    cases h
    exact .detached hactive
  rename_i hactive
  cases h
  exact .stale hpending hactive

variable {event : Event}

theorem Step.effect (h : Step state event next) : Effect state event next := by
  cases event with
  | Reserve candidate answer => exact reserve_effect h
  | Activate ticket answer => exact activate_effect h
  | Retire ticket answer => exact retire_effect h
  | UpdateCapabilities host answer =>
    simp only [Step, State.update_capabilities] at h
    split at h
    · cases h
      exact .failed ⟨_, rfl⟩
    · rename_i hopen
      cases h
      exact .updated (by simpa using hopen)
  | Close answer =>
    cases h
    exact .closed

/-- The peer occupies a slot under this generation. -/
def State.Holds (self : State) (peer : NodeId) (generation : Nat) : Prop :=
  self.active[peer]? = some generation ∨ self.pending[peer]? = some generation

/-- The bookkeeping that every call keeps. -/
structure Booked (state : State) : Prop where
  disjoint : ∀ peer, peer ∈ state.active → peer ∉ state.pending
  distinct : ∀ left right generation, state.Holds left generation → state.Holds right generation → left = right
  bounded : ∀ peer generation, state.Holds peer generation → generation ≤ state.next_generation
  closed_empty : state.closed = true → state.active = ∅ ∧ state.pending = ∅

theorem booked_new (host : NodeCapabilities) : Booked (State.new host) := by
  constructor <;> simp [State.new, State.Holds]

theorem Effect.le_generation (h : Effect state event next) : state.next_generation ≤ next.next_generation := by
  cases h with
  | reserved => exact Nat.le_succ _
  | _ => exact le_refl _

/-- A slot is occupied as before, or by the reservation that the call made. -/
theorem Effect.holds {peer : NodeId} {generation : Nat} (h : Effect state event next)
    (hholds : next.Holds peer generation) :
    state.Holds peer generation ∨ state.next_generation < generation ∧ generation ≤ next.next_generation ∧
      ∃ decision, event = .Reserve peer (.ok ({ candidate := peer, generation }, decision)) := by
  cases h with
  | failed | confirmed | stale | updated => exact .inl hholds
  | closed => simp [State.Holds] at hholds
  | reserved =>
    obtain hgen | hgen := hholds
    · exact .inl (.inl hgen)
    · simp only [getElem?_insert_eq] at hgen
      split at hgen
      · rename_i heq
        subst heq
        cases hgen
        exact .inr ⟨Nat.lt_succ_self _, le_refl _, _, rfl⟩
      · exact .inl (.inr hgen)
  | promoted hopen hpending hplan =>
    left
    simp only [State.Holds, getElem?_insert_eq, getElem?_erase_eq] at hholds
    split at hholds
    · rename_i heq
      obtain hgen | hgen := hholds
      · exact .inr (heq ▸ hgen ▸ hpending)
      · cases hgen
    · exact hholds
  | cancelled =>
    left
    simp only [State.Holds, getElem?_erase_eq] at hholds
    refine hholds.imp_right fun hgen => ?_
    split at hgen
    · cases hgen
    · exact hgen
  | detached =>
    left
    simp only [State.Holds, getElem?_erase_eq] at hholds
    refine hholds.imp_left fun hgen => ?_
    split at hgen
    · cases hgen
    · exact hgen

theorem Booked.effect_disjoint (h : Booked state) (heffect : Effect state event next) (peer : NodeId)
    (hactive : peer ∈ next.active) : peer ∉ next.pending := by
  cases heffect with
  | failed | confirmed | stale | updated => exact h.disjoint peer hactive
  | closed => simp
  | cancelled => exact fun hpending => h.disjoint peer hactive (mem_erase_iff.mp hpending).2
  | detached => exact h.disjoint peer (mem_erase_iff.mp hactive).2
  | reserved hopen hnew hfree hplan hfits =>
    intro hpending
    obtain rfl | hpending := mem_insert_iff.mp hpending
    · exact hfree hactive
    · exact h.disjoint peer hactive hpending
  | promoted hopen hin hplan =>
    intro hpending
    obtain ⟨hne, hpending⟩ := mem_erase_iff.mp hpending
    obtain heq | hactive := mem_insert_iff.mp hactive
    · exact hne heq
    · exact h.disjoint peer hactive hpending

theorem Booked.effect_closed (h : Booked state) (heffect : Effect state event next) (hclosed : next.closed = true) :
    next.active = ∅ ∧ next.pending = ∅ := by
  cases heffect with
  | failed | confirmed | stale | updated => exact h.closed_empty hclosed
  | closed => exact ⟨rfl, rfl⟩
  | cancelled hpending =>
    rw [(h.closed_empty hclosed).2] at hpending
    simp at hpending
  | detached hactive =>
    rw [(h.closed_empty hclosed).1] at hactive
    simp at hactive
  | reserved hopen | promoted hopen =>
    rw [hopen] at hclosed
    cases hclosed

theorem Booked.step (h : Booked state) (hstep : Step state event next) : Booked next := by
  have heffect := hstep.effect
  refine ⟨h.effect_disjoint heffect, ?_, ?_, h.effect_closed heffect⟩
  · intro left right generation hleft hright
    obtain hleft | ⟨hfresh, _, _, hleft⟩ := heffect.holds hleft
    · obtain hright | ⟨hfresh, _⟩ := heffect.holds hright
      · exact h.distinct left right generation hleft hright
      · have hle := h.bounded left generation hleft
        omega
    · obtain hright | ⟨_, _, _, hright⟩ := heffect.holds hright
      · have hle := h.bounded right generation hright
        omega
      · rw [hleft] at hright
        cases hright
        rfl
  · intro peer generation hpeer
    obtain hpeer | ⟨_, hle, _⟩ := heffect.holds hpeer
    · exact (h.bounded peer generation hpeer).trans heffect.le_generation
    · exact hle

end blueroute.nap_admission_ledger
