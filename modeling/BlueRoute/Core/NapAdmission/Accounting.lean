import BlueRoute.Core.NapAdmission.Reservations

open Ordered Runs

namespace blueroute.nap_admission_ledger

/-- The number of occupied slots, pending ones included. -/
def State.total (self : State) : Nat := self.active.size + self.pending.size

/-- The current policy has a ceiling and the occupied slots stay below it. -/
def State.Within (self : State) : Prop :=
  ∃ ceiling, self.host.ceiling = some ceiling ∧ self.total ≤ ceiling

theorem length_observed (state : State) : state.observed.length = state.total := by
  rw [State.observed, List.length_append, Std.ExtTreeMap.length_keys, Std.ExtTreeMap.length_keys, State.total]

theorem mem_observed {state : State} {peer : NodeId} :
    peer ∈ state.observed ↔ peer ∈ state.active ∨ peer ∈ state.pending := by
  rw [State.observed, List.mem_append, Std.ExtTreeMap.mem_keys, Std.ExtTreeMap.mem_keys]

/-- The call granted a slot or confirmed one. -/
def Event.Granted : Event → Prop
  | .Reserve _ answer => ∃ granted, answer = .ok granted
  | .Activate _ answer => answer = .ok true
  | _ => False

/-- The event issued a ticket with this generation. -/
def Event.issues (generation : Nat) : Event → Bool
  | .Reserve _ (.ok (ticket, _)) => ticket.generation == generation
  | _ => false

/-- The event is a call that a closed ledger refuses. -/
def Event.Owned : Event → Prop
  | .Reserve _ _ => True
  | .Activate _ _ => True
  | .UpdateCapabilities _ _ => True
  | _ => False

/-- The event is a change of policy. -/
def Event.Updates : Event → Prop
  | .UpdateCapabilities _ _ => True
  | _ => False

variable {state next : State} {event : Event}

/-- A granted slot is within the ceiling of the policy at that moment. -/
theorem Booked.granted (h : Booked state) (heffect : Effect state event next) (hgranted : event.Granted) :
    next.Within := by
  cases heffect with
  | failed hfailed =>
    exfalso
    cases event with
    | Reserve candidate answer =>
      obtain ⟨e, rfl⟩ := hfailed
      obtain ⟨granted, hgranted⟩ := hgranted
      cases hgranted
    | Activate ticket answer =>
      obtain ⟨e, rfl⟩ := hfailed
      cases hgranted
    | _ => exact hgranted
  | reserved hopen hpending hactive hplan hfits =>
    obtain ⟨ceiling, hceiling, _, hroom⟩ := nap_admission.plan_nap_client_admission_fits hplan
    refine ⟨ceiling, hceiling, ?_⟩
    have hlt := hroom (by simpa [mem_observed] using ⟨hactive, hpending⟩)
    rw [length_observed] at hlt
    simp only [State.total, size_insert_of_notMem _ hpending] at hlt ⊢
    omega
  | promoted hopen hpending hplan =>
    obtain ⟨ceiling, hceiling, hle, _⟩ := nap_admission.plan_nap_client_admission_fits hplan
    refine ⟨ceiling, hceiling, ?_⟩
    have hin := mem_iff_exists.mpr ⟨_, hpending⟩
    have hout := fun hactive => h.disjoint _ hactive hin
    have hsize := size_erase_of_mem hin
    rw [length_observed] at hle
    simp only [State.total, size_insert_of_notMem _ hout] at hle ⊢
    omega
  | _ => cases hgranted

/-- Without a change of policy, a total within the ceiling stays within it. -/
theorem Booked.within (h : Booked state) (heffect : Effect state event next) (hupdates : ¬ event.Updates)
    (hwithin : state.Within) :
    next.Within := by
  obtain ⟨ceiling, hceiling, hle⟩ := hwithin
  cases heffect with
  | failed | confirmed | stale => exact ⟨ceiling, hceiling, hle⟩
  | updated => exact absurd trivial hupdates
  | closed => exact ⟨ceiling, hceiling, by simp [State.total]⟩
  | cancelled =>
    refine ⟨ceiling, hceiling, le_trans ?_ hle⟩
    exact Nat.add_le_add_left Std.ExtTreeMap.size_erase_le _
  | detached =>
    refine ⟨ceiling, hceiling, le_trans ?_ hle⟩
    exact Nat.add_le_add_right Std.ExtTreeMap.size_erase_le _
  | reserved hopen hpending hactive hplan hfits =>
    exact h.granted (.reserved hopen hpending hactive hplan hfits) ⟨_, rfl⟩
  | promoted hopen hpending hplan => exact h.granted (.promoted hopen hpending hplan) rfl

/-- An issued generation is one that the ledger had not reached before. -/
theorem Effect.issues {generation : Nat} (h : Effect state event next) (hissues : event.issues generation = true) :
    state.next_generation < generation ∧ generation ≤ next.next_generation := by
  cases h with
  | failed hfailed =>
    cases event with
    | Reserve candidate answer =>
      obtain ⟨e, rfl⟩ := hfailed
      cases hissues
    | _ => cases hissues
  | reserved =>
    simp only [Event.issues, beq_iff_eq] at hissues
    subst hissues
    exact ⟨Nat.lt_succ_self _, le_refl _⟩
  | _ => cases hissues

theorem Effect.failed_eq (h : Effect state event next) (hfailed : event.Failed) : next = state := by
  cases h with
  | failed | confirmed | stale => rfl
  | _ =>
    obtain ⟨e, he⟩ := hfailed
    cases he

theorem Effect.closed_eq (h : Effect state event next) (hclosed : state.closed = true) :
    next.closed = true ∧ (event.Owned → event.Failed) := by
  cases h with
  | failed hfailed => exact ⟨hclosed, fun _ => hfailed⟩
  | stale | cancelled | detached => exact ⟨hclosed, False.elim⟩
  | closed => exact ⟨rfl, False.elim⟩
  | confirmed hopen | reserved hopen | promoted hopen | updated hopen =>
    rw [hopen] at hclosed
    cases hclosed

/-- A closed ledger stays closed and refuses every call that needs an owner. -/
theorem closed_run {state final : State} {events : List Event} (h : Run Step state events final)
    (hclosed : state.closed = true) :
    final.closed = true ∧ ∀ event ∈ events, event.Owned → event.Failed := by
  induction h with
  | nil => exact ⟨hclosed, by simp⟩
  | cons hstep _ ih =>
    obtain ⟨hnext, hfailed⟩ := hstep.effect.closed_eq hclosed
    obtain ⟨hfinal, hrest⟩ := ih hnext
    refine ⟨hfinal, ?_⟩
    intro event hevent
    rcases List.mem_cons.mp hevent with rfl | hevent
    · exact hfailed
    · exact hrest event hevent

/-- What a run of the ledger leaves behind and what any continuation of it
can do. -/
structure Accountable (events : List Event) (state : State) : Prop where
  disjoint : ∀ peer, peer ∈ state.active → peer ∉ state.pending
  distinct : ∀ left right generation, state.Holds left generation → state.Holds right generation → left = right
  bounded : ∀ peer generation, state.Holds peer generation → generation ≤ state.next_generation
  issued_once : ∀ generation, events.countP (Event.issues generation) ≤ 1
  granted_within : ∀ event next, Step state event next → event.Granted → next.Within
  stays_within : ∀ later final, Run Step state later final → (∀ event ∈ later, ¬ event.Updates) →
    state.Within → final.Within
  failed_unchanged : ∀ event next, Step state event next → event.Failed → next = state
  closed_forever : ∀ answer closed later final, Step state (.Close answer) closed → Run Step closed later final →
    answer = .ok () ∧ final.active = ∅ ∧ final.pending = ∅ ∧ ∀ event ∈ later, event.Owned → event.Failed

/-- Whatever calls run on a ledger in whatever order, its books add up. -/
theorem ledger_accountable (host : NodeCapabilities) {events : List Event} {state : State}
    (h : Run Step (State.new host) events state) : Accountable events state := by
  have hpreserve : ∀ s event t, Booked s → Step s event t → Booked t := fun _ _ _ hbooked hstep => hbooked.step hstep
  have hbooked : Booked state := h.invariant Booked hpreserve (booked_new host)
  refine ⟨hbooked.disjoint, hbooked.distinct, hbooked.bounded, ?_, ?_, ?_, ?_, ?_⟩
  · intro generation
    exact (h.countP_le_one Booked State.next_generation generation hpreserve
      (fun _ _ _ _ hstep => hstep.effect.le_generation)
      (fun _ _ _ _ hstep hissues => hstep.effect.issues hissues) (booked_new host)).1
  · exact fun event next hstep hgranted => hbooked.granted hstep.effect hgranted
  · intro later final hrun hupdates hwithin
    have hboth : Booked final ∧ final.Within := by
      refine hrun.invariant_of_forall (fun s => Booked s ∧ s.Within) ?_ hupdates ⟨hbooked, hwithin⟩
      exact fun s event t hupdate hinv hstep => ⟨hinv.1.step hstep, hinv.1.within hstep.effect hupdate hinv.2⟩
    exact hboth.2
  · exact fun event next hstep hfailed => hstep.effect.failed_eq hfailed
  · intro answer closed later final hstep hrun
    have hclosed : Booked closed := hbooked.step hstep
    cases hstep
    obtain ⟨hfinal, hrefused⟩ := closed_run hrun rfl
    obtain ⟨hactive, hpending⟩ := (hrun.invariant Booked hpreserve hclosed).closed_empty hfinal
    exact ⟨rfl, hactive, hpending, hrefused⟩

def sample_host : NodeCapabilities where
  adapter_usable := some ⟨true, .Measured⟩
  nap := some ⟨true, .Measured⟩
  connection_policy_ceiling := some ⟨1, .Configured⟩

/-- One peer is admitted, confirmed and left behind by the close. -/
theorem ledger_accountable_sample :
    Accountable
      [.Reserve (Id.filled 2) (.ok (⟨Id.filled 2, 1⟩, ⟨Id.filled 2, false, 0, 0, ⟨1, .Configured⟩⟩)),
        .Activate ⟨Id.filled 2, 1⟩ (.ok true), .Close (.ok ())]
      { State.new sample_host with next_generation := 1, closed := true } := by
  let reserved : State :=
    { State.new sample_host with next_generation := 1, pending := (∅ : Map NodeId Nat).insert (Id.filled 2) 1 }
  let active : State :=
    { State.new sample_host with next_generation := 1, active := (∅ : Map NodeId Nat).insert (Id.filled 2) 1 }
  refine ledger_accountable sample_host (.cons (t := reserved) (by decide) ?_)
  exact .cons (t := active) (by decide) (.cons (by decide) .nil)

end blueroute.nap_admission_ledger
