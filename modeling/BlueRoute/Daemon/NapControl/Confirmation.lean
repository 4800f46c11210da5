import BlueRoute.Daemon.NapControl.Slots

open Runs

namespace blueroute_daemon.nap_control_admission

open blueroute nap_admission_ledger nap_admission_scope

/-- An observed attachment was confirmed; since then the session is open and the ledger has the reservation.
A session never opens again, and a reservation that was retired or closed does not come back. -/
structure Confirmed (events : List Event) (state : System) (owner : Nat) (owned : Owned)
    (lease : AuthenticatedNapLease) : Prop where
  confirmed : ∃ revalidated, .Call owner (.Activate revalidated) (.activated (.ok ())) ∈ events
  live : state.owners[owner]? = some (some owned)
  opened : owned.owner.session.terminal = false
  held : owned.owner.lease = some lease
  reserved : state.admissions.Reserved lease.ticket.ticket

/-- Further observations of the attachment, under an approved session, are all answered with success, and
neither the session nor a ledger is different after them. -/
def ConfirmsAgain (state : System) (owner : Nat) (owned : Owned) (n : Nat) : Prop :=
  ∃ final kept, Run Step state (List.replicate n (.Call owner (.Activate (.ok ())) (.activated (.ok ())))) final ∧
    final.owners[owner]? = some (some kept) ∧ kept.owner.session = owned.owner.session ∧
    final.admissions = state.admissions

variable {revalidated : Except String Unit}

/-- The owner reports success only for the answer `true` of the ledger. -/
theorem activate_eq_ok {owner : RegisteredNapControlOwner} {admission : NetworkNapAdmission}
    (h : (owner.activate_after_observed_attachment admission revalidated).1 = .ok ()) :
    ∃ lease, owner.lease = some lease ∧ (admission.activate lease.ticket.ticket).1 = .ok true ∧
      (owner.activate_after_observed_attachment admission revalidated).2.2 =
        (admission.activate lease.ticket.ticket).2 := by
  unfold RegisteredNapControlOwner.activate_after_observed_attachment at h ⊢
  split at h
  · cases h
  rename_i lease hlease
  refine ⟨lease, hlease, ?_⟩
  dsimp only at h ⊢
  split at h
  · rename_i hactivated
    unfold activate_authenticated_nap at hactivated ⊢
    split at hactivated
    · cases hactivated
    rename_i hsame
    rw [if_neg hsame]
    split at hactivated
    · cases hactivated
    · exact ⟨hactivated, rfl⟩
  · cases h
  · cases h

/-- A confirmation takes the reservation of the owner from pending to active. -/
theorem Recorded.confirmed {events : List Event} {state next : System} {owner nap : Nat}
    {session : RegisteredControlSession} {ticket : NetworkNapTicket} (h : Recorded events state)
    (hmade : Made events owner nap session ticket)
    (hstep : Step state (.Call owner (.Activate revalidated) (.activated (.ok ()))) next) :
    state.admissions.stage ticket < .Active ∧ .Active ≤ next.admissions.stage ticket := by
  obtain ⟨owned, admission, howned, hadmission, hreply, hnext, _⟩ := hstep
  obtain ⟨lease, hlease, hactivate, hafter⟩ := activate_eq_ok (Reply.activated.inj hreply).symm
  obtain ⟨slot, hslot, hlives⟩ := (h.kept owner nap session ticket hmade).slot
  cases hslot.symm.trans howned
  obtain ⟨rfl, -⟩ := hlives.lease lease hlease
  have hinner : nap_admission_scope.Step state.admissions (.Activate owned.nap lease.ticket.ticket (.ok true))
      next.admissions := ⟨admission, hadmission, hactivate.symm, hnext.trans (by rw [← hafter]; rfl)⟩
  exact h.scoped_.activated hinner

/-- No state after a confirmation has another one. -/
theorem not_confirmed_twice {events : List Event} {state next : System} {owner : Nat}
    {revalidated₂ : Except String Unit} (h : Run Step System.new events state)
    (hbefore : .Call owner (.Activate revalidated) (.activated (.ok ())) ∈ events) :
    ¬ Step state (.Call owner (.Activate revalidated₂) (.activated (.ok ()))) next := by
  intro hstep
  have hrecorded {events : List Event} {state : System}
    (h : Run Step System.new events state) : Recorded events state :=
    h.history Recorded recorded_new fun _ _ _ _ hinv hstep => hinv.step hstep
  obtain ⟨before, since, rfl⟩ := List.append_of_mem hbefore
  obtain ⟨first, hfirst, hrest⟩ := Run.append_iff.mp h
  cases hrest with
  | @cons _ second _ _ _ hconfirm hsince =>
    obtain ⟨owned, _, howned, -⟩ := id hconfirm
    obtain ⟨nap, session, ticket, hmade⟩ := (hrecorded hfirst).known owner _ howned
    have hactive := ((hrecorded hfirst).confirmed hmade hconfirm).2
    have hlater : second.admissions.stage ticket ≤ state.admissions.stage ticket :=
      hsince.le_rank (fun _ => True) (fun state => state.admissions.stage ticket) (fun _ _ _ _ _ => trivial)
        (fun _ _ _ _ hstep => hstep.le_stage ticket) trivial
    obtain ⟨_, made, decision, lease, hin, hrest⟩ := hmade
    have hstill : Made (before ++ .Call owner (.Activate revalidated) (.activated (.ok ())) :: since) owner nap session
        ticket := ⟨_, made, decision, lease, List.mem_append_left _ hin, hrest⟩
    exact absurd ((hrecorded h).confirmed hstill hstep).1 (not_lt.mpr (hactive.trans hlater))

/-- A confirmed attachment is confirmed again for no further observation. -/
theorem confirmed_again_iff {events : List Event} {state : System} {owner : Nat} {owned : Owned}
    {lease : AuthenticatedNapLease} (h : Run Step System.new events state)
    (hconfirmed : Confirmed events state owner owned lease) (n : Nat) :
    ConfirmsAgain state owner owned n ↔ n = 0 := by
  constructor
  · rintro ⟨final, _, hrun, -⟩
    cases n with
    | zero => rfl
    | succ n =>
      obtain ⟨revalidated, hbefore⟩ := hconfirmed.confirmed
      cases hrun with
      | cons hstep _ => exact absurd hstep (not_confirmed_twice h hbefore)
  · rintro rfl
    exact ⟨state, owned, .nil, hconfirmed.live, rfl, rfl⟩

def sample_activated : NetworkNapAdmission :=
  (NetworkNapAdmission.activate ((NetworkNapAdmission.mk (Id.filled 9) 0 (State.new sample_host)).reserve
    (Id.filled 2)).2
    sample_ticket).2

def sample_confirmed : System :=
  { admissions := [sample_activated], owners := [some ⟨0, { sample_owner with attached := true }⟩] }

def sample_events : List Event :=
  [.Admission (.New (Id.filled 9) sample_host (.ok ())),
    .Reserve 0 0 sample_session (.ok ()) (.ok (sample_owner, sample_decision)),
    .Call 0 (.Activate (.ok ())) (.activated (.ok ()))]

theorem sample_run : Run Step System.new sample_events sample_confirmed := by
  refine .cons (t := ⟨[⟨Id.filled 9, 0, State.new sample_host⟩], []⟩) ⟨⟨rfl, rfl⟩, rfl⟩ ?_
  refine .cons (t := ⟨_, [some ⟨0, sample_owner⟩]⟩) ⟨_, rfl, rfl, by decide, rfl, rfl⟩ ?_
  exact .cons ⟨_, _, rfl, rfl, rfl, by decide, by decide⟩ .nil

theorem sample_is_confirmed :
    Confirmed sample_events sample_confirmed 0 ⟨0, { sample_owner with attached := true }⟩ sample_lease := by
  refine ⟨⟨.ok (), .tail _ (.tail _ (.head _))⟩, rfl, rfl, rfl, sample_activated, rfl, by decide, .inl ?_⟩
  decide

theorem confirmed_again_iff_sample :
    ConfirmsAgain sample_confirmed 0 ⟨0, { sample_owner with attached := true }⟩ 1 ↔ 1 = 0 :=
  confirmed_again_iff sample_run sample_is_confirmed 1

/-- The second observation of an attachment is refused as if the reservation had been replaced, and the
session is closed, although session and reservation are those of the first. -/
theorem second_observation_refused :
    ∃ next, Run Step System.new
      (sample_events ++ [.Call 0 (.Activate (.ok ()))
        (.activated (.error (.new .InvalidState "NAP reservation was replaced or retired before attachment")))]) next ∧
      Confirmed sample_events sample_confirmed 0 ⟨0, { sample_owner with attached := true }⟩ sample_lease ∧
      ¬ ConfirmsAgain sample_confirmed 0 ⟨0, { sample_owner with attached := true }⟩ 1 ∧
      next.owners[0]? = some (some ⟨0, { sample_owner with session := sample_session.cancel, attached := true }⟩) := by
  have hstep : Step sample_confirmed (.Call 0 (.Activate (.ok ()))
      (.activated (.error (.new .InvalidState "NAP reservation was replaced or retired before attachment"))))
      { admissions := [sample_activated]
        owners := [some ⟨0, { sample_owner with session := sample_session.cancel, attached := true }⟩] } :=
    ⟨_, _, rfl, rfl, congrArg Reply.activated (by decide), by decide, by decide⟩
  refine ⟨_, Run.append_iff.mpr ⟨_, sample_run, .cons hstep .nil⟩, sample_is_confirmed, ?_, rfl⟩
  rintro ⟨final, _, hrun, -⟩
  cases hrun with
  | cons hagain _ => exact not_confirmed_twice sample_run (.tail _ (.tail _ (.head _))) hagain

end blueroute_daemon.nap_control_admission
