import BlueRoute.Core.NapAdmission.Linearity
import BlueRoute.Daemon.NapControl.Calls

open Runs

namespace blueroute_daemon.nap_control_admission

open blueroute blueroute_protocol.session control_tls nap_admission_ledger nap_admission_scope RegisteredNapControlOwner

/-- An owner that still has its lease. -/
def System.Holding (self : System) (owner : Nat) : Prop :=
  ∃ owned, self.owners[owner]? = some (some owned) ∧ owned.owner.lease.isSome

/-- The reservation with this ticket made the owner. -/
def Made (events : List Event) (owner nap : Nat) (session : RegisteredControlSession) (ticket : NetworkNapTicket) :
    Prop :=
  ∃ revalidated made decision lease, .Reserve owner nap session revalidated (.ok (made, decision)) ∈ events ∧
    made.lease = some lease ∧ lease.ticket.ticket = ticket

/-- `activate_after_observed_attachment` was called on the owner while it had its lease. -/
def Observed (events : List Event) (owner : Nat) : Prop :=
  ∃ before revalidated reply after state, events = before ++ .Call owner (.Activate revalidated) reply :: after ∧
    Run Step System.new before state ∧ state.Holding owner

variable {state next : System} {event : Event}

theorem Step.deterministic {left right : System} (hleft : Step state event left) (hright : Step state event right) :
    left = right := by
  obtain ⟨admissions, owners⟩ := left
  obtain ⟨admissions', owners'⟩ := right
  cases event with
  | Admission event =>
    obtain ⟨hleft, rfl⟩ := hleft
    obtain ⟨hright, rfl⟩ := hright
    cases nap_admission_scope.Step.deterministic hleft hright
    rfl
  | Reserve owner nap session revalidated answer =>
    obtain ⟨admission, hadmission, _, _, rfl, rfl⟩ := hleft
    obtain ⟨found, hfound, _, _, rfl, rfl⟩ := hright
    cases hadmission.symm.trans hfound
    rfl
  | Call owner call reply =>
    obtain ⟨owned, admission, howned, hadmission, _, rfl, rfl⟩ := hleft
    obtain ⟨owned', found, howned', hfound, _, rfl, rfl⟩ := hright
    cases howned.symm.trans howned'
    cases hadmission.symm.trans hfound
    rfl

theorem observed_append_iff {events : List Event} {owner : Nat} (hrun : Run Step System.new events state) :
    Observed (events ++ [event]) owner ↔
      Observed events owner ∨
        state.Holding owner ∧ ∃ revalidated reply, event = .Call owner (.Activate revalidated) reply := by
  constructor
  · rintro ⟨before, revalidated, reply, after, middle, hevents, hbefore, hholding⟩
    obtain rfl | ⟨after, last, rfl⟩ := List.eq_nil_or_concat' after
    · obtain ⟨rfl, hlast⟩ := List.append_inj' hevents rfl
      have hdeterministic : ∀ s event t u, Step s event t → Step s event u → t = u := fun _ _ _ _ hleft hright =>
        Step.deterministic hleft hright
      cases hbefore.deterministic hdeterministic hrun
      exact .inr ⟨hholding, revalidated, reply, List.singleton_injective hlast⟩
    · rw [← List.cons_append, ← List.append_assoc] at hevents
      obtain ⟨rfl, _⟩ := List.append_inj' hevents rfl
      exact .inl ⟨before, revalidated, reply, after, middle, rfl, hbefore, hholding⟩
  · rintro (⟨before, revalidated, reply, after, middle, rfl, hbefore, hholding⟩ | ⟨hholding, revalidated, reply, rfl⟩)
    · exact ⟨before, revalidated, reply, after ++ [event], middle, by simp, hbefore, hholding⟩
    · exact ⟨events, revalidated, reply, [], state, rfl, hrun, hholding⟩

theorem drop_cases (lease : AuthenticatedNapLease) (admission : NetworkNapAdmission) :
    lease.drop admission = admission ∨ lease.drop admission = (admission.retire lease.ticket.ticket).2 := by
  unfold AuthenticatedNapLease.drop
  split
  · exact .inr rfl
  · exact .inl rfl

/-- A refused reservation leaves the admission as it is or asked it in vain. -/
theorem reserve_admission (session : RegisteredControlSession) (admission : NetworkNapAdmission)
    (revalidated : Except String Unit) :
    (reserve session admission revalidated).2 = admission ∨
      (reserve session admission revalidated).2 =
        (admission.reserve session.key.peer).2 := by
  simp only [reserve, reserve_authenticated_nap_lease, reserve_authenticated_nap]
  split
  · exact .inl rfl
  split
  · exact .inl rfl
  · exact .inr rfl

theorem reserve_eq_ok {session : RegisteredControlSession} {admission : NetworkNapAdmission}
    {revalidated : Except String Unit} {made : RegisteredNapControlOwner} {decision : NapAdmissionDecision}
    (h : (reserve session admission revalidated).1 = .ok (made, decision)) :
    ∃ ticket, (admission.reserve session.key.peer).1 = .ok (ticket, decision) ∧
      (reserve session admission revalidated).2 = (admission.reserve session.key.peer).2 ∧
      made = { session
               lease := some { ticket := { ticket, session_id := session.session_id }, release_on_drop := true }
               attached := false } := by
  simp only [reserve, reserve_authenticated_nap_lease, reserve_authenticated_nap] at h ⊢
  split at h
  · cases h
  rename_i hnetwork
  rw [if_neg hnetwork]
  split at h
  · cases h
  · cases hreserve : (admission.reserve session.key.peer).1 with
    | error error =>
      rw [hreserve] at h
      cases h
    | ok issued =>
      rw [hreserve] at h
      cases h
      exact ⟨issued.1, rfl, rfl, rfl⟩

/-- What a call makes of the admissions is one call on them, or nothing. -/
theorem Step.scope (h : Step state event next) :
    next.admissions = state.admissions ∨
      ∃ inner, nap_admission_scope.Step state.admissions inner next.admissions := by
  cases event with
  | Admission event => exact .inr ⟨event, h.1⟩
  | Reserve owner nap session revalidated answer =>
    obtain ⟨admission, hadmission, _, _, hnext, _⟩ := h
    rw [hnext]
    obtain hsame | hreserved := reserve_admission session admission revalidated
    · rw [hsame]
      exact .inl (set_self hadmission)
    · rw [hreserved]
      exact .inr ⟨.Reserve nap session.key.peer _, admission, hadmission, rfl, rfl⟩
  | Call owner call reply =>
    obtain ⟨owned, admission, _, hadmission, _, hnext, _⟩ := h
    rw [hnext]
    have hretire (lease : AuthenticatedNapLease) :
        state.admissions.set owned.nap (lease.drop admission) = state.admissions ∨ ∃ inner,
          nap_admission_scope.Step state.admissions inner (state.admissions.set owned.nap (lease.drop admission)) := by
      obtain hsame | hretired := drop_cases lease admission
      · rw [hsame]
        exact .inl (set_self hadmission)
      · rw [hretired]
        exact .inr ⟨.Retire owned.nap lease.ticket.ticket _, admission, hadmission, rfl, rfl⟩
    have heffect := Call.effect owned.owner admission call
    generalize (call.run owned.owner admission).2.1 = kept, (call.run owned.owner admission).2.2 = after at heffect ⊢
    cases heffect with
    | ignored => exact .inl (set_self hadmission)
    | cancelled => exact .inl (set_self hadmission)
    | abandoned => exact .inl (set_self hadmission)
    | released => exact hretire _
    | detached => exact hretire _
    | dropped => exact hretire _
    | observed hlease hsession hafter =>
      obtain hsame | hactivated := hafter
      · rw [hsame]
        exact .inl (set_self hadmission)
      · rw [hactivated]
        exact .inr ⟨.Activate owned.nap _ _, admission, hadmission, rfl, rfl⟩

theorem Step.le_stage (h : Step state event next) (ticket : NetworkNapTicket) :
    state.admissions.stage ticket ≤ next.admissions.stage ticket := by
  obtain hsame | ⟨inner, hinner⟩ := h.scope
  · rw [hsame]
  · exact hinner.le_stage ticket

theorem Step.scoped (h : Step state event next) (hscoped : Scoped state.admissions) : Scoped next.admissions := by
  obtain hsame | ⟨inner, hinner⟩ := h.scope
  · rwa [hsame]
  · exact hscoped.step hinner

theorem Step.admission (h : Step state event next) {nap : Nat} {admission : NetworkNapAdmission}
    (hadmission : state.admissions[nap]? = some admission) :
    ∃ ledger, next.admissions[nap]? = some { admission with ledger } := by
  obtain hsame | ⟨inner, hinner⟩ := h.scope
  · exact ⟨admission.ledger, hsame ▸ hadmission⟩
  · obtain ⟨ledger, hnext, _⟩ := hinner.instance hadmission
    exact ⟨ledger, hnext⟩

/-- What holds of a live owner of this reservation. -/
structure Lives (events : List Event) (world : World) (owner nap : Nat) (session : RegisteredControlSession)
    (ticket : NetworkNapTicket) (owned : Owned) : Prop where
  nap : owned.nap = nap
  key : owned.owner.session.key = session.key
  session_id : owned.owner.session.session_id = session.session_id
  lease : ∀ lease, owned.owner.lease = some lease → lease.ticket.ticket = ticket ∧ lease.release_on_drop = true
  observed : owned.owner.attached = true → Observed events owner
  attached : Observed events owner → owned.owner.attached = true ∨ owned.owner.lease = none
  ended : owned.owner.lease = none → .Ended ≤ world.stage ticket

/-- What holds of an owner of this reservation, live or dropped. -/
def Slot (events : List Event) (world : World) (owner nap : Nat) (session : RegisteredControlSession)
    (ticket : NetworkNapTicket) : Option Owned → Prop
  | none => Observed events owner ∨ .Ended ≤ world.stage ticket
  | some owned => Lives events world owner nap session ticket owned

structure Kept (events : List Event) (state : System) (owner nap : Nat) (session : RegisteredControlSession)
    (ticket : NetworkNapTicket) : Prop where
  token : ticket.owner = nap
  admission : ∃ admission, state.admissions[nap]? = some admission ∧ admission.network = ticket.network
  issued : .Pending ≤ state.admissions.stage ticket
  slot : ∃ slot, state.owners[owner]? = some slot ∧ Slot events state.admissions owner nap session ticket slot

/-- A step does not concern an owner, or is a call on it. -/
theorem Step.owner_cases {owner : Nat} {slot : Option Owned} (h : Step state event next)
    (hslot : state.owners[owner]? = some slot) :
    (next.owners[owner]? = some slot ∧ ∀ call reply, event ≠ .Call owner call reply) ∨
      ∃ call reply owned admission kept after, event = .Call owner call reply ∧ slot = some owned ∧
        state.admissions[owned.nap]? = some admission ∧ CallEffect owned.owner admission call kept after ∧
        next.admissions = state.admissions.set owned.nap after ∧
        next.owners[owner]? = some (kept.map fun kept => { owned with owner := kept }) := by
  have hlisted := (List.getElem?_eq_some_iff.mp hslot).1
  cases event with
  | Admission event =>
    refine .inl ⟨h.2 ▸ hslot, ?_⟩
    intro call reply hcall
    cases hcall
  | Reserve other nap session revalidated answer =>
    obtain ⟨_, _, _, _, _, hnext⟩ := h
    refine .inl ⟨?_, ?_⟩
    · rw [hnext, List.getElem?_append_left hlisted, hslot]
    · intro call reply hcall
      cases hcall
  | Call other call reply =>
    obtain ⟨owned, admission, howned, hadmission, _, hadmissions, hnext⟩ := h
    by_cases heq : other = owner
    · subst heq
      cases hslot.symm.trans howned
      refine .inr ⟨call, reply, owned, admission, _, _, rfl, rfl, hadmission, call.effect owned.owner admission,
        hadmissions, ?_⟩
      rw [hnext, List.getElem?_set_self hlisted]
    · refine .inl ⟨?_, ?_⟩
      · rw [hnext, List.getElem?_set_ne heq, hslot]
      · intro call reply hcall
        cases hcall
        exact heq rfl

section StepOwner

variable {events : List Event} {world after : World} {owner nap : Nat} {session : RegisteredControlSession}
  {ticket : NetworkNapTicket}

theorem Slot.other {event : Event} {slot : Option Owned} (h : Slot events world owner nap session ticket slot)
    (hstage : world.stage ticket ≤ after.stage ticket)
    (hobserved : Observed (events ++ [event]) owner ↔ Observed events owner) :
    Slot (events ++ [event]) after owner nap session ticket slot := by
  cases slot with
  | none => exact h.imp hobserved.mpr fun hended => hended.trans hstage
  | some owned =>
    refine ⟨h.nap, h.key, h.session_id, h.lease, ?_, ?_, ?_⟩
    · exact fun hattached => hobserved.mpr (h.observed hattached)
    · exact fun hseen => h.attached (hobserved.mp hseen)
    · exact fun hnone => (h.ended hnone).trans hstage

/-- The same for a call on the owner. A lease that is dropped has ended its reservation. -/
theorem Lives.call {owned : Owned} {call : Call} {reply : Reply} {admission next : NetworkNapAdmission}
    {kept : Option RegisteredNapControlOwner} (h : Lives events world owner nap session ticket owned)
    (heffect : CallEffect owned.owner admission call kept next)
    (hstage : world.stage ticket ≤ after.stage ticket)
    (hretired : ∀ lease, owned.owner.lease = some lease → next = lease.drop admission → .Ended ≤ after.stage ticket)
    (hobserved : Observed (events ++ [.Call owner call reply]) owner ↔
      Observed events owner ∨ owned.owner.lease.isSome ∧ ∃ revalidated, call = .Activate revalidated) :
    Slot (events ++ [.Call owner call reply]) after owner nap session ticket
      (kept.map fun kept => { owned with owner := kept }) := by
  have hseen : owned.owner.attached = true → Observed (events ++ [.Call owner call reply]) owner := fun hattached =>
    hobserved.mpr (.inl (h.observed hattached))
  have hended : owned.owner.lease = none → .Ended ≤ after.stage ticket := fun hnone =>
    (h.ended hnone).trans hstage
  cases heffect with
  | ignored hcall hidle =>
    refine ⟨h.nap, h.key, h.session_id, h.lease, hseen, ?_, hended⟩
    intro hnow
    obtain hbefore | ⟨_, revalidated, hactivate⟩ := hobserved.mp hnow
    · exact h.attached hbefore
    · exact .inr (hidle revalidated hactivate)
  | cancelled hkept => exact ⟨h.nap, h.key, h.session_id, h.lease, hseen, fun _ => hkept, hended⟩
  | released _ hlease hattached =>
    exact ⟨h.nap, h.key, h.session_id, nofun, hseen, fun _ => .inr rfl, fun _ => hretired _ hlease rfl⟩
  | observed hlease hsession _ =>
    have hnow := hobserved.mpr (.inr ⟨by rw [hlease]; rfl, _, rfl⟩)
    refine ⟨h.nap, ?_, ?_, h.lease, fun _ => hnow, fun _ => .inl rfl, hended⟩
    · obtain rfl | rfl := hsession
      · exact h.key
      · exact h.key
    · obtain rfl | rfl := hsession
      · exact h.session_id
      · exact h.session_id
  | detached hlease hattached =>
    exact ⟨h.nap, h.key, h.session_id, nofun, nofun, fun _ => .inr rfl, fun _ => hretired _ hlease rfl⟩
  | abandoned hkept => exact hkept.imp hseen hended
  | dropped hlease hattached => exact .inr (hretired _ hlease rfl)

end StepOwner

variable {events : List Event} {state next : System} {owner nap : Nat} {session : RegisteredControlSession}
  {ticket : NetworkNapTicket} {event : Event} {call : Call} {reply : Reply}

/-- The admission after a lease of this reservation was dropped has the reservation no more. -/
theorem Kept.ended_drop (h : Kept events state owner nap session ticket) (hscoped : Scoped state.admissions)
    {admission : NetworkNapAdmission} (hadmission : state.admissions[nap]? = some admission)
    {lease : AuthenticatedNapLease} (hticket : lease.ticket.ticket = ticket)
    (hrelease : lease.release_on_drop = true) :
    .Ended ≤ World.stage (state.admissions.set nap (lease.drop admission)) ticket := by
  obtain ⟨found, hfound, hnetwork⟩ := h.admission
  cases hadmission.symm.trans hfound
  rw [AuthenticatedNapLease.drop, if_pos hrelease, AuthenticatedNapLease.retire, retire_authenticated_nap, hticket,
    ← h.token]
  exact hscoped.stage_retire (h.token ▸ hadmission) hnetwork h.issued

theorem Kept.step (h : Kept events state owner nap session ticket) (hrun : Run Step System.new events state)
    (hscoped : Scoped state.admissions) (hstep : Step state event next) :
    Kept (events ++ [event]) next owner nap session ticket := by
  have hstage := hstep.le_stage ticket
  have hobserved : Observed (events ++ [event]) owner ↔ _ := observed_append_iff hrun
  obtain ⟨admission, hadmission, hnetwork⟩ := h.admission
  obtain ⟨ledger, hnext⟩ := hstep.admission hadmission
  refine ⟨h.token, ⟨_, hnext, hnetwork⟩, h.issued.trans hstage, ?_⟩
  obtain ⟨slot, hslot, hkept⟩ := h.slot
  obtain ⟨hsame, hother⟩ | ⟨call, reply, owned, found, kept, after, rfl, rfl, hfound, heffect, hafter, hnow⟩ :=
    hstep.owner_cases hslot
  · refine ⟨slot, hsame, hkept.other hstage (hobserved.trans (or_iff_left ?_))⟩
    rintro ⟨_, revalidated, reply, rfl⟩
    exact hother _ _ rfl
  · obtain rfl := hkept.nap
    cases hadmission.symm.trans hfound
    refine ⟨_, hnow, Lives.call hkept heffect hstage ?_ ?_⟩
    · rintro lease hlease rfl
      obtain ⟨hticket, hrelease⟩ := hkept.lease lease hlease
      rw [hafter]
      exact h.ended_drop hscoped hadmission hticket hrelease
    · rw [hobserved, System.Holding, hslot]
      simp

theorem made_append_iff :
    Made (events ++ [event]) owner nap session ticket ↔
      Made events owner nap session ticket ∨ Made [event] owner nap session ticket := by
  simp only [Made, List.mem_append, or_and_right, exists_or]

/-- What a reservation leaves behind: a new owner with a new ticket. -/
theorem Step.made {revalidated : Except String Unit} {made : RegisteredNapControlOwner}
    {decision : NapAdmissionDecision}
    (h : Step state (.Reserve owner nap session revalidated (.ok (made, decision))) next) :
    owner = state.owners.length ∧ next.owners[owner]? = some (some { nap, owner := made }) ∧
      ∃ ticket, nap_admission_scope.Step state.admissions (.Reserve nap session.key.peer (.ok (ticket, decision)))
          next.admissions ∧
        made = { session
                 lease := some { ticket := { ticket, session_id := session.session_id }, release_on_drop := true }
                 attached := false } := by
  obtain ⟨admission, hadmission, rfl, hanswer, hadmissions, howners⟩ := h
  obtain ⟨ticket, hreserve, hsame, hmade⟩ := reserve_eq_ok hanswer.symm
  refine ⟨rfl, ?_, ticket, ⟨admission, hadmission, hreserve.symm, hadmissions.trans (by rw [hsame])⟩, hmade⟩
  rw [howners]
  exact List.getElem?_concat_length

/-- An owner that a step adds was made by it. -/
theorem Step.new_owner {slot : Option Owned} (h : Step state event next) (hnone : state.owners[owner]? = none)
    (hslot : next.owners[owner]? = some slot) : ∃ nap session ticket, Made [event] owner nap session ticket := by
  cases event with
  | Admission event =>
    rw [h.2, hnone] at hslot
    cases hslot
  | Call other call reply =>
    obtain ⟨_, _, _, _, _, _, howners⟩ := h
    rw [List.getElem?_eq_none_iff] at hnone
    rw [howners, List.getElem?_eq_none (by rwa [List.length_set])] at hslot
    cases hslot
  | Reserve other nap session revalidated answer =>
    cases answer with
    | error error =>
      obtain ⟨_, _, _, _, _, howners⟩ := h
      rw [howners] at hslot
      simp [Except.toOption, hnone] at hslot
    | ok issued =>
      obtain ⟨made, decision⟩ := issued
      obtain ⟨rfl, _, ticket, _, hmade⟩ := h.made
      have hlast : owner = state.owners.length := by
        obtain ⟨_, _, _, _, _, howners⟩ := h
        have hlt := (List.getElem?_eq_some_iff.mp hslot).1
        rw [List.getElem?_eq_none_iff] at hnone
        rw [howners] at hlt
        simp only [Except.toOption, Option.map_some, Option.toList_some, List.length_append,
          List.length_singleton] at hlt
        omega
      subst hlast
      exact ⟨nap, session, ticket, revalidated, made, decision, _, List.mem_singleton_self _, by rw [hmade], rfl⟩

theorem Step.length_le (h : Step state event next) : state.owners.length ≤ next.owners.length := by
  cases event with
  | Admission event => rw [h.2]
  | Reserve other nap session revalidated answer =>
    obtain ⟨_, _, _, _, _, howners⟩ := h
    rw [howners, List.length_append]
    exact Nat.le_add_right _ _
  | Call other call reply =>
    obtain ⟨_, _, _, _, _, _, howners⟩ := h
    rw [howners, List.length_set]

/-- The log accounts for every owner. -/
structure Recorded (events : List Event) (state : System) : Prop where
  run : Run Step System.new events state
  scoped_ : Scoped state.admissions
  kept : ∀ owner nap session ticket, Made events owner nap session ticket →
    Kept events state owner nap session ticket
  known : ∀ owner slot, state.owners[owner]? = some slot → ∃ nap session ticket, Made events owner nap session ticket
  distinct : ∀ left right nap nap' session session' ticket, Made events left nap session ticket →
    Made events right nap' session' ticket → left = right
  observed : ∀ owner, Observed events owner → owner < state.owners.length

theorem recorded_new : Recorded [] System.new := by
  refine ⟨.nil, ?_, ?_, ?_, ?_, ?_⟩
  · intro position self hself
    simp [System.new] at hself
  · rintro owner nap session ticket ⟨_, _, _, _, hin, _⟩
    simp at hin
  · intro owner slot hslot
    simp [System.new] at hslot
  · rintro left right nap nap' session session' ticket ⟨_, _, _, _, hin, _⟩
    simp at hin
  · rintro owner ⟨_, _, _, _, _, hevents, _⟩
    simp at hevents

theorem Recorded.made (h : Recorded events state) (hstep : Step state event next)
    (hmade : Made [event] owner nap session ticket) :
    state.admissions.stage ticket = .Unissued ∧ Kept (events ++ [event]) next owner nap session ticket := by
  obtain ⟨revalidated, made, decision, lease, hin, hlease, rfl⟩ := hmade
  cases List.mem_singleton.mp hin
  obtain ⟨rfl, hslot, ticket, hreserve, rfl⟩ := hstep.made
  cases hlease
  obtain ⟨htoken, hunissued, hpending⟩ := h.scoped_.reserve_fresh hreserve
  obtain ⟨self, ledger, hself, hnext, hticket⟩ := reserve_issued hreserve
  refine ⟨hunissued, htoken, ⟨{ self with ledger }, ?_, ?_⟩, hpending, _, hslot, rfl, rfl, rfl, ?_, ?_, ?_, ?_⟩
  · rw [hnext]
    exact List.getElem?_set_self (List.getElem?_eq_some_iff.mp hself).1
  · rw [hticket]
    rfl
  · rintro lease hlease
    cases hlease
    exact ⟨rfl, rfl⟩
  · nofun
  · intro hobserved
    obtain hbefore | ⟨_, _, _, hcall⟩ := (observed_append_iff h.run).mp hobserved
    · exact absurd (h.observed _ hbefore) (lt_irrefl _)
    · cases hcall
  · nofun

theorem Recorded.step (h : Recorded events state) (hstep : Step state event next) :
    Recorded (events ++ [event]) next := by
  have hfresh : ∀ {left right nap nap' session session' ticket}, Made events left nap session ticket →
      Made [event] right nap' session' ticket → False := by
    intro left right nap nap' session session' ticket hold hnew
    have hissued := (h.kept _ _ _ _ hold).issued
    rw [(h.made hstep hnew).1] at hissued
    exact absurd hissued (by decide)
  refine ⟨Run.append_iff.mpr ⟨state, h.run, .cons hstep .nil⟩, hstep.scoped h.scoped_, ?_, ?_, ?_, ?_⟩
  · intro owner nap session ticket hmade
    obtain hold | hnew := made_append_iff.mp hmade
    · exact (h.kept owner nap session ticket hold).step h.run h.scoped_ hstep
    · exact (h.made hstep hnew).2
  · intro owner slot hslot
    cases hbefore : state.owners[owner]? with
    | none =>
      obtain ⟨nap, session, ticket, hmade⟩ := hstep.new_owner hbefore hslot
      exact ⟨nap, session, ticket, made_append_iff.mpr (.inr hmade)⟩
    | some before =>
      obtain ⟨nap, session, ticket, hmade⟩ := h.known owner before hbefore
      exact ⟨nap, session, ticket, made_append_iff.mpr (.inl hmade)⟩
  · intro left right nap nap' session session' ticket hleft hright
    obtain hleft | hleft := made_append_iff.mp hleft
    · obtain hright | hright := made_append_iff.mp hright
      · exact h.distinct _ _ _ _ _ _ _ hleft hright
      · exact (hfresh hleft hright).elim
    · obtain hright | hright := made_append_iff.mp hright
      · exact (hfresh hright hleft).elim
      · obtain ⟨_, _, _, _, hin, _⟩ := hleft
        obtain ⟨_, _, _, _, hin', _⟩ := hright
        cases (List.mem_singleton.mp hin).trans (List.mem_singleton.mp hin').symm
        rfl
  · intro owner hobserved
    refine lt_of_lt_of_le ?_ hstep.length_le
    obtain hbefore | ⟨⟨owned, howned, _⟩, _⟩ := (observed_append_iff h.run).mp hobserved
    · exact h.observed owner hbefore
    · exact (List.getElem?_eq_some_iff.mp howned).1

/-- A call on an owner that takes a reservation out of the ledger is a call on the owner of that
reservation: one that was not told of an attachment, or the detach that names it. -/
theorem Recorded.call_releases {other : Nat} (h : Recorded events state)
    (hmade : Made events owner nap session ticket) (hstep : Step state (.Call other call reply) next)
    (hreserved : state.admissions.Reserved ticket) (hgone : ¬ next.admissions.Reserved ticket) :
    other = owner ∧ ∃ owned lease, state.owners[owner]? = some (some owned) ∧ owned.owner.lease = some lease ∧
      (owned.owner.attached = false ∧ (∀ revalidated, call ≠ .Activate revalidated) ∨
        call = .Detach owned.owner.session.key.network owned.owner.session.key.peer
          owned.owner.session.session_id) := by
  obtain ⟨owned, admission, howned, hadmission, _, hnext, _⟩ := hstep
  have heffect := call.effect owned.owner admission
  generalize (call.run owned.owner admission).2.1 = kept, (call.run owned.owner admission).2.2 = after at heffect hnext
  have hchanged : after ≠ admission := by
    rintro rfl
    rw [hnext, set_self hadmission] at hgone
    exact hgone hreserved
  obtain ⟨nap', session', ticket', hmade'⟩ := h.known other _ howned
  obtain ⟨slot, hslot, hlives⟩ := (h.kept _ _ _ _ hmade').slot
  cases hslot.symm.trans howned
  obtain rfl := hlives.nap
  have howner (lease : AuthenticatedNapLease) (hlease : owned.owner.lease = some lease)
      (hafter : after = lease.drop admission) : other = owner := by
    obtain ⟨rfl, hrelease⟩ := hlives.lease lease hlease
    rw [AuthenticatedNapLease.drop, if_pos hrelease] at hafter
    have hinner : nap_admission_scope.Step state.admissions (.Retire owned.nap lease.ticket.ticket _)
        next.admissions := ⟨admission, hadmission, rfl, hafter ▸ hnext⟩
    obtain ⟨answer, heq⟩ | ⟨answer, heq⟩ := h.scoped_.released hinner hreserved hgone
    · simp only [nap_admission_scope.Event.Retire.injEq] at heq
      rw [heq.2.1] at hmade'
      exact h.distinct _ _ _ _ _ _ _ hmade' hmade
    · cases heq
  cases heffect with
  | ignored | cancelled | abandoned => exact absurd rfl hchanged
  | released hidle hlease hattached =>
    obtain rfl := howner _ hlease rfl
    exact ⟨rfl, owned, _, howned, hlease, .inl ⟨hattached, hidle⟩⟩
  | dropped hlease hattached =>
    obtain rfl := howner _ hlease rfl
    exact ⟨rfl, owned, _, howned, hlease, .inl ⟨hattached, by simp⟩⟩
  | detached hlease =>
    obtain rfl := howner _ hlease rfl
    exact ⟨rfl, owned, _, howned, hlease, .inr rfl⟩
  | observed hlease _ hafter =>
    have hinner : nap_admission_scope.Step state.admissions (.Activate owned.nap _ _) next.admissions :=
      ⟨admission, hadmission, rfl, (hafter.resolve_left hchanged) ▸ hnext⟩
    obtain ⟨answer, heq⟩ | ⟨answer, heq⟩ := h.scoped_.released hinner hreserved hgone
    · cases heq
    · cases heq

/-- What can happen to the slot of every owner after a run. -/
structure SlotsOwned (events : List Event) (state : System) : Prop where
  retained : ∀ owner nap session ticket event next, Made events owner nap session ticket → Step state event next →
    Observed (events ++ [event]) owner → state.admissions.Reserved ticket → ¬ next.admissions.Reserved ticket →
      (∃ reply, event = .Call owner (.Detach session.key.network session.key.peer session.session_id) reply) ∨
        (∃ answer, event = .Admission (.Retire nap ticket answer)) ∨
        ∃ answer, event = .Admission (.Close nap answer)
  released : ∀ owner nap session ticket call reply next, Made events owner nap session ticket →
    ¬ Observed events owner → call.Ends session → Step state (.Call owner call reply) next →
      ∀ later final, Run Step next later final → ¬ final.admissions.Reserved ticket
  ignored : ∀ owner nap session ticket call reply next, Made events owner nap session ticket →
    call.Mistaken session → Step state (.Call owner call reply) next → reply = .flag false ∧ next = state

theorem Recorded.retained (h : Recorded events state) (hmade : Made events owner nap session ticket)
    (hstep : Step state event next) (hobserved : Observed (events ++ [event]) owner)
    (hreserved : state.admissions.Reserved ticket) (hgone : ¬ next.admissions.Reserved ticket) :
    (∃ reply, event = .Call owner (.Detach session.key.network session.key.peer session.session_id) reply) ∨
      (∃ answer, event = .Admission (.Retire nap ticket answer)) ∨
      ∃ answer, event = .Admission (.Close nap answer) := by
  have hkept := h.kept owner nap session ticket hmade
  cases event with
  | Admission inner =>
    obtain ⟨answer, rfl⟩ | ⟨answer, rfl⟩ := h.scoped_.released hstep.1 hreserved hgone
    · exact .inr (.inl ⟨answer, by rw [hkept.token]⟩)
    · exact .inr (.inr ⟨answer, by rw [hkept.token]⟩)
  | Reserve other position candidate revalidated answer =>
    obtain ⟨admission, hadmission, _, _, hnext, _⟩ := hstep
    obtain hsame | hasked := reserve_admission candidate admission revalidated
    · rw [hnext, hsame, set_self hadmission] at hgone
      exact absurd hreserved hgone
    · have hinner : nap_admission_scope.Step state.admissions (.Reserve position candidate.key.peer _)
          next.admissions := ⟨admission, hadmission, rfl, hasked ▸ hnext⟩
      obtain ⟨answer, heq⟩ | ⟨answer, heq⟩ := h.scoped_.released hinner hreserved hgone
      · cases heq
      · cases heq
  | Call other call reply =>
    obtain ⟨rfl, owned, lease, howned, hlease, ⟨hattached, hidle⟩ | rfl⟩ :=
      h.call_releases hmade hstep hreserved hgone
    · obtain ⟨slot, hslot, hlives⟩ := hkept.slot
      cases hslot.symm.trans howned
      -- an owner that has its lease and is not attached was never told of an attachment
      obtain hbefore | ⟨_, revalidated, _, hcall⟩ := (observed_append_iff h.run).mp hobserved
      · obtain hseen | hnone := hlives.attached hbefore
        · rw [hattached] at hseen
          cases hseen
        · rw [hlease] at hnone
          cases hnone
      · cases hcall
        exact absurd rfl (hidle revalidated)
    · obtain ⟨slot, hslot, hlives⟩ := hkept.slot
      cases hslot.symm.trans howned
      rw [hlives.key, hlives.session_id]
      exact .inl ⟨reply, rfl⟩

/-- An owner that was not told of an attachment gives its slot back when it loses its transport. -/
theorem Recorded.released (h : Recorded events state) (hmade : Made events owner nap session ticket)
    (hunseen : ¬ Observed events owner) (hends : call.Ends session)
    (hstep : Step state (.Call owner call reply) next) : .Ended ≤ next.admissions.stage ticket := by
  have hkept := h.kept owner nap session ticket hmade
  obtain ⟨slot, hslot, hlives⟩ := hkept.slot
  obtain ⟨_, hother⟩ | ⟨_, _, owned, admission, kept, after, hcall, rfl, hadmission, heffect, hafter, _⟩ :=
    hstep.owner_cases hslot
  · exact absurd rfl (hother call reply)
  cases hcall
  obtain rfl := hlives.nap
  have hidle : owned.owner.attached = true ∨ owned.owner.lease = none → .Ended ≤ next.admissions.stage ticket := by
    rintro (hattached | hnone)
    · exact absurd (hlives.observed hattached) hunseen
    · exact (hlives.ended hnone).trans (hstep.le_stage ticket)
  have hdropped (lease : AuthenticatedNapLease) (hlease : owned.owner.lease = some lease)
      (hdrop : after = lease.drop admission) : .Ended ≤ next.admissions.stage ticket := by
    obtain ⟨hticket, hrelease⟩ := hlives.lease lease hlease
    rw [hafter, hdrop]
    exact hkept.ended_drop h.scoped_ hadmission hticket hrelease
  cases heffect with
  | ignored hcall => exact absurd (hends.congr hlives.session_id.symm) hcall
  | cancelled hkept | abandoned hkept => exact hidle hkept
  | released _ hlease | dropped hlease => exact hdropped _ hlease rfl
  | detached | observed => exact hends.elim

theorem Recorded.ignored (h : Recorded events state) (hmade : Made events owner nap session ticket)
    (hmistaken : call.Mistaken session) (hstep : Step state (.Call owner call reply) next) :
    reply = .flag false ∧ next = state := by
  obtain ⟨owned, admission, howned, hadmission, hreply, hadmissions, howners⟩ := hstep
  obtain ⟨slot, hslot, hlives⟩ := (h.kept owner nap session ticket hmade).slot
  cases hslot.symm.trans howned
  have hrun := (hmistaken.congr hlives.key.symm hlives.session_id.symm).run_eq admission
  rw [hrun] at hreply hadmissions howners
  rw [set_self hadmission] at hadmissions
  obtain ⟨hlt, heq⟩ := List.getElem?_eq_some_iff.mp howned
  obtain ⟨admissions, owners⟩ := next
  refine ⟨hreply, ?_⟩
  rw [System.mk.injEq]
  exact ⟨hadmissions, howners.trans (by rw [Option.map_some, ← heq, List.set_getElem_self])⟩

/-- Any number of owners and admissions, any order of calls on them, whatever the sessions answer. -/
theorem nap_slots_owned {events : List Event} {state : System} (h : Run Step System.new events state) :
    SlotsOwned events state := by
  have hrecorded : Recorded events state :=
    h.history Recorded recorded_new fun _ _ _ _ hinv hstep => hinv.step hstep
  refine ⟨?_, ?_, ?_⟩
  · intro owner nap session ticket event next hmade hstep hobserved hreserved hgone
    exact hrecorded.retained hmade hstep hobserved hreserved hgone
  · intro owner nap session ticket call reply next hmade hunseen hends hstep later final hlater
    have hended := hrecorded.released hmade hunseen hends hstep
    refine not_reserved_of_ended (hended.trans ?_)
    exact hlater.le_rank (fun _ => True) (fun state => state.admissions.stage ticket) (fun _ _ _ _ _ => trivial)
      (fun _ _ _ _ hstep => hstep.le_stage ticket) trivial
  · intro owner nap session ticket call reply next hmade hmistaken hstep
    exact hrecorded.ignored hmade hmistaken hstep

def sample_session : RegisteredControlSession :=
  { key := { network := Id.filled 9, peer := Id.filled 2 }, session_id := Vector.replicate 16 7, terminal := false }

def sample_lease : AuthenticatedNapLease :=
  { ticket := { ticket := nap_admission_scope.sample_ticket, session_id := sample_session.session_id }
    release_on_drop := true }

def sample_owner : RegisteredNapControlOwner :=
  { session := sample_session, lease := some sample_lease, attached := false }

def sample_decision : NapAdmissionDecision := ⟨Id.filled 2, false, 0, 0, ⟨1, .Configured⟩⟩

/-- An attached owner loses its transport, refuses the detach of another session and is told of its own. -/
theorem nap_slots_owned_sample :
    SlotsOwned
      [.Admission (.New (Id.filled 9) sample_host (.ok ())),
        .Reserve 0 0 sample_session (.ok ()) (.ok (sample_owner, sample_decision)),
        .Call 0 (.Activate (.ok ())) (.activated (.ok ())), .Call 0 .TransportLoss .done,
        .Call 0 (.Detach (Id.filled 9) (Id.filled 2) (Vector.replicate 16 8)) (.flag false),
        .Call 0 (.Detach (Id.filled 9) (Id.filled 2) (Vector.replicate 16 7)) (.flag true)]
      { admissions := [⟨Id.filled 9, 0, { State.new sample_host with next_generation := 1 }⟩]
        owners := [some ⟨0, { session := sample_session.cancel, lease := none, attached := false }⟩] } := by
  refine nap_slots_owned (.cons (t := ⟨[⟨Id.filled 9, 0, State.new sample_host⟩], []⟩) ⟨⟨rfl, rfl⟩, rfl⟩ ?_)
  refine .cons (t := ⟨_, [some ⟨0, sample_owner⟩]⟩) ⟨_, rfl, rfl, by decide, rfl, rfl⟩ ?_
  refine .cons (t := ⟨_, [some ⟨0, { sample_owner with attached := true }⟩]⟩) ⟨_, _, rfl, rfl, rfl, rfl, by decide⟩ ?_
  refine .cons (t := ⟨_, _⟩) ⟨_, _, rfl, rfl, rfl, rfl, rfl⟩ ?_
  refine .cons (t := ⟨_, _⟩) ⟨_, _, rfl, rfl, rfl, rfl, rfl⟩ ?_
  exact .cons ⟨_, _, rfl, rfl, rfl, by decide, by decide⟩ .nil

end blueroute_daemon.nap_control_admission
