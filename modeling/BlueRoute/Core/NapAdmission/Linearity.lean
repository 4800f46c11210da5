import BlueRoute.Core.NapAdmission.Accounting
import BlueRoute.Core.NapAdmission.Tickets

open Ordered Runs

namespace blueroute.nap_admission_scope

open nap_admission_ledger NetworkNapAdmission

/-- The stage of a ticket at the instance whose token it carries. -/
def World.stage (world : World) (ticket : NetworkNapTicket) : Stage :=
  match world[ticket.owner]? with
  | none => .Unissued
  | some self => self.ledger.stage ticket.inner

variable {ticket : NetworkNapTicket}

variable {world : World} {self : NetworkNapAdmission}

theorem stage_of_getElem? (h : world[ticket.owner]? = some self) :
    world.stage ticket = self.ledger.stage ticket.inner := by
  rw [World.stage, h]

variable {world next : World} {event : Event}

theorem Step.le_stage (h : Step world event next) (ticket : NetworkNapTicket) :
    world.stage ticket ≤ next.stage ticket := by
  cases hself : world[ticket.owner]? with
  | none =>
    have hunissued : world.stage ticket = .Unissued := by rw [World.stage, hself]
    rw [hunissued]
    cases next.stage ticket <;> decide
  | some self =>
    obtain ⟨ledger, hnext, hledger⟩ := h.instance hself
    rw [stage_of_getElem? hself, stage_of_getElem? hnext]
    obtain rfl | ⟨inner, hinner, _⟩ := hledger
    · exact le_refl _
    · exact hinner.effect.le_stage ticket.inner

/-- The reservation of a ticket is in the ledger of the instance whose token it carries. -/
def World.Reserved (world : World) (ticket : NetworkNapTicket) : Prop :=
  ∃ self, world[ticket.owner]? = some self ∧ self.network = ticket.network ∧
    self.ledger.Holds ticket.inner.candidate ticket.inner.generation

theorem not_reserved_of_ended (h : .Ended ≤ world.stage ticket) : ¬ world.Reserved ticket := by
  rintro ⟨self, hself, _, hholds⟩
  rw [stage_of_getElem? hself] at h
  exact absurd (stage_lt_ended_iff.mpr (.inr hholds)) (not_lt.mpr h)

/-- A reservation leaves the ledger by a retirement with its own ticket, or when the instance closes. -/
theorem Scoped.released (h : Scoped world) (hstep : Step world event next) (hreserved : world.Reserved ticket)
    (hgone : ¬ next.Reserved ticket) :
    (∃ answer, event = .Retire ticket.owner ticket answer) ∨ ∃ answer, event = .Close ticket.owner answer := by
  obtain ⟨self, hself, hnetwork, hholds⟩ := hreserved
  obtain ⟨howner, hbooked⟩ := h _ self hself
  obtain ⟨ledger, hnext, hledger⟩ := hstep.instance hself
  have hfree : ¬ ledger.Holds ticket.inner.candidate ticket.inner.generation := fun hheld =>
    hgone ⟨_, hnext, hnetwork, hheld⟩
  obtain rfl | ⟨inner, hinner, hpasses⟩ := hledger
  · exact absurd hholds hfree
  obtain ⟨answer, rfl⟩ | ⟨answer, rfl⟩ := hbooked.released hinner.effect hholds hfree
  · obtain ⟨⟨network, owner, presented⟩, rfl, howns, rfl⟩ := hpasses.retire
    simp only [owns, Bool.and_eq_true, decide_eq_true_eq] at howns
    refine .inl ⟨answer, ?_⟩
    rw [howns.1, howns.2, hnetwork, howner]
  · exact .inr ⟨answer, hpasses.close⟩

variable {position : Nat}

/-- Everything that can come of presenting a ticket: the instance does not own
it and nothing happens, or its ledger decides. -/
theorem activate_cases {answer : Result Bool} (h : Step world (.Activate position ticket answer) next) :
    ∃ self, world[position]? = some self ∧
      ((next = world ∧ ∃ e, answer = .error e) ∨
        (ticket.network = self.network ∧ ticket.owner = self.owner) ∧
          ∃ ledger, Effect self.ledger (.Activate ticket.inner answer) ledger ∧
            next = world.set position { self with ledger }) := by
  obtain ⟨self, hself, rfl, rfl⟩ := h
  refine ⟨self, hself, ?_⟩
  simp only [activate]
  split
  · exact .inl ⟨set_self hself, _, rfl⟩
  · rename_i howns
    refine .inr ⟨by simpa [owns] using howns, _, activate_effect rfl, rfl⟩

theorem retire_cases {answer : Result Bool} (h : Step world (.Retire position ticket answer) next) :
    ∃ self, world[position]? = some self ∧
      ((next = world ∧ answer = .ok false) ∨
        (ticket.network = self.network ∧ ticket.owner = self.owner) ∧
          ∃ ledger, Effect self.ledger (.Retire ticket.inner answer) ledger ∧
            next = world.set position { self with ledger }) := by
  obtain ⟨self, hself, rfl, rfl⟩ := h
  refine ⟨self, hself, ?_⟩
  simp only [retire]
  split
  · exact .inl ⟨set_self hself, rfl⟩
  · rename_i howns
    refine .inr ⟨by simpa [owns] using howns, _, retire_effect rfl, rfl⟩

theorem stage_set {other : NetworkNapAdmission} (hself : world[position]? = some self)
    (howner : ticket.owner = position) :
    World.stage (world.set position other) ticket = other.ledger.stage ticket.inner := by
  subst howner
  exact stage_of_getElem? (List.getElem?_set_self (List.getElem?_eq_some_iff.mp hself).1)

/-- Whatever it answers, a retirement at the instance that issued the ticket ends its reservation. -/
theorem Scoped.stage_retire (h : Scoped world) (hself : world[ticket.owner]? = some self)
    (hnetwork : self.network = ticket.network) (hissued : .Pending ≤ world.stage ticket) :
    .Ended ≤ World.stage (world.set ticket.owner (self.retire ticket).2) ticket := by
  obtain ⟨howner, hbooked⟩ := h _ self hself
  have howns : ¬ self.owns ticket = false := by simp [owns, hnetwork, howner]
  rw [stage_set hself rfl, retire, if_neg howns]
  rw [stage_of_getElem? hself] at hissued
  exact hbooked.stage_retire hissued

def Event.retires (ticket : NetworkNapTicket) : Event → Bool
  | .Retire _ presented (.ok true) => presented = ticket
  | _ => false

def Event.activates (ticket : NetworkNapTicket) : Event → Bool
  | .Activate _ presented (.ok true) => presented = ticket
  | _ => false

theorem retires_eq_true (h : event.retires ticket = true) :
    ∃ position, event = .Retire position ticket (.ok true) := by
  unfold Event.retires at h
  split at h
  · exact ⟨_, by rw [of_decide_eq_true h]⟩
  · cases h

theorem activates_eq_true (h : event.activates ticket = true) :
    ∃ position, event = .Activate position ticket (.ok true) := by
  unfold Event.activates at h
  split at h
  · exact ⟨_, by rw [of_decide_eq_true h]⟩
  · cases h

theorem Scoped.retired (h : Scoped world) (hstep : Step world (.Retire position ticket (.ok true)) next) :
    world.stage ticket < .Ended ∧ .Ended ≤ next.stage ticket := by
  obtain ⟨self, hself, ⟨_, hanswer⟩ | ⟨⟨_, howner⟩, ledger, heffect, rfl⟩⟩ := retire_cases hstep
  · cases hanswer
  · obtain ⟨hposition, hbooked⟩ := h position self hself
    have hposition := howner.trans hposition
    rw [stage_set hself hposition, stage_of_getElem? (hposition ▸ hself)]
    exact hbooked.retired_ended heffect

theorem Scoped.activated (h : Scoped world) (hstep : Step world (.Activate position ticket (.ok true)) next) :
    world.stage ticket < .Active ∧ .Active ≤ next.stage ticket := by
  obtain ⟨self, hself, ⟨_, e, hanswer⟩ | ⟨⟨_, howner⟩, ledger, heffect, rfl⟩⟩ := activate_cases hstep
  · cases hanswer
  · obtain ⟨hposition, hbooked⟩ := h position self hself
    have hposition := howner.trans hposition
    rw [stage_set hself hposition, stage_of_getElem? (hposition ▸ hself)]
    exact hbooked.activated_active heffect

/-- The event presents a ticket to an instance. -/
def Event.Presents (position : Nat) (ticket : NetworkNapTicket) : Event → Prop
  | .Activate target presented _ => target = position ∧ presented = ticket
  | .Retire target presented _ => target = position ∧ presented = ticket
  | _ => False

/-- One entry of the instance that carries the ticket's token changes, and it
is the entry that holds the ticket. -/
structure Touches (world : World) (position : Nat) (ticket : NetworkNapTicket) (admission : NetworkNapAdmission)
    (ledger : State) (next : World) : Prop where
  found : world[position]? = some admission
  owned : ticket.network = admission.network ∧ ticket.owner = admission.owner
  others : next = world.set position { admission with ledger }
  holds : admission.ledger.Holds ticket.inner.candidate ticket.inner.generation
  only : OnlyEntry admission.ledger ledger ticket.inner.candidate

theorem presented_cases (hstep : Step world event next) (hevent : event.Presents position ticket) :
    next = world ∨ ∃ self ledger, Touches world position ticket self ledger next := by
  cases event with
  | Activate target presented answer =>
    obtain ⟨rfl, rfl⟩ := hevent
    obtain ⟨self, hself, ⟨hsame, _⟩ | ⟨howned, ledger, heffect, rfl⟩⟩ := activate_cases hstep
    · exact .inl hsame
    · obtain rfl | ⟨hholds, honly⟩ := heffect.activate_touches
      · exact .inl (set_self hself)
      · exact .inr ⟨self, ledger, hself, howned, rfl, hholds, honly⟩
  | Retire target presented answer =>
    obtain ⟨rfl, rfl⟩ := hevent
    obtain ⟨self, hself, ⟨hsame, _⟩ | ⟨howned, ledger, heffect, rfl⟩⟩ := retire_cases hstep
    · exact .inl hsame
    · obtain rfl | ⟨hholds, honly⟩ := heffect.retire_touches
      · exact .inl (set_self hself)
      · exact .inr ⟨self, ledger, hself, howned, rfl, hholds, honly⟩
  | _ => exact hevent.elim

/-- A ticket whose reservation has ended changes nothing any more. -/
theorem Scoped.ended (h : Scoped world) (hended : .Ended ≤ world.stage ticket) (hstep : Step world event next)
    (hevent : event.Presents position ticket) : next = world := by
  obtain hsame | ⟨self, ledger, htouches⟩ := presented_cases hstep hevent
  · exact hsame
  · obtain ⟨hposition, _⟩ := h position self htouches.found
    have hself : world[ticket.owner]? = some self := by
      rw [htouches.owned.2, hposition]
      exact htouches.found
    rw [stage_of_getElem? hself] at hended
    exact absurd (stage_lt_ended_iff.mpr (.inr htouches.holds)) (not_lt.mpr hended)

theorem Scoped.activate_ok {flag : Bool} (h : Scoped world)
    (hstep : Step world (.Activate position ticket (.ok flag)) next) :
    world.stage ticket < .Ended := by
  obtain ⟨self, hself, ⟨_, e, hanswer⟩ | ⟨⟨_, howner⟩, ledger, heffect, rfl⟩⟩ := activate_cases hstep
  · cases hanswer
  · obtain ⟨hposition, _⟩ := h position self hself
    rw [stage_of_getElem? ((howner.trans hposition) ▸ hself)]
    refine stage_lt_ended_iff.mpr (.inr ?_)
    cases heffect with
    | failed hfailed =>
      obtain ⟨e, he⟩ := hfailed
      cases he
    | confirmed hopen hactive => exact .inl hactive
    | promoted hopen hpending hplan => exact .inr hpending

/-- The log accounts for every entry and every ticket. -/
structure Recorded (events : List Event) (world : World) : Prop where
  scoped_ : Scoped world
  held : ∀ position self peer generation, world[position]? = some self → self.ledger.Holds peer generation →
    ∃ decision, .Reserve position peer (.ok (self.scoped_ticket { candidate := peer, generation }, decision)) ∈ events
  issued : ∀ position candidate ticket decision, .Reserve position candidate (.ok (ticket, decision)) ∈ events →
    ticket.owner = position ∧ ticket.inner.candidate = candidate ∧
      ∃ self, world[position]? = some self ∧ ticket.network = self.network ∧
        ticket.inner.generation ≤ self.ledger.next_generation

theorem recorded_nil : Recorded [] [] := by
  refine ⟨?_, ?_, ?_⟩
  · intro position self hself
    simp at hself
  · intro position self peer generation hself
    simp at hself
  · intro position candidate ticket decision hevent
    simp at hevent

theorem reserve_issued {candidate : NodeId} {decision : NapAdmissionDecision}
    (hstep : Step world (.Reserve position candidate (.ok (ticket, decision))) next) :
    ∃ self ledger, world[position]? = some self ∧ next = world.set position { self with ledger } ∧
      ticket = self.scoped_ticket { candidate, generation := ledger.next_generation } := by
  obtain ⟨self, hself, hanswer, rfl⟩ := hstep
  refine ⟨self, _, hself, rfl, ?_⟩
  cases hreserve : self.ledger.reserve candidate with
  | mk answer ledger =>
    simp only [reserve, with_ledger, hreserve] at hanswer ⊢
    cases reserve_effect hreserve with
    | failed hfailed =>
      obtain ⟨e, rfl⟩ := hfailed
      cases hanswer
    | reserved =>
      cases hanswer
      rfl

/-- A reservation issues a ticket that was not in use before. -/
theorem Scoped.reserve_fresh {candidate : NodeId} {decision : NapAdmissionDecision} (h : Scoped world)
    (hstep : Step world (.Reserve position candidate (.ok (ticket, decision))) next) :
    ticket.owner = position ∧ world.stage ticket = .Unissued ∧ .Pending ≤ next.stage ticket := by
  obtain ⟨self, hself, hanswer, rfl⟩ := hstep
  have howner := (h position self hself).1
  cases hreserve : self.ledger.reserve candidate with
  | mk answer ledger =>
    simp only [reserve, with_ledger, hreserve] at hanswer ⊢
    cases reserve_effect hreserve with
    | failed hfailed =>
      obtain ⟨e, rfl⟩ := hfailed
      cases hanswer
    | reserved =>
      cases hanswer
      have hfound : world[self.owner]? = some self := howner.symm ▸ hself
      refine ⟨howner, (stage_of_getElem? (by exact hfound)).trans (if_pos (Nat.lt_succ_self _)), ?_⟩
      rw [stage_set hself howner]
      simp [State.stage, scoped_ticket]

theorem Recorded.step {events : List Event} (h : Recorded events world) (hstep : Step world event next) :
    Recorded (events ++ [event]) next := by
  refine ⟨h.scoped_.step hstep, ?_, ?_⟩
  · intro position self peer generation hself hholds
    cases hfound : world[position]? with
    | none =>
      obtain ⟨_, host, hledger⟩ := hstep.new_instance hfound hself
      rw [hledger] at hholds
      simp [State.Holds, State.new] at hholds
    | some found =>
      obtain ⟨ledger, hnext, hledger⟩ := hstep.instance hfound
      rw [hself] at hnext
      cases hnext
      have hold : found.ledger.Holds peer generation → ∃ decision, .Reserve position peer
          (.ok (found.scoped_ticket { candidate := peer, generation }, decision)) ∈ events ++ [event] := by
        intro hheld
        obtain ⟨decision, hin⟩ := h.held position found peer generation hfound hheld
        exact ⟨decision, List.mem_append_left _ hin⟩
      obtain rfl | ⟨inner, hinner, hevent⟩ := hledger
      · exact hold hholds
      · obtain hheld | ⟨_, _, decision, hreserve⟩ := hinner.effect.holds hholds
        · exact hold hheld
        · subst hreserve
          exact ⟨decision, List.mem_append_right _ (List.mem_singleton.mpr hevent.reserve.symm)⟩
  · intro position candidate ticket decision hin
    obtain hin | hlast := List.mem_append.mp hin
    · obtain ⟨howner, hcandidate, self, hself, hnetwork, hle⟩ := h.issued position candidate ticket decision hin
      obtain ⟨ledger, hnext, hledger⟩ := hstep.instance hself
      refine ⟨howner, hcandidate, _, hnext, hnetwork, ?_⟩
      obtain rfl | ⟨inner, hinner, _⟩ := hledger
      · exact hle
      · exact hle.trans hinner.effect.le_generation
    · cases List.mem_singleton.mp hlast
      obtain ⟨self, ledger, hself, rfl, rfl⟩ := reserve_issued hstep
      refine ⟨(h.scoped_ position self hself).1, rfl, { self with ledger }, ?_, rfl, le_refl _⟩
      exact List.getElem?_set_self (List.getElem?_eq_some_iff.mp hself).1

/-- The ticket was issued, as a reservation of its candidate at the instance
whose token it carries. -/
def Issued (events : List Event) (ticket : NetworkNapTicket) : Prop :=
  ∃ decision, .Reserve ticket.owner ticket.inner.candidate (.ok (ticket, decision)) ∈ events

/-- What holds of the tickets of every instance after a run, and of what any
later call can do with them. -/
structure LinearTickets (events : List Event) (world : World) : Prop where
  owners : ∀ (position : Nat) (self : NetworkNapAdmission), world[position]? = some self → self.owner = position
  issuer : ∀ position candidate ticket decision, .Reserve position candidate (.ok (ticket, decision)) ∈ events →
    Issued events ticket ∧ ticket.owner = position
  presented : ∀ event position ticket next, event.Presents position ticket → Step world event next →
    next = world ∨ Issued events ticket ∧ ticket.owner = position ∧
      ∃ self ledger, Touches world position ticket self ledger next
  retired_once : ∀ ticket, events.countP (Event.retires ticket) ≤ 1
  activated_once : ∀ ticket, events.countP (Event.activates ticket) ≤ 1
  retired_last : ∀ before position ticket after, events = before ++ .Retire position ticket (.ok true) :: after →
    ∀ other flag, .Activate other ticket (.ok flag) ∉ after
  ended_harmless : ∀ ticket self, Issued events ticket → world[ticket.owner]? = some self →
    ¬ self.ledger.Holds ticket.inner.candidate ticket.inner.generation →
      ∀ later final event position next, Run Step world later final → event.Presents position ticket →
        Step final event next → next = final

/-- Any number of instances, any interleaving of calls on them and any tickets
presented to any of them. -/
theorem tickets_linear {events : List Event} {world : World} (h : Run Step [] events world) :
    LinearTickets events world := by
  have hpreserve : ∀ s event t, Scoped s → Step s event t → Scoped t := fun _ _ _ hscoped hstep => hscoped.step hstep
  have hnil : Scoped [] := recorded_nil.scoped_
  have hrecorded : Recorded events world :=
    h.history Recorded recorded_nil fun _ _ _ _ hinv hstep => hinv.step hstep
  have hrank : ∀ ticket s event t, Scoped s → Step s event t → World.stage s ticket ≤ World.stage t ticket :=
    fun ticket _ _ _ _ hstep => hstep.le_stage ticket
  refine ⟨fun position self hself => (hrecorded.scoped_ position self hself).1, ?_, ?_, ?_, ?_, ?_, ?_⟩
  · intro position candidate ticket decision hin
    obtain ⟨rfl, rfl, _⟩ := hrecorded.issued position candidate ticket decision hin
    exact ⟨⟨decision, hin⟩, rfl⟩
  · intro event position ticket next hevent hstep
    obtain hsame | ⟨self, ledger, htouches⟩ := presented_cases hstep hevent
    · exact .inl hsame
    · have hposition := (hrecorded.scoped_ position self htouches.found).1
      obtain ⟨decision, hin⟩ := hrecorded.held _ _ _ _ htouches.found htouches.holds
      have hticket : self.scoped_ticket { candidate := ticket.inner.candidate, generation := ticket.inner.generation } =
          ticket := by
        cases ticket
        cases htouches.owned.1
        cases htouches.owned.2
        rfl
      rw [hticket, ← hposition, ← htouches.owned.2] at hin
      exact .inr ⟨⟨decision, hin⟩, htouches.owned.2.trans hposition, self, ledger, htouches⟩
  · intro ticket
    refine (h.countP_le_one Scoped (World.stage · ticket) .Ended hpreserve (hrank ticket) ?_ hnil).1
    intro s event t hscoped hstep hretires
    obtain ⟨position, rfl⟩ := retires_eq_true hretires
    exact hscoped.retired hstep
  · intro ticket
    refine (h.countP_le_one Scoped (World.stage · ticket) .Active hpreserve (hrank ticket) ?_ hnil).1
    intro s event t hscoped hstep hactivates
    obtain ⟨position, rfl⟩ := activates_eq_true hactivates
    exact hscoped.activated hstep
  · rintro before position ticket after rfl other flag hin
    obtain ⟨middle, hbefore, hafter⟩ := Run.append_iff.mp h
    have hmiddle := hbefore.invariant Scoped hpreserve hnil
    cases hafter with
    | cons hretire hrest =>
      obtain ⟨_, hended⟩ := hmiddle.retired hretire
      obtain ⟨first, last, rfl⟩ := List.append_of_mem hin
      obtain ⟨second, hfirst, hlast⟩ := Run.append_iff.mp hrest
      cases hlast with
      | cons hactivate _ =>
        have hscoped := hmiddle.step hretire
        have hlt := (hfirst.invariant Scoped hpreserve hscoped).activate_ok hactivate
        have hle := hfirst.le_rank Scoped (World.stage · ticket) hpreserve (hrank ticket) hscoped
        exact absurd hlt (not_lt.mpr (hended.trans hle))
  · intro ticket self hissued hself hfree later final event position next hrun hevent hstep
    obtain ⟨decision, hin⟩ := hissued
    obtain ⟨_, _, found, hfound, _, hle⟩ := hrecorded.issued _ _ _ _ hin
    rw [hself] at hfound
    cases hfound
    have hended : .Ended ≤ world.stage ticket := by
      rw [stage_of_getElem? hself, ← not_lt, stage_lt_ended_iff]
      rintro (hnew | hheld)
      · omega
      · exact hfree hheld
    have hlater := hrun.le_rank Scoped (World.stage · ticket) hpreserve (hrank ticket) hrecorded.scoped_
    exact (hrun.invariant Scoped hpreserve hrecorded.scoped_).ended (hended.trans hlater) hstep hevent

def sample_ticket : NetworkNapTicket :=
  { network := Id.filled 9, owner := 0, inner := { candidate := Id.filled 2, generation := 1 } }

/-- A ticket of a first instance is presented to a second one of the same
network, where it is refused, and then retired where it was issued. -/
theorem tickets_linear_sample :
    LinearTickets
      [.New (Id.filled 9) sample_host (.ok ()), .New (Id.filled 9) sample_host (.ok ()),
        .Reserve 0 (Id.filled 2) (.ok (sample_ticket, ⟨Id.filled 2, false, 0, 0, ⟨1, .Configured⟩⟩)),
        .Retire 1 sample_ticket (.ok false), .Retire 0 sample_ticket (.ok true)]
      [⟨Id.filled 9, 0, { State.new sample_host with next_generation := 1 }⟩,
        ⟨Id.filled 9, 1, State.new sample_host⟩] := by
  refine tickets_linear (.cons (t := [⟨Id.filled 9, 0, State.new sample_host⟩]) ⟨rfl, rfl⟩ ?_)
  refine .cons (t := [⟨Id.filled 9, 0, State.new sample_host⟩, ⟨Id.filled 9, 1, State.new sample_host⟩]) ⟨rfl, rfl⟩ ?_
  refine .cons ⟨_, rfl, by decide, rfl⟩ (.cons ⟨_, rfl, by decide, rfl⟩ (.cons ⟨_, rfl, by decide, by decide⟩ .nil))

end blueroute.nap_admission_scope
