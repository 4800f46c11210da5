import BlueRoute.Core.NapAdmission.Reservations

open Ordered Runs

namespace blueroute

open nap_admission_ledger

/-- Reservation tied to exactly one NAP owner. The `Arc` token is modelled by
the number of the allocation it points to. -/
structure NetworkNapTicket where
  network : NetworkId
  owner : Nat
  inner : NapAdmissionTicket
deriving DecidableEq

/-- One ledger per logical NAP/network, scoped by a private owner token. -/
structure NetworkNapAdmission where
  network : NetworkId
  owner : Nat
  ledger : State
deriving DecidableEq

namespace NetworkNapAdmission

/-- The last argument is the token that `Arc::new` allocates. -/
def new (network : NetworkId) (host : NodeCapabilities) (owner : Nat) : Result NetworkNapAdmission :=
  if network.as_bytes.toList.all (· == 0) then
    .error (CoreError.new .InvalidInput "NAP admission requires a nonzero network identity")
  else .ok { network, owner, ledger := State.new host }

def owns (self : NetworkNapAdmission) (ticket : NetworkNapTicket) : Bool :=
  ticket.network = self.network && ticket.owner = self.owner

/-- A call that only uses the ledger. -/
def with_ledger {α : Type} (self : NetworkNapAdmission) (answer : Result α × State) :
    Result α × NetworkNapAdmission :=
  (answer.1, { self with ledger := answer.2 })

/-- The scoped form of a ticket that the ledger issued. -/
def scoped_ticket (self : NetworkNapAdmission) (inner : NapAdmissionTicket) : NetworkNapTicket :=
  { network := self.network, owner := self.owner, inner }

def reserve (self : NetworkNapAdmission) (authenticated_candidate : NodeId) :
    Result (NetworkNapTicket × NapAdmissionDecision) × NetworkNapAdmission :=
  let (answer, next) := self.with_ledger (self.ledger.reserve authenticated_candidate)
  (answer.map (Prod.map self.scoped_ticket id), next)

def activate (self : NetworkNapAdmission) (ticket : NetworkNapTicket) : Result Bool × NetworkNapAdmission :=
  if self.owns ticket = false then
    (.error (CoreError.new .InvalidState "NAP ticket belongs to a different network owner"), self)
  else self.with_ledger (self.ledger.activate ticket.inner)

/-- Delayed callbacks for a replaced NAP instance are harmless. -/
def retire (self : NetworkNapAdmission) (ticket : NetworkNapTicket) : Result Bool × NetworkNapAdmission :=
  if self.owns ticket = false then (.ok false, self)
  else self.with_ledger (self.ledger.retire ticket.inner)

def close (self : NetworkNapAdmission) : Result Unit × NetworkNapAdmission :=
  self.with_ledger self.ledger.close

def update_capabilities (self : NetworkNapAdmission) (host : NodeCapabilities) :
    Result Unit × NetworkNapAdmission :=
  self.with_ledger (self.ledger.update_capabilities host)

end NetworkNapAdmission

namespace nap_admission_scope

/-- The instances created so far, in the order of their owner tokens. -/
abbrev World := List NetworkNapAdmission

/-- A call on one of the instances, with its answer. -/
inductive Event where
  | New (network : NetworkId) (host : NodeCapabilities) (answer : Result Unit)
  | Reserve (instance_ : Nat) (candidate : NodeId) (answer : Result (NetworkNapTicket × NapAdmissionDecision))
  | Activate (instance_ : Nat) (ticket : NetworkNapTicket) (answer : Result Bool)
  | Retire (instance_ : Nat) (ticket : NetworkNapTicket) (answer : Result Bool)
  | UpdateCapabilities (instance_ : Nat) (host : NodeCapabilities) (answer : Result Unit)
  | Close (instance_ : Nat) (answer : Result Unit)
deriving DecidableEq

/-- One instance answers a call, the others are not involved. -/
def World.Calls {α : Type} (world : World) (instance_ : Nat)
    (call : NetworkNapAdmission → Result α × NetworkNapAdmission) (answer : Result α) (next : World) : Prop :=
  ∃ self, world[instance_]? = some self ∧ answer = (call self).1 ∧ next = world.set instance_ (call self).2

/-- Any ticket value may be passed to any instance, issued by it or not. -/
def Step (world : World) : Event → World → Prop
  | .New network host answer, next =>
    match NetworkNapAdmission.new network host world.length with
    | .ok self => answer = .ok () ∧ next = world ++ [self]
    | .error e => answer = .error e ∧ next = world
  | .Reserve instance_ candidate answer, next => world.Calls instance_ (·.reserve candidate) answer next
  | .Activate instance_ ticket answer, next => world.Calls instance_ (·.activate ticket) answer next
  | .Retire instance_ ticket answer, next => world.Calls instance_ (·.retire ticket) answer next
  | .UpdateCapabilities instance_ host answer, next => world.Calls instance_ (·.update_capabilities host) answer next
  | .Close instance_ answer, next => world.Calls instance_ (·.close) answer next

variable {self : NetworkNapAdmission} {position : Nat}

theorem set_self {world : World} (h : world[position]? = some self) : world.set position self = world := by
  obtain ⟨hlt, rfl⟩ := List.getElem?_eq_some_iff.mp h
  exact List.set_getElem_self hlt

/-- The call on the ledger of an instance that a call on the instance comes down to. -/
def Event.Passes (position : Nat) (self : NetworkNapAdmission) (inner : nap_admission_ledger.Event) : Event → Prop
  | .New .. => False
  | .Reserve target candidate answer =>
    target = position ∧
      ∃ issued, inner = .Reserve candidate issued ∧ answer = issued.map (Prod.map self.scoped_ticket id)
  | .Activate target ticket answer =>
    target = position ∧ self.owns ticket = true ∧ inner = .Activate ticket.inner answer
  | .Retire target ticket answer => target = position ∧ self.owns ticket = true ∧ inner = .Retire ticket.inner answer
  | .UpdateCapabilities target host answer => target = position ∧ inner = .UpdateCapabilities host answer
  | .Close target answer => target = position ∧ inner = .Close answer

variable {event : Event}

theorem Event.Passes.reserve {candidate : NodeId} {issued : Result (NapAdmissionTicket × NapAdmissionDecision)}
    (h : event.Passes position self (.Reserve candidate issued)) :
    event = .Reserve position candidate (issued.map (Prod.map self.scoped_ticket id)) := by
  cases event with
  | Reserve target peer answer =>
    obtain ⟨rfl, answer, hinner, rfl⟩ := h
    cases hinner
    rfl
  | New network host answer => exact h.elim
  | Activate target ticket answer | Retire target ticket answer => exact nomatch h.2.2
  | UpdateCapabilities target host answer | Close target answer => exact nomatch h.2

theorem Event.Passes.retire {inner : NapAdmissionTicket} {answer : Result Bool}
    (h : event.Passes position self (.Retire inner answer)) :
    ∃ ticket, event = .Retire position ticket answer ∧ self.owns ticket = true ∧ ticket.inner = inner := by
  cases event with
  | Retire target ticket got =>
    obtain ⟨rfl, howns, hinner⟩ := h
    cases hinner
    exact ⟨ticket, rfl, howns, rfl⟩
  | New network host got => exact h.elim
  | Reserve target peer got => exact nomatch h.2.choose_spec.1
  | Activate target ticket got => exact nomatch h.2.2
  | UpdateCapabilities target host got | Close target got => exact nomatch h.2

theorem Event.Passes.close {answer : Result Unit} (h : event.Passes position self (.Close answer)) :
    event = .Close position answer := by
  cases event with
  | Close target got =>
    obtain ⟨rfl, hinner⟩ := h
    cases hinner
    rfl
  | New network host got => exact h.elim
  | Reserve target peer got => exact nomatch h.2.choose_spec.1
  | Activate target ticket got | Retire target ticket got => exact nomatch h.2.2
  | UpdateCapabilities target host got => exact nomatch h.2

variable {world next : World}

/-- What a step does to the instances: it creates one, leaves all as they are,
or takes one step on the ledger of one of them. -/
theorem Step.effect (h : Step world event next) :
    (∃ network host, next = world ++ [⟨network, world.length, State.new host⟩]) ∨
      next = world ∨
      ∃ position self inner ledger, world[position]? = some self ∧
        nap_admission_ledger.Step self.ledger inner ledger ∧ next = world.set position { self with ledger } ∧
        event.Passes position self inner := by
  cases event with
  | New network host answer =>
    simp only [Step] at h
    split at h
    · rename_i self hself
      unfold NetworkNapAdmission.new at hself
      split at hself
      · cases hself
      · cases hself
        exact .inl ⟨network, host, h.2⟩
    · exact .inr (.inl h.2)
  | Reserve position candidate answer =>
    obtain ⟨self, hself, rfl, rfl⟩ := h
    exact .inr (.inr ⟨position, self, .Reserve candidate _, _, hself, rfl, rfl, rfl, _, rfl, rfl⟩)
  | UpdateCapabilities position host answer =>
    obtain ⟨self, hself, rfl, rfl⟩ := h
    exact .inr (.inr ⟨position, self, .UpdateCapabilities host _, _, hself, rfl, rfl, rfl, rfl⟩)
  | Close position answer =>
    obtain ⟨self, hself, rfl, rfl⟩ := h
    exact .inr (.inr ⟨position, self, .Close _, _, hself, rfl, rfl, rfl, rfl⟩)
  | Activate position ticket answer =>
    obtain ⟨self, hself, rfl, rfl⟩ := h
    simp only [NetworkNapAdmission.activate]
    split
    · exact .inr (.inl (set_self hself))
    · rename_i howns
      have howns : self.owns ticket = true := by simpa using howns
      exact .inr (.inr ⟨position, self, .Activate ticket.inner _, _, hself, rfl, rfl, rfl, howns, rfl⟩)
  | Retire position ticket answer =>
    obtain ⟨self, hself, rfl, rfl⟩ := h
    simp only [NetworkNapAdmission.retire]
    split
    · exact .inr (.inl (set_self hself))
    · rename_i howns
      have howns : self.owns ticket = true := by simpa using howns
      exact .inr (.inr ⟨position, self, .Retire ticket.inner _, _, hself, rfl, rfl, rfl, howns, rfl⟩)

theorem World.Calls.deterministic {α : Type} {world left right : World}
    {call : NetworkNapAdmission → Result α × NetworkNapAdmission} {answer answer' : Result α}
    (hleft : world.Calls position call answer left) (hright : world.Calls position call answer' right) :
    left = right := by
  obtain ⟨self, hself, _, rfl⟩ := hleft
  obtain ⟨found, hfound, _, rfl⟩ := hright
  cases hself.symm.trans hfound
  rfl

theorem Step.deterministic {world left right : World} (hleft : Step world event left)
    (hright : Step world event right) : left = right := by
  cases event with
  | New network host answer =>
    simp only [Step] at hleft hright
    split at hleft
    · simp_all
    · simp_all
  | Reserve position candidate answer | Activate position ticket answer | Retire position ticket answer
  | UpdateCapabilities position host answer | Close position answer => exact World.Calls.deterministic hleft hright

/-- Owner tokens are unique and every ledger's books add up. -/
def Scoped (world : World) : Prop :=
  ∀ (position : Nat) (self : NetworkNapAdmission), world[position]? = some self →
    self.owner = position ∧ Booked self.ledger

/-- An instance is found again after a step, with the same identity, and its
ledger took at most one step. -/
theorem Step.instance (h : Step world event next) (hself : world[position]? = some self) :
    ∃ ledger, next[position]? = some { self with ledger } ∧
      (ledger = self.ledger ∨ ∃ inner, nap_admission_ledger.Step self.ledger inner ledger ∧
        event.Passes position self inner) := by
  obtain ⟨network, host, rfl⟩ | rfl | ⟨other, found, inner, ledger, hfound, hinner, rfl, hevent⟩ := h.effect
  · refine ⟨self.ledger, ?_, .inl rfl⟩
    rw [List.getElem?_append_left (List.getElem?_eq_some_iff.mp hself).1]
    exact hself
  · exact ⟨self.ledger, hself, .inl rfl⟩
  · by_cases heq : other = position
    · subst heq
      rw [hself] at hfound
      cases hfound
      refine ⟨ledger, ?_, .inr ⟨inner, hinner, hevent⟩⟩
      exact List.getElem?_set_self (List.getElem?_eq_some_iff.mp hself).1
    · refine ⟨self.ledger, ?_, .inl rfl⟩
      rw [List.getElem?_set_ne heq]
      exact hself

/-- An instance that a step creates is a new one. -/
theorem Step.new_instance (h : Step world event next) (hnone : world[position]? = none)
    (hself : next[position]? = some self) :
    self.owner = position ∧ ∃ host, self.ledger = State.new host := by
  obtain ⟨network, host, rfl⟩ | rfl | ⟨other, found, inner, ledger, hfound, hinner, rfl, _⟩ := h.effect
  · have hlt := (List.getElem?_eq_some_iff.mp hself).1
    rw [List.getElem?_eq_none_iff] at hnone
    have heq : position = List.length world := by
      rw [List.length_append, List.length_singleton] at hlt
      omega
    subst heq
    rw [List.getElem?_concat_length] at hself
    cases hself
    exact ⟨rfl, host, rfl⟩
  · rw [hnone] at hself
    cases hself
  · rw [List.getElem?_eq_none_iff] at hnone
    rw [List.getElem?_eq_none (by rwa [List.length_set])] at hself
    cases hself

theorem Scoped.step (h : Scoped world) (hstep : Step world event next) : Scoped next := by
  intro position self hself
  cases hfound : world[position]? with
  | none =>
    obtain ⟨howner, host, hledger⟩ := hstep.new_instance hfound hself
    exact ⟨howner, hledger ▸ booked_new host⟩
  | some found =>
    obtain ⟨howner, hbooked⟩ := h position found hfound
    obtain ⟨ledger, hnext, hledger⟩ := hstep.instance hfound
    rw [hself] at hnext
    cases hnext
    refine ⟨howner, ?_⟩
    obtain rfl | ⟨inner, hinner, _⟩ := hledger
    · exact hbooked
    · exact hbooked.step hinner

end nap_admission_scope

end blueroute
