import BlueRoute.Base.Ordered
import BlueRoute.Base.Runs
import BlueRoute.Core.NapAdmission.Policy

open Ordered

namespace blueroute

structure NapAdmissionTicket where
  candidate : NodeId
  generation : Nat
deriving DecidableEq

namespace nap_admission_ledger

/-- The state behind the ledger's mutex; generations are `u64` values. -/
structure State where
  host : NodeCapabilities
  active : Map NodeId Nat
  pending : Map NodeId Nat
  next_generation : Nat
  closed : Bool
deriving DecidableEq

def closed_owner : CoreError := .new .InvalidState "NAP admission owner is closed"

namespace State

def new (host : NodeCapabilities) : State :=
  { host, active := ∅, pending := ∅, next_generation := 0, closed := false }

variable (self : State)

/-- The peers that occupy a slot. -/
def observed : List NodeId := self.active.keys ++ self.pending.keys

def close : Result Unit × State := (.ok (), { self with closed := true, active := ∅, pending := ∅ })

def update_capabilities (host : NodeCapabilities) : Result Unit × State :=
  if self.closed then (.error closed_owner, self)
  else (.ok (), { self with host })

/-- Atomically reserve one slot against active and pending peers. -/
def reserve (candidate : NodeId) : Result (NapAdmissionTicket × NapAdmissionDecision) × State :=
  if self.closed then (.error closed_owner, self)
  else if candidate ∈ self.pending then
    (.error (.new .InvalidState "NAP peer admission already pending"), self)
  else if candidate ∈ self.active then
    (.error (.new .InvalidState "NAP peer already attached; cannot transfer reservation ownership"), self)
  else
    match nap_admission.plan_nap_client_admission self.host self.observed candidate with
    | .error e => (.error e, self)
    | .ok decision =>
      -- `checked_add` on a `u64`
      if 2 ^ 64 ≤ self.next_generation + 1 then
        (.error (.new .InvalidState "NAP admission generation exhausted"), self)
      else
        (.ok ({ candidate, generation := self.next_generation + 1 }, decision),
          { self with
            next_generation := self.next_generation + 1
            pending := self.pending.insert candidate (self.next_generation + 1) })

/-- Promote only the matching reservation. A repeated confirmation is idempotent. -/
def activate (ticket : NapAdmissionTicket) : Result Bool × State :=
  if self.closed then (.error closed_owner, self)
  else if self.active[ticket.candidate]? = some ticket.generation then (.ok false, self)
  else if self.pending[ticket.candidate]? ≠ some ticket.generation then
    (.error (.new .InvalidState "NAP admission ticket is stale or unknown"), self)
  else
    match nap_admission.plan_nap_client_admission self.host self.observed ticket.candidate with
    | .error e => (.error e, self)
    | .ok _ =>
      (.ok true,
        { self with
          pending := self.pending.erase ticket.candidate
          active := self.active.insert ticket.candidate ticket.generation })

/-- Retire an exact pending or active generation; stale callbacks are harmless. -/
def retire (ticket : NapAdmissionTicket) : Result Bool × State :=
  if self.pending[ticket.candidate]? = some ticket.generation then
    (.ok true, { self with pending := self.pending.erase ticket.candidate })
  else if self.active[ticket.candidate]? = some ticket.generation then
    (.ok true, { self with active := self.active.erase ticket.candidate })
  else (.ok false, self)

end State

/-- A call on the ledger with its answer; the mutex makes each one atomic. -/
inductive Event where
  | Reserve (candidate : NodeId) (answer : Result (NapAdmissionTicket × NapAdmissionDecision))
  | Activate (ticket : NapAdmissionTicket) (answer : Result Bool)
  | Retire (ticket : NapAdmissionTicket) (answer : Result Bool)
  | UpdateCapabilities (host : NodeCapabilities) (answer : Result Unit)
  | Close (answer : Result Unit)
deriving DecidableEq

def Step (state : State) : Event → State → Prop
  | .Reserve candidate answer, next => state.reserve candidate = (answer, next)
  | .Activate ticket answer, next => state.activate ticket = (answer, next)
  | .Retire ticket answer, next => state.retire ticket = (answer, next)
  | .UpdateCapabilities host answer, next => state.update_capabilities host = (answer, next)
  | .Close answer, next => state.close = (answer, next)

instance (state : State) (event : Event) (next : State) : Decidable (Step state event next) :=
  match event with
  | .Reserve candidate answer => inferInstanceAs (Decidable (state.reserve candidate = (answer, next)))
  | .Activate ticket answer => inferInstanceAs (Decidable (state.activate ticket = (answer, next)))
  | .Retire ticket answer => inferInstanceAs (Decidable (state.retire ticket = (answer, next)))
  | .UpdateCapabilities host answer => inferInstanceAs (Decidable (state.update_capabilities host = (answer, next)))
  | .Close answer => inferInstanceAs (Decidable (state.close = (answer, next)))

end nap_admission_ledger

end blueroute
