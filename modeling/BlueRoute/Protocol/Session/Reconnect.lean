import BlueRoute.Protocol.Session

namespace blueroute_protocol.session

open blueroute

def u64_saturating_add (left right : Nat) : Nat := min (left + right) (2 ^ 64 - 1)

inductive ConnectionStage where
  | Connecting
  | TlsHandshake
  | Hello
  | Active
  | Closing
deriving DecidableEq

def ConnectionStage.timeout_ms : ConnectionStage → Nat
  | Connecting | Hello | Closing => 5000
  | TlsHandshake => 10000
  | Active => 30000

def MAX_RECONNECT_ATTEMPTS : Nat := 8

/-- Maximum time for one attempt to connect, to shake hands and to say hello. -/
def MAX_CONNECT_AUTH_ATTEMPT_MS : Nat :=
  ConnectionStage.Connecting.timeout_ms + ConnectionStage.TlsHandshake.timeout_ms + ConnectionStage.Hello.timeout_ms

structure ReconnectBackoff where
  failed_attempts : Nat

namespace ReconnectBackoff

def new : ReconnectBackoff := { failed_attempts := 0 }

/-- The delay in milliseconds before another attempt, if the budget is not exhausted. -/
def after_failure (self : ReconnectBackoff) : Option Nat × ReconnectBackoff :=
  if self.failed_attempts ≥ MAX_RECONNECT_ATTEMPTS then (none, self)
  else
    let multiplier := 1 <<< self.failed_attempts
    let milliseconds := min (250 * multiplier) 30000
    (some milliseconds, { failed_attempts := self.failed_attempts + 1 })

end ReconnectBackoff

inductive ReconnectScheduleError where
  | CapacityReached
  | ClockRegression
deriving DecidableEq

structure RetrySlot where
  session_id : SessionId
  backoff : ReconnectBackoff
  next_attempt_ms : Option Nat
  in_flight : Bool
  in_flight_started_ms : Option Nat
  cancel_requested : Bool
  last_ms : Nat

namespace RetrySlot

/-- The slot of a loss, with its first attempt. -/
def scheduled (session_id : SessionId) (now_ms : Nat) : RetrySlot :=
  let (delay, backoff) := ReconnectBackoff.new.after_failure
  { session_id, backoff, next_attempt_ms := delay.map (u64_saturating_add now_ms), in_flight := false
    in_flight_started_ms := none, cancel_requested := false, last_ms := now_ms }

def take_due (self : RetrySlot) (now_ms : Nat) : Bool × RetrySlot :=
  let self := { self with last_ms := now_ms }
  if self.in_flight = true ∨ self.next_attempt_ms.all (fun due => now_ms < due) = true then (false, self)
  else
    (true, { self with in_flight := true, in_flight_started_ms := some now_ms, cancel_requested := false
                       next_attempt_ms := none })

def take_expired_attempt (self : RetrySlot) (now_ms : Nat) : Bool × RetrySlot :=
  let self := { self with last_ms := now_ms }
  let overdue := self.in_flight_started_ms.any fun started =>
    u64_saturating_add started MAX_CONNECT_AUTH_ATTEMPT_MS ≤ now_ms
  if self.in_flight = false ∨ overdue = false ∨ self.cancel_requested = true then (false, self)
  else (true, { self with cancel_requested := true })

def attempt_failed (self : RetrySlot) (now_ms : Nat) : Option Nat × RetrySlot :=
  if self.in_flight = false then (none, self)
  else
    let (delay, backoff) := self.backoff.after_failure
    let next_attempt_ms := delay.map (u64_saturating_add now_ms)
    (next_attempt_ms, { self with last_ms := now_ms, in_flight := false, in_flight_started_ms := none
                                  cancel_requested := false, backoff, next_attempt_ms })

end RetrySlot

structure ReconnectScheduler where
  slots : Ordered.Map PeerSessionKey RetrySlot

namespace ReconnectScheduler

def new : ReconnectScheduler := { slots := ∅ }

variable (self : ReconnectScheduler) (key : PeerSessionKey) (session_id : SessionId) (now_ms : Nat)

/-- Schedule the first attempt exactly once after a verified loss event. -/
def schedule_loss (key : PeerSessionKey) (session_id : SessionId) (now_ms : Nat) :
    Except ReconnectScheduleError Bool × ReconnectScheduler :=
  if key.is_valid = false ∨ session_id.toList.all (· == 0) = true then (.ok false, self)
  else match self.slots[key]? with
    | some existing =>
      -- a superseded generation is inert whatever its timestamp
      if existing.session_id ≠ session_id then (.ok false, self)
      else if now_ms < existing.last_ms then (.error .ClockRegression, self)
      else (.ok false, self)
    | none =>
      if self.slots.size ≥ MAX_CONTROL_SESSIONS then (.error .CapacityReached, self)
      else (.ok true, { slots := self.slots.insert key (.scheduled session_id now_ms) })

/-- The slot of a peer, changed in place if its generation is the current one and the clock has not gone back. -/
def with_slot {α : Type} (key : PeerSessionKey) (session_id : SessionId) (now_ms : Nat) (inert : α)
    (body : RetrySlot → α × RetrySlot) : Except ReconnectScheduleError α × ReconnectScheduler :=
  match self.slots[key]? with
  | none => (.ok inert, self)
  | some slot =>
    if slot.session_id ≠ session_id then (.ok inert, self)
    else if now_ms < slot.last_ms then (.error .ClockRegression, self)
    else
      let (result, slot) := body slot
      (.ok result, { slots := self.slots.insert key slot })

/-- Claim a due attempt once. -/
def take_due (self : ReconnectScheduler) (key : PeerSessionKey) (session_id : SessionId) (now_ms : Nat) :
    Except ReconnectScheduleError Bool × ReconnectScheduler :=
  self.with_slot key session_id now_ms false fun slot => slot.take_due now_ms

/-- A one-shot cancellation request for an overdue attempt in flight. -/
def take_expired_attempt (self : ReconnectScheduler) (key : PeerSessionKey) (session_id : SessionId) (now_ms : Nat) :
    Except ReconnectScheduleError Bool × ReconnectScheduler :=
  self.with_slot key session_id now_ms false fun slot => slot.take_expired_attempt now_ms

/-- Called once after a failed attempt. An exhausted budget leaves the slot inert. -/
def attempt_failed (self : ReconnectScheduler) (key : PeerSessionKey) (session_id : SessionId) (now_ms : Nat) :
    Except ReconnectScheduleError (Option Nat) × ReconnectScheduler :=
  self.with_slot key session_id now_ms none fun slot => slot.attempt_failed now_ms

/-- Cancel only the exact retained generation. -/
def cancel_if_current (key : PeerSessionKey) (session_id : SessionId) : Bool × ReconnectScheduler :=
  if (self.slots[key]?).any (fun slot => slot.session_id = session_id) = true then
    (true, { slots := self.slots.erase key })
  else (false, self)

theorem schedule_loss_cases :
    (∃ result, self.schedule_loss key session_id now_ms = (result, self) ∧ result ≠ .ok true) ∨
      (self.slots[key]? = none ∧ self.schedule_loss key session_id now_ms =
        (.ok true, { slots := self.slots.insert key (.scheduled session_id now_ms) })) := by
  unfold schedule_loss
  by_cases hvalid : key.is_valid = false ∨ session_id.toList.all (· == 0) = true
  · rw [if_pos hvalid]
    exact .inl ⟨.ok false, rfl, by simp⟩
  · rw [if_neg hvalid]
    cases hslot : self.slots[key]? with
    | some existing =>
      dsimp only
      split_ifs
      · exact .inl ⟨.ok false, rfl, by simp⟩
      · exact .inl ⟨.error _, rfl, by simp⟩
      · exact .inl ⟨.ok false, rfl, by simp⟩
    | none =>
      dsimp only
      split_ifs
      · exact .inl ⟨.error _, rfl, by simp⟩
      · exact .inr ⟨rfl, rfl⟩

theorem with_slot_cases {α : Type} (inert : α) (body : RetrySlot → α × RetrySlot) :
    ((∀ slot, self.slots[key]? = some slot → slot.session_id ≠ session_id) ∧
      self.with_slot key session_id now_ms inert body = (.ok inert, self)) ∨
    ∃ slot, self.slots[key]? = some slot ∧ slot.session_id = session_id ∧
      ((now_ms < slot.last_ms ∧ self.with_slot key session_id now_ms inert body = (.error .ClockRegression, self)) ∨
        (slot.last_ms ≤ now_ms ∧ self.with_slot key session_id now_ms inert body =
          (.ok (body slot).1, { slots := self.slots.insert key (body slot).2 }))) := by
  unfold with_slot
  cases hslot : self.slots[key]? with
  | none => exact .inl ⟨nofun, rfl⟩
  | some slot =>
    dsimp only
    split_ifs with hid hclock
    · refine .inl ⟨fun current hcurrent => ?_, rfl⟩
      obtain rfl := Option.some.inj hcurrent
      exact hid
    · exact .inr ⟨slot, rfl, not_not.mp hid, .inl ⟨hclock, rfl⟩⟩
    · exact .inr ⟨slot, rfl, not_not.mp hid, .inr ⟨not_lt.mp hclock, rfl⟩⟩

theorem cancel_if_current_cases :
    (∃ slot, self.slots[key]? = some slot ∧ slot.session_id = session_id ∧
      self.cancel_if_current key session_id = (true, { slots := self.slots.erase key })) ∨
    ((∀ slot, self.slots[key]? = some slot → slot.session_id ≠ session_id) ∧
      self.cancel_if_current key session_id = (false, self)) := by
  unfold cancel_if_current
  split_ifs with hcurrent
  · obtain ⟨slot, hslot, hid⟩ := (Option.any_eq_true _ _).mp hcurrent
    exact .inl ⟨slot, hslot, by simpa using hid, rfl⟩
  · refine .inr ⟨fun slot hslot hid => hcurrent ?_, rfl⟩
    rw [hslot]
    simpa using hid

end ReconnectScheduler

end blueroute_protocol.session
