import BlueRoute.Base.Marks
import BlueRoute.Base.Runs
import BlueRoute.Protocol.Session.Reconnect

namespace blueroute_protocol.session

open blueroute Marks

inductive RetryCall where
  | schedule_loss (key : PeerSessionKey) (session_id : SessionId) (now_ms : Nat)
  | take_due (key : PeerSessionKey) (session_id : SessionId) (now_ms : Nat)
  | take_expired_attempt (key : PeerSessionKey) (session_id : SessionId) (now_ms : Nat)
  | attempt_failed (key : PeerSessionKey) (session_id : SessionId) (now_ms : Nat)
  | cancel_if_current (key : PeerSessionKey) (session_id : SessionId)

inductive RetryOutcome where
  | flag (result : Except ReconnectScheduleError Bool)
  | next_attempt (result : Except ReconnectScheduleError (Option Nat))
  | cancelled (done : Bool)

/-- A call with its result. -/
structure RetryLabel where
  call : RetryCall
  outcome : RetryOutcome

namespace RetryCall

def run (scheduler : ReconnectScheduler) : RetryCall → RetryOutcome × ReconnectScheduler
  | schedule_loss key session_id now_ms =>
    let (result, next) := scheduler.schedule_loss key session_id now_ms
    (.flag result, next)
  | take_due key session_id now_ms =>
    let (result, next) := scheduler.take_due key session_id now_ms
    (.flag result, next)
  | take_expired_attempt key session_id now_ms =>
    let (result, next) := scheduler.take_expired_attempt key session_id now_ms
    (.flag result, next)
  | attempt_failed key session_id now_ms =>
    let (result, next) := scheduler.attempt_failed key session_id now_ms
    (.next_attempt result, next)
  | cancel_if_current key session_id =>
    let (done, next) := scheduler.cancel_if_current key session_id
    (.cancelled done, next)

def key : RetryCall → PeerSessionKey
  | schedule_loss key _ _ | take_due key _ _ | take_expired_attempt key _ _ | attempt_failed key _ _
  | cancel_if_current key _ => key

def session_id : RetryCall → SessionId
  | schedule_loss _ session_id _ | take_due _ session_id _ | take_expired_attempt _ session_id _
  | attempt_failed _ session_id _ | cancel_if_current _ session_id => session_id

def now_ms : RetryCall → Option Nat
  | schedule_loss _ _ now_ms | take_due _ _ now_ms | take_expired_attempt _ _ now_ms | attempt_failed _ _ now_ms =>
    some now_ms
  | cancel_if_current _ _ => none

/-- A call about a generation which the peer does not have. The loss of one is new when the peer has none. -/
def Stale (call : RetryCall) (scheduler : ReconnectScheduler) : Prop :=
  (∀ slot, scheduler.slots[call.key]? = some slot → slot.session_id ≠ call.session_id) ∧
    (scheduler.slots[call.key]? = none → ∀ now_ms, call ≠ schedule_loss call.key call.session_id now_ms)

end RetryCall

def RetryOutcome.is_error : RetryOutcome → Bool
  | flag (.error _) | next_attempt (.error _) => true
  | _ => false

def RetryStep (scheduler : ReconnectScheduler) (label : RetryLabel) (next : ReconnectScheduler) : Prop :=
  label.call.run scheduler = (label.outcome, next)

namespace RetryLabel

variable (key : PeerSessionKey) (session_id : SessionId)

/-- A loss was scheduled, or another attempt after a failed one. -/
def arms : RetryLabel → Bool
  | ⟨.schedule_loss peer _ _, .flag (.ok true)⟩ => peer = key
  | ⟨.attempt_failed peer _ _, .next_attempt (.ok (some _))⟩ => peer = key
  | _ => false

/-- An attempt was started. -/
def starts : RetryLabel → Bool
  | ⟨.take_due peer _ _, .flag (.ok true)⟩ => peer = key
  | _ => false

/-- The cancellation of an attempt was requested. -/
def expires : RetryLabel → Bool
  | ⟨.take_expired_attempt peer _ _, .flag (.ok true)⟩ => peer = key
  | _ => false

/-- An attempt of a generation was reported to have failed. -/
def fails : RetryLabel → Bool
  | ⟨.attempt_failed peer generation _, .next_attempt (.ok _)⟩ => peer = key ∧ generation = session_id
  | _ => false

def removes : RetryLabel → Bool
  | ⟨.cancel_if_current peer _, .cancelled true⟩ => peer = key
  | _ => false

end RetryLabel

open RetryLabel

/-- The three states of a slot. -/
inductive SlotState where
  | waiting
  | in_flight
  | exhausted

def RetrySlot.IsIn (slot : RetrySlot) : SlotState → Prop
  | .waiting => slot.next_attempt_ms.isSome = true ∧ slot.in_flight = false ∧ slot.in_flight_started_ms = none
  | .in_flight => slot.next_attempt_ms = none ∧ slot.in_flight = true ∧ slot.in_flight_started_ms.isSome = true
  | .exhausted => slot.next_attempt_ms = none ∧ slot.in_flight = false ∧ slot.in_flight_started_ms = none

/-- A call that moves nothing but the clock of a slot. -/
structure RetryLabel.Inert (label : RetryLabel) (key : PeerSessionKey) (slot : RetrySlot) : Prop where
  arms : label.arms key = false
  starts : label.starts key = false
  expires : label.expires key = false
  fails : slot.in_flight = true → label.fails key slot.session_id = false

variable {label : RetryLabel} {key : PeerSessionKey}

theorem RetryLabel.inert_of_ne (hkey : label.call.key ≠ key) (slot : RetrySlot) : label.Inert key slot := by
  refine ⟨?_, ?_, ?_, fun _ => ?_⟩
  · unfold arms
    split <;> simp_all [RetryCall.key]
  · unfold starts
    split <;> simp_all [RetryCall.key]
  · unfold expires
    split <;> simp_all [RetryCall.key]
  · unfold fails
    split <;> simp_all [RetryCall.key]

/-- What a call that removes no slot can do to the slot of a peer. -/
inductive SlotEffect (key : PeerSessionKey) (slot : RetrySlot) : RetryLabel → RetrySlot → Prop where
  | passed {label : RetryLabel} {now_ms : Nat} (hclock : slot.last_ms ≤ now_ms) (hinert : label.Inert key slot) :
      SlotEffect key slot label { slot with last_ms := now_ms }
  | started {now_ms due : Nat} (hclock : slot.last_ms ≤ now_ms) (hidle : slot.in_flight = false)
      (hnext : slot.next_attempt_ms = some due) (hdue : due ≤ now_ms) :
      SlotEffect key slot ⟨.take_due key slot.session_id now_ms, .flag (.ok true)⟩
        { slot with last_ms := now_ms, in_flight := true, in_flight_started_ms := some now_ms
                    cancel_requested := false, next_attempt_ms := none }
  | expired {now_ms started : Nat} (hclock : slot.last_ms ≤ now_ms) (hflight : slot.in_flight = true)
      (hstarted : slot.in_flight_started_ms = some started)
      (hoverdue : u64_saturating_add started MAX_CONNECT_AUTH_ATTEMPT_MS ≤ now_ms)
      (hfirst : slot.cancel_requested = false) :
      SlotEffect key slot ⟨.take_expired_attempt key slot.session_id now_ms, .flag (.ok true)⟩
        { slot with last_ms := now_ms, cancel_requested := true }
  | failed {now_ms : Nat} {delay : Option Nat} {backoff : ReconnectBackoff} (hclock : slot.last_ms ≤ now_ms)
      (hflight : slot.in_flight = true) (hbackoff : slot.backoff.after_failure = (delay, backoff)) :
      SlotEffect key slot
        ⟨.attempt_failed key slot.session_id now_ms, .next_attempt (.ok (delay.map (u64_saturating_add now_ms)))⟩
        { slot with last_ms := now_ms, in_flight := false, in_flight_started_ms := none, cancel_requested := false
                    backoff, next_attempt_ms := delay.map (u64_saturating_add now_ms) }

theorem SlotEffect.session_id_eq {slot slot' : RetrySlot} (h : SlotEffect key slot label slot') :
    slot'.session_id = slot.session_id := by
  cases h <;> rfl

theorem SlotEffect.last_ms_le {slot slot' : RetrySlot} (h : SlotEffect key slot label slot') :
    slot.last_ms ≤ slot'.last_ms := by
  cases h with
  | passed hclock | started hclock | expired hclock | failed hclock => exact hclock

namespace RetrySlot

variable {key : PeerSessionKey} {slot : RetrySlot} {now_ms : Nat}

theorem take_due_effect (hclock : slot.last_ms ≤ now_ms) :
    SlotEffect key slot ⟨.take_due key slot.session_id now_ms, .flag (.ok (slot.take_due now_ms).1)⟩
      (slot.take_due now_ms).2 := by
  rw [take_due]
  dsimp only
  split_ifs with hbusy
  · exact .passed hclock ⟨rfl, rfl, rfl, fun _ => rfl⟩
  · obtain ⟨hidle, hdue⟩ := not_or.mp hbusy
    cases hnext : slot.next_attempt_ms with
    | none => simp [hnext] at hdue
    | some due => exact .started hclock (by simpa using hidle) hnext (by simpa [hnext] using hdue)

theorem take_expired_attempt_effect (hclock : slot.last_ms ≤ now_ms) :
    SlotEffect key slot
      ⟨.take_expired_attempt key slot.session_id now_ms, .flag (.ok (slot.take_expired_attempt now_ms).1)⟩
      (slot.take_expired_attempt now_ms).2 := by
  rw [take_expired_attempt]
  dsimp only
  split_ifs with hidle
  · exact .passed hclock ⟨rfl, rfl, rfl, fun _ => rfl⟩
  · obtain ⟨hflight, hrest⟩ := not_or.mp hidle
    obtain ⟨hoverdue, hfirst⟩ := not_or.mp hrest
    obtain ⟨started, hstarted, hpast⟩ := (Option.any_eq_true _ _).mp (by simpa using hoverdue)
    exact .expired hclock (by simpa using hflight) hstarted (by simpa using hpast) (by simpa using hfirst)

theorem attempt_failed_effect (hclock : slot.last_ms ≤ now_ms) :
    SlotEffect key slot
      ⟨.attempt_failed key slot.session_id now_ms, .next_attempt (.ok (slot.attempt_failed now_ms).1)⟩
      (slot.attempt_failed now_ms).2 := by
  rw [attempt_failed]
  split_ifs with hidle
  · refine .passed le_rfl ⟨rfl, rfl, rfl, fun hflight => ?_⟩
    rw [hidle] at hflight
    cases hflight
  · exact .failed hclock (by simpa using hidle) rfl

end RetrySlot

/-- What a call can do to a scheduler: nothing, or something with the slot of its own peer. -/
inductive StepEffect (self : ReconnectScheduler) (label : RetryLabel) : ReconnectScheduler → Prop where
  | ignored (hinert : ∀ slot, self.slots[label.call.key]? = some slot → label.Inert label.call.key slot)
      (hkept : label.removes label.call.key = false) : StepEffect self label self
  | scheduled {now_ms : Nat} (hfree : self.slots[label.call.key]? = none)
      (hlabel : label = ⟨.schedule_loss label.call.key label.call.session_id now_ms, .flag (.ok true)⟩) :
      StepEffect self label { slots := self.slots.insert label.call.key (.scheduled label.call.session_id now_ms) }
  | moved {slot slot' : RetrySlot} (hslot : self.slots[label.call.key]? = some slot)
      (hid : slot.session_id = label.call.session_id) (hok : label.outcome.is_error = false)
      (heffect : SlotEffect label.call.key slot label slot') :
      StepEffect self label { slots := self.slots.insert label.call.key slot' }
  | removed {slot : RetrySlot} (hslot : self.slots[label.call.key]? = some slot)
      (hid : slot.session_id = label.call.session_id)
      (hlabel : label = ⟨.cancel_if_current label.call.key label.call.session_id, .cancelled true⟩) :
      StepEffect self label { slots := self.slots.erase label.call.key }

namespace ReconnectScheduler

variable {self next : ReconnectScheduler} {key : PeerSessionKey} {label : RetryLabel} {slot slot' : RetrySlot}

theorem with_slot_effect {α : Type} {call : RetryCall} {outcome : Except ReconnectScheduleError α → RetryOutcome}
    {now_ms : Nat} {inert : α} {body : RetrySlot → α × RetrySlot}
    (hkept : ∀ result, (RetryLabel.mk call (outcome result)).removes call.key = false)
    (hstale : ∀ slot, slot.session_id ≠ call.session_id →
      (RetryLabel.mk call (outcome (.ok inert))).Inert call.key slot)
    (herror : ∀ slot error, (RetryLabel.mk call (outcome (.error error))).Inert call.key slot)
    (hok : ∀ result, (outcome (.ok result)).is_error = false)
    (hbody : ∀ slot, slot.session_id = call.session_id → slot.last_ms ≤ now_ms →
      SlotEffect call.key slot ⟨call, outcome (.ok (body slot).1)⟩ (body slot).2) :
    StepEffect self ⟨call, outcome (self.with_slot call.key call.session_id now_ms inert body).1⟩
      (self.with_slot call.key call.session_id now_ms inert body).2 := by
  obtain ⟨hnone, hresult⟩ | ⟨slot, hslot, hid, ⟨-, hresult⟩ | ⟨hclock, hresult⟩⟩ :=
    self.with_slot_cases call.key call.session_id now_ms inert body
  · rw [hresult]
    exact .ignored (fun slot hslot => hstale slot (hnone slot hslot)) (hkept _)
  · rw [hresult]
    exact .ignored (fun slot _ => herror slot _) (hkept _)
  · rw [hresult]
    exact .moved hslot hid (hok _) (hbody slot hid hclock)

theorem run_effect (self : ReconnectScheduler) (call : RetryCall) :
    StepEffect self ⟨call, (call.run self).1⟩ (call.run self).2 := by
  cases call with
  | schedule_loss key session_id now_ms =>
    rw [RetryCall.run]
    obtain ⟨result, hresult, hnot⟩ | ⟨hfree, hresult⟩ := self.schedule_loss_cases key session_id now_ms
    · rw [hresult]
      refine .ignored (fun slot _ => ⟨?_, rfl, rfl, fun _ => rfl⟩) rfl
      cases result with
      | error error => rfl
      | ok done =>
        cases done with
        | false => rfl
        | true => exact absurd rfl hnot
    · rw [hresult]
      exact .scheduled hfree rfl
  | take_due key session_id now_ms =>
    refine with_slot_effect (fun _ => rfl) (fun _ _ => ⟨rfl, rfl, rfl, fun _ => rfl⟩)
      (fun _ _ => ⟨rfl, rfl, rfl, fun _ => rfl⟩) (fun _ => rfl) ?_
    rintro slot rfl hclock
    exact RetrySlot.take_due_effect hclock
  | take_expired_attempt key session_id now_ms =>
    refine with_slot_effect (fun _ => rfl) (fun _ _ => ⟨rfl, rfl, rfl, fun _ => rfl⟩)
      (fun _ _ => ⟨rfl, rfl, rfl, fun _ => rfl⟩) (fun _ => rfl) ?_
    rintro slot rfl hclock
    exact RetrySlot.take_expired_attempt_effect hclock
  | attempt_failed key session_id now_ms =>
    refine with_slot_effect (fun _ => rfl) (fun slot hid => ⟨rfl, rfl, rfl, fun _ => ?_⟩)
      (fun _ _ => ⟨rfl, rfl, rfl, fun _ => rfl⟩) (fun _ => rfl) ?_
    · simpa [RetryLabel.fails, RetryCall.session_id] using fun _ => Ne.symm hid
    · rintro slot rfl hclock
      exact RetrySlot.attempt_failed_effect hclock
  | cancel_if_current key session_id =>
    rw [RetryCall.run]
    obtain ⟨slot, hslot, hid, hresult⟩ | ⟨-, hresult⟩ := self.cancel_if_current_cases key session_id
    · rw [hresult]
      exact .removed hslot hid rfl
    · rw [hresult]
      exact .ignored (fun _ _ => ⟨rfl, rfl, rfl, fun _ => rfl⟩) rfl

theorem effect_of_step (hstep : RetryStep self label next) : StepEffect self label next := by
  have heffect := run_effect self label.call
  rw [show label.call.run self = (label.outcome, next) from hstep] at heffect
  exact heffect

/-- The slots of other peers are left alone. -/
theorem slots_of_ne (hstep : RetryStep self label next) (hkey : label.call.key ≠ key) :
    next.slots[key]? = self.slots[key]? := by
  cases effect_of_step hstep with
  | ignored => rfl
  | scheduled | moved => rw [Ordered.getElem?_insert_eq, if_neg hkey]
  | removed => rw [Ordered.getElem?_erase_eq, if_neg hkey]

theorem slot_effect (hslot : self.slots[key]? = some slot) (hstep : RetryStep self label next)
    (hkept : label.removes key = false) : ∃ slot', next.slots[key]? = some slot' ∧ SlotEffect key slot label slot' := by
  by_cases hkey : label.call.key = key
  · subst hkey
    cases effect_of_step hstep with
    | ignored hinert => exact ⟨slot, hslot, .passed le_rfl (hinert slot hslot)⟩
    | scheduled hfree => cases hslot.symm.trans hfree
    | moved hcurrent _ _ heffect =>
      obtain rfl := Option.some.inj (hslot.symm.trans hcurrent)
      exact ⟨_, by rw [Ordered.getElem?_insert_eq, if_pos rfl], heffect⟩
    | removed _ _ hlabel =>
      rw [hlabel] at hkept
      simp [removes, RetryCall.key] at hkept
  · exact ⟨slot, (slots_of_ne hstep hkey).trans hslot, .passed le_rfl (inert_of_ne hkey slot)⟩

/-- A slot that is there after a call was there before, unless its loss was just scheduled. -/
theorem slot_origin (hstep : RetryStep self label next) (hslot' : next.slots[key]? = some slot') :
    (∃ slot, self.slots[key]? = some slot ∧ SlotEffect key slot label slot') ∨
      (self.slots[key]? = none ∧ ∃ session_id now_ms,
        label = ⟨.schedule_loss key session_id now_ms, .flag (.ok true)⟩ ∧ slot' = .scheduled session_id now_ms) := by
  by_cases hkey : label.call.key = key
  · subst hkey
    cases effect_of_step hstep with
    | ignored hinert => exact .inl ⟨slot', hslot', .passed le_rfl (hinert slot' hslot')⟩
    | scheduled hfree hlabel =>
      rw [Ordered.getElem?_insert_eq, if_pos rfl] at hslot'
      exact .inr ⟨hfree, _, _, hlabel, (Option.some.inj hslot').symm⟩
    | moved hslot _ _ heffect =>
      rw [Ordered.getElem?_insert_eq, if_pos rfl] at hslot'
      obtain rfl := Option.some.inj hslot'
      exact .inl ⟨_, hslot, heffect⟩
    | removed =>
      rw [Ordered.getElem?_erase_eq, if_pos rfl] at hslot'
      cases hslot'
  · refine .inl ⟨slot', (slots_of_ne hstep hkey).symm.trans hslot', .passed le_rfl ?_⟩
    exact inert_of_ne hkey slot'

/-- A call about another generation, or one that returns an error. -/
theorem step_unchanged (hstep : RetryStep self label next)
    (h : label.call.Stale self ∨ label.outcome.is_error = true) : next = self := by
  cases effect_of_step hstep with
  | ignored => rfl
  | scheduled hfree hlabel =>
    obtain hstale | herror := h
    · exact absurd (congrArg call hlabel) (hstale.2 hfree _)
    · rw [hlabel] at herror
      cases herror
  | moved hslot hid hok =>
    obtain hstale | herror := h
    · exact absurd hid (hstale.1 _ hslot)
    · cases hok.symm.trans herror
  | removed hslot hid hlabel =>
    obtain hstale | herror := h
    · exact absurd hid (hstale.1 _ hslot)
    · rw [hlabel] at herror
      cases herror

theorem step_of_schedule_loss {session_id : SessionId} {now_ms : Nat}
    (hstep : RetryStep self ⟨.schedule_loss key session_id now_ms, .flag (.ok true)⟩ next) :
    self.slots[key]? = none ∧ next.slots[key]? = some (.scheduled session_id now_ms) := by
  have houtcome : RetryOutcome.flag (self.schedule_loss key session_id now_ms).1 = .flag (.ok true) :=
    congrArg Prod.fst hstep
  have hnext : (self.schedule_loss key session_id now_ms).2 = next := congrArg Prod.snd hstep
  obtain ⟨result, hresult, hnot⟩ | ⟨hfree, hresult⟩ := self.schedule_loss_cases key session_id now_ms
  · rw [hresult] at houtcome
    exact absurd (RetryOutcome.flag.inj houtcome) hnot
  · rw [hresult] at hnext
    subst hnext
    exact ⟨hfree, by simp⟩

end ReconnectScheduler

end blueroute_protocol.session
