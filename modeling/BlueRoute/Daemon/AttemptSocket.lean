import BlueRoute.Base.Runs
import BlueRoute.Protocol.Session.Reconnect

namespace blueroute_daemon.attempt_socket

open blueroute blueroute_protocol.session Ordered

inductive WatchdogResult where
  | NotExpired
  | Cancelled (next_retry_ms : Option Nat)

/-- A single owner for in-flight handshake sockets and retry generations. -/
structure PendingHandshakeSockets (TcpStream : Type) where
  scheduler : ReconnectScheduler
  sockets : Map PeerSessionKey (SessionId × TcpStream)

namespace PendingHandshakeSockets

variable {TcpStream : Type}

def new : PendingHandshakeSockets TcpStream := { scheduler := .new, sockets := ∅ }

def schedule_loss (self : PendingHandshakeSockets TcpStream) (key : PeerSessionKey) (generation : SessionId)
    (now_ms : Nat) : Except ReconnectScheduleError Bool × PendingHandshakeSockets TcpStream :=
  let (result, scheduler) := self.scheduler.schedule_loss key generation now_ms
  (result, { self with scheduler })

variable (self : PendingHandshakeSockets TcpStream)

/-- Takes ownership of a connected socket only when its retry is due. -/
def begin (key : PeerSessionKey) (generation : SessionId) (now_ms : Nat) (socket : TcpStream) :
    Except ReconnectScheduleError Bool × PendingHandshakeSockets TcpStream :=
  if key ∈ self.sockets then (.ok false, self)
  else match self.scheduler.take_due key generation now_ms with
    | (.error error, scheduler) => (.error error, { self with scheduler })
    | (.ok false, scheduler) => (.ok false, { self with scheduler })
    | (.ok true, scheduler) => (.ok true, { scheduler, sockets := self.sockets.insert key (generation, socket) })

/-- The socket is shut down and dropped with its entry. -/
def close_if_current (key : PeerSessionKey) (generation : SessionId) : Bool × PendingHandshakeSockets TcpStream :=
  if (self.sockets[key]?).all (fun current => current.1 ≠ generation) = true then (false, self)
  else (true, { self with sockets := self.sockets.erase key })

/-- The generation is retired without another attempt. -/
def retire (key : PeerSessionKey) (generation : SessionId) : PendingHandshakeSockets TcpStream :=
  { self with scheduler := (self.scheduler.cancel_if_current key generation).2 }

/-- Cancel exactly one expired handshake and close its actual socket. -/
def watchdog (key : PeerSessionKey) (generation : SessionId) (now_ms : Nat) :
    Except ReconnectScheduleError WatchdogResult × PendingHandshakeSockets TcpStream :=
  match self.scheduler.take_expired_attempt key generation now_ms with
  | (.error error, scheduler) =>
    -- a regressed callback must not strand a socket or leave its generation in flight
    (.error error, ({ self with scheduler }.close_if_current key generation).2.retire key generation)
  | (.ok false, scheduler) => (.ok .NotExpired, { self with scheduler })
  | (.ok true, scheduler) =>
    let closed := ({ self with scheduler }.close_if_current key generation).2
    match closed.scheduler.attempt_failed key generation now_ms with
    | (.error error, scheduler) => (.error error, { closed with scheduler })
    | (.ok next_retry_ms, scheduler) => (.ok (.Cancelled next_retry_ms), { closed with scheduler })

/-- The next attempt after the socket was closed. A clock error retires the generation. -/
def retry (key : PeerSessionKey) (generation : SessionId) (now_ms : Nat) :
    Except ReconnectScheduleError (Option Nat) × PendingHandshakeSockets TcpStream :=
  match self.scheduler.attempt_failed key generation now_ms with
  | (.ok next_retry_ms, scheduler) => (.ok next_retry_ms, { self with scheduler })
  | (.error error, scheduler) => (.error error, { self with scheduler }.retire key generation)

/-- An ordinary failure. A stale completion cannot close a newer generation. -/
def failed (key : PeerSessionKey) (generation : SessionId) (now_ms : Nat) :
    Except ReconnectScheduleError (Option Nat) × PendingHandshakeSockets TcpStream :=
  match self.close_if_current key generation with
  | (false, self) => (.ok none, self)
  | (true, self) => self.retry key generation now_ms

/-- The same, retrying only transient transport failures. -/
def failed_with_kind (key : PeerSessionKey) (generation : SessionId) (now_ms : Nat) (kind : ErrorKind) :
    Except ReconnectScheduleError (Option Nat) × PendingHandshakeSockets TcpStream :=
  match self.close_if_current key generation with
  | (false, self) => (.ok none, self)
  | (true, self) =>
    if kind.is_retryable_transport_failure = true then self.retry key generation now_ms
    else (.ok none, self.retire key generation)

/-- Explicit shutdown or revocation. -/
def cancel (key : PeerSessionKey) (generation : SessionId) : Bool × PendingHandshakeSockets TcpStream :=
  let closed := (self.close_if_current key generation).2
  let (done, scheduler) := closed.scheduler.cancel_if_current key generation
  (done, { closed with scheduler })

end PendingHandshakeSockets

open PendingHandshakeSockets

inductive SocketCall (TcpStream : Type) where
  | schedule_loss (key : PeerSessionKey) (generation : SessionId) (now_ms : Nat)
  | begin (key : PeerSessionKey) (generation : SessionId) (now_ms : Nat) (socket : TcpStream)
  | watchdog (key : PeerSessionKey) (generation : SessionId) (now_ms : Nat)
  | failed (key : PeerSessionKey) (generation : SessionId) (now_ms : Nat)
  | failed_with_kind (key : PeerSessionKey) (generation : SessionId) (now_ms : Nat) (kind : ErrorKind)
  | cancel (key : PeerSessionKey) (generation : SessionId)

inductive SocketOutcome where
  | flag (result : Except ReconnectScheduleError Bool)
  | watched (result : Except ReconnectScheduleError WatchdogResult)
  | next_retry (result : Except ReconnectScheduleError (Option Nat))
  | cancelled (done : Bool)

variable {TcpStream : Type}

def SocketCall.run (pending : PendingHandshakeSockets TcpStream) :
    SocketCall TcpStream → SocketOutcome × PendingHandshakeSockets TcpStream
  | schedule_loss key generation now_ms =>
    let (result, next) := pending.schedule_loss key generation now_ms
    (.flag result, next)
  | begin key generation now_ms socket =>
    let (result, next) := pending.begin key generation now_ms socket
    (.flag result, next)
  | watchdog key generation now_ms =>
    let (result, next) := pending.watchdog key generation now_ms
    (.watched result, next)
  | failed key generation now_ms =>
    let (result, next) := pending.failed key generation now_ms
    (.next_retry result, next)
  | failed_with_kind key generation now_ms kind =>
    let (result, next) := pending.failed_with_kind key generation now_ms kind
    (.next_retry result, next)
  | cancel key generation =>
    let (done, next) := pending.cancel key generation
    (.cancelled done, next)

/-- A call with its result. -/
structure SocketLabel (TcpStream : Type) where
  call : SocketCall TcpStream
  outcome : SocketOutcome

def SocketStep (pending : PendingHandshakeSockets TcpStream) (label : SocketLabel TcpStream)
    (next : PendingHandshakeSockets TcpStream) : Prop :=
  label.call.run pending = (label.outcome, next)

/-- The generation of which an attempt is in flight for a peer. -/
def in_flight (scheduler : ReconnectScheduler) : PeerSessionKey → Option SessionId :=
  view (fun slot => if slot.in_flight = true then some slot.session_id else none) scheduler.slots

/-- The generation for which a socket is held for a peer. -/
def held (pending : PendingHandshakeSockets TcpStream) : PeerSessionKey → Option SessionId :=
  view (fun current => some current.1) pending.sockets

/-- The generations without one of a peer. -/
def without (generations : PeerSessionKey → Option SessionId) (key : PeerSessionKey) (generation : SessionId) :
    PeerSessionKey → Option SessionId :=
  if generations key = some generation then Function.update generations key none else generations

section Scheduler

variable {scheduler : ReconnectScheduler} {key : PeerSessionKey} {generation : SessionId} {now_ms : Nat}

theorem in_flight_of_slot {slot : RetrySlot} (hslot : scheduler.slots[key]? = some slot) :
    in_flight scheduler key = if slot.in_flight = true then some slot.session_id else none :=
  view_of_some hslot

/-- A slot that is not in flight, or of another generation. -/
theorem without_of_ne {generations : PeerSessionKey → Option SessionId} (h : generations key ≠ some generation) :
    without generations key generation = generations :=
  if_neg h

theorem in_flight_ne (h : ∀ slot, scheduler.slots[key]? = some slot → slot.session_id ≠ generation) :
    in_flight scheduler key ≠ some generation := by
  cases hslot : scheduler.slots[key]? with
  | none => simp [in_flight, view, hslot]
  | some slot =>
    rw [in_flight_of_slot hslot]
    split_ifs
    · simpa using h slot hslot
    · simp

theorem in_flight_schedule_loss :
    in_flight (scheduler.schedule_loss key generation now_ms).2 = in_flight scheduler := by
  obtain ⟨result, hresult, -⟩ | ⟨hfree, hresult⟩ := scheduler.schedule_loss_cases key generation now_ms
  · rw [hresult]
  · rw [hresult, in_flight, view_insert]
    refine Function.update_eq_self_iff.mpr ?_
    simp [view, hfree, RetrySlot.scheduled]

theorem in_flight_cancel_if_current :
    in_flight (scheduler.cancel_if_current key generation).2 = without (in_flight scheduler) key generation := by
  obtain ⟨slot, hslot, hid, hresult⟩ | ⟨hstale, hresult⟩ := scheduler.cancel_if_current_cases key generation
  · rw [hresult, in_flight, view_erase, without, in_flight_of_slot hslot, hid]
    split_ifs with hflight hsame hsame
    · rfl
    · exact absurd rfl hsame
    · cases hsame
    · refine Function.update_eq_self_iff.mpr ?_
      exact ((in_flight_of_slot hslot).trans (if_neg hflight)).symm
  · rw [hresult, without_of_ne (in_flight_ne hstale)]

/-- A slot that is put back with the same attempt in flight. -/
theorem in_flight_insert_same {slot slot' : RetrySlot} (hslot : scheduler.slots[key]? = some slot)
    (hid : slot'.session_id = slot.session_id) (hflight : slot'.in_flight = slot.in_flight) :
    in_flight { slots := scheduler.slots.insert key slot' } = in_flight scheduler := by
  rw [in_flight, view_insert, hid, hflight]
  exact Function.update_eq_self_iff.mpr (in_flight_of_slot hslot).symm

theorem in_flight_take_due (scheduler : ReconnectScheduler) (key : PeerSessionKey) (generation : SessionId)
    (now_ms : Nat) :
    ((scheduler.take_due key generation now_ms).1 = .ok true ∧ in_flight scheduler key = none ∧
      in_flight (scheduler.take_due key generation now_ms).2 =
        Function.update (in_flight scheduler) key (some generation)) ∨
    ((scheduler.take_due key generation now_ms).1 ≠ .ok true ∧
      in_flight (scheduler.take_due key generation now_ms).2 = in_flight scheduler) := by
  unfold ReconnectScheduler.take_due
  obtain ⟨-, hresult⟩ | ⟨slot, hslot, hid, ⟨-, hresult⟩ | ⟨-, hresult⟩⟩ :=
    scheduler.with_slot_cases key generation now_ms false fun slot => slot.take_due now_ms
  · rw [hresult]
    exact .inr ⟨by simp, rfl⟩
  · rw [hresult]
    exact .inr ⟨by simp, rfl⟩
  · rw [hresult, RetrySlot.take_due]
    dsimp only
    split_ifs with hbusy
    · exact .inr ⟨by simp, in_flight_insert_same hslot rfl rfl⟩
    · refine .inl ⟨rfl, (in_flight_of_slot hslot).trans (if_neg fun hflight => hbusy (.inl hflight)), ?_⟩
      rw [in_flight, view_insert, if_pos rfl, hid]
      rfl

/-- An overdue attempt stays in flight, at the time of the call. -/
theorem in_flight_take_expired_attempt (scheduler : ReconnectScheduler) (key : PeerSessionKey)
    (generation : SessionId) (now_ms : Nat) :
    in_flight (scheduler.take_expired_attempt key generation now_ms).2 = in_flight scheduler ∧
      ((scheduler.take_expired_attempt key generation now_ms).1 = .ok true →
        ∃ slot, (scheduler.take_expired_attempt key generation now_ms).2.slots[key]? = some slot ∧
          slot.session_id = generation ∧ slot.last_ms = now_ms) := by
  unfold ReconnectScheduler.take_expired_attempt
  obtain ⟨-, hresult⟩ | ⟨slot, hslot, hid, ⟨-, hresult⟩ | ⟨-, hresult⟩⟩ :=
    scheduler.with_slot_cases key generation now_ms false fun slot => slot.take_expired_attempt now_ms
  · rw [hresult]
    exact ⟨rfl, nofun⟩
  · rw [hresult]
    exact ⟨rfl, nofun⟩
  · rw [hresult, RetrySlot.take_expired_attempt]
    dsimp only
    split_ifs with hidle
    · exact ⟨in_flight_insert_same hslot rfl rfl, nofun⟩
    · refine ⟨in_flight_insert_same hslot rfl rfl, fun _ => ?_⟩
      refine ⟨{ slot with last_ms := now_ms, cancel_requested := true }, ?_, hid, rfl⟩
      rw [getElem?_insert_eq, if_pos rfl]

/-- A failed attempt is no longer in flight, unless the clock has gone back. -/
theorem in_flight_attempt_failed (scheduler : ReconnectScheduler) (key : PeerSessionKey) (generation : SessionId)
    (now_ms : Nat) :
    ((∃ next_retry_ms, (scheduler.attempt_failed key generation now_ms).1 = .ok next_retry_ms) ∧
      in_flight (scheduler.attempt_failed key generation now_ms).2 = without (in_flight scheduler) key generation) ∨
    ((∃ slot, scheduler.slots[key]? = some slot ∧ slot.session_id = generation ∧ now_ms < slot.last_ms) ∧
      scheduler.attempt_failed key generation now_ms = (.error .ClockRegression, scheduler)) := by
  unfold ReconnectScheduler.attempt_failed
  obtain ⟨hstale, hresult⟩ | ⟨slot, hslot, hid, ⟨hclock, hresult⟩ | ⟨-, hresult⟩⟩ :=
    scheduler.with_slot_cases key generation now_ms none fun slot => slot.attempt_failed now_ms
  · rw [hresult]
    exact .inl ⟨⟨none, rfl⟩, (without_of_ne (in_flight_ne hstale)).symm⟩
  · exact .inr ⟨⟨slot, hslot, hid, hclock⟩, hresult⟩
  · rw [hresult, RetrySlot.attempt_failed]
    refine .inl ⟨⟨_, rfl⟩, ?_⟩
    split_ifs with hidle
    · rw [in_flight_insert_same hslot rfl rfl, without_of_ne]
      rw [in_flight_of_slot hslot, hidle]
      simp
    · have hcurrent : in_flight scheduler key = some generation := by
        rw [in_flight_of_slot hslot, if_pos (by simpa using hidle), hid]
      rw [without, if_pos hcurrent, in_flight, view_insert]
      rfl

end Scheduler

section Sockets

variable {pending next : PendingHandshakeSockets TcpStream} {key : PeerSessionKey} {generation : SessionId}
    {now_ms : Nat}

theorem close_if_current_spec (pending : PendingHandshakeSockets TcpStream) (key : PeerSessionKey)
    (generation : SessionId) :
    (pending.close_if_current key generation = (false, pending) ∧ held pending key ≠ some generation) ∨
      (held pending key = some generation ∧ ∃ sockets, pending.close_if_current key generation =
        (true, { pending with sockets }) ∧
        held { pending with sockets } = Function.update (held pending) key none) := by
  unfold close_if_current
  split_ifs with hstale
  · refine .inl ⟨rfl, ?_⟩
    cases hsocket : pending.sockets[key]? with
    | none => simp [held, view, hsocket]
    | some current =>
      rw [hsocket] at hstale
      simpa [held, view, hsocket] using hstale
  · refine .inr ⟨?_, _, rfl, view_erase _ _ _⟩
    cases hsocket : pending.sockets[key]? with
    | none => simp [hsocket] at hstale
    | some current =>
      rw [hsocket] at hstale
      simpa [held, view, hsocket] using hstale

/-- The socket of a generation is closed, if there is one. -/
theorem close_if_current_held (pending : PendingHandshakeSockets TcpStream) (key : PeerSessionKey)
    (generation : SessionId) :
    held (pending.close_if_current key generation).2 = without (held pending) key generation ∧
      (pending.close_if_current key generation).2.scheduler = pending.scheduler := by
  obtain ⟨hclose, hne⟩ | ⟨hheld, sockets, hclose, hsockets⟩ := close_if_current_spec pending key generation
  · rw [hclose]
    exact ⟨(without_of_ne hne).symm, rfl⟩
  · rw [hclose, without, if_pos hheld]
    exact ⟨hsockets, rfl⟩

/-- The sockets that are held are those of the attempts in flight. -/
def Matched (pending : PendingHandshakeSockets TcpStream) : Prop :=
  held pending = in_flight pending.scheduler

theorem matched_retire (h : held pending = without (in_flight pending.scheduler) key generation) :
    Matched (pending.retire key generation) :=
  h.trans in_flight_cancel_if_current.symm

/-- After the socket was closed the attempt is taken out of flight, by a failure or by retiring it. -/
theorem matched_retry (h : held pending = without (in_flight pending.scheduler) key generation) :
    Matched (pending.retry key generation now_ms).2 := by
  unfold retry
  obtain ⟨⟨next_retry_ms, hresult⟩, hflight⟩ | ⟨-, hresult⟩ :=
    in_flight_attempt_failed pending.scheduler key generation now_ms
  · generalize pending.scheduler.attempt_failed key generation now_ms = failed at hresult hflight
    obtain ⟨result, scheduler⟩ := failed
    obtain rfl : result = .ok next_retry_ms := hresult
    exact h.trans hflight.symm
  · rw [hresult]
    exact matched_retire h

theorem Matched.begin (h : Matched pending) (socket : TcpStream) :
    Matched (pending.begin key generation now_ms socket).2 := by
  unfold PendingHandshakeSockets.begin
  split_ifs with hheld
  · exact h
  · have hdue := in_flight_take_due pending.scheduler key generation now_ms
    generalize pending.scheduler.take_due key generation now_ms = due at hdue
    obtain ⟨result, scheduler⟩ := due
    obtain ⟨rfl, -, hflight⟩ | ⟨hnot, hflight⟩ : (result = .ok true ∧ _ ∧ _) ∨ (result ≠ .ok true ∧ _) := hdue
    · rw [Matched, held, view_insert, hflight, ← h]
      rfl
    · cases result with
      | error error => exact h.trans hflight.symm
      | ok done =>
        cases done with
        | false => exact h.trans hflight.symm
        | true => exact absurd rfl hnot

theorem Matched.watchdog (h : Matched pending) : Matched (pending.watchdog key generation now_ms).2 := by
  unfold PendingHandshakeSockets.watchdog
  have hexpired := in_flight_take_expired_attempt pending.scheduler key generation now_ms
  generalize pending.scheduler.take_expired_attempt key generation now_ms = expired at hexpired
  obtain ⟨result, scheduler⟩ := expired
  obtain ⟨hflight, hslot⟩ := hexpired
  obtain ⟨hclosed, hsame⟩ := close_if_current_held { pending with scheduler } key generation
  have hwithout : held ({ pending with scheduler }.close_if_current key generation).2 =
      without (in_flight scheduler) key generation := by
    rw [hclosed, hflight, ← h]
    rfl
  cases result with
  | error error => exact matched_retire (hsame ▸ hwithout)
  | ok done =>
    cases done with
    | false => exact h.trans hflight.symm
    | true =>
      -- the clock of the slot is the time of this call, so that the failure is accepted
      obtain ⟨slot, hslot, hid, hlast⟩ := hslot rfl
      dsimp only at hslot ⊢
      rw [hsame]
      obtain ⟨⟨next_retry_ms, hresult⟩, hfailed⟩ | ⟨⟨current, hcurrent, -, hclock⟩, -⟩ :=
        in_flight_attempt_failed scheduler key generation now_ms
      · generalize scheduler.attempt_failed key generation now_ms = failed at hresult hfailed
        obtain ⟨result, last⟩ := failed
        obtain rfl : result = .ok next_retry_ms := hresult
        exact hwithout.trans hfailed.symm
      · obtain rfl := Option.some.inj (hslot.symm.trans hcurrent)
        omega

/-- A failure report closes the socket that is held for its generation, if there is one. -/
theorem Matched.closes (h : Matched pending) (key : PeerSessionKey) (generation : SessionId) :
    pending.close_if_current key generation = (false, pending) ∨
      ∃ closed, pending.close_if_current key generation = (true, closed) ∧
        held closed = without (in_flight closed.scheduler) key generation := by
  obtain ⟨hclose, -⟩ | ⟨hheld, sockets, hclose, hsockets⟩ := close_if_current_spec pending key generation
  · exact .inl hclose
  · refine .inr ⟨_, hclose, ?_⟩
    rw [hsockets, ← h, without, if_pos hheld]

theorem Matched.step {label : SocketLabel TcpStream} (h : Matched pending) (hstep : SocketStep pending label next) :
    Matched next := by
  obtain ⟨call, outcome⟩ := label
  obtain rfl : (call.run pending).2 = next := congrArg Prod.snd hstep
  cases call with
  | schedule_loss key generation now_ms => exact h.trans in_flight_schedule_loss.symm
  | begin key generation now_ms socket => exact h.begin socket
  | watchdog key generation now_ms => exact h.watchdog
  | failed key generation now_ms =>
    rw [SocketCall.run, failed]
    obtain hclose | ⟨closed, hclose, hclosed⟩ := h.closes key generation
    · rw [hclose]
      exact h
    · rw [hclose]
      exact matched_retry hclosed
  | failed_with_kind key generation now_ms kind =>
    rw [SocketCall.run, failed_with_kind]
    obtain hclose | ⟨closed, hclose, hclosed⟩ := h.closes key generation
    · rw [hclose]
      exact h
    · rw [hclose]
      dsimp only
      split_ifs
      · exact matched_retry hclosed
      · exact matched_retire hclosed
  | cancel key generation =>
    obtain ⟨hclosed, hsame⟩ := close_if_current_held pending key generation
    refine matched_retire ?_
    rw [hclosed, hsame, ← h]

/-- A socket is taken only for a peer that has none. -/
theorem begin_of_true {socket : TcpStream} (h : (pending.begin key generation now_ms socket).1 = .ok true) :
    pending.sockets[key]? = none ∧
      (pending.begin key generation now_ms socket).2.sockets[key]? = some (generation, socket) := by
  unfold begin at h ⊢
  split_ifs at h ⊢ with hheld
  · cases h
  · refine ⟨Std.ExtTreeMap.getElem?_eq_none hheld, ?_⟩
    generalize pending.scheduler.take_due key generation now_ms = due at h
    obtain ⟨result, scheduler⟩ := due
    cases result with
    | error error => cases h
    | ok done =>
      cases done with
      | false => cases h
      | true => simp

end Sockets

/-- Any calls with any timestamps. A socket is held for a generation of a peer exactly while an attempt
of that generation is in flight, and a new socket is taken only for a peer that has none. -/
theorem sockets_match_attempts {labels : List (SocketLabel TcpStream)} {pending : PendingHandshakeSockets TcpStream}
    (hrun : Runs.Run SocketStep .new labels pending) :
    (∀ (key : PeerSessionKey) (generation : SessionId), (∃ socket, pending.sockets[key]? = some (generation, socket)) ↔
      ∃ slot : RetrySlot, pending.scheduler.slots[key]? = some slot ∧ slot.session_id = generation ∧
        slot.in_flight = true) ∧
    ∀ key generation now_ms socket next,
      SocketStep pending ⟨.begin key generation now_ms socket, .flag (.ok true)⟩ next →
        pending.sockets[key]? = none ∧ next.sockets[key]? = some (generation, socket) := by
  have hmatched : Matched pending := hrun.invariant Matched (fun _ _ _ h hstep => h.step hstep) rfl
  refine ⟨fun key generation => ?_, fun key generation now_ms socket next hstep => ?_⟩
  · have hheld : held pending key = some generation ↔ ∃ socket, pending.sockets[key]? = some (generation, socket) := by
      simp [held, view, Option.bind_eq_some_iff]
    have hflight : in_flight pending.scheduler key = some generation ↔
        ∃ slot : RetrySlot, pending.scheduler.slots[key]? = some slot ∧ slot.session_id = generation ∧
          slot.in_flight = true := by
      simp [in_flight, view, Option.bind_eq_some_iff, and_comm]
    rw [← hheld, ← hflight, hmatched]
  · have hresult : (pending.begin key generation now_ms socket).1 = .ok true :=
      SocketOutcome.flag.inj (congrArg Prod.fst hstep)
    obtain rfl : (pending.begin key generation now_ms socket).2 = next := congrArg Prod.snd hstep
    exact begin_of_true hresult

namespace sample

def peer : PeerSessionKey := ⟨.filled 1, .filled 2⟩

def generation : SessionId := Vector.replicate 16 3

def calls : List (SocketCall Unit) :=
  [.schedule_loss peer generation 0, .begin peer generation 250 ()]

def run : List (SocketLabel Unit) × PendingHandshakeSockets Unit :=
  Runs.trace .mk SocketCall.run .new calls

end sample

open sample

/-- An attempt that is started with its socket. -/
theorem sockets_match_attempts_sample :
    run.2.sockets[peer]? = some (generation, ()) ∧
      ∃ slot : RetrySlot, run.2.scheduler.slots[peer]? = some slot ∧
        slot.session_id = generation ∧ slot.in_flight = true := by
  have hrun : Runs.Run SocketStep .new run.1 run.2 := .trace (fun _ _ => rfl) _ _
  have hsocket : run.2.sockets[peer]? = some (generation, ()) := by decide
  exact ⟨hsocket, ((sockets_match_attempts hrun).1 peer generation).mp ⟨(), hsocket⟩⟩

end blueroute_daemon.attempt_socket
