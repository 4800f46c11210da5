import BlueRoute.Protocol.Control

namespace blueroute_protocol.session_writer

open blueroute control Fallible

/-- Local sequence allocation after `Hello` and `HelloAck`, which took the numbers 1 and 2. -/
structure SessionControlWriter where
  network : NetworkId
  local_ : NodeId
  exporter_session_id : Vector UInt8 16
  next_sequence : UInt64
  closed : Bool
  poisoned : Bool
deriving DecidableEq

inductive SessionWriteError where
  | InvalidSession
  | AfterGoodbye
  | SequenceExhausted
  | Encode (error : ControlFrameError)
  | Poisoned
deriving DecidableEq

namespace SessionControlWriter

def after_verified_hello (network : NetworkId) (local_ peer : NodeId) (exporter_session_id : Vector UInt8 16) :
    Except SessionWriteError SessionControlWriter :=
  if network = .filled 0 ∨ local_ = .filled 0 ∨ peer = .filled 0 ∨ local_ = peer ∨
      exporter_session_id = Vector.replicate 16 0 then
    .error .InvalidSession
  else
    .ok { network, local_, exporter_session_id, next_sequence := 3, closed := false, poisoned := false }

/-- The frame that a message goes out in. -/
def envelope (self : SessionControlWriter) (message : ControlMessage) : ControlEnvelope :=
  { version := CONTROL_VERSION
    network := self.network
    sender := self.local_
    session_id := self.exporter_session_id
    sequence := self.next_sequence
    message }

def encode (serde : Serde) (self : SessionControlWriter) (message : ControlMessage) :
    Except SessionWriteError (List UInt8) × SessionControlWriter :=
  if self.poisoned = true then (.error .Poisoned, self)
  else if self.closed = true then (.error .AfterGoodbye, self)
  -- a counter that would roll over is refused
  else if self.next_sequence.toNat + 1 ≥ 2 ^ 64 then (.error .SequenceExhausted, { self with poisoned := true })
  else match encode_control_frame serde (self.envelope message) with
    | .error error => (.error (.Encode error), { self with poisoned := true })
    | .ok encoded =>
      (.ok encoded, { self with
        next_sequence := self.next_sequence + 1
        closed := self.closed || message == .Goodbye })

def heartbeat (serde : Serde) (self : SessionControlWriter) :
    Except SessionWriteError (List UInt8) × SessionControlWriter :=
  self.encode serde .Heartbeat

def goodbye (serde : Serde) (self : SessionControlWriter) :
    Except SessionWriteError (List UInt8) × SessionControlWriter :=
  self.encode serde .Goodbye

end SessionControlWriter

inductive WriterCall where
  | heartbeat
  | goodbye
deriving DecidableEq

namespace WriterCall

def message : WriterCall → ControlMessage
  | heartbeat => .Heartbeat
  | goodbye => .Goodbye

def perform (serde : Serde) (writer : SessionControlWriter) :
    WriterCall → Except SessionWriteError (List UInt8) × SessionControlWriter
  | heartbeat => writer.heartbeat serde
  | goodbye => writer.goodbye serde

theorem perform_eq (serde : Serde) (writer : SessionControlWriter) (request : WriterCall) :
    request.perform serde writer = writer.encode serde request.message := by
  cases request <;> rfl

/-- The requests to the first goodbye. -/
def up_to_goodbye : List WriterCall → List WriterCall
  | [] => []
  | heartbeat :: rest => heartbeat :: up_to_goodbye rest
  | goodbye :: _ => [goodbye]

end WriterCall

/-- The messages that a writer was asked to send and has returned a frame for, with these frames. -/
def written (serde : Serde) (writer : SessionControlWriter) : List WriterCall → List (ControlMessage × List UInt8)
  | [] => []
  | request :: rest =>
    match request.perform serde writer with
    | (.ok frame, next) => (request.message, frame) :: written serde next rest
    | (.error _, next) => written serde next rest

variable {serde : Serde} {writer next : SessionControlWriter} {message : ControlMessage}

/-- What a writer has done when it returns a frame. -/
theorem encode_eq_ok {frame : List UInt8} (h : writer.encode serde message = (.ok frame, next)) :
    writer.closed = false ∧ writer.next_sequence.toNat + 1 < 2 ^ 64 ∧
      encode_control_frame serde (writer.envelope message) = .ok frame ∧
      next = { writer with next_sequence := writer.next_sequence + 1, closed := message == .Goodbye } := by
  rw [SessionControlWriter.encode] at h
  split_ifs at h with hpoisoned hclosed hexhausted
  · cases h
  · cases h
  · cases h
  · rw [Bool.not_eq_true] at hclosed
    rw [hclosed, Bool.false_or] at h
    cases hencode : encode_control_frame serde (writer.envelope message) with
    | error error =>
      rw [hencode] at h
      cases h
    | ok encoded =>
      rw [hencode] at h
      cases h
      exact ⟨hclosed, not_le.mp hexhausted, rfl, rfl⟩

/-- A refused message changes nothing but that the writer may be poisoned. -/
theorem encode_eq_error {error : SessionWriteError} (h : writer.encode serde message = (.error error, next)) :
    next = { writer with poisoned := next.poisoned } := by
  rw [SessionControlWriter.encode] at h
  split_ifs at h with hpoisoned hclosed hexhausted
  · cases h
    rfl
  · cases h
    rfl
  · cases h
    rfl
  · cases hencode : encode_control_frame serde (writer.envelope message) with
    | error error =>
      rw [hencode] at h
      cases h
      rfl
    | ok encoded =>
      rw [hencode] at h
      cases h

theorem goodbye_closed {frame : List UInt8} (h : (writer.goodbye serde).1 = .ok frame) :
    (writer.goodbye serde).2.closed = true := by
  have hencode : writer.encode serde .Goodbye = (.ok frame, (writer.goodbye serde).2) := Prod.ext h rfl
  obtain ⟨-, -, -, hnext⟩ := encode_eq_ok hencode
  rw [hnext]
  rfl

theorem written_of_closed (hclosed : writer.closed = true) (requests : List WriterCall) :
    written serde writer requests = [] := by
  induction requests generalizing writer with
  | nil => rfl
  | cons request rest ih =>
    rw [written, WriterCall.perform_eq]
    cases hencode : writer.encode serde request.message with
    | mk result next =>
      cases result with
      | ok frame =>
        have hopen := (encode_eq_ok hencode).1
        rw [hclosed] at hopen
        cases hopen
      | error error =>
        refine ih ?_
        rw [encode_eq_error hencode]
        exact hclosed

/-- A writer that is in order returns the frame of a message. -/
theorem encode_of_frame (message : ControlMessage) {frame : List UInt8} (hsound : writer.poisoned = false)
    (hopen : writer.closed = false) (hroom : writer.next_sequence.toNat + 1 < 2 ^ 64)
    (hframe : encode_control_frame serde (writer.envelope message) = .ok frame) :
    writer.encode serde message =
      (.ok frame, { writer with next_sequence := writer.next_sequence + 1, closed := message == .Goodbye }) := by
  rw [SessionControlWriter.encode, if_neg (by simp [hsound]), if_neg (by simp [hopen]),
    if_neg (not_le.mpr hroom), hframe, hopen, Bool.false_or]

theorem written_cons {request : WriterCall} {frame : List UInt8}
    (h : writer.encode serde request.message = (.ok frame, next)) (rest : List WriterCall) :
    written serde writer (request :: rest) = (request.message, frame) :: written serde next rest := by
  rw [written, WriterCall.perform_eq, h]

/-- As long as its messages have frames and there are numbers, a writer returns all of them to the first goodbye. -/
theorem written_of_frames (requests : List WriterCall) (hsound : writer.poisoned = false)
    (hopen : writer.closed = false) (hroom : writer.next_sequence.toNat + requests.length < 2 ^ 64)
    (hframes : ∀ n < requests.length, ∀ request : WriterCall, ∃ frame, encode_control_frame serde
      { writer.envelope request.message with sequence := .ofNat (writer.next_sequence.toNat + n) } = .ok frame) :
    (written serde writer requests).map Prod.fst = (WriterCall.up_to_goodbye requests).map WriterCall.message := by
  induction requests generalizing writer with
  | nil => rfl
  | cons request rest ih =>
    rw [List.length_cons] at hroom hframes
    obtain ⟨frame, hframe⟩ := hframes 0 (Nat.succ_pos _) request
    rw [Nat.add_zero, UInt64.ofNat_toNat] at hframe
    have hencode := encode_of_frame request.message hsound hopen (by omega) hframe
    rw [written_cons hencode, List.map_cons]
    cases request with
    | heartbeat =>
      have hnext : (writer.next_sequence + 1).toNat = writer.next_sequence.toNat + 1 := by
        rw [UInt64.toNat_add, UInt64.toNat_one, Nat.mod_eq_of_lt (by omega)]
      refine congrArg (ControlMessage.Heartbeat :: ·) (ih hsound rfl (by dsimp only; omega) fun n hn other => ?_)
      obtain ⟨later, hlater⟩ := hframes (n + 1) (Nat.succ_lt_succ hn) other
      rw [show writer.next_sequence.toNat + (n + 1) = (writer.next_sequence + 1).toNat + n by omega] at hlater
      exact ⟨later, hlater⟩
    | goodbye => rw [written_of_closed rfl]; rfl

end blueroute_protocol.session_writer
