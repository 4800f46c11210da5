import BlueRoute.Protocol.ControlStream

namespace blueroute_protocol.session_stream

open blueroute control control_stream Fallible

/-- Context checks for the frames after both hello records. -/
structure SessionControlStream where
  decoder : ControlStreamDecoder
  network : NetworkId
  peer : NodeId
  exporter_session_id : Vector UInt8 16
  last_sequence : UInt64
  closed : Bool
  poisoned : Bool

inductive SessionStreamError where
  | InvalidSession
  | Decode (error : StreamDecodeError)
  | WrongContext
  | Replay
  | UnexpectedHandshake
  | AfterGoodbye
  | UnexpectedEof
  | Poisoned
deriving DecidableEq

namespace SessionControlStream

def after_verified_hello (network : NetworkId) (peer : NodeId) (exporter_session_id : Vector UInt8 16) :
    Except SessionStreamError SessionControlStream :=
  if network = .filled 0 ∨ peer = .filled 0 ∨ exporter_session_id = Vector.replicate 16 0 then
    .error .InvalidSession
  else
    .ok { decoder := .new, network, peer, exporter_session_id, last_sequence := 2, closed := false, poisoned := false }

def reject {T : Type} (self : SessionControlStream) (error : SessionStreamError) :
    Except SessionStreamError T × SessionControlStream :=
  (.error error, { self with poisoned := true })

/-- The loop body of `feed`. A `Goodbye` closes the stream; a handshake message is refused. -/
def check_frame (self : SessionControlStream) (frame : ControlEnvelope) :
    Except SessionStreamError SessionControlStream := do
  reject_if (frame.network ≠ self.network ∨ frame.sender ≠ self.peer ∨ frame.session_id ≠ self.exporter_session_id)
    .WrongContext
  reject_if (frame.sequence ≤ self.last_sequence) .Replay
  reject_if (self.closed = true) .AfterGoodbye
  match frame.message with
  | .Heartbeat => pure { self with last_sequence := frame.sequence }
  | .Goodbye => pure { self with closed := true, last_sequence := frame.sequence }
  | .Hello .. | .HelloAck .. => .error .UnexpectedHandshake

def check_frames (self : SessionControlStream) :
    List ControlEnvelope → Except SessionStreamError Unit × SessionControlStream
  | [] => (.ok (), self)
  | frame :: rest =>
    match self.check_frame frame with
    | .error error => self.reject error
    | .ok next => next.check_frames rest

def feed (serde : Serde) (self : SessionControlStream) (bytes : List UInt8) :
    Except SessionStreamError (List ControlEnvelope) × SessionControlStream :=
  if self.poisoned = true then (.error .Poisoned, self)
  else if self.closed = true then
    if bytes ≠ [] then self.reject .AfterGoodbye else (.ok [], self)
  else match self.decoder.feed serde bytes with
    | (.error error, decoder) => { self with decoder }.reject (.Decode error)
    | (.ok frames, decoder) =>
      match { self with decoder }.check_frames frames with
      | (.error error, next) => (.error error, next)
      | (.ok (), next) =>
        -- nothing may follow a goodbye, not even the start of a header
        if next.closed = true ∧ next.decoder.pending_bytes ≠ 0 then next.reject .AfterGoodbye
        else (.ok frames, next)

def finish (self : SessionControlStream) : Except SessionStreamError Unit × SessionControlStream :=
  if self.poisoned = true then (.error .Poisoned, self)
  else match self.decoder.finish with
    | (.ok (), decoder) =>
      if self.closed = true then (.ok (), { self with decoder, poisoned := true })
      else { self with decoder }.reject .UnexpectedEof
    | (.error error, decoder) => { self with decoder }.reject (.Decode error)

/-- The chunks of a session in order, up to the first that is not accepted. -/
def feed_all (serde : Serde) (self : SessionControlStream) :
    List (List UInt8) → Except SessionStreamError (List ControlEnvelope) × SessionControlStream
  | [] => (.ok [], self)
  | chunk :: rest =>
    match self.feed serde chunk with
    | (.error error, next) => (.error error, next)
    | (.ok frames, next) =>
      match next.feed_all serde rest with
      | (.error error, last) => (.error error, last)
      | (.ok more, last) => (.ok (frames ++ more), last)

variable {self next : SessionControlStream} {frame : ControlEnvelope}

/-- When a frame is accepted, and what it changes. -/
theorem check_frame_eq_ok_iff :
    self.check_frame frame = .ok next ↔
      (frame.network = self.network ∧ frame.sender = self.peer ∧ frame.session_id = self.exporter_session_id) ∧
      self.last_sequence < frame.sequence ∧ self.closed = false ∧
      (frame.message = .Heartbeat ∨ frame.message = .Goodbye) ∧
      next = { self with last_sequence := frame.sequence, closed := frame.message == .Goodbye } := by
  simp only [check_frame, bind_eq_ok_iff, reject_if_eq_ok, not_or, not_not, UInt64.not_le, Bool.not_eq_true,
    exists_const]
  refine and_congr_right fun _ => and_congr_right fun _ => and_congr_right fun hopen => ?_
  cases hmessage : frame.message with
  | Heartbeat =>
    have hheartbeat : (ControlMessage.Heartbeat == ControlMessage.Goodbye) = false := rfl
    simp [hheartbeat, hopen, pure, Except.pure, eq_comm]
  | Goodbye => simp [pure, Except.pure, eq_comm]
  | Hello challenge facts | HelloAck challenge facts => simp

variable {last : SessionControlStream} {frames : List ControlEnvelope}

theorem check_frames_cons_eq_ok_iff {rest : List ControlEnvelope} :
    self.check_frames (frame :: rest) = (.ok (), last) ↔
      ∃ next, self.check_frame frame = .ok next ∧ next.check_frames rest = (.ok (), last) := by
  rw [check_frames]
  cases self.check_frame frame with
  | error error => simp [reject]
  | ok next => simp

theorem check_frames_append_eq_ok_iff {front rest : List ControlEnvelope} :
    self.check_frames (front ++ rest) = (.ok (), last) ↔
      ∃ next, self.check_frames front = (.ok (), next) ∧ next.check_frames rest = (.ok (), last) := by
  induction front generalizing self with
  | nil => simp [check_frames]
  | cons frame front ih =>
    rw [List.cons_append, check_frames_cons_eq_ok_iff]
    simp only [ih, check_frames_cons_eq_ok_iff]
    exact ⟨fun ⟨mid, hframe, next, hfront, hrest⟩ => ⟨next, ⟨mid, hframe, hfront⟩, hrest⟩,
      fun ⟨next, ⟨mid, hframe, hfront⟩, hrest⟩ => ⟨mid, hframe, next, hfront, hrest⟩⟩

/-- A stream that has seen a goodbye accepts no frame. -/
theorem eq_nil_of_closed (hclosed : self.closed = true) (h : self.check_frames frames = (.ok (), last)) :
    frames = [] := by
  cases frames with
  | nil => rfl
  | cons frame rest =>
    obtain ⟨next, hframe, -⟩ := check_frames_cons_eq_ok_iff.mp h
    have hopen := (check_frame_eq_ok_iff.mp hframe).2.2.1
    rw [hclosed] at hopen
    cases hopen

/-- The checks do not look at the decoder. -/
theorem check_frames_with_decoder (decoder : ControlStreamDecoder) (h : self.check_frames frames = (.ok (), last)) :
    { self with decoder }.check_frames frames = (.ok (), { last with decoder }) := by
  induction frames generalizing self with
  | nil =>
    cases h
    rfl
  | cons frame rest ih =>
    obtain ⟨next, hframe, hrest⟩ := check_frames_cons_eq_ok_iff.mp h
    rw [check_frames_cons_eq_ok_iff]
    refine ⟨{ next with decoder }, ?_, ih hrest⟩
    rw [check_frame_eq_ok_iff] at hframe ⊢
    obtain ⟨hcontext, hsequence, hopen, hmessage, rfl⟩ := hframe
    exact ⟨hcontext, hsequence, hopen, hmessage, rfl⟩

theorem check_frames_poisoned (h : self.check_frames frames = (.ok (), last)) : last.poisoned = self.poisoned := by
  induction frames generalizing self with
  | nil =>
    cases h
    rfl
  | cons frame rest ih =>
    obtain ⟨next, hframe, hrest⟩ := check_frames_cons_eq_ok_iff.mp h
    have hlast := ih hrest
    obtain ⟨-, -, -, -, rfl⟩ := check_frame_eq_ok_iff.mp hframe
    exact hlast

end SessionControlStream

end blueroute_protocol.session_stream
