import BlueRoute.Protocol.Control

namespace blueroute_protocol.control_stream

open blueroute control

def HEADER_BYTES : Nat := 4

def MAX_STREAM_FEED_BYTES : Nat := 64 * 1024

def MAX_FRAMES_PER_FEED : Nat := 64

inductive StreamDecodeError where
  | ChunkTooLarge
  | FrameLimit
  | MalformedFrame
  | Finished
  | Poisoned
deriving DecidableEq

/-- The frame that is being collected: its bytes so far, and its length once the header is there. -/
structure Buffer where
  partial_ : List UInt8
  expected : Option Nat
  valid : match expected with
    | none => partial_.length < HEADER_BYTES
    | some target =>
      ∃ size, read_control_length partial_ = .ok size ∧ target = HEADER_BYTES + size ∧ partial_.length < target

namespace Buffer

def empty : Buffer := { partial_ := [], expected := none, valid := by decide }

def target (self : Buffer) : Nat := self.expected.getD HEADER_BYTES

theorem room (self : Buffer) : self.partial_.length < self.target := by
  obtain ⟨bytes, expected, valid⟩ := self
  cases expected with
  | none => exact valid
  | some target =>
    obtain ⟨size, -, -, hlength⟩ := valid
    exact hlength

theorem expected_of_nil {self : Buffer} (h : self.partial_ = []) : self.expected = none := by
  obtain ⟨bytes, expected, valid⟩ := self
  cases expected with
  | none => rfl
  | some target =>
    obtain ⟨size, hsize, _⟩ := valid
    obtain rfl : bytes = [] := h
    exact absurd (read_control_length_eq_ok_iff.mp hsize).1 (by decide)

/-- More bytes of the frame, but not all of them. -/
def extend (self : Buffer) (bytes : List UInt8) (h : (self.partial_ ++ bytes).length < self.target) : Buffer :=
  { partial_ := self.partial_ ++ bytes
    expected := self.expected
    valid := by
      obtain ⟨partial_, expected, valid⟩ := self
      cases expected with
      | none => exact h
      | some target =>
        obtain ⟨size, hsize, htarget, _⟩ := valid
        have hheader := (read_control_length_eq_ok_iff.mp hsize).1
        exact ⟨size, by rw [read_control_length_append hheader, hsize], htarget, h⟩ }

/-- A whole header. -/
def headed (header : List UInt8) (size : Nat) (hlength : header.length = HEADER_BYTES)
    (hsize : read_control_length header = .ok size) : Buffer :=
  { partial_ := header
    expected := some (HEADER_BYTES + size)
    valid := ⟨size, hsize, rfl, by
      have := (read_control_length_eq_ok_iff.mp hsize).2.2.1
      omega⟩ }

end Buffer

/-- The loop of `feed`. Each turn takes what the header or the frame still needs from the input. -/
def feed_loop (serde : Serde) (buffer : Buffer) (input : List UInt8) (completed : List ControlEnvelope) :
    Except StreamDecodeError (Buffer × List ControlEnvelope) :=
  if hinput : input = [] then .ok (buffer, completed)
  else
    let needed := buffer.target - buffer.partial_.length
    let count := min needed input.length
    let bytes := buffer.partial_ ++ input.take count
    if hpartial : bytes.length < buffer.target then
      feed_loop serde (buffer.extend (input.take count) hpartial) (input.drop count) completed
    else if hheader : buffer.expected = none then
      match hsize : read_control_length bytes with
      | .error _ => .error .MalformedFrame
      | .ok size =>
        feed_loop serde (.headed bytes size (by
          have hroom := buffer.room
          have htarget : buffer.target = HEADER_BYTES := by rw [Buffer.target, hheader]; rfl
          simp only [bytes, count, needed, List.length_append, List.length_take] at hpartial ⊢
          omega) hsize) (input.drop count) completed
    else
      match decode_control_frame serde bytes with
      | .error _ => .error .MalformedFrame
      | .ok envelope =>
        if completed.length ≥ MAX_FRAMES_PER_FEED then .error .FrameLimit
        else feed_loop serde .empty (input.drop count) (completed ++ [envelope])
termination_by input.length
decreasing_by
  all_goals
    have hroom := buffer.room
    have hpos := List.length_pos_iff.mpr hinput
    rw [List.length_drop]
    omega

/-- A decoder that is poisoned or finished holds no bytes. -/
structure ControlStreamDecoder where
  buffer : Buffer
  poisoned : Bool
  finished : Bool
  ended : poisoned = true ∨ finished = true → buffer = .empty

namespace ControlStreamDecoder

def new : ControlStreamDecoder :=
  { buffer := .empty, poisoned := false, finished := false, ended := by simp }

def pending_bytes (self : ControlStreamDecoder) : Nat := self.buffer.partial_.length

def reject {T : Type} (self : ControlStreamDecoder) (error : StreamDecodeError) :
    Except StreamDecodeError T × ControlStreamDecoder :=
  (.error error, { buffer := .empty, poisoned := true, finished := self.finished, ended := fun _ => rfl })

def feed (serde : Serde) (self : ControlStreamDecoder) (chunk : List UInt8) :
    Except StreamDecodeError (List ControlEnvelope) × ControlStreamDecoder :=
  if hpoisoned : self.poisoned = true then (.error .Poisoned, self)
  else if hfinished : self.finished = true then (.error .Finished, self)
  else if chunk.length > MAX_STREAM_FEED_BYTES then self.reject .ChunkTooLarge
  else match feed_loop serde self.buffer chunk [] with
    | .error error => self.reject error
    | .ok (buffer, completed) =>
      (.ok completed, { self with buffer, ended := fun h => (h.elim hpoisoned hfinished).elim })

def finish (self : ControlStreamDecoder) : Except StreamDecodeError Unit × ControlStreamDecoder :=
  if self.poisoned = true then (.error .Poisoned, self)
  else if self.finished = true then (.error .Finished, self)
  else if hempty : self.buffer.partial_ = [] ∧ self.buffer.expected = none then
    (.ok (), { self with
      finished := true
      ended := fun _ => by
        obtain ⟨⟨partial_, expected, valid⟩, _, _, _⟩ := self
        obtain ⟨rfl, rfl⟩ := hempty
        rfl })
  else self.reject .MalformedFrame

/-- The chunks of a stream in order, up to the first that is not accepted. -/
def feed_all (serde : Serde) (self : ControlStreamDecoder) :
    List (List UInt8) → Except StreamDecodeError (List ControlEnvelope) × ControlStreamDecoder
  | [] => (.ok [], self)
  | chunk :: rest =>
    match self.feed serde chunk with
    | (.error error, next) => (.error error, next)
    | (.ok frames, next) =>
      match feed_all serde next rest with
      | (.error error, last) => (.error error, last)
      | (.ok more, last) => (.ok (frames ++ more), last)

end ControlStreamDecoder

inductive StreamCall where
  | feed (chunk : List UInt8)
  | finish
deriving DecidableEq

namespace ControlStreamDecoder

variable {serde : Serde} {self : ControlStreamDecoder}

/-- One call on a decoder. A stream that ends completes no frame. -/
def call (serde : Serde) (self : ControlStreamDecoder) :
    StreamCall → Except StreamDecodeError (List ControlEnvelope) × ControlStreamDecoder
  | .feed chunk => self.feed serde chunk
  | .finish => (self.finish.1.map fun _ => [], self.finish.2)

def calls (serde : Serde) (self : ControlStreamDecoder) : List StreamCall → ControlStreamDecoder :=
  List.foldl (fun decoder request => (decoder.call serde request).2) self

def Ended (self : ControlStreamDecoder) : Prop := self.poisoned = true ∨ self.finished = true

theorem Ended.call (h : self.Ended) (request : StreamCall) :
    (∃ error, (self.call serde request).1 = .error error) ∧ (self.call serde request).2 = self := by
  obtain ⟨buffer, poisoned, finished, _⟩ := self
  obtain rfl | rfl := h
  · cases request <;> exact ⟨⟨.Poisoned, rfl⟩, rfl⟩
  · cases poisoned <;> cases request
    · exact ⟨⟨.Finished, rfl⟩, rfl⟩
    · exact ⟨⟨.Finished, rfl⟩, rfl⟩
    · exact ⟨⟨.Poisoned, rfl⟩, rfl⟩
    · exact ⟨⟨.Poisoned, rfl⟩, rfl⟩

theorem Ended.calls (h : self.Ended) (requests : List StreamCall) : self.calls serde requests = self := by
  induction requests with
  | nil => rfl
  | cons request rest ih =>
    rw [ControlStreamDecoder.calls, List.foldl_cons, (h.call request).2]
    exact ih

theorem ended_feed {chunk : List UInt8} {error : StreamDecodeError} (h : (self.feed serde chunk).1 = .error error) :
    (self.feed serde chunk).2.Ended := by
  unfold feed at h ⊢
  split_ifs with hpoisoned hfinished hlong
  · exact .inl hpoisoned
  · exact .inr hfinished
  · exact .inl rfl
  · rw [dif_neg hpoisoned, dif_neg hfinished, if_neg hlong] at h
    cases hloop : feed_loop serde self.buffer chunk [] with
    | error error => exact .inl rfl
    | ok fed =>
      rw [hloop] at h
      cases h

theorem ended_finish : self.finish.2.Ended := by
  unfold finish
  split_ifs with hpoisoned hfinished hempty
  · exact .inl hpoisoned
  · exact .inr hfinished
  · exact .inr rfl
  · exact .inl rfl

theorem finish_of_drained (hpoisoned : self.poisoned = false) (hfinished : self.finished = false)
    (hempty : self.buffer.partial_ = []) : self.finish.1 = .ok () := by
  rw [finish, if_neg (by simp [hpoisoned]), if_neg (by simp [hfinished]),
    dif_pos ⟨hempty, Buffer.expected_of_nil hempty⟩]

theorem pending_bytes_of_finish (h : self.finish.1 = .ok ()) : self.pending_bytes = 0 := by
  unfold finish at h
  split_ifs at h with hpoisoned hfinished hempty
  · rw [pending_bytes, hempty.1, List.length_nil]
  · cases h

theorem ended_call {request : StreamCall}
    (h : (∃ error, (self.call serde request).1 = .error error) ∨ request = .finish) :
    (self.call serde request).2.Ended := by
  cases request with
  | feed chunk =>
    obtain ⟨error, herror⟩ | hfinish := h
    · exact ended_feed herror
    · cases hfinish
  | finish => exact ended_finish

end ControlStreamDecoder

end blueroute_protocol.control_stream
