import BlueRoute.Protocol.Control.Codec

namespace blueroute_protocol.control_io

open control Fallible

inductive IoErrorKind where
  | Interrupted
  | TimedOut
  | WouldBlock
  | UnexpectedEof
  | WriteZero
  | Other
deriving DecidableEq

/-- An error of the transport, with the text that it was made with. -/
structure IoError where
  kind : IoErrorKind
  text : Option String := none
deriving DecidableEq

inductive ControlIoError where
  | Io (error : IoError)
  | Frame (error : ControlFrameError)
deriving DecidableEq

/-- What a call does with the clock, the transport and the heap. -/
inductive Op where
  | Clock
  | SetTimeout (timeout : Nat)
  | Transfer (bytes : List UInt8)
  | Allocate (size : Nat)
deriving DecidableEq

/-- A clock and a transport: the time at which each operation of a call is done, and how the transport answers there.
A read gives and a write takes no more than was offered. -/
structure Transport where
  time : Nat → Nat
  set_timeout : Nat → Nat → Except IoError Unit
  read : Nat → Nat → Except IoError (List UInt8)
  write : Nat → List UInt8 → Except IoError Nat
  monotone : Monotone time
  read_le : ∀ op room bytes, read op room = .ok bytes → bytes.length ≤ room
  write_le : ∀ op bytes count, write op bytes = .ok count → count ≤ bytes.length

def remaining_budget (deadline now : Nat) : Except IoError Nat :=
  if deadline - now = 0 then .error { kind := .TimedOut, text := some "control frame deadline expired" }
  else .ok (deadline - now)

/-- What a loop makes of the answer of a transfer. An interrupted one has moved nothing and is tried again. -/
def after_transfer (zero : IoErrorKind) : Except IoError (List UInt8) → Except IoError (List UInt8)
  | .ok [] => .error { kind := zero }
  | .ok bytes => .ok bytes
  | .error error =>
    match error.kind with
    | .Interrupted => .ok []
    | .TimedOut | .WouldBlock => .error { kind := .TimedOut }
    | _ => .error error

/-- The loop that reading and writing share, for at most `fuel` turns: what was moved before, and what was done. -/
def exact_until (T : Transport) (move : Nat → List UInt8 → Except IoError (List UInt8)) (zero : IoErrorKind)
    (deadline total : Nat) : Nat → List UInt8 → List Op → Option (Except IoError (List UInt8)) × List Op
  | 0, _, log => (none, log)
  | fuel + 1, moved, log =>
    match remaining_budget deadline (T.time log.length) with
    | .error error => (some (.error error), log ++ [.Clock])
    | .ok left =>
      -- the budget is also checked once the loop is done
      if total ≤ moved.length then (some (.ok moved), log ++ [.Clock])
      else
        match T.set_timeout (log.length + 1) left with
        | .error error => (some (.error error), log ++ [.Clock, .SetTimeout left])
        | .ok () =>
          match after_transfer zero (move (log.length + 2) moved) with
          | .error error => (some (.error error), log ++ [.Clock, .SetTimeout left, .Transfer []])
          | .ok bytes =>
            exact_until T move zero deadline total fuel (moved ++ bytes)
              (log ++ [.Clock, .SetTimeout left, .Transfer bytes])

def read_exact_until (T : Transport) (deadline total fuel : Nat) (log : List Op) :
    Option (Except IoError (List UInt8)) × List Op :=
  exact_until T (fun op moved => T.read op (total - moved.length)) .UnexpectedEof deadline total fuel [] log

/-- What follows a loop that has succeeded. -/
def and_then {α : Type} (outcome : Option (Except IoError (List UInt8)) × List Op)
    (f : List UInt8 → List Op → Option (Except ControlIoError α) × List Op) :
    Option (Except ControlIoError α) × List Op :=
  match outcome with
  | (none, log) => (none, log)
  | (some (.error error), log) => (some (.error (.Io error)), log)
  | (some (.ok buffer), log) => f buffer log

def read_one_control_frame_with_deadline (serde : Serde) (T : Transport) (deadline fuel : Nat) :
    Option (Except ControlIoError ControlEnvelope) × List Op :=
  and_then (read_exact_until T deadline HEADER_LEN fuel []) fun header log =>
    match read_control_length header with
    | .error error => (some (.error (.Frame error)), log)
    | .ok length =>
      and_then (read_exact_until T deadline length fuel (log ++ [.Allocate (length + 4)])) fun body log =>
        (some ((decode_control_frame serde (header ++ body)).mapError .Frame), log)

/-- One write of what is left of a frame. -/
def write_rest (T : Transport) (bytes : List UInt8) (op : Nat) (sent : List UInt8) : Except IoError (List UInt8) :=
  (T.write op (bytes.drop sent.length)).map fun count => (bytes.drop sent.length).take count

def write_one_control_frame_with_deadline (serde : Serde) (T : Transport) (frame : ControlEnvelope)
    (deadline fuel : Nat) : Option (Except ControlIoError Unit) × List Op :=
  match encode_control_frame serde frame with
  | .error error => (some (.error (.Frame error)), [])
  | .ok bytes =>
    and_then (exact_until T (write_rest T bytes) .WriteZero deadline bytes.length fuel [] []) fun _ log =>
      (some (.ok ()), log)

/-- The bytes that the transport has given or taken, in order. -/
def transferred (log : List Op) : List UInt8 :=
  log.flatMap fun
    | .Transfer bytes => bytes
    | _ => []

def allocated (log : List Op) : Nat :=
  (log.map fun
    | .Allocate size => size
    | _ => 0).sum

/-- Each transfer is made right after a look at the clock and a positive timeout that is no longer than the time
which was then left. -/
inductive Budgeted (T : Transport) (deadline : Nat) : List Op → Prop where
  | start : Budgeted T deadline []
  | looked {log : List Op} (h : Budgeted T deadline log) : Budgeted T deadline (log ++ [.Clock])
  | refused {log : List Op} {left : Nat} (h : Budgeted T deadline log) :
      Budgeted T deadline (log ++ [.Clock, .SetTimeout left])
  | transferred {log : List Op} {left : Nat} {bytes : List UInt8} (h : Budgeted T deadline log) (hpositive : 0 < left)
      (hleft : T.time log.length + left ≤ deadline) :
      Budgeted T deadline (log ++ [.Clock, .SetTimeout left, .Transfer bytes])
  | allocated {log : List Op} {size : Nat} (h : Budgeted T deadline log) : Budgeted T deadline (log ++ [.Allocate size])

section Loop

variable {T : Transport} {move : Nat → List UInt8 → Except IoError (List UInt8)} {zero : IoErrorKind}
  {deadline total fuel : Nat} {moved bytes : List UInt8} {log : List Op}

theorem remaining_budget_eq_ok {now left : Nat} (h : remaining_budget deadline now = .ok left) :
    0 < left ∧ now + left ≤ deadline := by
  unfold remaining_budget at h
  split at h
  · cases h
  · obtain rfl := Except.ok.inj h
    omega

theorem after_transfer_eq_ok {answer : Except IoError (List UInt8)} (h : after_transfer zero answer = .ok bytes) :
    answer = .ok bytes ∨ bytes = [] := by
  unfold after_transfer at h
  split at h
  · cases h
  · exact .inl h
  · split at h
    · exact .inr (Except.ok.inj h).symm
    · cases h
    · cases h
    · cases h

/-- What a loop has done, wherever it is cut off: it has moved some bytes, as many as it was to when it succeeds, and
then the deadline had not been reached. -/
structure Moved (T : Transport) (P : List UInt8 → Prop) (deadline total : Nat) (before : List Op)
    (outcome : Option (Except IoError (List UInt8)) × List Op) (bytes : List UInt8) : Prop where
  budgeted : Budgeted T deadline outcome.2
  good : P bytes
  transferred : transferred outcome.2 = transferred before ++ bytes
  allocated : allocated outcome.2 = allocated before
  complete : ∀ buffer, outcome.1 = some (.ok buffer) →
    buffer = bytes ∧ total ≤ bytes.length ∧ ∀ op < outcome.2.length, T.time op < deadline

/-- The induction is on the turns; a turn that goes on has moved bytes that keep `P`. -/
theorem exact_until_moved {P : List UInt8 → Prop}
    (hmove : ∀ op moved bytes, P moved → move op moved = .ok bytes → P (moved ++ bytes)) (fuel : Nat) {before : List Op}
    (hbudgeted : Budgeted T deadline log) (hgood : P moved)
    (htransferred : transferred log = transferred before ++ moved)
    (hallocated : allocated log = allocated before) :
    ∃ bytes, Moved T P deadline total before (exact_until T move zero deadline total fuel moved log) bytes := by
  induction fuel generalizing moved log with
  | zero => exact ⟨moved, hbudgeted, hgood, htransferred, hallocated, nofun⟩
  | succ fuel ih =>
    unfold exact_until
    split
    · exact ⟨moved, hbudgeted.looked, hgood, by simpa [transferred] using htransferred,
        by simpa [allocated] using hallocated, nofun⟩
    rename_i left hleft
    obtain ⟨hpositive, hfits⟩ := remaining_budget_eq_ok hleft
    split
    · rename_i hdone
      refine ⟨moved, hbudgeted.looked, hgood, by simpa [transferred] using htransferred,
        by simpa [allocated] using hallocated, fun buffer hbuffer => ?_⟩
      cases hbuffer
      refine ⟨rfl, hdone, fun op hop => ?_⟩
      -- nothing was done after the last look at the clock
      have hlast : op ≤ log.length := by
        rw [List.length_append, List.length_singleton] at hop
        omega
      have htime := T.monotone hlast
      omega
    split
    · exact ⟨moved, hbudgeted.refused, hgood, by simpa [transferred] using htransferred,
        by simpa [allocated] using hallocated, nofun⟩
    split
    · exact ⟨moved, hbudgeted.transferred hpositive hfits, hgood, by simpa [transferred] using htransferred,
        by simpa [allocated] using hallocated, nofun⟩
    · rename_i bytes hanswer
      refine ih (hbudgeted.transferred hpositive hfits) ?_ ?_ (by simpa [allocated] using hallocated)
      · obtain hmoved | rfl := after_transfer_eq_ok hanswer
        · exact hmove _ _ _ hgood hmoved
        · rwa [List.append_nil]
      · rw [← List.append_assoc, ← htransferred]
        simp [transferred]

/-- A loop ends at the latest with its first look at the clock after the deadline. -/
theorem exact_until_isSome {late : Nat} (hlate : deadline ≤ T.time late) (turns : Nat) (h : late ≤ log.length + turns) :
    (exact_until T move zero deadline total (turns + 1) moved log).1.isSome = true := by
  induction turns generalizing moved log with
  | zero =>
    have hpast : deadline - T.time log.length = 0 := by
      have htime := T.monotone (show late ≤ log.length from h)
      omega
    simp [exact_until, remaining_budget, hpast]
  | succ turns ih =>
    rw [exact_until]
    split
    · rfl
    split
    · rfl
    split
    · rfl
    split
    · rfl
    · apply ih
      simp only [List.length_append, List.length_cons, List.length_nil]
      omega

theorem read_exact_until_moved (total fuel : Nat) (hbudgeted : Budgeted T deadline log) :
    ∃ bytes, Moved T (fun bytes => bytes.length ≤ total) deadline total log (read_exact_until T deadline total fuel log)
      bytes := by
  refine exact_until_moved ?_ fuel hbudgeted (Nat.zero_le total) (List.append_nil _).symm rfl
  intro op moved bytes hmoved hread
  have hroom := T.read_le _ _ _ hread
  rw [List.length_append]
  omega

end Loop

/-- No byte was taken after the header, or none after the frame that a good header declares. -/
def WithinFrame (consumed : List UInt8) : Prop :=
  consumed.length ≤ HEADER_LEN ∨
    ∃ length, read_control_length (consumed.take HEADER_LEN) = .ok length ∧ consumed.length ≤ HEADER_LEN + length

/-- What a call that reads a frame has done, wherever it is cut off. -/
structure ReadOnce (serde : Serde) (T : Transport) (deadline : Nat)
    (outcome : Option (Except ControlIoError ControlEnvelope) × List Op) : Prop where
  budgeted : Budgeted T deadline outcome.2
  within : WithinFrame (transferred outcome.2)
  allocated : allocated outcome.2 ≤ 16388
  accepted : ∀ envelope, outcome.1 = some (.ok envelope) →
    decode_control_frame serde (transferred outcome.2) = .ok envelope ∧ ∀ op < outcome.2.length, T.time op < deadline

/-- What a call that writes a frame has done, wherever it is cut off. -/
structure WrittenOnce (serde : Serde) (T : Transport) (frame : ControlEnvelope) (deadline : Nat)
    (outcome : Option (Except ControlIoError Unit) × List Op) : Prop where
  budgeted : Budgeted T deadline outcome.2
  sent : ∀ bytes, encode_control_frame serde frame = .ok bytes → transferred outcome.2 <+: bytes
  accepted : outcome.1 = some (.ok ()) →
    encode_control_frame serde frame = .ok (transferred outcome.2) ∧ ∀ op < outcome.2.length, T.time op < deadline

section Calls

variable {α : Type} {serde : Serde} {T : Transport} {deadline late fuel : Nat}
  {outcome : Option (Except IoError (List UInt8)) × List Op}
  {f : List UInt8 → List Op → Option (Except ControlIoError α) × List Op}

/-- Either the loop has ended the call without success, or it has succeeded. -/
theorem and_then_cases {Q : Option (Except ControlIoError α) × List Op → Prop}
    (hstop : ∀ result, (∀ value, result ≠ some (.ok value)) → Q (result, outcome.2))
    (hgo : ∀ buffer, outcome.1 = some (.ok buffer) → Q (f buffer outcome.2)) : Q (and_then outcome f) := by
  rcases outcome with ⟨_ | (error | buffer), log⟩
  · exact hstop none nofun
  · exact hstop (some (.error (.Io error))) nofun
  · exact hgo buffer rfl

theorem and_then_isSome (h : outcome.1.isSome = true) (hf : ∀ buffer log, (f buffer log).1.isSome = true) :
    (and_then outcome f).1.isSome = true := by
  rcases outcome with ⟨_ | (error | buffer), log⟩
  · cases h
  · rfl
  · exact hf buffer log

theorem read_one_control_frame_once (serde : Serde) (T : Transport) (deadline fuel : Nat) :
    ReadOnce serde T deadline (read_one_control_frame_with_deadline serde T deadline fuel) := by
  obtain ⟨header, hheader⟩ := read_exact_until_moved HEADER_LEN fuel (Budgeted.start : Budgeted T deadline [])
  unfold read_one_control_frame_with_deadline
  generalize read_exact_until T deadline HEADER_LEN fuel [] = outcome at hheader
  -- a call that gets no further than the header
  have hstop : ∀ result, (∀ envelope, result ≠ some (.ok envelope)) →
    ReadOnce serde T deadline (result, outcome.2) := by
    intro result hresult
    refine ⟨hheader.budgeted, .inl ?_, ?_, fun envelope heq => absurd heq (hresult envelope)⟩
    · rw [hheader.transferred]
      exact hheader.good
    · rw [hheader.allocated]
      decide
  refine and_then_cases (Q := ReadOnce serde T deadline) hstop fun buffer hbuffer => ?_
  obtain ⟨rfl, hfull, -⟩ := hheader.complete buffer hbuffer
  split
  · rename_i error _
    exact hstop (some (.error (.Frame error))) fun _ heq => by cases heq
  rename_i length hlength
  obtain ⟨body, hbody⟩ := read_exact_until_moved length fuel (hheader.budgeted.allocated : Budgeted T deadline
    (outcome.2 ++ [.Allocate (length + 4)]))
  generalize read_exact_until T deadline length fuel (outcome.2 ++ [.Allocate (length + 4)]) = ended at hbody
  have hexact : buffer.length = HEADER_LEN := Nat.le_antisymm hheader.good hfull
  have hall : transferred ended.2 = buffer ++ body := by
    rw [hbody.transferred, ← List.nil_append buffer,
      ← show transferred outcome.2 = [] ++ buffer from hheader.transferred]
    simp [transferred]
  have hwithin : WithinFrame (transferred ended.2) := by
    refine .inr ⟨length, ?_, ?_⟩
    · rw [hall, ← hexact, List.take_left]
      exact hlength
    · rw [hall, List.length_append, hexact]
      exact Nat.add_le_add_left hbody.good _
  have hallocated : allocated ended.2 ≤ 16388 := by
    have hbound := (read_control_length_eq_ok_iff.mp hlength).2.2.2
    unfold MAX_CONTROL_FRAME_BYTES at hbound
    have hbefore : allocated outcome.2 = 0 := hheader.allocated
    have hsum : allocated (outcome.2 ++ [.Allocate (length + 4)]) = allocated outcome.2 + (length + 4) := by
      simp [allocated]
    rw [hbody.allocated, hsum, hbefore]
    omega
  refine and_then_cases (Q := ReadOnce serde T deadline) (fun result hresult => ?_) fun rest hrest => ?_
  · exact ⟨hbody.budgeted, hwithin, hallocated, fun envelope heq => absurd heq (hresult envelope)⟩
  · obtain ⟨rfl, -, hintime⟩ := hbody.complete rest hrest
    refine ⟨hbody.budgeted, hwithin, hallocated, fun envelope heq => ⟨?_, hintime⟩⟩
    rw [hall]
    exact mapError_eq_ok.mp (Option.some.inj heq)

theorem write_rest_isPrefix {bytes sent more : List UInt8} {op : Nat} (hsent : sent <+: bytes)
    (h : write_rest T bytes op sent = .ok more) : sent ++ more <+: bytes := by
  obtain ⟨rest, rfl⟩ := hsent
  rw [write_rest, List.drop_left] at h
  cases hwrite : T.write op rest with
  | error error =>
    rw [hwrite] at h
    cases h
  | ok count =>
    rw [hwrite] at h
    obtain rfl := Except.ok.inj h
    exact (List.prefix_append_right_inj sent).mpr <| List.take_prefix _ _

theorem write_one_control_frame_once (serde : Serde) (T : Transport) (frame : ControlEnvelope) (deadline fuel : Nat) :
    WrittenOnce serde T frame deadline (write_one_control_frame_with_deadline serde T frame deadline fuel) := by
  unfold write_one_control_frame_with_deadline
  split
  · rename_i error hencode
    refine ⟨.start, fun bytes hbytes => ?_, nofun⟩
    cases hencode.symm.trans hbytes
  rename_i bytes hencode
  obtain ⟨sent, hsent⟩ := exact_until_moved (P := (· <+: bytes)) (fun _ _ _ => write_rest_isPrefix) fuel
    (Budgeted.start : Budgeted T deadline []) List.nil_prefix (List.append_nil (transferred [])).symm rfl
  generalize exact_until T (write_rest T bytes) .WriteZero deadline bytes.length fuel [] [] = outcome at hsent
  have htransferred : transferred outcome.2 = sent := hsent.transferred
  have hbegun : ∀ other, encode_control_frame serde frame = .ok other → transferred outcome.2 <+: other := by
    intro other hother
    obtain rfl := Except.ok.inj (hencode.symm.trans hother)
    rw [htransferred]
    exact hsent.good
  refine and_then_cases (Q := WrittenOnce serde T frame deadline) (fun result hresult => ?_) fun buffer hbuffer => ?_
  · exact ⟨hsent.budgeted, hbegun, fun heq => absurd heq (hresult ())⟩
  · obtain ⟨-, hfull, hintime⟩ := hsent.complete buffer hbuffer
    refine ⟨hsent.budgeted, hbegun, fun _ => ⟨?_, hintime⟩⟩
    rw [hencode, htransferred, hsent.good.eq_of_length_le hfull]

theorem exact_until_ends {move : Nat → List UInt8 → Except IoError (List UInt8)} {zero : IoErrorKind} {total : Nat}
    {moved : List UInt8} {log : List Op} (hlate : deadline ≤ T.time late) (hfuel : late < fuel) :
    (exact_until T move zero deadline total fuel moved log).1.isSome = true := by
  obtain ⟨turns, rfl⟩ := Nat.exists_eq_succ_of_ne_zero (Nat.ne_zero_of_lt hfuel)
  exact exact_until_isSome hlate turns (by omega)

theorem read_one_control_frame_isSome (hlate : deadline ≤ T.time late) (hfuel : late < fuel) :
    (read_one_control_frame_with_deadline serde T deadline fuel).1.isSome = true := by
  refine and_then_isSome (exact_until_ends hlate hfuel) fun header log => ?_
  split
  · rfl
  · exact and_then_isSome (exact_until_ends hlate hfuel) fun _ _ => rfl

theorem write_one_control_frame_isSome (hlate : deadline ≤ T.time late) (hfuel : late < fuel)
    (frame : ControlEnvelope) :
    (write_one_control_frame_with_deadline serde T frame deadline fuel).1.isSome = true := by
  unfold write_one_control_frame_with_deadline
  split
  · rfl
  · exact and_then_isSome (exact_until_ends hlate hfuel) fun _ _ => rfl

end Calls

/-- Whatever the transport and the clock do, a call stays within one frame and the time that it has, wherever it is cut
off, and it succeeds only with exactly one whole frame in time. Once the clock has passed the deadline it has ended. -/
theorem control_frame_deadline_io (serde : Serde) (T : Transport) (deadline : Nat) :
    (∀ fuel, ReadOnce serde T deadline (read_one_control_frame_with_deadline serde T deadline fuel)) ∧
    (∀ frame fuel, WrittenOnce serde T frame deadline
      (write_one_control_frame_with_deadline serde T frame deadline fuel)) ∧
    ∀ late, deadline ≤ T.time late → ∀ fuel, late < fuel →
      (read_one_control_frame_with_deadline serde T deadline fuel).1.isSome = true ∧
      ∀ frame, (write_one_control_frame_with_deadline serde T frame deadline fuel).1.isSome = true := by
  refine ⟨read_one_control_frame_once serde T deadline,
    fun frame => write_one_control_frame_once serde T frame deadline, ?_⟩
  intro late hlate fuel hfuel
  exact ⟨read_one_control_frame_isSome hlate hfuel, write_one_control_frame_isSome hlate hfuel⟩

section Sample

/-- A peer that sends a frame in two pieces, and takes one whole. -/
def sample_transport (framed : List UInt8) : Transport where
  time := id
  set_timeout := fun _ _ => .ok ()
  read := fun op room => .ok ((framed.drop (if op = 2 then 0 else HEADER_LEN)).take room)
  write := fun _ bytes => .ok bytes.length
  monotone := monotone_id
  read_le := by
    rintro op room _ ⟨⟩
    exact List.length_take_le _ _
  write_le := by
    rintro op bytes _ ⟨⟩
    exact Nat.le_refl _

variable {serde : Serde} {frame : ControlEnvelope} {framed bytes : List UInt8}

/-- All that is to be moved is moved at once. -/
theorem exact_until_once {move : Nat → List UInt8 → Except IoError (List UInt8)} {zero : IoErrorKind} {log : List Op}
    (hlog : log.length < 37) (hne : bytes ≠ []) (hmove : move (log.length + 2) [] = .ok bytes) :
    exact_until (sample_transport framed) move zero 40 bytes.length 8 [] log =
      (some (.ok bytes), log ++ [.Clock, .SetTimeout (40 - log.length), .Transfer bytes] ++ [.Clock]) := by
  have hanswer : after_transfer zero (.ok bytes) = .ok bytes := by
    cases bytes with
    | nil => exact absurd rfl hne
    | cons _ _ => rfl
  have hbudget : ∀ n < 40, remaining_budget 40 n = .ok (40 - n) := fun n hn => if_neg (by omega)
  rw [exact_until]
  simp only [sample_transport, id, hbudget log.length (by omega), List.length_nil, Nat.le_zero, List.length_eq_zero_iff,
    hne, if_false, hmove, hanswer, List.nil_append]
  rw [exact_until]
  simp only [id, List.length_append, List.length_cons, List.length_nil,
    hbudget (log.length + (0 + 1 + 1 + 1)) (by omega), le_refl, if_true]

theorem sample_read (h : decode_control_frame serde framed = .ok frame) :
    (read_one_control_frame_with_deadline serde (sample_transport framed) 40 8).1 = some (.ok frame) := by
  obtain ⟨size, hsize, hlength, -⟩ := decode_control_frame_eq_ok_iff.mp h
  obtain ⟨hlong, -, hpos, -⟩ := read_control_length_eq_ok_iff.mp hsize
  have htake : (framed.take HEADER_LEN).length = HEADER_LEN := List.length_take_of_le hlong
  have hdrop : (framed.drop HEADER_LEN).length = size := by
    rw [List.length_drop]
    omega
  rw [← List.take_append_drop HEADER_LEN framed, read_control_length_append htake.ge] at hsize
  have hheader := @exact_until_once framed (framed.take HEADER_LEN) (fun op moved => (sample_transport framed).read op
    (HEADER_LEN - moved.length)) .UnexpectedEof [] (by decide)
      (List.ne_nil_of_length_pos (htake.symm ▸ Nat.succ_pos 3)) rfl
  have hbody := @exact_until_once framed (framed.drop HEADER_LEN) (fun op moved => (sample_transport framed).read op
    (size - moved.length)) .UnexpectedEof [.Clock, .SetTimeout 40, .Transfer (framed.take HEADER_LEN), .Clock,
    .Allocate (size + 4)] (by simp) (List.ne_nil_of_length_pos (hdrop.symm ▸ hpos))
    (congrArg Except.ok (List.take_of_length_le hdrop.le))
  rw [htake] at hheader
  rw [hdrop] at hbody
  rw [read_one_control_frame_with_deadline, read_exact_until, hheader, and_then, hsize]
  show (and_then (exact_until _ _ _ _ _ _ _ _) _).1 = _
  erw [hbody]
  show some ((decode_control_frame serde (framed.take HEADER_LEN ++ framed.drop HEADER_LEN)).mapError _) = _
  rw [List.take_append_drop, h]
  rfl

theorem sample_write (h : encode_control_frame serde frame = .ok framed) :
    (write_one_control_frame_with_deadline serde (sample_transport framed) frame 40 8).1 = some (.ok ()) := by
  have hne : framed ≠ [] := by
    simp only [encode_control_frame, bind_eq_ok_iff] at h
    obtain ⟨_, _, payload, _, _, _, _, _, hframed⟩ := h
    cases hframed
    exact List.cons_ne_nil _ _
  rw [write_one_control_frame_with_deadline, h]
  dsimp only
  rw [exact_until_once (by decide) hne (by simp [write_rest, sample_transport, Except.map])]
  rfl

theorem control_frame_deadline_io_sample :
    ∃ framed, decode_control_frame plain_reader.serde (transferred
        (read_one_control_frame_with_deadline plain_reader.serde (sample_transport framed) 40 8).2)
          = .ok (session_frame 3 .Heartbeat) ∧
      encode_control_frame plain_reader.serde (session_frame 3 .Heartbeat) = .ok (transferred
        (write_one_control_frame_with_deadline plain_reader.serde (sample_transport framed)
          (session_frame 3 .Heartbeat) 40 8).2) := by
  obtain ⟨framed, hframed, hdecode⟩ := exists_heartbeat
  obtain ⟨hread, hwritten, -⟩ := control_frame_deadline_io plain_reader.serde (sample_transport framed) 40
  exact ⟨framed, ((hread 8).accepted _ (sample_read hdecode)).1, ((hwritten _ 8).accepted (sample_write hframed)).1⟩

end Sample

end blueroute_protocol.control_io
