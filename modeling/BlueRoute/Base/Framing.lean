import Mathlib

/-! Streams of frames: each starts with a header of a fixed length, which gives the length of the
rest of it. -/

namespace Framing

/-- How long a header is, how long a body it announces, and which whole frames are accepted. -/
structure Format (β F : Type) where
  header : Nat
  header_pos : 0 < header
  body : List β → Option Nat
  accept : List β → Option F

/-- What the start of a stream is made of: accepted frames, and what comes after them. It is sound
if that can still become a frame. -/
@[ext]
structure Scan (β F : Type) where
  frames : List (List β × F)
  rest : List β
  sound : Bool

variable {β F : Type} (format : Format β F)

namespace Format

/-- The start of a frame, of which something is still missing. -/
def Pending (bytes : List β) : Prop :=
  bytes.length < format.header ∨
    ∃ n, format.body (bytes.take format.header) = some n ∧ bytes.length < format.header + n

/-- A header with the body that it announces. -/
def Complete (frame : List β) : Prop :=
  ∃ n, format.body (frame.take format.header) = some n ∧ frame.length = format.header + n

/-- A header that announces no frame. -/
def Misheaded (bytes : List β) : Prop :=
  format.header ≤ bytes.length ∧ format.body (bytes.take format.header) = none

def scan (bytes : List β) : Scan β F :=
  if bytes.length < format.header then ⟨[], bytes, true⟩
  else match format.body (bytes.take format.header) with
    | none => ⟨[], bytes, false⟩
    | some n =>
      if bytes.length < format.header + n then ⟨[], bytes, true⟩
      else match format.accept (bytes.take (format.header + n)) with
        | none => ⟨[], bytes, false⟩
        | some frame =>
          let next := scan (bytes.drop (format.header + n))
          { next with frames := (bytes.take (format.header + n), frame) :: next.frames }
termination_by bytes.length
decreasing_by
  have := format.header_pos
  rw [List.length_drop]
  omega

variable {format} {bytes frame rest : List β} {value : F}

theorem Complete.take_header_append (h : format.Complete frame) (rest : List β) :
    (frame ++ rest).take format.header = frame.take format.header := by
  obtain ⟨n, -, hlength⟩ := h
  rw [List.take_append_of_le_length (by omega)]

theorem scan_of_pending (h : format.Pending bytes) : format.scan bytes = ⟨[], bytes, true⟩ := by
  rw [scan]
  obtain hshort | ⟨n, hbody, hshort⟩ := h
  · rw [if_pos hshort]
  · split
    · rfl
    · rw [hbody]
      simp only [if_pos hshort]

theorem scan_of_misheaded (h : format.Misheaded bytes) : format.scan bytes = ⟨[], bytes, false⟩ := by
  rw [scan, if_neg (not_lt.mpr h.1), h.2]

/-- A whole frame at the start of a stream is taken off it, or stops it. -/
theorem scan_of_complete (h : format.Complete frame) (rest : List β) :
    format.scan (frame ++ rest) = match format.accept frame with
      | none => ⟨[], frame ++ rest, false⟩
      | some value => { format.scan rest with frames := (frame, value) :: (format.scan rest).frames } := by
  have hheader := h.take_header_append rest
  obtain ⟨n, hbody, hlength⟩ := h
  have hlong : ¬ (frame ++ rest).length < format.header + n := by
    rw [List.length_append]
    omega
  rw [scan, if_neg (by omega), hheader, hbody]
  simp only [if_neg hlong]
  rw [← hlength, List.take_left, List.drop_left]

theorem scan_of_rejected (h : format.Complete frame) (haccept : format.accept frame = none) (rest : List β) :
    format.scan (frame ++ rest) = ⟨[], frame ++ rest, false⟩ := by
  rw [scan_of_complete h, haccept]

theorem scan_of_accepted (h : format.Complete frame) (haccept : format.accept frame = some value) (rest : List β) :
    format.scan (frame ++ rest) =
      { format.scan rest with frames := (frame, value) :: (format.scan rest).frames } := by
  rw [scan_of_complete h, haccept]

/-- Every stream is the start of a frame, starts with a bad header, or starts with a whole frame. -/
theorem cases (bytes : List β) :
    format.Pending bytes ∨ format.Misheaded bytes ∨
      ∃ frame rest, bytes = frame ++ rest ∧ format.Complete frame := by
  by_cases hshort : bytes.length < format.header
  · exact .inl (.inl hshort)
  · cases hbody : format.body (bytes.take format.header) with
    | none => exact .inr (.inl ⟨not_lt.mp hshort, hbody⟩)
    | some n =>
      by_cases hmissing : bytes.length < format.header + n
      · exact .inl (.inr ⟨n, hbody, hmissing⟩)
      · refine .inr (.inr ⟨bytes.take (format.header + n), bytes.drop (format.header + n),
          (List.take_append_drop _ _).symm, n, ?_, ?_⟩)
        · rw [List.take_take, min_eq_left (Nat.le_add_right _ _), hbody]
        · rw [List.length_take, min_eq_left (not_lt.mp hmissing)]

theorem Complete.length_lt (h : format.Complete frame) (rest : List β) : rest.length < (frame ++ rest).length := by
  obtain ⟨n, -, hlength⟩ := h
  have := format.header_pos
  rw [List.length_append]
  omega

/-- Induction along the frames of a stream. -/
@[elab_as_elim]
theorem induction {motive : List β → Prop} (bytes : List β) (hpending : ∀ bytes, format.Pending bytes → motive bytes)
    (hmisheaded : ∀ bytes, format.Misheaded bytes → motive bytes)
    (hrejected : ∀ frame rest, format.Complete frame → format.accept frame = none → motive (frame ++ rest))
    (haccepted : ∀ frame value rest, format.Complete frame → format.accept frame = some value → motive rest →
      motive (frame ++ rest)) : motive bytes := by
  induction hlength : bytes.length using Nat.strong_induction_on generalizing bytes with
  | _ length ih =>
    obtain h | h | ⟨frame, rest, rfl, h⟩ := format.cases bytes
    · exact hpending bytes h
    · exact hmisheaded bytes h
    · cases haccept : format.accept frame with
      | none => exact hrejected frame rest h haccept
      | some value =>
        exact haccepted frame value rest h haccept (ih rest.length (hlength ▸ h.length_lt rest) rest rfl)

theorem Misheaded.append (h : format.Misheaded bytes) (more : List β) : format.Misheaded (bytes ++ more) := by
  refine ⟨?_, ?_⟩
  · rw [List.length_append]
    exact h.1.trans (Nat.le_add_right _ _)
  · rw [List.take_append_of_le_length h.1, h.2]

/-- A stream that goes on is scanned on from what was left of it. -/
theorem scan_append (bytes more : List β) (hsound : (format.scan bytes).sound = true) :
    format.scan (bytes ++ more) =
      { format.scan ((format.scan bytes).rest ++ more) with
        frames := (format.scan bytes).frames ++ (format.scan ((format.scan bytes).rest ++ more)).frames } := by
  induction bytes using format.induction with
  | hpending bytes h => simp [scan_of_pending h]
  | hmisheaded bytes h => simp [scan_of_misheaded h] at hsound
  | hrejected frame rest h haccept => simp [scan_of_rejected h haccept] at hsound
  | haccepted frame value rest h haccept ih =>
    rw [scan_of_accepted h haccept] at hsound ⊢
    rw [List.append_assoc, scan_of_accepted h haccept, ih hsound]
    rfl

/-- A stream that cannot go on stays what it is. -/
theorem scan_append_of_not_sound (bytes more : List β) (hsound : (format.scan bytes).sound = false) :
    (format.scan (bytes ++ more)).frames = (format.scan bytes).frames ∧
      (format.scan (bytes ++ more)).sound = false := by
  induction bytes using format.induction with
  | hpending bytes h => simp [scan_of_pending h] at hsound
  | hmisheaded bytes h => simp [scan_of_misheaded h, scan_of_misheaded (h.append more)]
  | hrejected frame rest h haccept =>
    rw [List.append_assoc, scan_of_rejected h haccept, scan_of_rejected h haccept]
    exact ⟨rfl, rfl⟩
  | haccepted frame value rest h haccept ih =>
    rw [scan_of_accepted h haccept] at hsound ⊢
    rw [List.append_assoc, scan_of_accepted h haccept]
    exact ⟨congrArg (List.cons (frame, value)) (ih hsound).1, (ih hsound).2⟩

theorem sound_of_append {bytes more : List β} (hsound : (format.scan (bytes ++ more)).sound = true) :
    (format.scan bytes).sound = true := by
  by_contra hnot
  rw [Bool.not_eq_true] at hnot
  have := (scan_append_of_not_sound bytes more hnot).2
  rw [hsound] at this
  cases this

/-- Accepted frames, and then the start of a next one. -/
structure Splits (format : Format β F) (bytes : List β) (frames : List (List β × F)) (rest : List β) : Prop where
  eq : bytes = (frames.map Prod.fst).flatten ++ rest
  accepted : ∀ entry ∈ frames, format.Complete entry.1 ∧ format.accept entry.1 = some entry.2
  pending : format.Pending rest

theorem splits_scan (bytes : List β) (hsound : (format.scan bytes).sound = true) :
    format.Splits bytes (format.scan bytes).frames (format.scan bytes).rest := by
  induction bytes using format.induction with
  | hpending bytes h =>
    rw [scan_of_pending h]
    exact ⟨rfl, by simp, h⟩
  | hmisheaded bytes h => simp [scan_of_misheaded h] at hsound
  | hrejected frame rest h haccept => simp [scan_of_rejected h haccept] at hsound
  | haccepted frame value rest h haccept ih =>
    rw [scan_of_accepted h haccept] at hsound ⊢
    obtain ⟨heq, haccepted, hpending⟩ := ih hsound
    refine ⟨?_, ?_, hpending⟩
    · rw [List.map_cons, List.flatten_cons, List.append_assoc, ← heq]
    · simpa [h, haccept] using haccepted

/-- Bytes that complete no frame and leave nothing over are no bytes. -/
theorem eq_nil_of_frames_append {bytes more : List β} (hsound : (format.scan (bytes ++ more)).sound = true)
    (hrest : (format.scan (bytes ++ more)).rest = [])
    (hframes : (format.scan (bytes ++ more)).frames.length = (format.scan bytes).frames.length) : more = [] := by
  have hscan := scan_append bytes more (sound_of_append hsound)
  have hnext := (congrArg Scan.sound hscan).symm.trans hsound
  have hleft := (congrArg Scan.rest hscan).symm.trans hrest
  rw [hscan, List.length_append, Nat.add_eq_left, List.length_eq_zero_iff] at hframes
  have heq := (splits_scan _ hnext).eq
  rw [hframes, hleft] at heq
  exact (List.append_eq_nil_iff.mp heq).2

/-- A stream can be split in one way only. -/
theorem Splits.scan_eq {frames : List (List β × F)} (h : format.Splits bytes frames rest) :
    format.scan bytes = ⟨frames, rest, true⟩ := by
  obtain ⟨rfl, haccepted, hpending⟩ := h
  induction frames with
  | nil => exact scan_of_pending hpending
  | cons entry frames ih =>
    obtain ⟨hcomplete, haccept⟩ := haccepted entry List.mem_cons_self
    rw [List.map_cons, List.flatten_cons, List.append_assoc, scan_of_accepted hcomplete haccept,
      ih fun other hother => haccepted other (List.mem_cons_of_mem _ hother)]

end Format

end Framing
