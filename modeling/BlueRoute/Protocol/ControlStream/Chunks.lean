import BlueRoute.Base.Framing
import BlueRoute.Protocol.Control.Codec
import BlueRoute.Protocol.ControlStream

namespace blueroute_protocol.control_stream

open blueroute control Framing Fallible ControlStreamDecoder

/-- The frames of the stream, as a format with a header and a body. -/
def format (serde : Serde) : Format UInt8 ControlEnvelope :=
  { header := HEADER_BYTES
    header_pos := by decide
    body := fun header => (read_control_length header).toOption
    accept := fun frame => (decode_control_frame serde frame).toOption }

variable {serde : Serde} {bytes frame : List UInt8}

theorem body_take_eq_some_iff {size : Nat} :
    (format serde).body (bytes.take HEADER_BYTES) = some size ↔ read_control_length bytes = .ok size := by
  have htake : HEADER_LEN ≤ (bytes.take HEADER_BYTES).length ↔ HEADER_LEN ≤ bytes.length := by
    rw [List.length_take, HEADER_BYTES, HEADER_LEN]
    omega
  rw [format, toOption_eq_some_iff, read_control_length_eq_ok_iff, read_control_length_eq_ok_iff, htake, List.take_take]
  rfl

theorem pending_iff :
    (format serde).Pending bytes ↔
      bytes.length < HEADER_BYTES ∨
        ∃ size, read_control_length bytes = .ok size ∧ bytes.length < HEADER_BYTES + size :=
  or_congr_right (exists_congr fun _ => and_congr_left fun _ => body_take_eq_some_iff)

theorem complete_iff :
    (format serde).Complete frame ↔
      ∃ size, read_control_length frame = .ok size ∧ frame.length = HEADER_BYTES + size :=
  exists_congr fun _ => and_congr_left fun _ => body_take_eq_some_iff

theorem Buffer.pending (self : Buffer) : (format serde).Pending self.partial_ := by
  rw [pending_iff]
  obtain ⟨partial_, expected, valid⟩ := self
  cases expected with
  | none => exact .inl valid
  | some target =>
    obtain ⟨size, hsize, rfl, hlength⟩ := valid
    exact .inr ⟨size, hsize, hlength⟩

/-- How the loop ends, in terms of the frames at the start of what it reads. -/
inductive Fed (scan : Scan UInt8 ControlEnvelope) (completed : List ControlEnvelope) :
    Except StreamDecodeError (Buffer × List ControlEnvelope) → Prop where
  | sound (buffer : Buffer) (hsound : scan.sound = true) (hrest : buffer.partial_ = scan.rest)
      (hlimit : completed.length + scan.frames.length ≤ MAX_FRAMES_PER_FEED) :
      Fed scan completed (.ok (buffer, completed ++ scan.frames.map Prod.snd))
  | malformed (hsound : scan.sound = false)
      (hlimit : completed.length + scan.frames.length ≤ MAX_FRAMES_PER_FEED) :
      Fed scan completed (.error .MalformedFrame)
  | limit (hlimit : MAX_FRAMES_PER_FEED < completed.length + scan.frames.length) :
      Fed scan completed (.error .FrameLimit)

theorem Buffer.target_of_none {self : Buffer} (h : self.expected = none) : self.target = HEADER_BYTES := by
  rw [target, h, Option.getD_none]

/-- The bytes of a frame whose header is there, and the rest of the frame. -/
theorem Buffer.complete_append {self : Buffer} {more : List UInt8} (hexpected : self.expected ≠ none)
    (hlength : (self.partial_ ++ more).length = self.target) : (format serde).Complete (self.partial_ ++ more) := by
  obtain ⟨partial_, expected, valid⟩ := self
  cases expected with
  | none => exact absurd rfl hexpected
  | some target =>
    obtain ⟨size, hsize, htarget, hroom⟩ := valid
    have hheader := (read_control_length_eq_ok_iff.mp hsize).1
    rw [complete_iff]
    exact ⟨size, by rw [read_control_length_append hheader, hsize], hlength.trans htarget⟩

/-- A frame that the loop has completed counts with those that it completes later. -/
theorem Fed.cons {scan : Scan UInt8 ControlEnvelope} {completed : List ControlEnvelope} {envelope : ControlEnvelope}
    {result : Except StreamDecodeError (Buffer × List ControlEnvelope)}
    (h : Fed scan (completed ++ [envelope]) result) :
    Fed { scan with frames := (frame, envelope) :: scan.frames } completed result := by
  have hlength : (completed ++ [envelope]).length + scan.frames.length =
      completed.length + ((frame, envelope) :: scan.frames).length := by
    rw [List.length_append, List.length_cons, List.length_cons, List.length_nil]
    omega
  cases h with
  | sound buffer hsound hrest hlimit =>
    rw [List.append_assoc]
    exact @Fed.sound { scan with frames := _ } completed buffer hsound hrest (hlength ▸ hlimit)
  | malformed hsound hlimit => exact .malformed hsound (hlength ▸ hlimit)
  | limit hlimit => exact .limit (hlength ▸ hlimit)

theorem append_take_drop (front input : List UInt8) (count : Nat) :
    front ++ input = (front ++ input.take count) ++ input.drop count := by
  rw [List.append_assoc, List.take_append_drop]

theorem length_fill_eq {buffer : Buffer} {input : List UInt8}
    (h : ¬ (buffer.partial_ ++ input.take (min (buffer.target - buffer.partial_.length) input.length)).length <
      buffer.target) :
    (buffer.partial_ ++ input.take (min (buffer.target - buffer.partial_.length) input.length)).length =
      buffer.target := by
  have hroom := buffer.room
  rw [List.length_append, List.length_take] at h ⊢
  omega

theorem feed_loop_fed (serde : Serde) (buffer : Buffer) (input : List UInt8) (completed : List ControlEnvelope)
    (hcompleted : completed.length ≤ MAX_FRAMES_PER_FEED) :
    Fed ((format serde).scan (buffer.partial_ ++ input)) completed (feed_loop serde buffer input completed) := by
  fun_induction feed_loop serde buffer input completed with
  | case1 buffer completed =>
    -- the input is used up: what is left is the start of a frame
    rw [List.append_nil, Format.scan_of_pending buffer.pending]
    simpa using @Fed.sound ⟨[], buffer.partial_, true⟩ completed buffer rfl rfl hcompleted
  | case2 buffer input completed hinput needed count bytes hpartial ih =>
    rw [append_take_drop buffer.partial_ input count]
    exact ih hcompleted
  | case3 buffer input completed hinput needed count bytes hfull hheader error hsize =>
    have hlength : bytes.length = HEADER_BYTES := (length_fill_eq hfull).trans (Buffer.target_of_none hheader)
    have hmisheaded : (format serde).Misheaded bytes := by
      refine ⟨hlength.ge, ?_⟩
      rw [Option.eq_none_iff_forall_ne_some]
      intro size hbody
      rw [show (format serde).header = HEADER_BYTES from rfl, body_take_eq_some_iff, hsize] at hbody
      cases hbody
    rw [append_take_drop buffer.partial_ input count, Format.scan_of_misheaded (hmisheaded.append _)]
    exact .malformed rfl hcompleted
  | case4 buffer input completed hinput needed count bytes hfull hheader size hsize ih =>
    rw [append_take_drop buffer.partial_ input count]
    exact ih hcompleted
  | case5 buffer input completed hinput needed count bytes hfull hheader error hdecode =>
    have hcomplete : (format serde).Complete bytes := Buffer.complete_append hheader (length_fill_eq hfull)
    have hrejected : (format serde).accept bytes = none := toOption_eq_none_iff.mpr ⟨error, hdecode⟩
    rw [append_take_drop buffer.partial_ input count, Format.scan_of_rejected hcomplete hrejected]
    exact .malformed rfl hcompleted
  | case6 buffer input completed hinput needed count bytes hfull hheader envelope hdecode hmany =>
    have hcomplete : (format serde).Complete bytes := Buffer.complete_append hheader (length_fill_eq hfull)
    have haccepted : (format serde).accept bytes = some envelope := toOption_eq_some_iff.mpr hdecode
    rw [append_take_drop buffer.partial_ input count, Format.scan_of_accepted hcomplete haccepted]
    refine .limit ?_
    rw [List.length_cons]
    omega
  | case7 buffer input completed hinput needed count bytes hfull hheader envelope hdecode hmany ih =>
    have hcomplete : (format serde).Complete bytes := Buffer.complete_append hheader (length_fill_eq hfull)
    have haccepted : (format serde).accept bytes = some envelope := toOption_eq_some_iff.mpr hdecode
    rw [append_take_drop buffer.partial_ input count, Format.scan_of_accepted hcomplete haccepted]
    refine .cons (ih ?_)
    rw [List.length_append, List.length_singleton]
    omega

/-- A chunk that one call takes, after the bytes before it: not too long, and with the ends of not
too many frames. -/
def Fits (serde : Serde) (before chunk : List UInt8) : Prop :=
  chunk.length ≤ MAX_STREAM_FEED_BYTES ∧
    ((format serde).scan (before ++ chunk)).frames.length ≤
      ((format serde).scan before).frames.length + MAX_FRAMES_PER_FEED

def AllFit (serde : Serde) (before : List UInt8) : List (List UInt8) → Prop
  | [] => True
  | chunk :: rest => Fits serde before chunk ∧ AllFit serde (before ++ chunk) rest

/-- A stream of few frames, in chunks that are not too long. -/
theorem allFit_of_few (chunks : List (List UInt8)) {before : List UInt8}
    (hsound : ((format serde).scan (before ++ chunks.flatten)).sound = true)
    (hfew : ((format serde).scan (before ++ chunks.flatten)).frames.length ≤ MAX_FRAMES_PER_FEED)
    (hlength : ∀ chunk ∈ chunks, chunk.length ≤ MAX_STREAM_FEED_BYTES) : AllFit serde before chunks := by
  induction chunks generalizing before with
  | nil => trivial
  | cons chunk rest ih =>
    rw [List.flatten_cons, ← List.append_assoc] at hsound hfew
    rw [List.forall_mem_cons] at hlength
    refine ⟨⟨hlength.1, ?_⟩, ih hsound hfew hlength.2⟩
    rw [Format.scan_append _ _ (Format.sound_of_append hsound), List.length_append] at hfew
    omega

/-- The envelopes in the frames at the start of a stream. -/
def envelopes (serde : Serde) (bytes : List UInt8) : List ControlEnvelope :=
  ((format serde).scan bytes).frames.map Prod.snd

theorem envelopes_nil : envelopes serde [] = [] := by
  have hscan : (format serde).scan [] = ⟨[], [], true⟩ := Format.scan_of_pending Buffer.empty.pending
  rw [envelopes, hscan, List.map_nil]

namespace ControlStreamDecoder

/-- A decoder that has accepted some bytes, and holds those of them that are not yet a frame. -/
structure Accepted (serde : Serde) (decoder : ControlStreamDecoder) (bytes : List UInt8) : Prop where
  poisoned : decoder.poisoned = false
  finished : decoder.finished = false
  sound : ((format serde).scan bytes).sound = true
  rest : decoder.buffer.partial_ = ((format serde).scan bytes).rest

theorem accepted_new : Accepted serde new [] := by
  have hscan : (format serde).scan [] = ⟨[], [], true⟩ := Format.scan_of_pending Buffer.empty.pending
  exact ⟨rfl, rfl, by rw [hscan], by rw [hscan]; rfl⟩

variable {self : ControlStreamDecoder} {before chunk : List UInt8}

/-- What a call does with a chunk that it can take depends on the bytes of the stream alone. -/
theorem feed_cases (h : Accepted serde self before) (chunk : List UInt8) :
    (∃ frames next, self.feed serde chunk = (.ok frames, next) ∧ Accepted serde next (before ++ chunk) ∧
      envelopes serde (before ++ chunk) = envelopes serde before ++ frames) ∨
    (((format serde).scan (before ++ chunk)).sound = false ∧
      ∃ next, self.feed serde chunk = (.error .MalformedFrame, next)) ∨
    (¬ Fits serde before chunk ∧ ∃ error next, self.feed serde chunk = (.error error, next)) := by
  obtain ⟨hpoisoned, hfinished, hsound, hrest⟩ := h
  have hscan := Format.scan_append before chunk hsound
  rw [← hrest] at hscan
  have hframes := congrArg Scan.frames hscan
  rw [feed, dif_neg (by simp [hpoisoned]), dif_neg (by simp [hfinished])]
  split_ifs with hlong
  · exact .inr (.inr ⟨fun hfits => absurd hfits.1 (not_le.mpr hlong), _, _, rfl⟩)
  have hfed := feed_loop_fed serde self.buffer chunk [] (Nat.zero_le _)
  generalize feed_loop serde self.buffer chunk [] = result at hfed
  cases hfed with
  | sound buffer hnext hpartial hlimit =>
    have hsound' := (congrArg Scan.sound hscan).trans hnext
    refine .inl ⟨_, _, rfl, ⟨hpoisoned, hfinished, hsound', hpartial.trans (congrArg Scan.rest hscan).symm⟩, ?_⟩
    rw [envelopes, hframes, List.map_append, List.nil_append, envelopes]
  | malformed hnext hlimit => exact .inr (.inl ⟨(congrArg Scan.sound hscan).trans hnext, _, rfl⟩)
  | limit hlimit =>
    refine .inr (.inr ⟨fun hfits => ?_, _, _, rfl⟩)
    have hfew := hfits.2
    rw [hframes, List.length_append] at hfew
    rw [List.length_nil] at hlimit
    omega

theorem feed_of_sound (h : Accepted serde self before) (hfits : Fits serde before chunk)
    (hsound : ((format serde).scan (before ++ chunk)).sound = true) :
    ∃ frames next, self.feed serde chunk = (.ok frames, next) ∧ Accepted serde next (before ++ chunk) ∧
      envelopes serde (before ++ chunk) = envelopes serde before ++ frames := by
  obtain hok | ⟨hunsound, -⟩ | ⟨hunfit, -⟩ := feed_cases h chunk
  · exact hok
  · cases hunsound.symm.trans hsound
  · exact absurd hfits hunfit

/-- A chunk that was accepted, whatever its size. -/
theorem accepted_of_feed {frames : List ControlEnvelope} {next : ControlStreamDecoder} (h : Accepted serde self before)
    (hfeed : self.feed serde chunk = (.ok frames, next)) :
    Accepted serde next (before ++ chunk) ∧ envelopes serde (before ++ chunk) = envelopes serde before ++ frames := by
  obtain ⟨_, _, hok, hnext⟩ | ⟨-, _, herror⟩ | ⟨-, _, _, herror⟩ := feed_cases h chunk
  · cases hok.symm.trans hfeed
    exact hnext
  · cases herror.symm.trans hfeed
  · cases herror.symm.trans hfeed

theorem feed_all_of_accepted (h : Accepted serde self before) (chunks : List (List UInt8))
    (hfit : AllFit serde before chunks) :
    (((format serde).scan (before ++ chunks.flatten)).sound = true ∧
      ∃ frames last, self.feed_all serde chunks = (.ok frames, last) ∧
        Accepted serde last (before ++ chunks.flatten) ∧
        envelopes serde (before ++ chunks.flatten) = envelopes serde before ++ frames) ∨
    (((format serde).scan (before ++ chunks.flatten)).sound = false ∧
      ∃ last, self.feed_all serde chunks = (.error .MalformedFrame, last)) := by
  induction chunks generalizing self before with
  | nil =>
    rw [List.flatten_nil, List.append_nil]
    exact .inl ⟨h.sound, [], self, rfl, h, (List.append_nil _).symm⟩
  | cons chunk rest ih =>
    rw [List.flatten_cons, ← List.append_assoc, feed_all]
    obtain ⟨frames, next, hfeed, hnext, hframes⟩ | ⟨hsound, next, hfeed⟩ | ⟨hunfit, -⟩ := feed_cases h chunk
    · rw [hfeed]
      obtain ⟨hsound, more, last, hall, hlast, hmore⟩ | ⟨hsound, last, hall⟩ := ih hnext hfit.2
      · refine .inl ⟨hsound, frames ++ more, last, ?_, hlast, ?_⟩
        · simp only [hall]
        · rw [hmore, hframes, List.append_assoc]
      · refine .inr ⟨hsound, last, ?_⟩
        simp only [hall]
    · rw [hfeed]
      exact .inr ⟨(Format.scan_append_of_not_sound _ _ hsound).2, next, rfl⟩
    · exact absurd hfit.1 hunfit

end ControlStreamDecoder

/-- Whole frames that are decoded to these envelopes, and then the bytes of a next frame, which is not
complete. -/
structure Decomposition (serde : Serde) (bytes : List UInt8) (frames : List (List UInt8))
    (decoded : List ControlEnvelope) (pending : List UInt8) : Prop where
  eq : bytes = frames.flatten ++ pending
  decode : List.Forall₂ (fun frame envelope => decode_control_frame serde frame = .ok envelope) frames decoded
  incomplete : pending.length < HEADER_BYTES ∨
    ∃ size, read_control_length pending = .ok size ∧ pending.length < HEADER_BYTES + size

theorem decode_control_frame_iff {envelope : ControlEnvelope} :
    decode_control_frame serde frame = .ok envelope ↔
      (format serde).Complete frame ∧ (format serde).accept frame = some envelope := by
  rw [format, toOption_eq_some_iff]
  refine ⟨fun h => ⟨?_, h⟩, And.right⟩
  obtain ⟨size, hsize, hlength, -⟩ := decode_control_frame_eq_ok_iff.mp h
  exact complete_iff.mpr ⟨size, hsize, hlength⟩

variable {frames : List (List UInt8)} {decoded : List ControlEnvelope} {pending : List UInt8}

theorem decomposition_iff :
    Decomposition serde bytes frames decoded pending ↔
      frames.length = decoded.length ∧ (format serde).Splits bytes (frames.zip decoded) pending := by
  constructor
  · rintro ⟨heq, hdecode, hincomplete⟩
    obtain ⟨hlength, hzip⟩ := List.forall₂_iff_zip.mp hdecode
    refine ⟨hlength, ?_, ?_, pending_iff.mpr hincomplete⟩
    · rw [List.map_fst_zip hlength.le]
      exact heq
    · exact fun entry hentry => decode_control_frame_iff.mp (hzip hentry)
  · rintro ⟨hlength, heq, haccepted, hpending⟩
    refine ⟨?_, List.forall₂_iff_zip.mpr ⟨hlength, fun {frame envelope} hentry => ?_⟩, pending_iff.mp hpending⟩
    · rw [List.map_fst_zip hlength.le] at heq
      exact heq
    · exact decode_control_frame_iff.mpr (haccepted (frame, envelope) hentry)

/-- What a stream is made of does not leave a choice. -/
theorem Decomposition.unique {frames' : List (List UInt8)} {decoded' : List ControlEnvelope} {pending' : List UInt8}
    (h : Decomposition serde bytes frames decoded pending) (h' : Decomposition serde bytes frames' decoded' pending') :
    frames' = frames ∧ decoded' = decoded ∧ pending' = pending := by
  obtain ⟨hlength, hsplits⟩ := decomposition_iff.mp h
  obtain ⟨hlength', hsplits'⟩ := decomposition_iff.mp h'
  have hscan := hsplits'.scan_eq.symm.trans hsplits.scan_eq
  have hzip := congrArg Scan.frames hscan
  refine ⟨?_, ?_, congrArg Scan.rest hscan⟩
  · have := congrArg (List.map Prod.fst) hzip
    rwa [List.map_fst_zip hlength'.le, List.map_fst_zip hlength.le] at this
  · have := congrArg (List.map Prod.snd) hzip
    rwa [List.map_snd_zip hlength'.ge, List.map_snd_zip hlength.ge] at this

theorem decomposition_scan (hsound : ((format serde).scan bytes).sound = true) :
    Decomposition serde bytes (((format serde).scan bytes).frames.map Prod.fst) (envelopes serde bytes)
      ((format serde).scan bytes).rest := by
  rw [decomposition_iff, envelopes, List.zip_map']
  refine ⟨by rw [List.length_map, List.length_map], ?_⟩
  simpa using Format.splits_scan bytes hsound

/-- The frames that a stream is made of are those it is scanned to. -/
theorem scan_flatten
    (h : List.Forall₂ (fun frame envelope => decode_control_frame serde frame = .ok envelope) frames decoded) :
    (format serde).scan frames.flatten = ⟨frames.zip decoded, [], true⟩ :=
  have hdecomposition : Decomposition serde frames.flatten frames decoded [] :=
    ⟨(List.append_nil _).symm, h, .inl (by decide)⟩
  (decomposition_iff.mp hdecomposition).2.scan_eq

theorem length_of_decode {envelope : ControlEnvelope} (h : decode_control_frame serde frame = .ok envelope) :
    HEADER_LEN < frame.length ∧ frame.length ≤ HEADER_LEN + MAX_CONTROL_FRAME_BYTES := by
  obtain ⟨size, hsize, hlength, -⟩ := decode_control_frame_eq_ok_iff.mp h
  obtain ⟨-, -, hpos, hbound⟩ := read_control_length_eq_ok_iff.mp hsize
  omega

theorem length_flatten_le
    (h : List.Forall₂ (fun frame envelope => decode_control_frame serde frame = .ok envelope) frames decoded) :
    frames.flatten.length ≤ frames.length * (HEADER_LEN + MAX_CONTROL_FRAME_BYTES) := by
  induction h with
  | nil => exact Nat.zero_le _
  | cons hdecode _ ih =>
    have hlength := (length_of_decode hdecode).2
    rw [List.flatten_cons, List.length_append, List.length_cons, Nat.succ_mul]
    omega

/-- Up to three frames fit in any chunks. -/
theorem allFit_of_decode {chunks : List (List UInt8)}
    (h : List.Forall₂ (fun frame envelope => decode_control_frame serde frame = .ok envelope) frames decoded)
    (harrived : chunks.flatten <+: frames.flatten) (hfew : frames.length ≤ 3) : AllFit serde [] chunks := by
  have hscan := scan_flatten h
  have hbound := harrived.length_le.trans (length_flatten_le h)
  obtain ⟨more, hmore⟩ := harrived
  rw [← hmore] at hscan
  have hsound : ((format serde).scan chunks.flatten).sound = true := Format.sound_of_append (by rw [hscan])
  have hcount := congrArg (fun scan => scan.frames.length) (hscan.symm.trans (Format.scan_append _ more hsound))
  simp only [List.length_zip, List.length_append] at hcount
  refine allFit_of_few chunks hsound ?_ fun chunk hchunk => ?_
  · rw [List.nil_append, MAX_FRAMES_PER_FEED]
    omega
  · have hlength := (List.sublist_flatten_of_mem hchunk).length_le
    simp only [HEADER_LEN, MAX_CONTROL_FRAME_BYTES, MAX_STREAM_FEED_BYTES] at hbound ⊢
    omega

/-- Two runs that decode the same envelopes and hold the same bytes, or are both rejected. -/
def Agree (serde : Serde) (left right : List (List UInt8)) : Prop :=
  (∃ (frames : List (List UInt8)) (decoded : List ControlEnvelope) (pending : List UInt8)
      (first second : ControlStreamDecoder),
    new.feed_all serde left = (.ok decoded, first) ∧
    new.feed_all serde right = (.ok decoded, second) ∧
    first.buffer.partial_ = pending ∧ second.buffer.partial_ = pending ∧
    Decomposition serde left.flatten frames decoded pending ∧
    ∀ (frames' : List (List UInt8)) (decoded' : List ControlEnvelope) (pending' : List UInt8),
      Decomposition serde left.flatten frames' decoded' pending' →
        frames' = frames ∧ decoded' = decoded ∧ pending' = pending) ∨
  ∃ first second : ControlStreamDecoder,
    new.feed_all serde left = (.error .MalformedFrame, first) ∧
    new.feed_all serde right = (.error .MalformedFrame, second)

theorem agree_of_flatten_eq {left right : List (List UInt8)} (hbytes : left.flatten = right.flatten)
    (hleft : AllFit serde [] left) (hright : AllFit serde [] right) : Agree serde left right := by
  have hfirst := feed_all_of_accepted accepted_new left hleft
  have hsecond := feed_all_of_accepted accepted_new right hright
  rw [List.nil_append, envelopes_nil] at hfirst hsecond
  rw [← hbytes] at hsecond
  obtain ⟨hsound, decoded, first, hfirst, haccepted, hdecoded⟩ | ⟨hsound, first, hfirst⟩ := hfirst
  · obtain ⟨-, decoded', second, hsecond, haccepted', hdecoded'⟩ | ⟨hsound', -⟩ := hsecond
    · obtain rfl := hdecoded.symm.trans hdecoded'
      have hdecomposition := decomposition_scan hsound
      rw [hdecoded] at hdecomposition
      exact .inl ⟨_, decoded, _, first, second, hfirst, hsecond, haccepted.rest, haccepted'.rest, hdecomposition,
        fun _ _ _ h => hdecomposition.unique h⟩
    · exact absurd (hsound.symm.trans hsound') (by decide)
  · obtain ⟨hsound', -⟩ | ⟨-, second, hsecond⟩ := hsecond
    · exact absurd (hsound.symm.trans hsound') (by decide)
    · exact .inr ⟨first, second, hfirst, hsecond⟩

/-- The frames that a decoder returns, and the bytes that it holds, are those of the stream and do
not depend on the chunks that the stream arrives in. A decoder that has rejected a chunk, or has
been finished, answers every later call with an error and holds nothing. -/
theorem control_stream_decoder_chunking (serde : Serde) :
    (∀ left right : List (List UInt8), left.flatten = right.flatten → AllFit serde [] left → AllFit serde [] right →
      Agree serde left right) ∧
    ∀ (decoder : ControlStreamDecoder) (request : StreamCall),
      ((∃ error, (decoder.call serde request).1 = .error error) ∨ request = .finish) →
      ∀ (requests : List StreamCall) (later : StreamCall),
        let last := (decoder.call serde request).2.calls serde requests
        (∃ error, (last.call serde later).1 = .error error) ∧ last.pending_bytes = 0 := by
  refine ⟨fun left right hbytes hleft hright => agree_of_flatten_eq hbytes hleft hright, ?_⟩
  intro decoder request hends requests later
  have hended := ended_call hends
  rw [hended.calls requests]
  refine ⟨(hended.call later).1, ?_⟩
  rw [pending_bytes, (decoder.call serde request).2.ended hended]
  rfl

/-- A frame that arrives whole, or in two pieces. -/
theorem control_stream_decoder_chunking_sample :
    ∃ framed, encode_control_frame plain_reader.serde (session_frame 3 .Heartbeat) = .ok framed ∧
      Agree plain_reader.serde [framed] [framed.take 2, framed.drop 2] := by
  obtain ⟨framed, hframed, hdecode⟩ := exists_heartbeat
  have hsame : [framed].flatten = [framed.take 2, framed.drop 2].flatten := by simp
  refine ⟨framed, hframed, (control_stream_decoder_chunking _).1 _ _ hsame ?_ ?_⟩
  · exact allFit_of_decode (.cons hdecode .nil) (List.prefix_refl _) (by simp)
  · exact allFit_of_decode (.cons hdecode .nil) (hsame ▸ List.prefix_refl _) (by simp)

end blueroute_protocol.control_stream
