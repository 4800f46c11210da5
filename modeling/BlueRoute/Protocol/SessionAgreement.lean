import BlueRoute.Protocol.ControlStream.Chunks
import BlueRoute.Protocol.SessionStream
import BlueRoute.Protocol.SessionWriter

namespace blueroute_protocol.session_stream

open blueroute control control_stream session_writer Framing SessionControlStream ControlStreamDecoder

variable {serde : Serde}

theorem exists_envelopes_append {before more : List UInt8}
    (hsound : ((format serde).scan (before ++ more)).sound = true) :
    ∃ later, envelopes serde (before ++ more) = envelopes serde before ++ later := by
  have hscan := Format.scan_append before more (Format.sound_of_append hsound)
  exact ⟨_, by rw [envelopes, hscan, List.map_append, envelopes]⟩

/-- Where a stream stands: what its decoder has accepted, and the frames that are still to come, which
pass the checks. -/
structure SessionControlStream.Expects (serde : Serde) (stream : SessionControlStream) (total before : List UInt8)
    (frames : List ControlEnvelope) (last : SessionControlStream) : Prop where
  poisoned : stream.poisoned = false
  decoder : stream.decoder.Accepted serde before
  frames_eq : envelopes serde total = envelopes serde before ++ frames
  checked : ∃ decoder, stream.check_frames frames = (.ok (), { last with decoder })

namespace SessionControlStream

variable {total before chunk more : List UInt8} {self last : SessionControlStream} {frames : List ControlEnvelope}

/-- After a goodbye there are no more bytes. -/
theorem Expects.eq_nil_of_closed (h : self.Expects serde total before frames last)
    (hsound : ((format serde).scan total).sound = true) (hrest : ((format serde).scan total).rest = [])
    (htotal : before ++ more = total) (hclosed : self.closed = true) : frames = [] ∧ more = [] := by
  obtain ⟨decoder, hchecked⟩ := h.checked
  have hnone := SessionControlStream.eq_nil_of_closed hclosed hchecked
  subst htotal
  have hframes := congrArg List.length h.frames_eq
  rw [hnone, List.append_nil, envelopes, envelopes, List.length_map, List.length_map] at hframes
  exact ⟨hnone, Format.eq_nil_of_frames_append hsound hrest hframes⟩

/-- One chunk of a stream whose frames all pass the checks. -/
theorem Expects.feed (h : self.Expects serde total before frames last)
    (hsound : ((format serde).scan total).sound = true) (hrest : ((format serde).scan total).rest = [])
    (htotal : before ++ chunk ++ more = total) (hfits : Fits serde before chunk) :
    ∃ returned later next, frames = returned ++ later ∧ self.feed serde chunk = (.ok returned, next) ∧
      next.Expects serde total (before ++ chunk) later last := by
  obtain ⟨decoder, hchecked⟩ := h.checked
  rw [SessionControlStream.feed, if_neg (by simp [h.poisoned])]
  by_cases hclosed : self.closed = true
  · have hnil := h.eq_nil_of_closed hsound hrest (by rw [← List.append_assoc]; exact htotal) hclosed
    obtain ⟨rfl, rfl⟩ := List.append_eq_nil_iff.mp hnil.2
    rw [if_pos hclosed, if_neg (not_not.mpr rfl), List.append_nil]
    exact ⟨[], frames, self, rfl, rfl, h⟩
  · rw [if_neg hclosed]
    subst htotal
    obtain ⟨returned, decoder', hfeed, haccepted, hreturned⟩ :=
      feed_of_sound h.decoder hfits (Format.sound_of_append hsound)
    obtain ⟨later, hlater⟩ := exists_envelopes_append hsound
    have hframes : frames = returned ++ later := by
      have := h.frames_eq.symm.trans hlater
      rw [hreturned, List.append_assoc] at this
      exact List.append_cancel_left this
    rw [hframes, check_frames_append_eq_ok_iff] at hchecked
    obtain ⟨mid, hmid, hchecked⟩ := hchecked
    have hchecked' := check_frames_with_decoder decoder' hchecked
    have hnext : Expects serde { mid with decoder := decoder' } (before ++ chunk ++ more)
      (before ++ chunk) later last :=
      ⟨(check_frames_poisoned hmid).trans h.poisoned, haccepted, hlater, decoder', hchecked'⟩
    have hdone : ¬ (mid.closed = true ∧ decoder'.pending_bytes ≠ 0) := by
      rintro ⟨hgoodbye, hpending⟩
      obtain rfl := (hnext.eq_nil_of_closed hsound hrest rfl hgoodbye).2
      rw [List.append_nil] at hrest
      exact hpending (by rw [pending_bytes, haccepted.rest, hrest, List.length_nil])
    refine ⟨returned, later, { mid with decoder := decoder' }, hframes, ?_, hnext⟩
    simp only [hfeed, check_frames_with_decoder decoder' hmid, if_neg hdone]

/-- All chunks of a stream whose frames all pass the checks. -/
theorem Expects.feed_all (chunks : List (List UInt8)) (h : self.Expects serde total before frames last)
    (hsound : ((format serde).scan total).sound = true) (hrest : ((format serde).scan total).rest = [])
    (htotal : before ++ chunks.flatten = total) (hfit : AllFit serde before chunks) :
    ∃ decoder, self.feed_all serde chunks = (.ok frames, { last with decoder }) ∧ decoder.Accepted serde total := by
  induction chunks generalizing self before frames with
  | nil =>
    rw [List.flatten_nil, List.append_nil] at htotal
    subst htotal
    obtain rfl : frames = [] := by simpa using h.frames_eq
    obtain ⟨decoder, hchecked⟩ := h.checked
    cases hchecked
    exact ⟨decoder, rfl, h.decoder⟩
  | cons chunk rest ih =>
    rw [List.flatten_cons, ← List.append_assoc] at htotal
    obtain ⟨returned, later, next, rfl, hfeed, hnext⟩ := h.feed hsound hrest htotal hfit.1
    obtain ⟨decoder, hall, haccepted⟩ := ih hnext htotal hfit.2
    refine ⟨decoder, ?_, haccepted⟩
    rw [feed_all]
    simp only [hfeed, hall]

end SessionControlStream

/-- The two ends of one session, with nothing on the way between them. -/
structure Synced (writer : SessionControlWriter) (stream : SessionControlStream) : Prop where
  network : writer.network = stream.network
  sender : writer.local_ = stream.peer
  session_id : writer.exporter_session_id = stream.exporter_session_id
  sequence : writer.next_sequence.toNat = stream.last_sequence.toNat + 1
  closed : writer.closed = stream.closed

variable {writer next : SessionControlWriter} {stream : SessionControlStream}

/-- A frame that one end writes is the next that the other end accepts. -/
theorem Synced.encode {request : WriterCall} {frame : List UInt8} (h : Synced writer stream)
    (hencode : writer.encode serde request.message = (.ok frame, next)) :
    ∃ accepted, stream.check_frame (writer.envelope request.message) = .ok accepted ∧ Synced next accepted ∧
      encode_control_frame serde (writer.envelope request.message) = .ok frame ∧
      next.next_sequence.toNat = writer.next_sequence.toNat + 1 ∧
      accepted.closed = (request.message == .Goodbye) := by
  obtain ⟨hopen, hroom, hframe, rfl⟩ := encode_eq_ok hencode
  have hsequence : (writer.next_sequence + 1).toNat = writer.next_sequence.toNat + 1 := by
    rw [UInt64.toNat_add, UInt64.toNat_one, Nat.mod_eq_of_lt hroom]
  have hmessage : request.message = .Heartbeat ∨ request.message = .Goodbye := by
    cases request
    · exact .inl rfl
    · exact .inr rfl
  have hlater : stream.last_sequence < writer.next_sequence := by
    rw [UInt64.lt_iff_toNat_lt, h.sequence]
    exact Nat.lt_succ_self _
  refine ⟨_, check_frame_eq_ok_iff.mpr
    ⟨⟨h.network, h.sender, h.session_id⟩, hlater, h.closed ▸ hopen, hmessage, rfl⟩, ?_, hframe, hsequence, rfl⟩
  exact ⟨h.network, h.sender, h.session_id, hsequence, rfl⟩

theorem Synced.poison (h : Synced writer stream) {poisoned : Bool} : Synced { writer with poisoned } stream :=
  ⟨h.network, h.sender, h.session_id, h.sequence, h.closed⟩

/-- What one end writes is what the other end accepts, in order and with the numbers in order. -/
theorem Synced.written (h : Synced writer stream) (serde : Serde) (requests : List WriterCall) :
    ∃ (sent : List ControlEnvelope) (last : SessionControlStream),
      stream.check_frames sent = (.ok (), last) ∧
      List.Forall₂ (fun frame envelope => encode_control_frame serde envelope = .ok frame)
        ((written serde writer requests).map Prod.snd) sent ∧
      sent.map (fun envelope => (envelope.message, envelope.sequence.toNat)) =
        ((written serde writer requests).map Prod.fst).zipIdx writer.next_sequence.toNat ∧
      (last.closed = true ↔
        stream.closed = true ∨ .Goodbye ∈ (written serde writer requests).map Prod.fst) := by
  induction requests generalizing writer stream with
  | nil => exact ⟨[], stream, rfl, .nil, rfl, by simp [session_writer.written]⟩
  | cons request rest ih =>
    rw [session_writer.written, WriterCall.perform_eq]
    cases hencode : writer.encode serde request.message with
    | mk result next =>
      cases result with
      | error error =>
        rw [encode_eq_error hencode]
        exact ih h.poison
      | ok frame =>
        obtain ⟨accepted, hcheck, hsynced, hframe, hsequence, hclosed⟩ := h.encode hencode
        obtain ⟨sent, last, hchecked, hframes, hnumbers, hlast⟩ := ih hsynced
        have hopen := (check_frame_eq_ok_iff.mp hcheck).2.2.1
        refine ⟨writer.envelope request.message :: sent, last, ?_, .cons hframe hframes, ?_, ?_⟩
        · exact check_frames_cons_eq_ok_iff.mpr ⟨accepted, hcheck, hchecked⟩
        · rw [List.map_cons, hnumbers, List.map_cons, List.zipIdx_cons, hsequence]
          rfl
        · rw [hlast, hclosed, hopen, List.map_cons, List.mem_cons, beq_iff_eq]
          simp [eq_comm]

theorem SessionControlStream.finish_eq_ok_iff (self : SessionControlStream) (hpoisoned : self.poisoned = false)
    (hfinish : self.decoder.finish.1 = .ok ()) : self.finish.1 = .ok () ↔ self.closed = true := by
  rw [finish, if_neg (by simp [hpoisoned])]
  cases hdecoder : self.decoder.finish with
  | mk result decoder =>
    rw [hdecoder] at hfinish
    obtain rfl : result = .ok () := hfinish
    by_cases hclosed : self.closed = true
    · simp [hclosed]
    · simp [hclosed, reject]

/-- Both ends of a session agree: whatever a writer returns, cut into any chunks, is accepted and comes
back as the messages that were written, with the numbers from three on. The end of the stream is
graceful exactly if a goodbye was written, and nothing is written after it. As long as its messages fit in
frames and there are numbers, a writer returns a frame for each of them to the first goodbye. -/
theorem session_writer_stream_agree (serde : Serde)
    (hserde : ∀ envelope payload, validate envelope = .ok () → serde.to_vec envelope = .ok payload →
      serde.from_slice payload = .ok envelope)
    (network : NetworkId) (a b : NodeId) (id : Vector UInt8 16) (hnetwork : network ≠ .filled 0)
    (ha : a ≠ .filled 0) (hb : b ≠ .filled 0) (hab : a ≠ b) (hid : id ≠ Vector.replicate 16 0) :
    ∃ (writer : SessionControlWriter) (stream : SessionControlStream),
      SessionControlWriter.after_verified_hello network a b id = .ok writer ∧
      after_verified_hello network a id = .ok stream ∧
      (∀ (requests : List WriterCall) (chunks : List (List UInt8)),
        chunks.flatten = ((written serde writer requests).map Prod.snd).flatten → AllFit serde [] chunks →
        ∃ (received : List ControlEnvelope) (last : SessionControlStream),
          stream.feed_all serde chunks = (.ok received, last) ∧
          List.Forall₂ (fun frame envelope => encode_control_frame serde envelope = .ok frame)
            ((written serde writer requests).map Prod.snd) received ∧
          received.map (fun envelope => (envelope.message, envelope.sequence.toNat)) =
            ((written serde writer requests).map Prod.fst).zipIdx 3 ∧
          (last.finish.1 = .ok () ↔ .Goodbye ∈ (written serde writer requests).map Prod.fst)) ∧
      (∀ (writer : SessionControlWriter) (frame : List UInt8),
        (writer.goodbye serde).1 = .ok frame →
          ∀ requests : List WriterCall, written serde (writer.goodbye serde).2 requests = []) ∧
      ∀ requests : List WriterCall, 3 + requests.length < 2 ^ 64 →
        (∀ n < requests.length, ∀ request : WriterCall, ∃ frame, encode_control_frame serde
          { writer.envelope request.message with sequence := .ofNat (3 + n) } = .ok frame) →
        (written serde writer requests).map Prod.fst = (WriterCall.up_to_goodbye requests).map WriterCall.message := by
  refine ⟨{ network, local_ := a, exporter_session_id := id, next_sequence := 3, closed := false, poisoned := false },
    { decoder := .new, network, peer := a, exporter_session_id := id, last_sequence := 2, closed := false,
      poisoned := false }, ?_, ?_, ?_, ?_, ?_⟩
  · rw [SessionControlWriter.after_verified_hello, if_neg (by simp [hnetwork, ha, hb, hab, hid])]
  · rw [after_verified_hello, if_neg (by simp [hnetwork, ha, hid])]
  · intro requests chunks hbytes hfit
    have hsynced : Synced
        { network, local_ := a, exporter_session_id := id, next_sequence := 3, closed := false, poisoned := false }
        { decoder := .new, network, peer := a, exporter_session_id := id, last_sequence := 2, closed := false,
          poisoned := false } := ⟨rfl, rfl, rfl, rfl, rfl⟩
    obtain ⟨sent, last, hchecked, hframes, hnumbers, hclosed⟩ := hsynced.written serde requests
    have hdecode := hframes.imp fun frame envelope h => decode_encode_control_frame (hserde envelope) h
    have hscan := scan_flatten hdecode
    rw [← hbytes] at hscan
    have hsent : envelopes serde chunks.flatten = sent := by
      rw [envelopes, hscan, List.map_snd_zip hframes.length_eq.ge]
    have hexpects : Expects serde _ chunks.flatten [] sent last :=
      ⟨rfl, accepted_new, by rw [hsent, envelopes_nil, List.nil_append], last.decoder, hchecked⟩
    obtain ⟨decoder, hall, haccepted⟩ := hexpects.feed_all chunks (by rw [hscan]) (by rw [hscan]) rfl hfit
    have hpoisoned := check_frames_poisoned hchecked
    have hdrained := haccepted.rest.trans (congrArg Scan.rest hscan)
    have hfinish := finish_of_drained haccepted.poisoned haccepted.finished hdrained
    refine ⟨sent, { last with decoder }, hall, hframes, hnumbers, ?_⟩
    rw [finish_eq_ok_iff { last with decoder } hpoisoned hfinish, hclosed]
    simp
  · intro writer frame hgoodbye requests
    exact written_of_closed (goodbye_closed hgoodbye) requests
  · exact fun requests hroom hframes => written_of_frames requests rfl rfl hroom hframes

def sample_writer : SessionControlWriter where
  network := .filled 1
  local_ := .filled 2
  exporter_session_id := Vector.replicate 16 3
  next_sequence := 3
  closed := false
  poisoned := false

/-- A heartbeat and a goodbye in two chunks; the heartbeat after it is refused. -/
theorem session_writer_stream_agree_sample :
    ∃ (stream : SessionControlStream) (first second : List UInt8) (received : List ControlEnvelope)
      (last : SessionControlStream),
      SessionControlWriter.after_verified_hello (.filled 1) (.filled 2) (.filled 4) (Vector.replicate 16 3) =
        .ok sample_writer ∧
      after_verified_hello (.filled 1) (.filled 2) (Vector.replicate 16 3) = .ok stream ∧
      written plain_reader.serde sample_writer [.heartbeat, .goodbye, .heartbeat] =
        [(.Heartbeat, first), (.Goodbye, second)] ∧
      stream.feed_all plain_reader.serde [first.take 3, first.drop 3 ++ second] = (.ok received, last) ∧
      received.map (fun envelope => (envelope.message, envelope.sequence.toNat)) = [(.Heartbeat, 3), (.Goodbye, 4)] ∧
      last.finish.1 = .ok () := by
  have hserde : ∀ envelope payload, validate envelope = .ok () → plain_reader.serde.to_vec envelope = .ok payload →
      plain_reader.serde.from_slice payload = .ok envelope := by
    intro envelope payload hvalid hpayload
    obtain rfl : Json.to_vec envelope.serialize = payload := Except.ok.inj hpayload
    exact from_slice_of_parse (plain_reader_inverts envelope)
      (ControlEnvelope.deserialize_serialize (segment_of_validate hvalid))
  obtain ⟨writer, stream, hwriter, hstream, hagree, -⟩ := session_writer_stream_agree plain_reader.serde hserde
    (.filled 1) (.filled 2) (.filled 4) (Vector.replicate 16 3) (by decide) (by decide) (by decide) (by decide)
      (by decide)
  obtain rfl : sample_writer = writer := Except.ok.inj hwriter
  obtain ⟨first, hfirst, hfirst'⟩ := exists_heartbeat
  obtain ⟨second, hsecond, hsecond'⟩ := @exists_frame (session_frame 4 .Goodbye) (by decide +kernel) (by decide +kernel)
  have hheartbeat : sample_writer.encode plain_reader.serde (WriterCall.message .heartbeat) =
      (.ok first, { sample_writer with next_sequence := 4 }) := encode_of_frame .Heartbeat rfl rfl (by decide) hfirst
  have hgoodbye : { sample_writer with next_sequence := 4 }.encode plain_reader.serde (WriterCall.message .goodbye) =
      (.ok second, { sample_writer with next_sequence := 5, closed := true }) :=
    encode_of_frame .Goodbye rfl rfl (by decide) hsecond
  have hwritten : written plain_reader.serde sample_writer [.heartbeat, .goodbye, .heartbeat] =
      [(.Heartbeat, first), (.Goodbye, second)] := by
    rw [written_cons hheartbeat, written_cons hgoodbye, written_of_closed rfl]
    rfl
  have hbytes : [first.take 3, first.drop 3 ++ second].flatten = [first, second].flatten := by
    simp [← List.append_assoc]
  obtain ⟨received, last, hall, -, hnumbers, hfinish⟩ := hagree [.heartbeat, .goodbye, .heartbeat]
    [first.take 3, first.drop 3 ++ second] (by rw [hwritten]; exact hbytes)
    (allFit_of_decode (.cons hfirst' (.cons hsecond' .nil)) (hbytes ▸ List.prefix_refl _) (by simp))
  rw [hwritten] at hnumbers hfinish
  exact ⟨stream, first, second, received, last, hwriter, hstream, hwritten, hall, hnumbers, hfinish.mpr (by simp)⟩

/-- However much of a stream of encoded envelopes has arrived, in any chunks, the decoder returns exactly those of which
the whole frame is there, and keeps the rest. The end of the stream is accepted only between two frames. -/
theorem truncated_stream_decoded (json : JsonText) (frames : List (List UInt8)) (sent : List ControlEnvelope)
    (hjson : ∀ envelope, validate envelope = .ok () → json.Inverts envelope)
    (hframes : List.Forall₂ (fun frame envelope => encode_control_frame json.serde envelope = .ok frame) frames sent)
    (chunks : List (List UInt8)) (harrived : chunks.flatten <+: frames.flatten) (hfit : AllFit json.serde [] chunks) :
    ∃ n last, new.feed_all json.serde chunks = (.ok (sent.take n), last) ∧
      chunks.flatten = (frames.take n).flatten ++ last.buffer.partial_ ∧
      (n < frames.length → chunks.flatten.length < (frames.take (n + 1)).flatten.length) ∧
      (last.finish.1 = .ok () ↔ last.buffer.partial_ = []) := by
  have hdecode := hframes.imp fun frame envelope h => decode_of_encode (hjson envelope (validate_of_encode h)) h
  have hscan := scan_flatten hdecode
  obtain ⟨more, hmore⟩ := harrived
  rw [← hmore] at hscan
  have hsound : ((format json.serde).scan chunks.flatten).sound = true := Format.sound_of_append (by rw [hscan])
  have hzip := congrArg Scan.frames (hscan.symm.trans (Format.scan_append _ more hsound))
  have htake := List.prefix_iff_eq_take.mp ⟨_, hzip.symm⟩
  have hdecomposition := decomposition_scan hsound
  obtain ⟨n, hn⟩ : ∃ n, ((format json.serde).scan chunks.flatten).frames.length = n := ⟨_, rfl⟩
  rw [hn] at htake
  have hsent : envelopes json.serde chunks.flatten = sent.take n := by
    rw [envelopes, htake, List.map_take, List.map_snd_zip hframes.length_eq.ge]
  have hnext : n < frames.length → chunks.flatten.length < (frames.take (n + 1)).flatten.length := by
    intro hlt
    by_contra hlong
    -- the frame after those that were found would have been found too
    obtain ⟨rest, hrest⟩ := List.prefix_of_prefix_length_le ⟨(frames.drop (n + 1)).flatten, by
      rw [← List.flatten_append, List.take_append_drop]⟩ ⟨more, hmore⟩ (not_lt.mp hlong)
    have hfound := scan_flatten (List.forall₂_take (n + 1) hdecode)
    have hmany := Format.scan_append _ rest (by rw [hfound])
    rw [hrest, hfound] at hmany
    have hcount := congrArg (fun scan => scan.frames.length) hmany
    have hlength := hframes.length_eq
    simp only [hn, List.length_append, List.length_zip, List.length_take] at hcount
    omega
  rw [hsent, htake, List.map_take, List.map_fst_zip hframes.length_eq.le] at hdecomposition
  obtain ⟨-, decoded, last, hall, haccepted, hdecoded⟩ | ⟨hunsound, -⟩ :=
    feed_all_of_accepted accepted_new chunks hfit
  · rw [List.nil_append, envelopes_nil, List.nil_append, hsent] at hdecoded
    subst hdecoded
    refine ⟨n, last, hall, haccepted.rest ▸ hdecomposition.eq, hnext, fun h => ?_, ?_⟩
    · exact List.length_eq_zero_iff.mp (pending_bytes_of_finish h)
    · exact finish_of_drained haccepted.poisoned haccepted.finished
  · rw [List.nil_append, hsound] at hunsound
    cases hunsound

/-- A frame and the first byte of another one. -/
theorem truncated_stream_decoded_sample :
    ∃ framed last, encode_control_frame plain_reader.serde (session_frame 3 .Heartbeat) = .ok framed ∧
      new.feed_all plain_reader.serde [framed, framed.take 1] =
        (.ok [session_frame 3 .Heartbeat], last) := by
  obtain ⟨framed, hframed, hdecode⟩ := exists_heartbeat
  have harrived : [framed, framed.take 1].flatten <+: [framed, framed].flatten := by
    simpa using List.take_prefix 1 framed
  obtain ⟨n, last, hall, heq, hnext, -⟩ := truncated_stream_decoded plain_reader [framed, framed]
    [session_frame 3 .Heartbeat, session_frame 3 .Heartbeat] (fun envelope _ => plain_reader_inverts envelope)
    (.cons hframed (.cons hframed .nil)) [framed, framed.take 1] harrived
    (allFit_of_decode (.cons hdecode (.cons hdecode .nil)) harrived (by simp))
  have hlength := (length_of_decode hdecode).1
  have hbytes := congrArg List.length heq
  -- neither no frame nor two
  obtain rfl : n = 1 := by
    match n with
    | 0 => simp at hnext
    | 1 => rfl
    | n + 2 =>
      rw [show [framed, framed].take (n + 2) = [framed, framed] from by simp] at hbytes
      simp only [List.flatten_cons, List.flatten_nil, List.length_append, List.length_take, List.length_nil] at hbytes
      rw [HEADER_LEN] at hlength
      omega
  exact ⟨framed, last, hframed, hall⟩

end blueroute_protocol.session_stream
