import BlueRoute.Base.Runs
import BlueRoute.Protocol.ControlStream.Chunks
import BlueRoute.Protocol.SessionStream

namespace blueroute_protocol.session_stream

open blueroute control control_stream Framing SessionControlStream

/-- Frames of one session: their context, sequences that grow, and heartbeats up to a last goodbye. -/
structure Conforms (network : NetworkId) (peer : NodeId) (session_id : Vector UInt8 16) (low : UInt64)
    (frames : List ControlEnvelope) : Prop where
  context : ∀ frame ∈ frames, frame.network = network ∧ frame.sender = peer ∧ frame.session_id = session_id
  above : ∀ frame ∈ frames, low < frame.sequence
  increasing : frames.Pairwise fun earlier later => earlier.sequence < later.sequence
  messages : ∃ heartbeats goodbyes, frames = heartbeats ++ goodbyes ∧
    (∀ frame ∈ heartbeats, frame.message = .Heartbeat) ∧ (∀ frame ∈ goodbyes, frame.message = .Goodbye) ∧
    goodbyes.length ≤ 1

/-- Whether the peer has said goodbye. -/
def SaysGoodbye (frames : List ControlEnvelope) : Prop := ∃ frame ∈ frames, frame.message = .Goodbye

namespace SessionControlStream

variable {serde : Serde} {self next last : SessionControlStream} {frames : List ControlEnvelope} {chunk : List UInt8}

/-- What the checks have let through, and what they remember of it. -/
theorem check_frames_conforms (h : self.check_frames frames = (.ok (), last)) :
    Conforms self.network self.peer self.exporter_session_id self.last_sequence frames ∧
      (last.closed = true ↔ self.closed = true ∨ SaysGoodbye frames) := by
  induction frames generalizing self with
  | nil =>
    cases h
    exact ⟨⟨by simp, by simp, .nil, [], [], by simp⟩, by simp [SaysGoodbye]⟩
  | cons frame rest ih =>
    obtain ⟨next, hframe, hrest⟩ := check_frames_cons_eq_ok_iff.mp h
    obtain ⟨hcontext, hsequence, hopen, hmessage, rfl⟩ := check_frame_eq_ok_iff.mp hframe
    obtain ⟨hconforms, hclosed⟩ := ih hrest
    refine ⟨⟨?_, ?_, ?_, ?_⟩, ?_⟩
    · exact List.forall_mem_cons.mpr ⟨hcontext, hconforms.context⟩
    · exact List.forall_mem_cons.mpr ⟨hsequence, fun later hlater =>
        UInt64.lt_trans hsequence (hconforms.above later hlater)⟩
    · exact List.pairwise_cons.mpr ⟨hconforms.above, hconforms.increasing⟩
    · obtain hheartbeat | hgoodbye := hmessage
      · obtain ⟨heartbeats, goodbyes, rfl, hheartbeats, hgoodbyes, hone⟩ := hconforms.messages
        exact ⟨frame :: heartbeats, goodbyes, rfl, List.forall_mem_cons.mpr ⟨hheartbeat, hheartbeats⟩, hgoodbyes, hone⟩
      · obtain rfl : rest = [] := eq_nil_of_closed (by simp [hgoodbye]) hrest
        exact ⟨[], [frame], rfl, by simp, by simpa using hgoodbye, le_rfl⟩
    · rw [hclosed, hopen]
      simp [SaysGoodbye]

theorem eq_of_after_verified_hello {network : NetworkId} {peer : NodeId} {session_id : Vector UInt8 16}
    (h : after_verified_hello network peer session_id = .ok self) :
    self = { decoder := .new, network, peer, exporter_session_id := session_id, last_sequence := 2, closed := false,
             poisoned := false } := by
  unfold after_verified_hello at h
  split_ifs at h
  exact (Except.ok.inj h).symm

theorem check_frames_error {error : SessionStreamError} (h : self.check_frames frames = (.error error, last)) :
    last.poisoned = true := by
  induction frames generalizing self with
  | nil => cases h
  | cons frame rest ih =>
    rw [check_frames] at h
    cases hframe : self.check_frame frame with
    | error _ =>
      rw [hframe] at h
      cases h
      rfl
    | ok next =>
      rw [hframe] at h
      exact ih h

/-- A chunk that was accepted, by a closed stream or with all of its frames passed, or a poisoned stream. -/
theorem feed_spec {result : Except SessionStreamError (List ControlEnvelope)}
    (h : self.feed serde chunk = (result, next)) :
    match result with
    | .error _ => next.poisoned = true
    | .ok frames => self.poisoned = false ∧
      ((self.closed = true ∧ chunk = [] ∧ frames = [] ∧ next = self) ∨
        (self.closed = false ∧ ∃ decoder, self.decoder.feed serde chunk = (.ok frames, decoder) ∧
          { self with decoder }.check_frames frames = (.ok (), next) ∧
          (next.closed = true → next.decoder.pending_bytes = 0))) := by
  unfold feed at h
  split_ifs at h with hpoisoned hclosed hbytes
  · cases h
    exact hpoisoned
  · cases h
    rfl
  · cases h
    exact ⟨by simpa using hpoisoned, .inl ⟨hclosed, not_not.mp hbytes, rfl, rfl⟩⟩
  cases hdecoder : self.decoder.feed serde chunk with
  | mk decoding decoder =>
    rw [hdecoder] at h
    cases decoding with
    | error error =>
      cases h
      rfl
    | ok decoded =>
      dsimp only at h
      cases hchecked : { self with decoder }.check_frames decoded with
      | mk checked last =>
        rw [hchecked] at h
        cases checked with
        | error error =>
          cases h
          exact check_frames_error hchecked
        | ok _ =>
          dsimp only at h
          split_ifs at h with hafter
          · cases h
            rfl
          · cases h
            rw [not_and_not_right] at hafter
            exact ⟨by simpa using hpoisoned, .inr ⟨by simpa using hclosed, decoder, rfl, hchecked, hafter⟩⟩

/-- However a stream is finished, it is poisoned then, and it ends well only after a goodbye and between
two frames. -/
theorem finish_spec :
    self.finish.2.poisoned = true ∧
      (self.finish.1 = .ok () → self.poisoned = false ∧ self.closed = true ∧ self.decoder.pending_bytes = 0) := by
  rw [finish]
  by_cases hpoisoned : self.poisoned = true
  · rw [if_pos hpoisoned]
    exact ⟨hpoisoned, nofun⟩
  · rw [if_neg hpoisoned]
    cases hdecoder : self.decoder.finish with
    | mk result decoder =>
      cases result with
      | error error => exact ⟨rfl, nofun⟩
      | ok _ =>
        dsimp only
        split_ifs with hclosed
        · refine ⟨rfl, fun _ => ⟨by simpa using hpoisoned, hclosed, ?_⟩⟩
          exact ControlStreamDecoder.pending_bytes_of_finish (congrArg Prod.fst hdecoder)
        · exact ⟨rfl, nofun⟩

/-- One call on a stream. -/
def call (serde : Serde) (self : SessionControlStream) :
    StreamCall → Except SessionStreamError (List ControlEnvelope) × SessionControlStream
  | .feed chunk => self.feed serde chunk
  | .finish => (self.finish.1.map fun _ => [], self.finish.2)

theorem call_of_poisoned (h : self.poisoned = true) (request : StreamCall) :
    self.call serde request = (.error .Poisoned, self) := by
  cases request with
  | feed chunk => rw [call, feed, if_pos h]
  | finish =>
    rw [call, finish, if_pos h]
    rfl

end SessionControlStream

/-- A call with its result. -/
structure SessionLabel where
  request : StreamCall
  result : Except SessionStreamError (List ControlEnvelope)

def SessionStep (serde : Serde) (stream : SessionControlStream) (label : SessionLabel) (next : SessionControlStream) :
    Prop :=
  stream.call serde label.request = (label.result, next)

/-- The bytes that were fed, and the envelopes that were returned, in order. -/
def fed (labels : List SessionLabel) : List UInt8 :=
  labels.flatMap fun label =>
    match label.request with
    | .feed chunk => chunk
    | .finish => []

def returned (labels : List SessionLabel) : List ControlEnvelope :=
  labels.flatMap fun label => label.result.toOption.getD []

/-- A call after which no other succeeds. -/
def SessionLabel.Terminal (label : SessionLabel) : Prop :=
  (∃ error, label.result = .error error) ∨ label.request = .finish

/-- Where a run stands: what has been returned passes the checks from the start on, and a stream that is
not poisoned has taken all bytes so far. -/
structure Progress (serde : Serde) (init : SessionControlStream) (labels : List SessionLabel)
    (stream : SessionControlStream) : Prop where
  checked : ∃ last, init.check_frames (returned labels) = (.ok (), last) ∧
    (stream.poisoned = false → ∃ decoder, stream = { last with decoder })
  accepted : stream.poisoned = false → stream.decoder.Accepted serde (fed labels) ∧
    returned labels = envelopes serde (fed labels) ∧ (stream.closed = true → stream.decoder.pending_bytes = 0) ∧
    ∀ label ∈ labels, ¬ label.Terminal

theorem returned_append (before after : List SessionLabel) :
    returned (before ++ after) = returned before ++ returned after :=
  List.flatMap_append

theorem fed_append (before after : List SessionLabel) : fed (before ++ after) = fed before ++ fed after :=
  List.flatMap_append

section Steps

variable {serde : Serde} {init stream next : SessionControlStream} {labels : List SessionLabel} {label : SessionLabel}

variable {frames : List ControlEnvelope}

theorem check_frames_decoder (h : stream.check_frames frames = (.ok (), next)) : next.decoder = stream.decoder := by
  have hsame := check_frames_with_decoder stream.decoder h
  exact congrArg (fun checked => checked.2.decoder) (h.symm.trans hsame)

theorem Progress.poison (h : Progress serde init labels stream) (hpoisoned : next.poisoned = true)
    (hresult : label.result.toOption.getD [] = []) : Progress serde init (labels ++ [label]) next := by
  have hreturned : returned (labels ++ [label]) = returned labels := by
    rw [returned_append]
    simp [returned, hresult]
  obtain ⟨last, hlast, -⟩ := h.checked
  refine ⟨⟨last, hreturned ▸ hlast, fun hopen => ?_⟩, fun hopen => ?_⟩ <;>
  · rw [hpoisoned] at hopen
    cases hopen

theorem Progress.feed {chunk : List UInt8} (h : Progress serde init labels stream)
    (hfeed : stream.feed serde chunk = (.ok frames, next)) :
    Progress serde init (labels ++ [⟨.feed chunk, .ok frames⟩]) next := by
  obtain ⟨hopen, hcases⟩ := feed_spec hfeed
  obtain ⟨last, hlast, hstream⟩ := h.checked
  obtain ⟨haccepted, hreturned, hdrained, hlabels⟩ := h.accepted hopen
  have hreturned' : returned (labels ++ [⟨.feed chunk, .ok frames⟩]) = returned labels ++ frames := by
    rw [returned_append]
    simp [returned, Except.toOption]
  have hfed' : fed (labels ++ [⟨.feed chunk, .ok frames⟩]) = fed labels ++ chunk := by
    rw [fed_append]
    simp [fed]
  have hlabels' : ∀ label ∈ labels ++ [⟨.feed chunk, .ok frames⟩], ¬ label.Terminal := by
    refine List.forall_mem_append.mpr ⟨hlabels, List.forall_mem_singleton.mpr ?_⟩
    rintro (⟨error, herror⟩ | hfinish)
    · cases herror
    · cases hfinish
  obtain ⟨decoder, rfl⟩ := hstream hopen
  obtain ⟨-, rfl, rfl, rfl⟩ | ⟨-, decoder', hdecoder, hchecked, hpending⟩ := hcases
  · rw [List.append_nil] at hreturned' hfed'
    refine ⟨⟨last, hreturned' ▸ hlast, fun _ => ⟨decoder, rfl⟩⟩, fun _ => ?_⟩
    rw [hfed', hreturned']
    exact ⟨haccepted, hreturned, hdrained, hlabels'⟩
  · have hnext : next.decoder = decoder' := check_frames_decoder hchecked
    obtain ⟨haccepted', hframes⟩ := ControlStreamDecoder.accepted_of_feed haccepted hdecoder
    have hagain := check_frames_with_decoder last.decoder hchecked
    refine ⟨⟨{ next with decoder := last.decoder }, ?_, fun _ => ⟨next.decoder, rfl⟩⟩, fun _ => ?_⟩
    · rw [hreturned']
      exact check_frames_append_eq_ok_iff.mpr ⟨last, hlast, hagain⟩
    · rw [hfed', hreturned', hnext, hframes, hreturned]
      exact ⟨haccepted', rfl, hnext ▸ hpending, hlabels'⟩

theorem Progress.step (h : Progress serde init labels stream) (hstep : SessionStep serde stream label next) :
    Progress serde init (labels ++ [label]) next := by
  obtain ⟨request, result⟩ := label
  cases request with
  | feed chunk =>
    cases result with
    | error error => exact h.poison (feed_spec hstep) rfl
    | ok frames => exact h.feed hstep
  | finish =>
    have hresult : stream.finish.1.map (fun _ => []) = result := congrArg Prod.fst hstep
    have hnext : stream.finish.2 = next := congrArg Prod.snd hstep
    refine h.poison (hnext ▸ finish_spec.1) ?_
    rw [← hresult]
    cases stream.finish.1 <;> rfl

theorem progress_of_run {network : NetworkId} {peer : NodeId} {session_id : Vector UInt8 16}
    (hinit : after_verified_hello network peer session_id = .ok init)
    (hrun : Runs.Run (SessionStep serde) init labels stream) : Progress serde init labels stream := by
  refine hrun.history (Progress serde init) ?_ fun _ _ _ _ h hstep => h.step hstep
  obtain rfl := eq_of_after_verified_hello hinit
  refine ⟨⟨_, rfl, fun _ => ⟨.new, rfl⟩⟩, fun _ => ⟨ControlStreamDecoder.accepted_new, ?_, nofun, by simp⟩⟩
  exact envelopes_nil.symm

/-- A closed stream is one that has returned a goodbye. -/
theorem Progress.closed_iff {network : NetworkId} {peer : NodeId} {session_id : Vector UInt8 16}
    (hinit : after_verified_hello network peer session_id = .ok init)
    (h : Progress serde init labels stream) (hopen : stream.poisoned = false) :
    stream.closed = true ↔ SaysGoodbye (returned labels) := by
  obtain ⟨last, hlast, hstream⟩ := h.checked
  obtain ⟨decoder, rfl⟩ := hstream hopen
  rw [(check_frames_conforms hlast).2]
  obtain rfl := eq_of_after_verified_hello hinit
  simp

/-- After a call that succeeds a stream may still be used, unless it was the last. -/
theorem open_of_feed {chunk : List UInt8} (hfeed : stream.feed serde chunk = (.ok frames, next)) :
    next.poisoned = false := by
  obtain ⟨hopen, ⟨-, -, -, rfl⟩ | ⟨-, decoder, -, hchecked, -⟩⟩ := feed_spec hfeed
  · exact hopen
  · exact (check_frames_poisoned hchecked).trans hopen

end Steps

/-- Any calls on a stream with any bytes. What is returned over the whole run is one conforming session.
A chunk is accepted as a whole: all bytes so far are frames that were returned, followed by the start
of a frame, which is empty after a goodbye. After a goodbye no byte is accepted; after an error or
the end of the stream no call succeeds; and the stream ends well only after a goodbye, between frames. -/
theorem session_stream_runs (serde : Serde) {network : NetworkId} {peer : NodeId} {session_id : Vector UInt8 16}
    {init stream : SessionControlStream} {labels : List SessionLabel}
    (hinit : after_verified_hello network peer session_id = .ok init)
    (hrun : Runs.Run (SessionStep serde) init labels stream) :
    Conforms network peer session_id 2 (returned labels) ∧
    ∀ (label : SessionLabel) (next : SessionControlStream), SessionStep serde stream label next →
      (∀ chunk frames, label = ⟨.feed chunk, .ok frames⟩ →
        (∃ pieces pending, Decomposition serde (fed labels ++ chunk) pieces (returned labels ++ frames) pending ∧
          next.decoder.buffer.partial_ = pending ∧ (SaysGoodbye (returned labels ++ frames) → pending = [])) ∧
        (SaysGoodbye (returned labels) → chunk = [] ∧ frames = [])) ∧
      ((∃ earlier ∈ labels, earlier.Terminal) → ∃ error, label.result = .error error) ∧
      (∀ frames, label = ⟨.finish, .ok frames⟩ →
        frames = [] ∧ SaysGoodbye (returned labels) ∧ stream.decoder.pending_bytes = 0) := by
  have hprogress := progress_of_run hinit hrun
  refine ⟨?_, fun label next hstep => ⟨?_, ?_, ?_⟩⟩
  · obtain ⟨last, hlast, -⟩ := hprogress.checked
    have hconforms := (check_frames_conforms hlast).1
    obtain rfl := eq_of_after_verified_hello hinit
    exact hconforms
  · rintro chunk frames rfl
    obtain ⟨hopen, hcases⟩ := feed_spec hstep
    have hnext := hprogress.feed hstep
    have hopen' := open_of_feed hstep
    obtain ⟨haccepted, hreturned, hdrained, -⟩ := hnext.accepted hopen'
    have hdecomposition := decomposition_scan haccepted.sound
    have hclosed := hnext.closed_iff hinit hopen'
    rw [← hreturned] at hdecomposition
    rw [← haccepted.rest] at hdecomposition
    rw [returned_append, fed_append] at hdecomposition
    rw [returned_append] at hclosed
    simp only [returned, fed, Except.toOption, Option.getD_some, List.flatMap_singleton] at hdecomposition hclosed
    refine ⟨⟨_, _, hdecomposition, rfl, fun hgoodbye => ?_⟩, fun hgoodbye => ?_⟩
    · exact List.length_eq_zero_iff.mp (hdrained (hclosed.mpr hgoodbye))
    · obtain ⟨-, hchunk, hframes, -⟩ | ⟨hunclosed, -⟩ := hcases
      · exact ⟨hchunk, hframes⟩
      · rw [(hprogress.closed_iff hinit hopen).mpr hgoodbye] at hunclosed
        cases hunclosed
  · rintro ⟨earlier, hearlier, hterminal⟩
    have hpoisoned : stream.poisoned = true := by
      by_contra hopen
      exact (hprogress.accepted (by simpa using hopen)).2.2.2 earlier hearlier hterminal
    rw [SessionStep, call_of_poisoned hpoisoned] at hstep
    exact ⟨.Poisoned, (congrArg Prod.fst hstep).symm⟩
  · rintro frames rfl
    have hresult : stream.finish.1.map (fun _ => []) = .ok frames := congrArg Prod.fst hstep
    cases hfinish : stream.finish.1 with
    | error error =>
      rw [hfinish] at hresult
      cases hresult
    | ok value =>
      rw [hfinish] at hresult
      obtain ⟨hopen, hclosed, hpending⟩ := finish_spec.2 hfinish
      exact ⟨(Except.ok.inj hresult).symm, (hprogress.closed_iff hinit hopen).mp hclosed, hpending⟩

def sample_stream : SessionControlStream where
  decoder := .new
  network := .filled 1
  peer := .filled 2
  exporter_session_id := Vector.replicate 16 3
  last_sequence := 2
  closed := false
  poisoned := false

theorem feed_goodbye {serde : Serde} {framed : List UInt8}
    (hdecode : decode_control_frame serde framed = .ok (session_frame 3 .Goodbye)) :
    ∃ next, sample_stream.feed serde framed = (.ok [session_frame 3 .Goodbye], next) := by
  have hscan : (format serde).scan framed = ⟨[(framed, session_frame 3 .Goodbye)], [], true⟩ := by
    simpa using scan_flatten (.cons hdecode .nil)
  have hfits : AllFit serde [] [framed] := allFit_of_decode (.cons hdecode .nil) (List.prefix_refl _) (by simp)
  obtain ⟨frames, decoder, hfeed, haccepted, hframes⟩ := ControlStreamDecoder.feed_of_sound
    ControlStreamDecoder.accepted_new hfits.1 (by rw [List.nil_append, hscan])
  rw [envelopes_nil, List.nil_append, List.nil_append, envelopes, hscan] at hframes
  obtain rfl : [session_frame 3 .Goodbye] = frames := hframes
  have hpending : decoder.pending_bytes = 0 := by
    rw [ControlStreamDecoder.pending_bytes, haccepted.rest, List.nil_append, hscan]
    rfl
  have hframe : ∀ decoder, check_frame { sample_stream with decoder } (session_frame 3 .Goodbye) =
      .ok { sample_stream with decoder, last_sequence := 3, closed := true } := fun _ => rfl
  refine ⟨{ sample_stream with decoder, last_sequence := 3, closed := true }, ?_⟩
  rw [feed, if_neg (by decide), if_neg (by decide), show sample_stream.decoder = .new from rfl, hfeed]
  simp only [check_frames, hframe, hpending]
  rfl

/-- A stream that consists of a goodbye. -/
theorem session_stream_runs_sample :
    ∃ framed next, after_verified_hello (.filled 1) (.filled 2) (Vector.replicate 16 3) =
        .ok sample_stream ∧
      encode_control_frame plain_reader.serde (session_frame 3 .Goodbye) = .ok framed ∧
      Runs.Run (SessionStep plain_reader.serde) sample_stream [⟨.feed framed, .ok [session_frame 3 .Goodbye]⟩] next ∧
      Conforms (.filled 1) (.filled 2) (Vector.replicate 16 3) 2 [session_frame 3 .Goodbye] ∧
      next.decoder.buffer.partial_ = [] := by
  have hinit : after_verified_hello (.filled 1) (.filled 2) (Vector.replicate 16 3) =
      .ok sample_stream := rfl
  obtain ⟨framed, hframed, hdecode⟩ := @exists_frame (session_frame 3 .Goodbye) (by decide +kernel) (by decide +kernel)
  obtain ⟨next, hfeed⟩ := feed_goodbye hdecode
  have hstep : SessionStep plain_reader.serde sample_stream ⟨.feed framed, .ok [session_frame 3 .Goodbye]⟩ next := hfeed
  have hrun := Runs.Run.cons hstep .nil
  obtain ⟨⟨pieces, pending, -, hpending, hdone⟩, -⟩ :=
    ((session_stream_runs plain_reader.serde hinit .nil).2 _ _ hstep).1 _ _ rfl
  refine ⟨framed, next, hinit, hframed, hrun, (session_stream_runs plain_reader.serde hinit hrun).1, ?_⟩
  exact hpending.trans (hdone ⟨session_frame 3 .Goodbye, List.mem_singleton_self _, rfl⟩)

end blueroute_protocol.session_stream
