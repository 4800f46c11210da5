import BlueRoute.Protocol.Control.Codec

namespace blueroute_protocol

open blueroute Fallible

namespace control

/-- Simple per-session replay protection; not a substitute for TLS authentication. -/
structure VerifiedSessionSequence where
  network : NetworkId
  sender : NodeId
  session_id : Vector UInt8 16
  last_sequence : UInt64

namespace VerifiedSessionSequence

def new (network : NetworkId) (sender : NodeId) (session_id : Vector UInt8 16) :
    Except ControlFrameError VerifiedSessionSequence := do
  reject_if (network = .filled 0 ∨ sender = .filled 0) (invalid "zero verified session identity")
  reject_if (is_zero session_id = true) (invalid "zero session identifier")
  pure { network, sender, session_id, last_sequence := 0 }

def accept (self : VerifiedSessionSequence) (envelope : ControlEnvelope) :
    Except ControlFrameError VerifiedSessionSequence := do
  validate envelope
  reject_if
    (envelope.network ≠ self.network ∨ envelope.sender ≠ self.sender ∨ envelope.session_id ≠ self.session_id)
    (invalid "message differs from verified session context")
  reject_if (envelope.sequence ≤ self.last_sequence) (invalid "replayed or stale control sequence")
  pure { self with last_sequence := envelope.sequence }

end VerifiedSessionSequence

end control

namespace handshake

open control

/-- A direction-independent exporter context: the network, the smaller and the larger node. -/
def tls_control_exporter_context (network : NetworkId) (first second : NodeId) : Except String (Vector UInt8 48) := do
  reject_if (network = .filled 0 ∨ first = .filled 0 ∨ second = .filled 0)
    "control exporter requires nonzero network and node identities"
  reject_if (first = second) "control exporter requires two distinct nodes"
  let (low, high) := if first < second then (first, second) else (second, first)
  pure (network.as_bytes ++ low.as_bytes ++ high.as_bytes)

/-- One turn of the loop over the four frames. -/
def check_frame (serde : Serde) (network : NetworkId) (frame : ControlEnvelope) : Except String Unit := do
  let _ ← (encode_control_frame serde frame).mapError fun _ => "malformed control frame"
  reject_if (frame.network ≠ network) "wrong network"

def hello_of (missing : String) : ControlMessage → Except String (Vector UInt8 16 × HelloFacts)
  | .Hello challenge facts => .ok (challenge, facts)
  | _ => .error missing

def acknowledgement_of (missing : String) : ControlMessage → Except String (Vector UInt8 16 × HelloFacts)
  | .HelloAck challenge facts => .ok (challenge, facts)
  | _ => .error missing

/-- Validates both directions of a two-challenge handshake. Each side sends Hello(sequence=1) then
HelloAck(sequence=2), echoing the other challenge. The remote's claims must be identical in both. -/
def validate_hello_transcript (serde : Serde) (network : NetworkId) (local_ remote : NodeId)
    (local_hello remote_hello local_ack remote_ack : ControlEnvelope) : Except String HelloFacts := do
  reject_if (local_ = remote) "local and remote node must differ"
  let frames := [local_hello, remote_hello, local_ack, remote_ack]
  check_each (check_frame serde network) frames
  reject_if (local_hello.sender ≠ local_ ∨ local_ack.sender ≠ local_ ∨ remote_hello.sender ≠ remote ∨
    remote_ack.sender ≠ remote) "wrong sender"
  let session := local_hello.session_id
  reject_if (frames.any (fun frame => frame.session_id ≠ session) = true) "wrong session"
  reject_if (local_hello.sequence ≠ 1 ∨ remote_hello.sequence ≠ 1 ∨ local_ack.sequence ≠ 2 ∨ remote_ack.sequence ≠ 2)
    "unexpected handshake sequence"
  let (local_challenge, local_facts) ← hello_of "missing local hello" local_hello.message
  let (remote_challenge, remote_facts) ← hello_of "missing remote hello" remote_hello.message
  let (local_echo, local_ack_facts) ← acknowledgement_of "missing local acknowledgement" local_ack.message
  let (remote_echo, remote_ack_facts) ← acknowledgement_of "missing remote acknowledgement" remote_ack.message
  reject_if (is_zero local_challenge = true ∨ is_zero remote_challenge = true ∨ local_challenge = remote_challenge ∨
    local_echo ≠ remote_challenge ∨ remote_echo ≠ local_challenge) "challenge reflection or mismatch"
  reject_if (local_facts ≠ local_ack_facts ∨ remote_facts ≠ remote_ack_facts)
    "peer changed capability claims during handshake"
  let inbound ← (VerifiedSessionSequence.new network remote session).mapError fun _ => "invalid session"
  let inbound ← (inbound.accept remote_hello).mapError fun _ => "invalid hello replay"
  let _ ← (inbound.accept remote_ack).mapError fun _ => "invalid acknowledgement replay"
  pure remote_facts

section Symmetry

variable {serde : Serde} {network network' : NetworkId} {a b a' b' sender : NodeId}
    {session challenge echo : Vector UInt8 16}
  {facts : HelloFacts} {hello ack ha hb ka kb frame : ControlEnvelope}

/-- One side of an accepted transcript: what it sends, and what it answers. -/
structure Side (serde : Serde) (network : NetworkId) (session : Vector UInt8 16) (sender : NodeId)
    (challenge echo : Vector UInt8 16) (facts : HelloFacts) (hello ack : ControlEnvelope) : Prop where
  hello_fits : ∃ framed, encode_control_frame serde hello = .ok framed
  ack_fits : ∃ framed, encode_control_frame serde ack = .ok framed
  hello_eq : hello.network = network ∧ hello.sender = sender ∧ hello.session_id = session ∧ hello.sequence = 1 ∧
    hello.message = .Hello challenge facts
  ack_eq : ack.network = network ∧ ack.sender = sender ∧ ack.session_id = session ∧ ack.sequence = 2 ∧
    ack.message = .HelloAck echo facts

theorem check_frame_eq_ok_iff {u : Unit} :
    check_frame serde network frame = .ok u ↔
      (∃ framed, encode_control_frame serde frame = .ok framed) ∧ frame.network = network := by
  simp only [check_frame, bind_eq_ok_iff, mapError_eq_ok, reject_if_eq_ok, not_not]
  constructor
  · rintro ⟨framed, hframed, hnetwork⟩
    exact ⟨⟨framed, hframed⟩, hnetwork⟩
  · rintro ⟨⟨framed, hframed⟩, hnetwork⟩
    exact ⟨framed, hframed, hnetwork⟩

theorem hello_of_eq_ok_iff {missing : String} {message : ControlMessage} {found : Vector UInt8 16 × HelloFacts} :
    hello_of missing message = .ok found ↔ message = .Hello found.1 found.2 := by
  cases message <;> simp [hello_of, Prod.ext_iff]

theorem acknowledgement_of_eq_ok_iff {missing : String} {message : ControlMessage}
    {found : Vector UInt8 16 × HelloFacts} :
    acknowledgement_of missing message = .ok found ↔ message = .HelloAck found.1 found.2 := by
  cases message <;> simp [acknowledgement_of, Prod.ext_iff]

/-- What a valid frame carries is not zero. -/
theorem nonzero_of_validate (h : validate frame = .ok ()) :
    frame.network ≠ .filled 0 ∧ frame.sender ≠ .filled 0 ∧ is_zero frame.session_id = false ∧
      ∀ challenge facts, frame.message = .Hello challenge facts → is_zero challenge = false := by
  simp only [validate, bind_eq_ok_iff, reject_if_eq_ok, Bool.not_eq_true] at h
  obtain ⟨_, _, _, hnetwork, _, hsender, _, hsession, _, _, hmessage⟩ := h
  refine ⟨hnetwork, hsender, hsession, fun challenge facts heq => ?_⟩
  rw [heq] at hmessage
  simp only [bind_eq_ok_iff, reject_if_eq_ok, Bool.not_eq_true] at hmessage
  exact hmessage.choose_spec.1

/-- The replay tracker accepts both frames of a side, which are numbered 1 and 2. -/
theorem Side.tracked (h : Side serde network session sender challenge echo facts hello ack) :
    ∃ first second, (VerifiedSessionSequence.new network sender session) = .ok first ∧
      first.accept hello = .ok second ∧ ∃ third, second.accept ack = .ok third := by
  obtain ⟨framed, hframed⟩ := h.hello_fits
  obtain ⟨framed', hframed'⟩ := h.ack_fits
  obtain ⟨hnetwork, hsender, hsession, hsequence, -⟩ := h.hello_eq
  obtain ⟨hnetwork', hsender', hsession', hsequence', -⟩ := h.ack_eq
  have hvalid := validate_of_encode hframed
  obtain ⟨hzero, hzero', hzero'', -⟩ := nonzero_of_validate hvalid
  rw [hnetwork] at hzero
  rw [hsender] at hzero'
  rw [hsession] at hzero''
  refine ⟨⟨network, sender, session, 0⟩, ⟨network, sender, session, 1⟩, ?_, ?_, ⟨network, sender, session, 2⟩, ?_⟩
  · simp only [VerifiedSessionSequence.new, bind_eq_ok_iff, reject_if_eq_ok, hzero'']
    exact ⟨(), not_or.mpr ⟨hzero, hzero'⟩, (), Bool.false_ne_true, rfl⟩
  · simp only [VerifiedSessionSequence.accept, bind_eq_ok_iff, reject_if_eq_ok, hnetwork, hsender, hsession, hsequence]
    exact ⟨(), hvalid, (), by simp, (), by decide, rfl⟩
  · simp only [VerifiedSessionSequence.accept, bind_eq_ok_iff, reject_if_eq_ok, hnetwork', hsender', hsession',
      hsequence']
    exact ⟨(), validate_of_encode hframed', (), by simp, (), by decide, rfl⟩

/-- A transcript is accepted exactly when both sides keep to it, and the claims of the remote side are returned. -/
theorem validate_hello_transcript_eq_ok_iff :
    validate_hello_transcript serde network a b ha hb ka kb = .ok facts ↔
      a ≠ b ∧ ∃ session challenge challenge' facts', challenge ≠ challenge' ∧
        Side serde network session a challenge challenge' facts' ha ka ∧
        Side serde network session b challenge' challenge facts hb kb := by
  simp only [validate_hello_transcript, bind_eq_ok_iff, reject_if_eq_ok, mapError_eq_ok, check_each_eq_ok_iff,
    List.forall_mem_cons, List.not_mem_nil, IsEmpty.forall_iff, implies_true, and_true, check_frame_eq_ok_iff,
    hello_of_eq_ok_iff, acknowledgement_of_eq_ok_iff, not_or, not_not, List.any_eq_true, not_exists, not_and,
    decide_eq_true_eq, Prod.exists]
  constructor
  · rintro ⟨_, hne, _, ⟨⟨hfits, hnetwork⟩, ⟨hfits', hnetwork'⟩, ⟨hfits'', hnetwork''⟩, hfits₄, hnetwork₄⟩, _,
      ⟨hsender, hsender', hsender'', hsender₄⟩, _, ⟨-, hsession', hsession'', hsession₄⟩, _,
      ⟨hsequence, hsequence', hsequence'', hsequence₄⟩, challenge, facts', hmessage, challenge', facts'', hmessage',
      echo, ack_facts, hmessage'', echo', ack_facts', hmessage₄, _, ⟨_, _, hchallenges, rfl, rfl⟩, _, ⟨rfl, rfl⟩,
      _, _, _, _, _, _, hresult⟩
    obtain rfl := Except.ok.inj hresult
    exact ⟨hne, ha.session_id, echo', echo, facts', hchallenges,
      ⟨hfits, hfits'', ⟨hnetwork, hsender, rfl, hsequence, hmessage⟩,
        ⟨hnetwork'', hsender', hsession'', hsequence'', hmessage''⟩⟩,
      ⟨hfits', hfits₄, ⟨hnetwork', hsender'', hsession', hsequence', hmessage'⟩,
        ⟨hnetwork₄, hsender₄, hsession₄, hsequence₄, hmessage₄⟩⟩⟩
  · rintro ⟨hne, session, challenge, challenge', facts', hchallenges, hlocal, hremote⟩
    obtain ⟨first, second, hfirst, hsecond, third, hthird⟩ := hremote.tracked
    obtain ⟨framed, hframed⟩ := hlocal.hello_fits
    obtain ⟨framed', hframed'⟩ := hremote.hello_fits
    obtain ⟨hnetwork, hsender, rfl, hsequence, hmessage⟩ := hlocal.hello_eq
    obtain ⟨hnetwork', hsender', hsession', hsequence', hmessage'⟩ := hlocal.ack_eq
    obtain ⟨hnetwork'', hsender'', hsession'', hsequence'', hmessage''⟩ := hremote.hello_eq
    obtain ⟨hnetwork₄, hsender₄, hsession₄, hsequence₄, hmessage₄⟩ := hremote.ack_eq
    have hzero := (nonzero_of_validate (validate_of_encode hframed)).2.2.2 _ _ hmessage
    have hzero' := (nonzero_of_validate (validate_of_encode hframed')).2.2.2 _ _ hmessage''
    exact ⟨(), hne, (), ⟨⟨hlocal.hello_fits, hnetwork⟩, ⟨hremote.hello_fits, hnetwork''⟩, ⟨hlocal.ack_fits, hnetwork'⟩,
      hremote.ack_fits, hnetwork₄⟩, (), ⟨hsender, hsender', hsender'', hsender₄⟩, (),
      ⟨trivial, hsession'', hsession', hsession₄⟩, (), ⟨hsequence, hsequence'', hsequence', hsequence₄⟩, _, _, hmessage,
      _, _, hmessage'', _, _, hmessage', _, _, hmessage₄, (),
      ⟨Bool.eq_false_iff.mp hzero, Bool.eq_false_iff.mp hzero', hchallenges, rfl, rfl⟩, (), ⟨rfl, rfl⟩, _, hfirst, _,
      hsecond, _, hthird, rfl⟩

/-- A transcript that one side accepts is accepted by the other, which sees it with the sides exchanged. -/
theorem validate_hello_transcript_swap (h : validate_hello_transcript serde network a b ha hb ka kb = .ok facts) :
    facts_of hb.message = some facts ∧ facts_of kb.message = some facts ∧
      ∃ facts', validate_hello_transcript serde network b a hb ha kb ka = .ok facts' ∧
        facts_of ha.message = some facts' ∧ facts_of ka.message = some facts' := by
  obtain ⟨hne, session, challenge, challenge', facts', hchallenges, hlocal, hremote⟩ :=
    validate_hello_transcript_eq_ok_iff.mp h
  have hfacts {sender : NodeId} {challenge echo : Vector UInt8 16} {facts : HelloFacts} {hello ack : ControlEnvelope}
      (hside : Side serde network session sender challenge echo facts hello ack) :
      facts_of hello.message = some facts ∧ facts_of ack.message = some facts := by
    rw [hside.hello_eq.2.2.2.2, hside.ack_eq.2.2.2.2]
    exact ⟨rfl, rfl⟩
  refine ⟨(hfacts hremote).1, (hfacts hremote).2, facts', ?_, (hfacts hlocal).1, (hfacts hlocal).2⟩
  rw [validate_hello_transcript_eq_ok_iff]
  exact ⟨hne.symm, session, challenge', challenge, facts, hchallenges.symm, hremote, hlocal⟩

theorem tls_control_exporter_context_eq_ok_iff {context : Vector UInt8 48} :
    tls_control_exporter_context network a b = .ok context ↔
      (network ≠ .filled 0 ∧ a ≠ .filled 0 ∧ b ≠ .filled 0) ∧ a ≠ b ∧
        network.as_bytes ++ (min a b).as_bytes ++ (max a b).as_bytes = context := by
  have hpair : (if a < b then (a, b) else (b, a)) = (min a b, max a b) := by
    split
    · rename_i hlt
      rw [min_eq_left hlt.le, max_eq_right hlt.le]
    · rename_i hnot
      rw [min_eq_right (not_lt.mp hnot), max_eq_left (not_lt.mp hnot)]
  simp only [tls_control_exporter_context, bind_eq_ok_iff, reject_if_eq_ok, not_or, hpair]
  constructor
  · rintro ⟨_, hnonzero, _, hne, hcontext⟩
    exact ⟨hnonzero, hne, Except.ok.inj hcontext⟩
  · rintro ⟨hnonzero, hne, rfl⟩
    exact ⟨(), hnonzero, (), hne, rfl⟩

theorem tls_control_exporter_context_comm :
    tls_control_exporter_context network a b = tls_control_exporter_context network b a := by
  unfold tls_control_exporter_context
  by_cases hzero : network = .filled 0 ∨ a = .filled 0 ∨ b = .filled 0
  · have hzero' : network = .filled 0 ∨ b = .filled 0 ∨ a = .filled 0 := by tauto
    simp only [reject_if, if_pos hzero, if_pos hzero']
    rfl
  · have hzero' : ¬ (network = .filled 0 ∨ b = .filled 0 ∨ a = .filled 0) := by tauto
    simp only [reject_if, if_neg hzero, if_neg hzero']
    obtain hlt | rfl | hgt := lt_trichotomy a b
    · simp only [if_neg hlt.ne, if_neg hlt.ne', if_pos hlt, if_neg hlt.not_gt]
    · rfl
    · simp only [if_neg hgt.ne, if_neg hgt.ne', if_pos hgt, if_neg hgt.not_gt]

theorem eq_of_as_bytes {kind : IdKind} {left right : blueroute.Id kind} (h : left.as_bytes = right.as_bytes) :
    left = right := by
  cases left
  cases right
  exact congrArg _ h

/-- The two halves of an appended vector are read off it. -/
theorem append_inj {n m : Nat} {left left' : Vector UInt8 n} {right right' : Vector UInt8 m}
    (h : left ++ right = left' ++ right') : left = left' ∧ right = right' := by
  have hlist : left.toList ++ right.toList = left'.toList ++ right'.toList := by
    simpa only [Vector.toList_append] using congrArg Vector.toList h
  obtain ⟨hleft, hright⟩ := List.append_inj hlist (by simp)
  exact ⟨Vector.toList_inj.mp hleft, Vector.toList_inj.mp hright⟩

theorem pair_of_min_max (hmin : min a b = min a' b') (hmax : max a b = max a' b') :
    a = a' ∧ b = b' ∨ a = b' ∧ b = a' := by
  obtain hle | hle := le_total a b <;> obtain hle' | hle' := le_total a' b' <;>
    simp only [hle, hle', min_eq_left, min_eq_right, max_eq_left, max_eq_right] at hmin hmax <;> tauto

/-- Both sides of a handshake decide alike about its four frames, and each gets the claims of the other. The exporter
context does not depend on the direction either, and stands for one network and one pair of nodes. -/
theorem handshake_symmetric (serde : Serde) (network : NetworkId) (a b : NodeId) (ha hb ka kb : ControlEnvelope) :
    ((∃ facts, validate_hello_transcript serde network a b ha hb ka kb = .ok facts) ↔
      ∃ facts, validate_hello_transcript serde network b a hb ha kb ka = .ok facts) ∧
    (∀ facts facts', validate_hello_transcript serde network a b ha hb ka kb = .ok facts →
      validate_hello_transcript serde network b a hb ha kb ka = .ok facts' →
        (facts_of hb.message = some facts ∧ facts_of kb.message = some facts) ∧
        facts_of ha.message = some facts' ∧ facts_of ka.message = some facts') ∧
    tls_control_exporter_context network a b = tls_control_exporter_context network b a ∧
    ((∃ context, tls_control_exporter_context network a b = .ok context) ↔
      network ≠ .filled 0 ∧ a ≠ .filled 0 ∧ b ≠ .filled 0 ∧ a ≠ b) ∧
    ∀ network' a' b' context, tls_control_exporter_context network a b = .ok context →
      tls_control_exporter_context network' a' b' = .ok context →
        network = network' ∧ (a = a' ∧ b = b' ∨ a = b' ∧ b = a') := by
  refine ⟨⟨?_, ?_⟩, ?_, tls_control_exporter_context_comm, ?_, ?_⟩
  · rintro ⟨facts, h⟩
    obtain ⟨-, -, facts', hswap, -⟩ := validate_hello_transcript_swap h
    exact ⟨facts', hswap⟩
  · rintro ⟨facts, h⟩
    obtain ⟨-, -, facts', hswap, -⟩ := validate_hello_transcript_swap h
    exact ⟨facts', hswap⟩
  · intro facts facts' h h'
    obtain ⟨hhello, hack, -⟩ := validate_hello_transcript_swap h
    obtain ⟨hhello', hack', -⟩ := validate_hello_transcript_swap h'
    exact ⟨⟨hhello, hack⟩, hhello', hack'⟩
  · simp only [tls_control_exporter_context_eq_ok_iff, exists_and_left, exists_eq', and_true]
    tauto
  · intro network' a' b' context h h'
    obtain ⟨-, -, hcontext⟩ := tls_control_exporter_context_eq_ok_iff.mp h
    obtain ⟨-, -, hcontext'⟩ := tls_control_exporter_context_eq_ok_iff.mp h'
    obtain ⟨hfront, hmax⟩ := append_inj (hcontext.trans hcontext'.symm)
    obtain ⟨hnetwork, hmin⟩ := append_inj hfront
    exact ⟨eq_of_as_bytes hnetwork, pair_of_min_max (eq_of_as_bytes hmin) (eq_of_as_bytes hmax)⟩

end Symmetry

section Sample

def sample_claims (version : String) : HelloFacts :=
  { software_version := version, capabilities := {}, segment := none, direct_neighbors := [] }

/-- The two frames of one side. -/
def sample_hello (sender challenge : UInt8) (version : String) : ControlEnvelope :=
  { session_frame 1 (.Hello (Vector.replicate 16 challenge) (sample_claims version)) with sender := .filled sender }

def sample_ack (sender echo : UInt8) (version : String) : ControlEnvelope :=
  { session_frame 2 (.HelloAck (Vector.replicate 16 echo) (sample_claims version)) with sender := .filled sender }

theorem sample_side (sender challenge echo : UInt8) (version : String)
    (h : ∀ frame ∈ [sample_hello sender challenge version, sample_ack sender echo version],
      validate frame = .ok () ∧ Json.width (Json.print frame.serialize) ≤ MAX_CONTROL_FRAME_BYTES) :
    Side plain_reader.serde (.filled 1) (Vector.replicate 16 3) (.filled sender) (Vector.replicate 16 challenge)
      (Vector.replicate 16 echo) (sample_claims version) (sample_hello sender challenge version)
      (sample_ack sender echo version) := by
  have hfits : ∀ frame ∈ [sample_hello sender challenge version, sample_ack sender echo version],
      ∃ framed, encode_control_frame plain_reader.serde frame = .ok framed := fun frame hframe =>
    (exists_frame (h frame hframe).1 (h frame hframe).2).imp fun _ => And.left
  exact ⟨hfits _ (by simp), hfits _ (by simp), ⟨rfl, rfl, rfl, rfl, rfl⟩, ⟨rfl, rfl, rfl, rfl, rfl⟩⟩

theorem handshake_symmetric_sample :
    validate_hello_transcript plain_reader.serde (.filled 1) (.filled 2) (.filled 3) (sample_hello 2 4 "a")
        (sample_hello 3 5 "b") (sample_ack 2 5 "a") (sample_ack 3 4 "b") = .ok (sample_claims "b") ∧
      ∃ facts, validate_hello_transcript plain_reader.serde (.filled 1) (.filled 3) (.filled 2) (sample_hello 3 5 "b")
        (sample_hello 2 4 "a") (sample_ack 3 4 "b") (sample_ack 2 5 "a") = .ok facts := by
  have h := validate_hello_transcript_eq_ok_iff.mpr
    ⟨(by decide : (.filled 2 : NodeId) ≠ .filled 3), Vector.replicate 16 3,
    Vector.replicate 16 4, Vector.replicate 16 5, sample_claims "a", by decide,
    sample_side 2 4 5 "a" (by decide +kernel), sample_side 3 5 4 "b" (by decide +kernel)⟩
  exact ⟨h, (handshake_symmetric _ _ _ _ _ _ _ _).1.mp ⟨_, h⟩⟩

end Sample

end handshake

end blueroute_protocol
