import BlueRoute.Base.Runs
import BlueRoute.Base.Window
import BlueRoute.Protocol.Session

namespace blueroute_protocol.session

open blueroute Window

inductive RegistryCall where
  | activate_after_authentication (key : PeerSessionKey) (session_id : SessionId)
  | mark_lost (key : PeerSessionKey) (session_id : SessionId)
  | mark_reconnecting (key : PeerSessionKey) (session_id : SessionId)
  | remove_if_current (key : PeerSessionKey) (session_id : SessionId)

inductive RegistryOutcome where
  | activated (result : Except SessionRegistryError SessionRegistration)
  | changed (done : Bool)

/-- A call with its result. -/
structure RegistryLabel where
  call : RegistryCall
  outcome : RegistryOutcome

def RegistryCall.run (registry : ControlSessionRegistry) : RegistryCall → RegistryOutcome × ControlSessionRegistry
  | activate_after_authentication key session_id =>
    let (result, next) := registry.activate_after_authentication key session_id
    (.activated result, next)
  | mark_lost key session_id =>
    let (done, next) := registry.mark_lost key session_id
    (.changed done, next)
  | mark_reconnecting key session_id =>
    let (done, next) := registry.mark_reconnecting key session_id
    (.changed done, next)
  | remove_if_current key session_id =>
    let (done, next) := registry.remove_if_current key session_id
    (.changed done, next)

/-- The calls that end a session of a peer. -/
def RegistryCall.Ends (call : RegistryCall) (key : PeerSessionKey) (session_id : SessionId) : Prop :=
  call = mark_lost key session_id ∨ call = remove_if_current key session_id

/-- The calls that are about a session which a peer has had. -/
def RegistryCall.Follows (call : RegistryCall) (key : PeerSessionKey) (session_id : SessionId) : Prop :=
  call.Ends key session_id ∨ call = mark_reconnecting key session_id

def RegistryStep (registry : ControlSessionRegistry) (label : RegistryLabel) (next : ControlSessionRegistry) : Prop :=
  label.call.run registry = (label.outcome, next)

/-- The id that a call has admitted, for a new peer or for one whose session was lost. -/
def RegistryLabel.admitted (label : RegistryLabel) : Option SessionId :=
  match label.call, label.outcome with
  | .activate_after_authentication _ session_id, .activated (.ok .New) => some session_id
  | .activate_after_authentication _ session_id, .activated (.ok .Recovered) => some session_id
  | _, _ => none

def admissions (labels : List RegistryLabel) : List SessionId :=
  labels.filterMap RegistryLabel.admitted

theorem admissions_concat (labels : List RegistryLabel) (label : RegistryLabel) :
    admissions (labels ++ [label]) = admissions labels ++ label.admitted.toList := by
  rw [admissions, List.filterMap_append]
  cases h : label.admitted <;> simp [admissions, h]

namespace ControlSessionRegistry

variable {self next : ControlSessionRegistry} {key : PeerSessionKey} {session_id : SessionId} {label : RegistryLabel}

theorem recent_remember_session_id :
    (self.remember_session_id session_id).recent_session_ids =
      push MAX_RECENT_SESSION_IDS self.recent_session_ids session_id := by
  unfold remember_session_id push
  split
  · rename_i oldest rest hrecent
    rw [hrecent]
    split_ifs <;> rfl
  · rename_i hrecent
    rw [hrecent]
    rfl

theorem seen_remember_session_id (hseen : self.seen_session_ids = self.recent_session_ids.toFinset)
    (hnodup : self.recent_session_ids.Nodup) :
    (self.remember_session_id session_id).seen_session_ids =
      (self.remember_session_id session_id).recent_session_ids.toFinset := by
  unfold remember_session_id
  split
  · rename_i oldest rest hrecent
    rw [hrecent] at hseen hnodup
    split_ifs
    · have hgone : oldest ∉ rest.toFinset := by simpa using (List.nodup_cons.mp hnodup).1
      simp only [hseen, List.toFinset_cons, Finset.erase_insert hgone, List.toFinset_append, List.toFinset_nil]
      rw [Finset.union_comm]
      rfl
    · simp only [hseen, hrecent, List.toFinset_append, List.toFinset_cons, List.toFinset_nil]
      rw [Finset.union_comm]
      rfl
  · rename_i hrecent
    rw [hrecent] at hseen
    simp [hseen]

/-- What a call can do to a registry. -/
inductive Effect (self : ControlSessionRegistry) : RegistryLabel → ControlSessionRegistry → Prop where
  | admitted {key : PeerSessionKey} {session_id : SessionId} {registration : SessionRegistration}
      (hregistration : registration = .New ∨ registration = .Recovered) (hadmissible : self.Admissible key session_id)
      (hinactive : ∀ entry, self.get key = some entry → entry.phase ≠ .Active)
      (hroom : self.get key = none → self.sessions.size < MAX_CONTROL_SESSIONS) :
      Effect self ⟨.activate_after_authentication key session_id, .activated (.ok registration)⟩
        (self.record key session_id)
  | already_active {key : PeerSessionKey} {session_id : SessionId} (hget : self.get key = some ⟨session_id, .Active⟩) :
      Effect self ⟨.activate_after_authentication key session_id, .activated (.ok .AlreadyActive)⟩ self
  | rejected (key : PeerSessionKey) (session_id : SessionId) (error : SessionRegistryError) :
      Effect self ⟨.activate_after_authentication key session_id, .activated (.error error)⟩ self
  | lost {key : PeerSessionKey} {existing : SessionEntry} (hget : self.get key = some existing) :
      Effect self ⟨.mark_lost key existing.session_id, .changed true⟩
        { self with sessions := self.sessions.insert key { existing with phase := .Lost } }
  | reconnecting {key : PeerSessionKey} {existing : SessionEntry} (hget : self.get key = some existing)
      (hlost : existing.phase = .Lost) :
      Effect self ⟨.mark_reconnecting key existing.session_id, .changed true⟩
        { self with sessions := self.sessions.insert key { existing with phase := .Reconnecting } }
  | removed {key : PeerSessionKey} {existing : SessionEntry} (hget : self.get key = some existing) :
      Effect self ⟨.remove_if_current key existing.session_id, .changed true⟩
        { self with sessions := self.sessions.erase key }
  | ignored (call : RegistryCall) : Effect self ⟨call, .changed false⟩ self

theorem run_effect (self : ControlSessionRegistry) (call : RegistryCall) :
    Effect self ⟨call, (call.run self).1⟩ (call.run self).2 := by
  cases call with
  | activate_after_authentication key session_id =>
    have hcases := activate_after_authentication_cases self key session_id
    rw [RegistryCall.run]
    generalize self.activate_after_authentication key session_id = result at hcases ⊢
    cases hcases with
    | new hadmissible hfree hroom =>
      refine .admitted (.inl rfl) hadmissible (fun entry hentry => ?_) fun _ => hroom
      cases hfree.symm.trans hentry
    | recovered hadmissible hget hphase =>
      refine .admitted (.inr rfl) hadmissible (fun entry hentry => ?_) fun hfree => ?_
      · cases hget.symm.trans hentry
        exact hphase
      · cases hget.symm.trans hfree
    | already_active hget => exact .already_active hget
    | rejected error => exact .rejected key session_id error
  | mark_lost key session_id =>
    rw [RegistryCall.run, mark_lost]
    cases hget : self.sessions[key]? with
    | none => exact .ignored _
    | some existing =>
      dsimp only
      split_ifs with hstale
      · exact .ignored _
      · obtain ⟨hsame, -⟩ := not_or.mp hstale
        rw [← not_not.mp hsame]
        exact .lost hget
  | mark_reconnecting key session_id =>
    rw [RegistryCall.run, mark_reconnecting]
    cases hget : self.sessions[key]? with
    | none => exact .ignored _
    | some existing =>
      dsimp only
      split_ifs with hstale
      · exact .ignored _
      · obtain ⟨hsame, hlost⟩ := not_or.mp hstale
        rw [← not_not.mp hsame]
        exact .reconnecting hget (not_not.mp hlost)
  | remove_if_current key session_id =>
    rw [RegistryCall.run, remove_if_current]
    split_ifs with hcurrent
    · cases hget : self.sessions[key]? with
      | none => simp [hget] at hcurrent
      | some existing =>
        obtain rfl : existing.session_id = session_id := by simpa [hget] using hcurrent
        exact .removed hget
    · exact .ignored _

theorem effect_of_step (hstep : RegistryStep self label next) : Effect self label next := by
  have heffect := run_effect self label.call
  rw [show label.call.run self = (label.outcome, next) from hstep] at heffect
  exact heffect

/-- The sessions that a registry holds, and the window of the ids that it has admitted. -/
structure Sound (registry : ControlSessionRegistry) (admitted : List SessionId) : Prop where
  unshared : ∀ key other entry entry', registry.get key = some entry → registry.get other = some entry' →
    entry.session_id = entry'.session_id → key = other
  valid : ∀ key entry, registry.get key = some entry →
    key.is_valid = true ∧ entry.session_id.toList.all (· == 0) = false
  bounded : registry.sessions.size ≤ MAX_CONTROL_SESSIONS
  window : registry.recent_session_ids = recent MAX_RECENT_SESSION_IDS admitted
  seen : registry.seen_session_ids = registry.recent_session_ids.toFinset
  spaced : Spaced MAX_RECENT_SESSION_IDS admitted

variable {admitted : List SessionId}

theorem sound_new : new.Sound [] where
  unshared := by simp
  valid := by simp
  bounded := by simp [new]
  window := by simp [new, recent]
  seen := rfl
  spaced := spaced_nil _

theorem Sound.record (h : self.Sound admitted) (hadmissible : self.Admissible key session_id)
    (hroom : self.get key = none → self.sessions.size < MAX_CONTROL_SESSIONS) :
    (self.record key session_id).Sound (admitted ++ [session_id]) := by
  have hnodup : self.recent_session_ids.Nodup := h.window ▸ h.spaced.nodup_recent
  refine ⟨?_, ?_, ?_, ?_, ?_, ?_⟩
  · intro first second entry entry' hfirst hsecond hsame
    rw [get_record] at hfirst hsecond
    split_ifs at hfirst hsecond with hkey hother hother
    · exact hkey.trans hother.symm
    · cases hfirst
      exact absurd hsame.symm (hadmissible.unshared second entry' hsecond)
    · cases hsecond
      exact absurd hsame (hadmissible.unshared first entry hfirst)
    · exact h.unshared first second entry entry' hfirst hsecond hsame
  · intro other entry hentry
    rw [get_record] at hentry
    split_ifs at hentry with hkey
    · cases hentry
      exact ⟨hkey ▸ hadmissible.valid, hadmissible.nonzero⟩
    · exact h.valid other entry hentry
  · rw [ControlSessionRegistry.record, sessions_remember_session_id, Std.ExtTreeMap.size_insert]
    split_ifs with hmem
    · exact h.bounded
    · refine hroom (Option.eq_none_iff_forall_ne_some.mpr fun entry hentry => hmem ?_)
      exact Ordered.mem_iff_exists.mpr ⟨entry, hentry⟩
  · rw [ControlSessionRegistry.record, recent_remember_session_id]
    dsimp only
    rw [h.window, push_recent (by decide)]
  · exact seen_remember_session_id h.seen hnodup
  · refine h.spaced.concat fun hrecent => hadmissible.unseen ?_
    rw [h.seen, h.window]
    exact List.mem_toFinset.mpr hrecent

/-- A change of phases, or a removal: every id that is left was there for the same peer. -/
theorem Sound.of_sessions (h : self.Sound admitted) {sessions : Ordered.Map PeerSessionKey SessionEntry}
    (hsize : sessions.size ≤ self.sessions.size)
    (hids : ∀ (key : PeerSessionKey) (entry : SessionEntry), sessions[key]? = some entry →
      ∃ before, self.get key = some before ∧ before.session_id = entry.session_id) :
    { self with sessions }.Sound admitted where
  unshared := by
    intro key other entry entry' hentry hentry' hsame
    obtain ⟨before, hbefore, hid⟩ := hids key entry hentry
    obtain ⟨before', hbefore', hid'⟩ := hids other entry' hentry'
    exact h.unshared key other before before' hbefore hbefore' (by rw [hid, hid', hsame])
  valid := by
    intro key entry hentry
    obtain ⟨before, hbefore, hid⟩ := hids key entry hentry
    exact hid ▸ h.valid key before hbefore
  bounded := hsize.trans h.bounded
  window := h.window
  seen := h.seen
  spaced := h.spaced

theorem Sound.rephase (h : self.Sound admitted) {existing : SessionEntry} (hget : self.get key = some existing)
    (phase : SessionPhase) :
    { self with sessions := self.sessions.insert key { existing with phase } }.Sound admitted := by
  refine h.of_sessions ?_ fun other entry hentry => ?_
  · have hmem : key ∈ self.sessions := Ordered.mem_iff_exists.mpr ⟨existing, hget⟩
    rw [Std.ExtTreeMap.size_insert, if_pos (Std.ExtTreeMap.mem_iff_contains.mp hmem)]
  · rw [Ordered.getElem?_insert_eq] at hentry
    split_ifs at hentry with hkey
    · cases hentry
      exact ⟨existing, hkey ▸ hget, rfl⟩
    · exact ⟨entry, hentry, rfl⟩

theorem Sound.erase (h : self.Sound admitted) (key : PeerSessionKey) :
    { self with sessions := self.sessions.erase key }.Sound admitted := by
  refine h.of_sessions Std.ExtTreeMap.size_erase_le fun other entry hentry => ?_
  rw [Ordered.getElem?_erase_eq] at hentry
  split_ifs at hentry
  exact ⟨entry, hentry, rfl⟩

variable {labels : List RegistryLabel}

/-- A call that admits no id. -/
theorem Sound.other (h : self.Sound (admissions labels)) (hnone : label.admitted = none) :
    self.Sound (admissions (labels ++ [label])) := by
  rwa [admissions_concat, hnone, Option.toList_none, List.append_nil]

theorem Sound.step (h : self.Sound (admissions labels)) (hstep : RegistryStep self label next) :
    next.Sound (admissions (labels ++ [label])) := by
  cases effect_of_step hstep with
  | admitted hregistration hadmissible hinactive hroom =>
    rw [admissions_concat]
    obtain rfl | rfl := hregistration <;> exact h.record hadmissible hroom
  | already_active hget | rejected key session_id error => exact h.other rfl
  | lost hget => exact (h.rephase hget .Lost).other rfl
  | reconnecting hget hlost => exact (h.rephase hget .Reconnecting).other rfl
  | removed hget => exact (h.erase _).other rfl
  | ignored call => exact h.other (by cases call <;> rfl)

/-- An active entry is left alone by all calls that do not end its own session. -/
theorem active_of_step (hget : self.get key = some ⟨session_id, .Active⟩) (hstep : RegistryStep self label next)
    (hcall : ¬ label.call.Ends key session_id) : next.get key = some ⟨session_id, .Active⟩ := by
  cases effect_of_step hstep with
  | @admitted other _ _ _ _ hinactive _ =>
    rw [get_record, if_neg, hget]
    rintro rfl
    exact hinactive _ hget rfl
  | already_active _ | rejected _ _ _ => exact hget
  | @lost other existing hother =>
    rw [get, Ordered.getElem?_insert_eq, if_neg, ← get, hget]
    rintro rfl
    cases hget.symm.trans hother
    exact hcall (.inl rfl)
  | @reconnecting other existing hother hlost =>
    rw [get, Ordered.getElem?_insert_eq, if_neg, ← get, hget]
    rintro rfl
    cases hget.symm.trans hother
    cases hlost
  | @removed other existing hother =>
    rw [get, Ordered.getElem?_erase_eq, if_neg, ← get, hget]
    rintro rfl
    cases hget.symm.trans hother
    exact hcall (.inr rfl)
  | ignored _ => exact hget

theorem active_of_run (hget : self.get key = some ⟨session_id, .Active⟩)
    (hrun : Runs.Run RegistryStep self labels next) (hlabels : ∀ label ∈ labels, ¬ label.call.Ends key session_id) :
    next.get key = some ⟨session_id, .Active⟩ := by
  refine hrun.invariant_of_forall (fun registry : ControlSessionRegistry => registry.get key = _) ?_ hlabels hget
  intro registry label next hcall hactive hstep
  exact active_of_step hactive hstep hcall

/-- A late call for a session that the peer no longer has. -/
theorem stale_step (hstep : RegistryStep self label next) (hcall : label.call.Follows key session_id)
    (hstale : ∀ entry, self.get key = some entry → entry.session_id ≠ session_id) : next = self := by
  cases effect_of_step hstep with
  | admitted | already_active | rejected => simp [RegistryCall.Follows, RegistryCall.Ends] at hcall
  | @lost _ existing hget | @reconnecting _ existing hget | @removed _ existing hget =>
    obtain ⟨rfl, hsame⟩ : _ = key ∧ existing.session_id = session_id := by
      simpa [RegistryCall.Follows, RegistryCall.Ends] using hcall
    exact absurd hsame (hstale existing hget)
  | ignored => rfl

/-- An activation that fails, or that meets an active entry. -/
theorem unchanged_of_activate (hstep : RegistryStep self label next)
    (hcall : label.call = .activate_after_authentication key session_id)
    (hrefused : (∃ error, label.outcome = .activated (.error error)) ∨
      ∃ entry, self.get key = some entry ∧ entry.phase = .Active) : next = self := by
  cases effect_of_step hstep with
  | @admitted _ _ _ _ _ hinactive =>
    cases hcall
    obtain ⟨error, herror⟩ | ⟨entry, hget, hactive⟩ := hrefused
    · cases herror
    · exact absurd hactive (hinactive entry hget)
  | already_active | rejected | ignored => rfl
  | lost | reconnecting | removed => cases hcall

end ControlSessionRegistry

open ControlSessionRegistry

/-- Any calls on a registry. Peers are valid and have ids of their own, and the window shows the ids
that were admitted last, so that an id comes back only after a whole window of others. An active
entry stays until its own session is ended; late calls for other sessions and failed activations
change nothing. -/
theorem session_registry_runs {labels : List RegistryLabel} {registry : ControlSessionRegistry}
    (hrun : Runs.Run RegistryStep .new labels registry) :
    (∀ key other entry entry', registry.get key = some entry → registry.get other = some entry' →
      entry.session_id = entry'.session_id → key = other) ∧
    (∀ key entry, registry.get key = some entry →
      key.is_valid = true ∧ entry.session_id.toList.all (· == 0) = false) ∧
    registry.sessions.size ≤ 128 ∧
    registry.seen_session_ids = registry.recent_session_ids.toFinset ∧
    registry.recent_session_ids.Nodup ∧ registry.recent_session_ids.length ≤ 4096 ∧
    (∀ earlier between later session_id,
      admissions labels = earlier ++ session_id :: (between ++ session_id :: later) →
        4096 ≤ (between.filter (· ≠ session_id)).length) ∧
    (∀ key session_id more last, registry.get key = some ⟨session_id, .Active⟩ →
      Runs.Run RegistryStep registry more last → (∀ label ∈ more, ¬ label.call.Ends key session_id) →
        last.get key = some ⟨session_id, .Active⟩) ∧
    ∀ label next, RegistryStep registry label next → ∀ key session_id,
      (label.call.Follows key session_id →
        (∀ entry, registry.get key = some entry → entry.session_id ≠ session_id) → next = registry) ∧
      (label.call = .activate_after_authentication key session_id →
        ((∃ error, label.outcome = .activated (.error error)) ∨
          ∃ entry, registry.get key = some entry ∧ entry.phase = .Active) → next = registry) := by
  have hsound : registry.Sound (admissions labels) :=
    hrun.history (fun labels registry => registry.Sound (admissions labels)) sound_new
      fun _ _ _ _ hsound hstep => hsound.step hstep
  refine ⟨hsound.unshared, hsound.valid, hsound.bounded, hsound.seen, ?_, ?_, hsound.spaced, ?_, ?_⟩
  · rw [hsound.window]
    exact hsound.spaced.nodup_recent
  · rw [hsound.window, length_recent]
    exact min_le_right _ _
  · intro key session_id more last hget hmore hlabels
    exact active_of_run hget hmore hlabels
  · intro label next hstep key session_id
    exact ⟨stale_step hstep, unchanged_of_activate hstep⟩

namespace sample

def key : PeerSessionKey := ⟨.filled 1, .filled 2⟩

def calls : List RegistryCall :=
  [.activate_after_authentication key (Vector.replicate 16 1), .mark_lost key (Vector.replicate 16 1),
    .activate_after_authentication key (Vector.replicate 16 2)]

def run : List RegistryLabel × ControlSessionRegistry := Runs.trace .mk RegistryCall.run .new calls

end sample

/-- A peer whose session is lost and taken up again under another id. -/
theorem session_registry_runs_sample :
    admissions sample.run.1 = [Vector.replicate 16 1, Vector.replicate 16 2] ∧
      sample.run.2.recent_session_ids.Nodup := by
  refine ⟨by decide, ?_⟩
  have hrun : Runs.Run RegistryStep .new sample.run.1 sample.run.2 := .trace (fun _ _ => rfl) _ _
  exact (session_registry_runs hrun).2.2.2.2.1

end blueroute_protocol.session
