import BlueRoute.Protocol.Session.Retries

namespace blueroute_protocol.session

open blueroute Marks ReconnectScheduler RetryLabel

/-- How many attempts were started for a peer. -/
def attempts (key : PeerSessionKey) (labels : List RetryLabel) : Nat := labels.countP (starts key)

/-- The delay before an attempt, after so many others. -/
def delay_ms (earlier : Nat) : Nat := min (250 * 2 ^ earlier) 30000

/-- The attempt that is in flight, if its cancellation was not requested yet. -/
def Unwarned (key : PeerSessionKey) (session_id : SessionId) (since : List RetryLabel) (attempt : RetryLabel) : Prop :=
  Latest (starts key) (fun label => label.starts key || label.fails key session_id || label.expires key) since attempt

/-- The call that has made another attempt available, if none was started since. -/
def Arming (key : PeerSessionKey) (labels : List RetryLabel) (arming : RetryLabel) : Prop :=
  Latest (arms key) (fun label => label.arms key || label.starts key) labels arming

/-- Where a slot stands after the calls since its loss. -/
inductive Standing (key : PeerSessionKey) (loss : RetryLabel) (since : List RetryLabel) (slot : RetrySlot) : Prop where
  | waiting {due armed : Nat} {arming : RetryLabel} (hnext : slot.next_attempt_ms = some due)
      (hidle : slot.in_flight = false) (hfailed : slot.backoff.failed_attempts = attempts key since + 1)
      (hbudget : attempts key since < MAX_RECONNECT_ATTEMPTS) (harming : Arming key (loss :: since) arming)
      (harmed : arming.call.now_ms = some armed) (hdue : due = u64_saturating_add armed (delay_ms (attempts key since)))
      (hsettled : Settled (starts key) (fails key slot.session_id) since)
  | in_flight (hnext : slot.next_attempt_ms = none) (hflight : slot.in_flight = true)
      (hfailed : slot.backoff.failed_attempts = attempts key since)
      (hbudget : attempts key since ≤ MAX_RECONNECT_ATTEMPTS)
      (hunwarned : slot.cancel_requested = false → ∃ attempt, Unwarned key slot.session_id since attempt ∧
        attempt.call.now_ms = slot.in_flight_started_ms)
  | exhausted (hnext : slot.next_attempt_ms = none) (hidle : slot.in_flight = false)
      (hbudget : attempts key since ≤ MAX_RECONNECT_ATTEMPTS)

variable {key : PeerSessionKey} {loss label : RetryLabel} {since : List RetryLabel} {slot slot' : RetrySlot}

theorem attempts_concat (key : PeerSessionKey) (since : List RetryLabel) (label : RetryLabel) :
    attempts key (since ++ [label]) = attempts key since + if label.starts key = true then 1 else 0 := by
  rw [attempts, List.countP_append, List.countP_singleton]
  rfl

theorem after_failure_eq (backoff : ReconnectBackoff) :
    (backoff.failed_attempts < MAX_RECONNECT_ATTEMPTS ∧
      backoff.after_failure = (some (delay_ms backoff.failed_attempts), ⟨backoff.failed_attempts + 1⟩)) ∨
    (MAX_RECONNECT_ATTEMPTS ≤ backoff.failed_attempts ∧ backoff.after_failure = (none, backoff)) := by
  rw [ReconnectBackoff.after_failure]
  split_ifs with hfull
  · exact .inr ⟨hfull, rfl⟩
  · refine .inl ⟨not_le.mp hfull, ?_⟩
    dsimp only
    rw [Nat.one_shiftLeft]
    rfl

/-- A slot as a loss has left it. -/
theorem standing_scheduled {session_id : SessionId} {now_ms : Nat} :
    Standing key ⟨.schedule_loss key session_id now_ms, .flag (.ok true)⟩ [] (.scheduled session_id now_ms) := by
  refine .waiting rfl rfl rfl (Nat.zero_lt_succ _) ⟨[], [], rfl, ?_, by simp⟩ rfl rfl settled_nil
  simp [arms]

theorem Standing.step (h : Standing key loss since slot) (heffect : SlotEffect key slot label slot') :
    Standing key loss (since ++ [label]) slot' := by
  cases heffect with
  | passed hclock hinert =>
    have hcount : attempts key (since ++ [label]) = attempts key since := by
      rw [attempts_concat, hinert.starts]
      rfl
    cases h with
    | waiting hnext hidle hfailed hbudget harming harmed hdue hsettled =>
      refine .waiting hnext hidle (hcount ▸ hfailed) (hcount ▸ hbudget) ?_ harmed (hcount ▸ hdue) ?_
      · rw [← List.cons_append]
        refine harming.concat ?_
        simp [hinert.arms, hinert.starts]
      · exact hsettled.concat hinert.starts
    | in_flight hnext hflight hfailed hbudget hunwarned =>
      refine .in_flight hnext hflight (hcount ▸ hfailed) (hcount ▸ hbudget) fun hfirst => ?_
      obtain ⟨attempt, hattempt, htime⟩ := hunwarned hfirst
      refine ⟨attempt, hattempt.concat ?_, htime⟩
      simp [hinert.starts, hinert.expires, hinert.fails hflight]
    | exhausted hnext hidle hbudget => exact .exhausted hnext hidle (hcount ▸ hbudget)
  | @started now_ms due hclock hidle hnext hdue =>
    have hstarts : starts key ⟨.take_due key slot.session_id now_ms, .flag (.ok true)⟩ = true := by
      simp [starts]
    cases h with
    | waiting _ _ hfailed hbudget _ _ _ _ =>
      have hcount := attempts_concat key since ⟨.take_due key slot.session_id now_ms, .flag (.ok true)⟩
      rw [if_pos hstarts] at hcount
      exact .in_flight rfl rfl (hcount ▸ hfailed) (hcount ▸ hbudget) fun _ => ⟨_, latest_concat hstarts, rfl⟩
    | in_flight _ hflight => cases hidle.symm.trans hflight
    | exhausted hnone => cases hnone.symm.trans hnext
  | @expired now_ms started hclock hflight hstarted hoverdue hfirst =>
    cases h with
    | waiting _ hidle => cases hidle.symm.trans hflight
    | in_flight hnext _ hfailed hbudget _ =>
      have hcount := attempts_concat key since
        ⟨.take_expired_attempt key slot.session_id now_ms, .flag (.ok true)⟩
      exact .in_flight hnext hflight (hcount ▸ hfailed) (hcount ▸ hbudget) nofun
    | exhausted _ hidle => cases hidle.symm.trans hflight
  | @failed now_ms delay backoff hclock hflight hbackoff =>
    cases h with
    | waiting _ hidle => cases hidle.symm.trans hflight
    | in_flight hnext _ hfailed hbudget _ =>
      have hcount := attempts_concat key since ⟨.attempt_failed key slot.session_id now_ms,
        .next_attempt (.ok (delay.map (u64_saturating_add now_ms)))⟩
      obtain ⟨hroom, hafter⟩ | ⟨-, hafter⟩ := after_failure_eq slot.backoff
      · obtain ⟨rfl, rfl⟩ := Prod.mk.inj (hafter.symm.trans hbackoff)
        have hfails : fails key slot.session_id ⟨.attempt_failed key slot.session_id now_ms,
            .next_attempt (.ok (some (u64_saturating_add now_ms (delay_ms slot.backoff.failed_attempts))))⟩ = true := by
          simp [fails]
        refine .waiting rfl rfl ?_ ?_ ⟨loss :: since, [], rfl, ?_, by simp⟩ rfl ?_ (settled_concat rfl hfails)
        · exact congrArg (· + 1) (hfailed.trans hcount.symm)
        · exact hcount ▸ hfailed ▸ hroom
        · simp [arms]
        · exact congrArg (fun earlier => u64_saturating_add now_ms (delay_ms earlier)) (hfailed.trans hcount.symm)
      · obtain ⟨rfl, rfl⟩ := Prod.mk.inj (hafter.symm.trans hbackoff)
        exact .exhausted rfl rfl (hcount ▸ hbudget)
    | exhausted _ hidle => cases hidle.symm.trans hflight

theorem Standing.budget (h : Standing key loss since slot) : attempts key since ≤ MAX_RECONNECT_ATTEMPTS := by
  cases h with
  | waiting _ _ _ hbudget => exact hbudget.le
  | in_flight _ _ _ hbudget | exhausted _ _ hbudget => exact hbudget

/-- An attempt is started when it is due, after every earlier one has failed. -/
theorem Standing.started (h : Standing key loss since slot) (heffect : SlotEffect key slot label slot')
    (hstarts : label.starts key = true) :
    ∃ now_ms arming armed, label.call = .take_due key slot.session_id now_ms ∧ Arming key (loss :: since) arming ∧
      arming.call.now_ms = some armed ∧ u64_saturating_add armed (delay_ms (attempts key since)) ≤ now_ms ∧
      Settled (starts key) (fails key slot.session_id) since := by
  cases heffect with
  | passed _ hinert =>
    rw [hinert.starts] at hstarts
    cases hstarts
  | @started now_ms due _ hidle hnext hdue =>
    cases h with
    | waiting hsome _ _ _ harming harmed hwhen hsettled =>
      obtain rfl := Option.some.inj (hsome.symm.trans hnext)
      exact ⟨now_ms, _, _, rfl, harming, harmed, hwhen ▸ hdue, hsettled⟩
    | in_flight _ hflight => cases hidle.symm.trans hflight
    | exhausted hnone => cases hnone.symm.trans hnext
  | expired | failed => cases hstarts

/-- A cancellation is requested once for an attempt, when it is overdue. -/
theorem Standing.expired (h : Standing key loss since slot) (heffect : SlotEffect key slot label slot')
    (hexpires : label.expires key = true) :
    ∃ now_ms attempt started, label.call = .take_expired_attempt key slot.session_id now_ms ∧
      Unwarned key slot.session_id since attempt ∧ attempt.call.now_ms = some started ∧
      u64_saturating_add started MAX_CONNECT_AUTH_ATTEMPT_MS ≤ now_ms := by
  cases heffect with
  | passed _ hinert =>
    rw [hinert.expires] at hexpires
    cases hexpires
  | started => cases hexpires
  | @expired now_ms started _ hflight hstarted hoverdue hfirst =>
    cases h with
    | waiting _ hidle => cases hidle.symm.trans hflight
    | in_flight _ _ _ _ hunwarned =>
      obtain ⟨attempt, hattempt, htime⟩ := hunwarned hfirst
      exact ⟨now_ms, attempt, started, rfl, hattempt, htime.trans hstarted, hoverdue⟩
    | exhausted _ hidle => cases hidle.symm.trans hflight
  | failed => cases hexpires

/-- The attempts of a peer since a loss of one of its sessions. -/
structure Paced (key : PeerSessionKey) (session_id : SessionId) (loss : RetryLabel) (since : List RetryLabel) :
    Prop where
  budget : attempts key since ≤ 8
  alternating : ∀ before first between second after, since = before ++ first :: (between ++ second :: after) →
    first.starts key = true → second.starts key = true → ∃ failed ∈ between, failed.fails key session_id = true
  delayed : ∀ before label after, since = before ++ label :: after → label.starts key = true →
    ∃ now_ms arming armed, label.call = .take_due key session_id now_ms ∧ Arming key (loss :: before) arming ∧
      arming.call.now_ms = some armed ∧ min (armed + min (250 * 2 ^ attempts key before) 30000) (2 ^ 64 - 1) ≤ now_ms
  watched : ∀ before label after, since = before ++ label :: after → label.expires key = true →
    ∃ now_ms attempt started, label.call = .take_expired_attempt key session_id now_ms ∧
      Unwarned key session_id before attempt ∧ attempt.call.now_ms = some started ∧
      min (started + 20000) (2 ^ 64 - 1) ≤ now_ms

section Eras

variable {session_id : SessionId} {now_ms : Nat} {scheduler middle next : ReconnectScheduler}

/-- The slot of a loss is there until it is removed. -/
theorem standing_of_run
    (hloss : RetryStep scheduler ⟨.schedule_loss key session_id now_ms, .flag (.ok true)⟩ middle)
    (hrun : Runs.Run RetryStep middle since next) (hkept : ∀ label ∈ since, label.removes key = false) :
    ∃ slot, next.slots[key]? = some slot ∧ slot.session_id = session_id ∧
      Standing key ⟨.schedule_loss key session_id now_ms, .flag (.ok true)⟩ since slot := by
  refine hrun.history (fun since next => (∀ label ∈ since, label.removes key = false) → ∃ slot,
    next.slots[key]? = some slot ∧ slot.session_id = session_id ∧
      Standing key ⟨.schedule_loss key session_id now_ms, .flag (.ok true)⟩ since slot) ?_ ?_ hkept
  · intro _
    obtain ⟨-, hslot⟩ := step_of_schedule_loss hloss
    exact ⟨.scheduled session_id now_ms, hslot, rfl, standing_scheduled⟩
  · intro since next label last hstanding hstep hkept
    rw [List.forall_mem_append, List.forall_mem_singleton] at hkept
    obtain ⟨slot, hslot, hid, hstanding⟩ := hstanding hkept.1
    obtain ⟨slot', hslot', heffect⟩ := slot_effect hslot hstep hkept.2
    exact ⟨slot', hslot', heffect.session_id_eq.trans hid, hstanding.step heffect⟩

theorem paced_of_run
    (hloss : RetryStep scheduler ⟨.schedule_loss key session_id now_ms, .flag (.ok true)⟩ middle)
    (hrun : Runs.Run RetryStep middle since next) (hkept : ∀ label ∈ since, label.removes key = false) :
    Paced key session_id ⟨.schedule_loss key session_id now_ms, .flag (.ok true)⟩ since := by
  -- every call of the era is a step from a state in which the slot stands as the calls before it have left it
  have hera (before : List RetryLabel) (label : RetryLabel) (after : List RetryLabel)
      (hsince : since = before ++ label :: after) :
      ∃ slot slot', slot.session_id = session_id ∧ SlotEffect key slot label slot' ∧
        Standing key ⟨.schedule_loss key session_id now_ms, .flag (.ok true)⟩ before slot := by
    subst hsince
    obtain ⟨state, hbefore, hrest⟩ := Runs.Run.append_iff.mp hrun
    obtain ⟨hkeptBefore, hkeptAfter⟩ := List.forall_mem_append.mp hkept
    obtain ⟨slot, hslot, hid, hstanding⟩ := standing_of_run hloss hbefore hkeptBefore
    cases hrest with
    | cons hstep _ =>
      obtain ⟨slot', -, heffect⟩ := slot_effect hslot hstep (hkeptAfter label List.mem_cons_self)
      exact ⟨slot, slot', hid, heffect, hstanding⟩
  refine ⟨?_, ?_, ?_, ?_⟩
  · obtain ⟨slot, -, -, hstanding⟩ := standing_of_run hloss hrun hkept
    exact hstanding.budget
  · intro before first between second after hsince hfirst hsecond
    rw [← List.cons_append, ← List.append_assoc] at hsince
    obtain ⟨slot, slot', rfl, heffect, hstanding⟩ := hera _ second after hsince
    obtain ⟨-, -, -, -, -, -, -, hsettled⟩ := hstanding.started heffect hsecond
    exact hsettled before first between rfl hfirst
  · intro before label after hsince hstarts
    obtain ⟨slot, slot', rfl, heffect, hstanding⟩ := hera before label after hsince
    obtain ⟨now_ms, arming, armed, hcall, harming, harmed, hdue, -⟩ := hstanding.started heffect hstarts
    exact ⟨now_ms, arming, armed, hcall, harming, harmed, hdue⟩
  · intro before label after hsince hexpires
    obtain ⟨slot, slot', rfl, heffect, hstanding⟩ := hera before label after hsince
    exact hstanding.expired heffect hexpires

end Eras

section States

variable {scheduler next : ReconnectScheduler}

theorem RetrySlot.IsIn.unique {state other : SlotState} (h : slot.IsIn state) (hother : slot.IsIn other) :
    other = state := by
  cases state <;> cases other <;> simp_all [RetrySlot.IsIn]

theorem SlotEffect.exists_isIn (heffect : SlotEffect key slot label slot') (h : ∃ state, slot.IsIn state) :
    ∃ state, slot'.IsIn state := by
  cases heffect with
  | passed => exact h
  | started => exact ⟨.in_flight, rfl, rfl, rfl⟩
  | expired => exact h
  | @failed _ delay =>
    cases delay with
    | none => exact ⟨.exhausted, rfl, rfl, rfl⟩
    | some delay => exact ⟨.waiting, rfl, rfl, rfl⟩

theorem exists_isIn_of_run {labels : List RetryLabel} (hrun : Runs.Run RetryStep .new labels scheduler)
    (hslot : scheduler.slots[key]? = some slot) : ∃ state, slot.IsIn state := by
  refine hrun.invariant (fun scheduler => ∀ slot, scheduler.slots[key]? = some slot → ∃ state, slot.IsIn state) ?_ ?_
    slot hslot
  · intro scheduler label next hstates hstep slot' hslot'
    obtain ⟨slot, hslot, heffect⟩ | ⟨-, session_id, now_ms, -, rfl⟩ := slot_origin hstep hslot'
    · exact heffect.exists_isIn (hstates slot hslot)
    · exact ⟨.waiting, rfl, rfl, rfl⟩
  · intro slot hslot
    simp [new] at hslot

/-- A request to cancel an attempt touches no attempt. -/
theorem SlotEffect.of_take_expired_attempt {peer : PeerSessionKey} {session_id : SessionId} {now_ms : Nat}
    (heffect : SlotEffect key slot label slot') (hcall : label.call = .take_expired_attempt peer session_id now_ms) :
    slot'.next_attempt_ms = slot.next_attempt_ms ∧ slot'.in_flight = slot.in_flight ∧
      slot'.in_flight_started_ms = slot.in_flight_started_ms ∧ slot'.backoff = slot.backoff := by
  cases heffect with
  | passed => exact ⟨rfl, rfl, rfl, rfl⟩
  | started => cases hcall
  | expired => exact ⟨rfl, rfl, rfl, rfl⟩
  | failed => cases hcall

end States

/-- Any calls on a scheduler. A slot waits, is in flight or is exhausted. From a loss until its slot is
removed, at most eight attempts are started, each when it is due and after the one before it has
failed, and each is requested to be cancelled at most once, when it is overdue. Clocks of slots do not
go back, a late request to cancel makes no attempt available, and calls about other generations
change nothing, like those that return an error. -/
theorem reconnect_scheduler_runs {labels : List RetryLabel} {scheduler : ReconnectScheduler}
    (hrun : Runs.Run RetryStep .new labels scheduler) :
    (∀ (key : PeerSessionKey) (slot : RetrySlot), scheduler.slots[key]? = some slot → ∃! state, slot.IsIn state) ∧
    (∀ before key session_id now_ms since,
      labels = before ++ ⟨.schedule_loss key session_id now_ms, .flag (.ok true)⟩ :: since →
      (∀ label ∈ since, label.removes key = false) →
        Paced key session_id ⟨.schedule_loss key session_id now_ms, .flag (.ok true)⟩ since) ∧
    ∀ label next, RetryStep scheduler label next →
      (∀ (key : PeerSessionKey) (slot slot' : RetrySlot), scheduler.slots[key]? = some slot →
        next.slots[key]? = some slot' → slot.last_ms ≤ slot'.last_ms) ∧
      (∀ peer session_id now_ms, label.call = .take_expired_attempt peer session_id now_ms →
        ∀ (key : PeerSessionKey) (slot' : RetrySlot), next.slots[key]? = some slot' → ∃ slot : RetrySlot,
          scheduler.slots[key]? = some slot ∧ slot'.next_attempt_ms = slot.next_attempt_ms ∧
          slot'.in_flight = slot.in_flight ∧ slot'.in_flight_started_ms = slot.in_flight_started_ms ∧
          slot'.backoff = slot.backoff) ∧
      (label.call.Stale scheduler ∨ label.outcome.is_error = true → next = scheduler) := by
  refine ⟨?_, ?_, fun label next hstep => ⟨?_, ?_, step_unchanged hstep⟩⟩
  · intro key slot hslot
    obtain ⟨state, hstate⟩ := exists_isIn_of_run hrun hslot
    exact ⟨state, hstate, fun other hother => hstate.unique hother⟩
  · rintro before key session_id now_ms since rfl hkept
    obtain ⟨first, -, hrest⟩ := Runs.Run.append_iff.mp hrun
    cases hrest with
    | cons hloss hsince => exact paced_of_run hloss hsince hkept
  · intro key slot slot' hslot hslot'
    obtain ⟨current, hcurrent, heffect⟩ | ⟨hfree, -⟩ := slot_origin hstep hslot'
    · obtain rfl := Option.some.inj (hslot.symm.trans hcurrent)
      exact heffect.last_ms_le
    · cases hslot.symm.trans hfree
  · intro peer session_id now_ms hcall key slot' hslot'
    obtain ⟨slot, hslot, heffect⟩ | ⟨-, session_id, now_ms, rfl, -⟩ := slot_origin hstep hslot'
    · exact ⟨slot, hslot, heffect.of_take_expired_attempt hcall⟩
    · cases hcall

namespace sample

def peer : PeerSessionKey := ⟨.filled 1, .filled 2⟩

def lost_id : SessionId := Vector.replicate 16 3

def scheduled : RetryLabel := ⟨.schedule_loss peer lost_id 0, .flag (.ok true)⟩

def retries : List RetryLabel × ReconnectScheduler :=
  Runs.trace .mk RetryCall.run .new
    [.schedule_loss peer lost_id 0, .take_due peer lost_id 250, .take_expired_attempt peer lost_id 20250]

end sample

/-- An attempt that is started when it is due, and whose cancellation is requested when it is overdue. -/
theorem reconnect_scheduler_runs_sample :
    attempts sample.peer sample.retries.1 = 1 ∧
      Paced sample.peer sample.lost_id sample.scheduled sample.retries.1.tail := by
  have hrun : Runs.Run RetryStep .new sample.retries.1 sample.retries.2 := .trace (fun _ _ => rfl) _ _
  refine ⟨by decide, (reconnect_scheduler_runs hrun).2.1 [] sample.peer sample.lost_id 0 _ ?_ (by decide)⟩
  rfl

end blueroute_protocol.session
