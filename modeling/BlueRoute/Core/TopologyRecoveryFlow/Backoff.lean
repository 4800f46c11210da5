import BlueRoute.Core.TopologyExecutor.Gate
import BlueRoute.Core.TopologyLoss.Tracking
import BlueRoute.Core.TopologyRecoveryFlow

open Fallible

namespace blueroute

namespace HubRecoveryRetryState

open topology_stability

theorem is_due_zero_eq_ok {policy : TopologyStabilityPolicy} {retry : HubRecoveryRetryState}
    (h : HubRecoveryRetryState.new policy = .ok retry) :
    retry = { policy, consecutive_failures := 0, last_failure_ms := none } ∧ ValidPolicy policy := by
  simp only [new, bind_eq_ok_iff, Except.ok.injEq] at h
  obtain ⟨due, hdue, rfl⟩ := h
  simp only [is_due, decide_topology_change, bind_eq_ok_iff, reject_if_eq_ok, Unacceptable, not_or] at hdue
  obtain ⟨_, ⟨_, ⟨hdwell, himprovement, hbase, hordered, -⟩, -⟩, -⟩ := hdue
  exact ⟨rfl, hdwell, himprovement, hbase, not_lt.mp hordered⟩

/-- With a record of failures that lie in the past, only the backoff decides. -/
theorem is_due_eq {retry : HubRecoveryRetryState} {now_ms : Nat} (hvalid : ValidPolicy retry.policy)
    (hpast : ∀ last, retry.last_failure_ms = some last → last ≤ now_ms)
    (hrecorded : 0 < retry.consecutive_failures → retry.last_failure_ms ≠ none) :
    ∃ due, retry.is_due now_ms = .ok due ∧
      (due = true ↔ ∀ last, retry.last_failure_ms = some last → 0 < retry.consecutive_failures →
        deadline retry.policy retry.consecutive_failures last ≤ now_ms) := by
  have hacceptable : ¬ Unacceptable retry.policy
      { now_ms, last_change_ms := 0, current_viable := false, proposed_viable := true, current_cost := 0
        proposed_cost := 0, consecutive_failures := retry.consecutive_failures
        last_failure_ms := retry.last_failure_ms } := by
    simp only [Unacceptable, not_or, not_lt, not_and]
    refine ⟨hvalid.dwell, hvalid.improvement, hvalid.base, hvalid.ordered, Nat.zero_le _, ?_, fun h => hrecorded h⟩
    cases hlast : retry.last_failure_ms with
    | none => simp
    | some last => simpa using hpast last hlast
  rw [is_due, decide_lost_path hacceptable rfl rfl, retry_deadline]
  cases hlast : retry.last_failure_ms with
  | none => exact ⟨true, rfl, by simp⟩
  | some last =>
    dsimp only
    by_cases hcount : 0 < retry.consecutive_failures
    · refine ⟨decide (deadline retry.policy retry.consecutive_failures last ≤ now_ms), ?_, by simp [hcount]⟩
      rw [if_pos hcount, saturating_deadline]
      dsimp only
      split
      · rename_i hnow
        rw [decide_eq_false (not_le.mpr hnow)]
        rfl
      · rename_i hnow
        rw [decide_eq_true (not_lt.mp hnow)]
        rfl
    · rw [if_neg hcount]
      exact ⟨true, rfl, by simp [hcount]⟩

end HubRecoveryRetryState

open HubRecoveryRetryState

namespace topology_recovery_flow

open topology_executor topology_stability Runs

variable {σ : Type}

/-- The trackers and retry states of one network. -/
structure RecoveryState where
  tracker : HubLossTracker
  retry : HubRecoveryRetryState

/-- A call, with what the backend observed first, what the tracker made of it,
all requests to the backend and the result. -/
structure RecoveryLabel where
  inputs : TopologyPolicyInputs
  now_ms : Nat
  observation : Result (Finset NapLink)
  reported : Option (Finset NodeId)
  calls : List Call
  outcome : Result (Option HubLossRecoveryExecution)

/-- The lost hubs that a tracker reports for an observation, if it accepts it. -/
def report (tracker : HubLossTracker) (now_ms : Nat) : Result (Finset NapLink) → Option (Finset NodeId)
  | .ok observed => (tracker.observe now_ms observed).1.toOption
  | .error _ => none

/-- One call, with a backend in any state that behaves in any way. -/
def RecoveryStep (σ : Type) (state : RecoveryState) (label : RecoveryLabel) (next : RecoveryState) : Prop :=
  ∃ (operator : NapTopologyOperator σ) (s t : σ), label.observation = (operator.observe_links s).1 ∧
    label.reported = report state.tracker label.now_ms label.observation ∧
    execute_confirmed_hub_loss_recovery_with_backoff label.inputs state.tracker state.retry label.now_ms
      (traced operator) (s, []) = (label.outcome, next.tracker, next.retry, t, label.calls)

/-- A request that is not an observation. -/
def Changes : Call → Prop
  | .Observe _ => False
  | .Operate _ _ | .Reconcile _ _ => True

namespace RecoveryLabel

/-- A call that connects, disconnects or reconciles routes. -/
def Mutates (label : RecoveryLabel) : Prop := ∃ call ∈ label.calls, Changes call

/-- The tracker accepted the sample and reported a loss. -/
def Loses (label : RecoveryLabel) : Prop := ∃ lost, label.reported = some lost ∧ lost ≠ ∅

/-- An attempt that failed. -/
def fails (label : RecoveryLabel) : Bool := label.reported.any (· ≠ ∅) && !label.outcome.isOk

/-- A success, or a sample with no lost hub. -/
def clears (label : RecoveryLabel) : Bool :=
  label.reported.any (· = ∅) || label.outcome.toOption.join.isSome

variable {label : RecoveryLabel}

theorem loses_of_fails (h : label.fails = true) : label.Loses := by
  rw [fails, Bool.and_eq_true, Option.any_eq_true] at h
  obtain ⟨⟨lost, hreported, hne⟩, -⟩ := h
  exact ⟨lost, hreported, by simpa using hne⟩

theorem clears_iff :
    label.clears = true ↔ label.reported = some ∅ ∨ ∃ execution, label.outcome = .ok (some execution) := by
  rw [clears, Bool.or_eq_true]
  refine or_congr ?_ ?_
  · simp [Option.any_eq_true]
  · rcases label.outcome with error | (_ | execution) <;> simp [Except.toOption]

theorem clears_of_fails (h : label.fails = true) : label.clears = false := by
  obtain ⟨lost, hreported, hne⟩ := loses_of_fails h
  rw [← Bool.not_eq_true, clears_iff, not_or]
  refine ⟨?_, ?_⟩
  · rw [hreported]
    exact fun hnone => hne (Option.some.inj hnone)
  · rintro ⟨execution, houtcome⟩
    simp [fails, houtcome, Except.isOk, Except.toBool] at h

end RecoveryLabel

open RecoveryLabel

/-- The tracker has accepted a sample that is later than the one before. -/
structure Sampled (state : RecoveryState) (label : RecoveryLabel) (next : RecoveryState) : Prop where
  later : ∀ last, state.tracker.last_sample_ms = some last → last < label.now_ms
  now : next.tracker.last_sample_ms = some label.now_ms

/-- What a call can do. -/
inductive RecoveryEffect (state : RecoveryState) (label : RecoveryLabel) (next : RecoveryState) : Prop where
  | unobserved (hcalls : ¬ label.Mutates) (hreported : label.reported = none)
      (houtcome : ∃ error, label.outcome = .error error) (hnext : next = state)
  | clear (hcalls : ¬ label.Mutates) (hreported : label.reported = some ∅) (houtcome : label.outcome = .ok none)
      (hsampled : Sampled state label next) (hretry : next.retry = state.retry.reset)
  | unready (hcalls : ¬ label.Mutates) (hlost : label.Loses)
    (hdue : ∃ error, state.retry.is_due label.now_ms = .error error)
      (houtcome : ∃ error, label.outcome = .error error)
      (hsampled : Sampled state label next) (hretry : next.retry = state.retry)
  | deferred (hcalls : ¬ label.Mutates) (hlost : label.Loses) (hdue : state.retry.is_due label.now_ms = .ok false)
      (houtcome : label.outcome = .ok none)
      (hsampled : Sampled state label next) (hretry : next.retry = state.retry)
  | recovered (hlost : label.Loses) (hdue : state.retry.is_due label.now_ms = .ok true)
      (houtcome : ∃ execution, label.outcome = .ok (some execution))
      (hsampled : Sampled state label next) (hretry : next.retry = state.retry.reset)
  | failed (hlost : label.Loses) (hdue : state.retry.is_due label.now_ms = .ok true)
      (houtcome : ∃ error, label.outcome = .error error)
      (hsampled : Sampled state label next) (hretry : next.retry = state.retry.failed label.now_ms)

theorem mutates_observe_only {label : RecoveryLabel} {answer : Result (Finset NapLink)}
    (h : label.calls = [.Observe answer]) : ¬ label.Mutates := by
  rintro ⟨call, hcall, hchanges⟩
  rw [h, List.mem_singleton] at hcall
  subst hcall
  exact hchanges

/-- Every call has one of these effects. -/
theorem RecoveryStep.effect {state next : RecoveryState} {label : RecoveryLabel} (h : RecoveryStep σ state label next) :
    RecoveryEffect state label next := by
  obtain ⟨operator, s, t, hobservation, hreported, hcall⟩ := h
  unfold execute_confirmed_hub_loss_recovery_with_backoff at hcall
  rw [observe_links_traced, ← hobservation] at hcall
  cases hobserved : label.observation with
  | error e =>
    rw [hobserved] at hcall hreported
    simp only [Prod.mk.injEq] at hcall
    obtain ⟨houtcome, htracker, hretry, -, hcalls⟩ := hcall
    exact .unobserved (mutates_observe_only hcalls.symm) hreported ⟨e, houtcome.symm⟩
      (by cases state; cases next; simp_all)
  | ok observed =>
    rw [hobserved] at hcall hreported
    dsimp only at hcall
    rcases hobserve : state.tracker.observe label.now_ms observed with ⟨answer, tracker⟩
    rw [report, hobserve] at hreported
    rw [hobserve] at hcall
    cases answer with
    | error e =>
      obtain ⟨_, -, rfl⟩ | habsurd := HubLossTracker.observe_cases hobserve
      · simp only [Prod.mk.injEq] at hcall
        obtain ⟨houtcome, htracker, hretry, -, hcalls⟩ := hcall
        exact .unobserved (mutates_observe_only hcalls.symm) hreported ⟨e, houtcome.symm⟩
          (by cases state; cases next; simp_all)
      · cases habsurd
    | ok lost =>
      have hsampled : ∀ retry, Sampled state label ⟨tracker, retry⟩ := fun _ =>
        ⟨fun _ hlast => HubLossTracker.observe_later hobserve hlast, HubLossTracker.observe_sample hobserve⟩
      dsimp only at hcall
      by_cases hempty : lost = ∅
      · rw [if_pos hempty] at hcall
        simp only [Prod.mk.injEq] at hcall
        obtain ⟨houtcome, rfl, hretry, -, hcalls⟩ := hcall
        exact .clear (mutates_observe_only hcalls.symm) (hempty ▸ hreported) houtcome.symm (hsampled _) hretry.symm
      rw [if_neg hempty] at hcall
      have hlost : label.Loses := ⟨lost, hreported, hempty⟩
      rcases hdue : state.retry.is_due label.now_ms with e | due
      · rw [hdue] at hcall
        simp only [Prod.mk.injEq] at hcall
        obtain ⟨houtcome, rfl, hretry, -, hcalls⟩ := hcall
        exact .unready (mutates_observe_only hcalls.symm) hlost ⟨e, hdue⟩ ⟨e, houtcome.symm⟩ (hsampled _) hretry.symm
      rw [hdue] at hcall
      cases due with
      | false =>
        simp only [Prod.mk.injEq] at hcall
        obtain ⟨houtcome, rfl, hretry, -, hcalls⟩ := hcall
        exact .deferred (mutates_observe_only hcalls.symm) hlost hdue houtcome.symm (hsampled _) hretry.symm
      | true =>
        dsimp only at hcall
        split at hcall
        · simp only [Prod.mk.injEq] at hcall
          obtain ⟨houtcome, rfl, hretry, -⟩ := hcall
          exact .recovered hlost hdue ⟨_, houtcome.symm⟩ (hsampled _) hretry.symm
        · simp only [Prod.mk.injEq] at hcall
          obtain ⟨houtcome, rfl, hretry, -⟩ := hcall
          exact .failed hlost hdue ⟨_, houtcome.symm⟩ (hsampled _) hretry.symm

/-- The failed attempts since the last success and the last sample with no
lost hub. -/
def streak (history : List RecoveryLabel) : Nat :=
  history.foldl (fun count label => if label.clears then 0 else if label.fails then count + 1 else count) 0

theorem streak_append (history : List RecoveryLabel) (label : RecoveryLabel) :
    streak (history ++ [label]) =
      if label.clears then 0 else if label.fails then streak history + 1 else streak history := by
  rw [streak, List.foldl_append]
  rfl

/-- What all calls keep: a valid policy, and a record of failures that lie
before the last sample. -/
structure Sane (policy : TopologyStabilityPolicy) (state : RecoveryState) : Prop where
  valid : ValidPolicy policy
  policy_eq : state.retry.policy = policy
  past : ∀ last, state.retry.last_failure_ms = some last →
    ∃ sample, state.tracker.last_sample_ms = some sample ∧ last ≤ sample
  recorded : 0 < state.retry.consecutive_failures → state.retry.last_failure_ms ≠ none

/-- The counter of the retry state, which is a 32-bit number. -/
def Counted (history : List RecoveryLabel) (state : RecoveryState) : Prop :=
  state.retry.consecutive_failures = min (streak history) (2 ^ 32 - 1)

section Sane

variable {policy : TopologyStabilityPolicy} {state next : RecoveryState} {label : RecoveryLabel}

/-- At an accepted sample the retry state is due or not, by the backoff alone. -/
theorem Sane.is_due_eq (h : Sane policy state) {now_ms : Nat}
    (hlater : ∀ last, state.tracker.last_sample_ms = some last → last < now_ms) :
    ∃ due, state.retry.is_due now_ms = .ok due ∧
      (due = true ↔ ∀ last, state.retry.last_failure_ms = some last → 0 < state.retry.consecutive_failures →
        deadline policy state.retry.consecutive_failures last ≤ now_ms) := by
  obtain ⟨hvalid, rfl, hpast, hrecorded⟩ := h
  refine is_due_eq hvalid (fun last hlast => ?_) hrecorded
  obtain ⟨sample, hsample, hle⟩ := hpast last hlast
  have := hlater sample hsample
  omega

/-- The record of a retry state that a call left alone still lies in the past. -/
theorem Sane.later (h : Sane policy state) (hsampled : Sampled state label next) (hretry : next.retry = state.retry) :
    Sane policy next := by
  refine ⟨h.valid, hretry ▸ h.policy_eq, fun last hlast => ⟨label.now_ms, hsampled.now, ?_⟩, hretry ▸ h.recorded⟩
  rw [hretry] at hlast
  obtain ⟨sample, hbefore, hle⟩ := h.past last hlast
  have := hsampled.later sample hbefore
  omega

theorem Sane.cleared (h : Sane policy state) (hretry : next.retry = state.retry.reset) : Sane policy next := by
  refine ⟨h.valid, ?_, fun last hlast => ?_, fun hcount => ?_⟩
  · rw [hretry]
    exact h.policy_eq
  · rw [hretry] at hlast
    cases hlast
  · rw [hretry] at hcount
    cases hcount

theorem Sane.step (h : Sane policy state) (heffect : RecoveryEffect state label next) : Sane policy next := by
  cases heffect with
  | unobserved _ _ _ hnext => exact hnext ▸ h
  | clear _ _ _ _ hretry => exact h.cleared hretry
  | unready _ _ _ _ hsampled hretry | deferred _ _ _ _ hsampled hretry => exact h.later hsampled hretry
  | recovered _ _ _ _ hretry => exact h.cleared hretry
  | failed _ _ _ hsampled hretry =>
    refine ⟨h.valid, ?_, fun last hlast => ⟨label.now_ms, hsampled.now, ?_⟩, fun _ => ?_⟩
    · rw [hretry]
      exact h.policy_eq
    · rw [hretry] at hlast
      exact (Option.some.inj hlast).ge
    · rw [hretry]
      exact Option.some_ne_none _

/-- A call clears the record, adds a failed attempt that was due, or leaves the
retry state alone. -/
theorem Sane.verdict (h : Sane policy state) (heffect : RecoveryEffect state label next) :
    (label.clears = true ∧ next.retry = state.retry.reset) ∨
      (label.clears = false ∧ label.fails = true ∧ state.retry.is_due label.now_ms = .ok true ∧
        next.retry = state.retry.failed label.now_ms) ∨
      (label.clears = false ∧ label.fails = false ∧ next.retry = state.retry) := by
  cases heffect with
  | unobserved _ hreported houtcome hnext =>
    obtain ⟨error, houtcome⟩ := houtcome
    refine .inr (.inr ⟨?_, ?_, hnext ▸ rfl⟩)
    · simp [clears, hreported, houtcome, Except.toOption]
    · simp [fails, hreported]
  | clear _ hreported _ _ hretry => exact .inl ⟨by simp [clears, hreported], hretry⟩
  | unready _ _ hdue _ hsampled _ =>
    obtain ⟨error, herror⟩ := hdue
    obtain ⟨due, hok, -⟩ := h.is_due_eq hsampled.later
    rw [hok] at herror
    cases herror
  | deferred _ hlost _ houtcome _ hretry =>
    obtain ⟨lost, hreported, hne⟩ := hlost
    refine .inr (.inr ⟨?_, ?_, hretry⟩)
    · simp [clears, hreported, hne, houtcome, Except.toOption]
    · simp [fails, houtcome, Except.isOk, Except.toBool]
  | recovered _ _ houtcome _ hretry =>
    obtain ⟨execution, houtcome⟩ := houtcome
    exact .inl ⟨by simp [clears, houtcome, Except.toOption], hretry⟩
  | failed hlost hdue houtcome _ hretry =>
    obtain ⟨lost, hreported, hne⟩ := hlost
    obtain ⟨error, houtcome⟩ := houtcome
    refine .inr (.inl ⟨?_, ?_, hdue, hretry⟩)
    · simp [clears, hreported, hne, houtcome, Except.toOption]
    · simp [fails, hreported, hne, houtcome, Except.isOk, Except.toBool]

/-- A failed attempt was due, and is recorded. -/
theorem Sane.recorded_of_fails (h : Sane policy state) (heffect : RecoveryEffect state label next)
    (hfails : label.fails = true) :
    state.retry.is_due label.now_ms = .ok true ∧ next.retry = state.retry.failed label.now_ms := by
  obtain ⟨hclears, -⟩ | ⟨-, -, hrecorded⟩ | ⟨-, hsucceeds, -⟩ := h.verdict heffect
  · rw [clears_of_fails hfails] at hclears
    cases hclears
  · exact hrecorded
  · rw [hfails] at hsucceeds
    cases hsucceeds

theorem Counted.step {history : List RecoveryLabel} (h : Counted history state) (hsane : Sane policy state)
    (heffect : RecoveryEffect state label next) : Counted (history ++ [label]) next := by
  rw [Counted, streak_append]
  obtain ⟨hclears, hretry⟩ | ⟨hclears, hfails, -, hretry⟩ | ⟨hclears, hfails, hretry⟩ := hsane.verdict heffect
  · simp [hretry, hclears, reset]
  · have hcount : state.retry.consecutive_failures = min (streak history) (2 ^ 32 - 1) := h
    simp only [hretry, hclears, hfails, failed, u32_saturating_add, hcount,
      Bool.false_eq_true, if_false, if_true]
    omega
  · rw [hretry, hclears, hfails]
    exact h

/-- The deadline of a failed attempt still stands, or the samples have passed
it. -/
def Waiting (policy : TopologyStabilityPolicy) (failures last_failure : Nat) (state : RecoveryState) : Prop :=
  (state.retry.last_failure_ms = some last_failure ∧ 0 < state.retry.consecutive_failures ∧
      deadline policy state.retry.consecutive_failures last_failure = deadline policy failures last_failure) ∨
    ∃ sample, state.tracker.last_sample_ms = some sample ∧ deadline policy failures last_failure ≤ sample

variable {failures last_failure : Nat}

/-- No attempt is due before the deadline. -/
theorem Waiting.deadline_le (h : Waiting policy failures last_failure state) (hsane : Sane policy state)
    (hsampled : Sampled state label next) (hdue : state.retry.is_due label.now_ms = .ok true) :
    deadline policy failures last_failure ≤ label.now_ms := by
  obtain ⟨hlast, hcount, hsame⟩ | ⟨sample, hsample, hle⟩ := h
  · obtain ⟨due, hok, hiff⟩ := hsane.is_due_eq hsampled.later
    rw [hdue, Except.ok.injEq] at hok
    rw [← hsame]
    exact hiff.mp hok.symm last_failure hlast hcount
  · exact hle.trans (hsampled.later sample hsample).le

/-- A sample passes a deadline that an earlier one has passed. -/
theorem Waiting.later (h : Waiting policy failures last_failure state) (hsampled : Sampled state label next)
    (hretry : next.retry = state.retry) :
    Waiting policy failures last_failure next := by
  obtain hstands | ⟨sample, hbefore, hle⟩ := h
  · rw [← hretry] at hstands
    exact .inl hstands
  · exact .inr ⟨label.now_ms, hsampled.now, hle.trans (hsampled.later sample hbefore).le⟩

theorem Waiting.step (h : Waiting policy failures last_failure state) (hsane : Sane policy state)
    (heffect : RecoveryEffect state label next) (hlost : label.reported ≠ some ∅) :
    Waiting policy failures last_failure next := by
  cases heffect with
  | unobserved _ _ _ hnext => exact hnext ▸ h
  | clear _ hreported _ _ _ => exact absurd hreported hlost
  | unready _ _ _ _ hsampled hretry | deferred _ _ _ _ hsampled hretry => exact h.later hsampled hretry
  | recovered _ hdue _ hsampled _ | failed _ hdue _ hsampled _ =>
    exact .inr ⟨_, hsampled.now, h.deadline_le hsane hsampled hdue⟩

/-- Requests that change something are made in attempts only. -/
theorem RecoveryEffect.attempts (h : RecoveryEffect state label next) (hmutates : label.Mutates) :
    label.Loses ∧ state.retry.is_due label.now_ms = .ok true ∧ Sampled state label next := by
  cases h with
  | unobserved hcalls _ _ _ | clear hcalls _ _ _ _ | unready hcalls _ _ _ _ _ | deferred hcalls _ _ _ _ _ =>
    exact absurd hmutates hcalls
  | recovered hlost hdue _ hsampled _ | failed hlost hdue _ hsampled _ => exact ⟨hlost, hdue, hsampled⟩

/-- Calls that are deferred and calls without an accepted sample leave the retry
state alone. -/
theorem RecoveryEffect.untouched (h : RecoveryEffect state label next)
    (hidle : label.reported = none ∨ label.Loses ∧ state.retry.is_due label.now_ms = .ok false) :
    next.retry = state.retry := by
  have hattempt : label.Loses → state.retry.is_due label.now_ms ≠ .ok true := by
    rintro ⟨lost, hreported, -⟩ hdue
    obtain hnone | ⟨-, hfalse⟩ := hidle
    · rw [hnone] at hreported
      cases hreported
    · rw [hfalse] at hdue
      cases hdue
  cases h with
  | unobserved _ _ _ hnext => rw [hnext]
  | clear _ hreported _ _ _ =>
    obtain hnone | ⟨⟨lost, hlost, hne⟩, -⟩ := hidle
    · rw [hnone] at hreported
      cases hreported
    · rw [hlost] at hreported
      exact absurd (Option.some.inj hreported) hne
  | unready _ _ _ _ _ hretry | deferred _ _ _ _ _ hretry => exact hretry
  | recovered hlost hdue _ _ _ | failed hlost hdue _ _ _ => exact absurd hdue (hattempt hlost)

/-- A failed attempt starts a wait. -/
theorem waiting_of_fails {history : List RecoveryLabel} (hsane : Sane policy state)
    (hcounted : Counted (history ++ [label]) next) (heffect : RecoveryEffect state label next)
    (hfails : label.fails = true) : Waiting policy (streak (history ++ [label])) label.now_ms next := by
  have hpositive : 0 < streak (history ++ [label]) := by
    rw [streak_append, clears_of_fails hfails, hfails]
    exact Nat.succ_pos _
  rw [Counted] at hcounted
  refine .inl ⟨by rw [(hsane.recorded_of_fails heffect hfails).2]; rfl, by omega, ?_⟩
  have hexponent : min (next.retry.consecutive_failures - 1) 63 = min (streak (history ++ [label]) - 1) 63 := by omega
  rw [deadline, deadline, hexponent]

end Sane

/-- Any calls on one tracker and a new retry state: requests that change
something are made in due attempts at confirmed losses only; a failed attempt
keeps later calls from making one before its deadline, unless a sample between
them shows no lost hub; successes and such samples clear the count of failures;
and deferred calls and rejected observations leave the retry state alone. -/
theorem recovery_backoff_runs {policy : TopologyStabilityPolicy} {retry : HubRecoveryRetryState}
    (hnew : new policy = .ok retry) (tracker : HubLossTracker) {history : List RecoveryLabel}
    {state : RecoveryState} (h : Run (RecoveryStep σ) ⟨tracker, retry⟩ history state) :
    (∀ label next, RecoveryStep σ state label next →
      (label.Mutates → label.Loses ∧ state.retry.is_due label.now_ms = .ok true) ∧
      (label.fails = true → label.Loses ∧ state.retry.is_due label.now_ms = .ok true) ∧
      (label.reported = some ∅ ∨ (∃ execution, label.outcome = .ok (some execution)) →
        next.retry.consecutive_failures = 0) ∧
      (label.Loses ∧ state.retry.is_due label.now_ms = .ok false → next.retry = state.retry) ∧
      (label.reported = none → next.retry = state.retry)) ∧
    ∀ before failing middle later after, history = before ++ failing :: (middle ++ later :: after) →
      failing.fails = true → (∀ label ∈ middle, label.reported ≠ some ∅) →
      later.now_ms < min (failing.now_ms + min (policy.retry_base_ms * 2 ^ min (streak (before ++ [failing]) - 1) 63)
        policy.retry_max_ms) (2 ^ 64 - 1) → ¬ later.Mutates := by
  obtain ⟨rfl, hvalid⟩ := is_due_zero_eq_ok hnew
  have hinit : Sane policy ⟨tracker, { policy, consecutive_failures := 0, last_failure_ms := none }⟩ :=
    ⟨hvalid, rfl, nofun, nofun⟩
  have hkeep : ∀ s label t, Sane policy s → RecoveryStep σ s label t → Sane policy t :=
    fun _ _ _ hsane hstep => hsane.step hstep.effect
  refine ⟨fun label next hstep => ?_, fun before failing middle later after hhistory hfails hlost hearly hmutates => ?_⟩
  · have hsane : Sane policy state := h.invariant (Sane policy) hkeep hinit
    have heffect := hstep.effect
    refine ⟨fun hmutates => ?_, fun hfails => ?_, fun hclears => ?_,
      fun hdeferred => heffect.untouched (.inr hdeferred),
      fun hrejected => heffect.untouched (.inl hrejected)⟩
    · obtain ⟨hlost, hdue, -⟩ := heffect.attempts hmutates
      exact ⟨hlost, hdue⟩
    · exact ⟨loses_of_fails hfails, (hsane.recorded_of_fails heffect hfails).1⟩
    · have hclears := clears_iff.mpr hclears
      obtain ⟨-, hretry⟩ | ⟨hkeeps, -⟩ | ⟨hkeeps, -⟩ := hsane.verdict heffect
      · rw [hretry]
        rfl
      · rw [hclears] at hkeeps
        cases hkeeps
      · rw [hclears] at hkeeps
        cases hkeeps
  · subst hhistory
    obtain ⟨start, hbefore, hrest⟩ := Run.append_iff.mp h
    cases hrest with
    | @cons _ failed _ _ _ hfailing hrest =>
    obtain ⟨ready, hmiddle, hlast⟩ := Run.append_iff.mp hrest
    cases hlast with
    | cons hlater _ =>
    have hcounted : Sane policy start ∧ Counted before start :=
      hbefore.history (fun history s => Sane policy s ∧ Counted history s) ⟨hinit, rfl⟩
        fun _ _ _ _ hboth hstep => ⟨hboth.1.step hstep.effect, hboth.2.step hboth.1 hstep.effect⟩
    have hwaiting := waiting_of_fails hcounted.1 (hcounted.2.step hcounted.1 hfailing.effect) hfailing.effect hfails
    obtain ⟨hsane, hstill⟩ := hmiddle.invariant_of_forall
      (fun s => Sane policy s ∧ Waiting policy (streak (before ++ [failing])) failing.now_ms s)
      (fun _ _ _ hlost hboth hstep => ⟨hboth.1.step hstep.effect, hboth.2.step hboth.1 hstep.effect hlost⟩)
      hlost ⟨hcounted.1.step hfailing.effect, hwaiting⟩
    obtain ⟨-, hdue, hsample⟩ := hlater.effect.attempts hmutates
    have hdeadline := hstill.deadline_le hsane hsample hdue
    exact absurd hearly (not_lt.mpr hdeadline)

namespace sample

def policy : TopologyStabilityPolicy where
  min_dwell_ms := 1000
  min_cost_improvement := 5
  retry_base_ms := 100
  retry_max_ms := 800

def start : RecoveryState where
  tracker := topology_loss.sample.tracker
  retry := { policy, consecutive_failures := 0, last_failure_ms := none }

/-- A call without candidates, so that no loss can be recovered from. -/
def call (state : RecoveryState) (now_ms : Nat) (observed : Finset NapLink) :=
  execute_confirmed_hub_loss_recovery_with_backoff ⟨∅⟩ state.tracker state.retry now_ms (traced sample_operator)
    (observed, [])

def label (state : RecoveryState) (now_ms : Nat) (observed : Finset NapLink) : RecoveryLabel where
  inputs := ⟨∅⟩
  now_ms
  observation := .ok observed
  reported := report state.tracker now_ms (.ok observed)
  calls := (call state now_ms observed).2.2.2.2
  outcome := (call state now_ms observed).1

def after (state : RecoveryState) (now_ms : Nat) (observed : Finset NapLink) : RecoveryState where
  tracker := (call state now_ms observed).2.1
  retry := (call state now_ms observed).2.2.1

theorem step (state : RecoveryState) (now_ms : Nat) (observed : Finset NapLink) :
    RecoveryStep (Finset NapLink) state (label state now_ms observed) (after state now_ms observed) :=
  ⟨sample_operator, observed, _, rfl, rfl, rfl⟩

def shown : RecoveryState := after start 1 topology_loss.sample.star

def missed : RecoveryState := after shown 2 ∅

def lost : RecoveryState := after missed 8 ∅

end sample

open topology_recovery_flow.sample

/-- The attempt at the eighth millisecond fails, and the next sample comes
before its deadline. -/
theorem recovery_backoff_runs_sample : ¬ (label lost 9 ∅).Mutates := by
  have hrun : Run (RecoveryStep (Finset NapLink)) start
      [label start 1 topology_loss.sample.star, label shown 2 ∅,
        label missed 8 ∅, label lost 9 ∅] (after lost 9 ∅) :=
    .cons (step _ _ _) (.cons (step _ _ _) (.cons (step _ _ _) (.cons (step _ _ _) .nil)))
  refine (recovery_backoff_runs (rfl : new policy = .ok start.retry) _ hrun).2
    [label start 1 topology_loss.sample.star, label shown 2 ∅]
    (label missed 8 ∅) [] (label lost 9 ∅) [] rfl ?_
    (fun _ hin => absurd hin List.not_mem_nil) ?_
  · decide +kernel
  · decide +kernel

end topology_recovery_flow

end blueroute
