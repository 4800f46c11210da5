import BlueRoute.Core.TopologyExecutor.Execution

namespace blueroute.topology_executor

open topology_plan

variable {σ : Type} {observed : Finset NapLink} {steps applied : List NapPlanStep} {calls before after : List Call}
  {result : Result NapExecutionReport} {step : NapPlanStep} {answer : Result Unit}

theorem Execution.operations_prefix (h : Execution observed steps applied calls result) :
    operations calls <+: steps := by
  induction h with
  | advance _ ih => simpa using ih
  | _ => simp [operations_nil]

/-- The only operation of a round that the loop does not survive is its first call. -/
theorem last_round {first : NapPlanStep} {given : Result Unit} {tail : List Call} (htail : operations tail = [])
    (hcalls : .Operate first given :: tail = before ++ .Operate step answer :: after) :
    before = [] ∧ first = step ∧ given = answer ∧ tail = after := by
  cases before with
  | nil => simpa [and_assoc] using hcalls
  | cons call before =>
    obtain ⟨_, rfl⟩ := List.cons.inj hcalls
    simp at htail

/-- The operations of a round that the loop survives are its first call and
those of the later rounds. -/
theorem next_round {first : NapPlanStep} {seen routed : Finset NapLink} {tail : List Call}
    (hcalls : .Operate first (.ok ()) :: .Observe (.ok seen) :: .Reconcile routed (.ok ()) :: tail =
      before ++ .Operate step answer :: after) :
    (before = [] ∧ first = step ∧ .ok () = answer ∧ .Observe (.ok seen) :: .Reconcile routed (.ok ()) :: tail = after) ∨
      ∃ later, before = .Operate first (.ok ()) :: .Observe (.ok seen) :: .Reconcile routed (.ok ()) :: later ∧
        tail = later ++ .Operate step answer :: after := by
  rcases before with _ | ⟨_, _ | ⟨_, _ | ⟨_, later⟩⟩⟩
  · left
    simpa [and_assoc] using hcalls
  · simp at hcalls
  · simp at hcalls
  · simp only [List.cons_append, List.cons.injEq] at hcalls
    obtain ⟨rfl, rfl, rfl, hcalls⟩ := hcalls
    exact .inr ⟨later, rfl, hcalls⟩

/-- Any operation but the first follows the routing of what the earlier
operations had to produce. -/
theorem Execution.operate_after (h : Execution observed steps applied calls result)
    (hcalls : calls = before ++ .Operate step answer :: after) :
    before = [] ∨ operations before ≠ [] ∧ ∃ earlier, before = earlier ++
      [.Observe (.ok (replay observed (operations before))),
        .Reconcile (replay observed (operations before)) (.ok ())] := by
  induction h generalizing before with
  | finished | refused => simp at hcalls
  | @advance observed first _ _ _ _ _ ih =>
    rcases next_round hcalls with ⟨rfl, _⟩ | ⟨later, rfl, hlater⟩
    · exact .inl rfl
    · refine .inr ⟨by simp, ?_⟩
      rcases ih hlater with rfl | ⟨_, earlier, hearlier⟩
      · exact ⟨[.Operate first (.ok ())], rfl⟩
      · refine ⟨.Operate first (.ok ()) :: .Observe (.ok (first.apply observed)) ::
          .Reconcile (first.apply observed) (.ok ()) :: earlier, ?_⟩
        simp only [operations_operate, operations_observe, operations_reconcile, replay_cons, List.cons_append]
        rw [← hearlier]
  | _ => exact .inl (last_round (by simp [operations_nil]) hcalls).1

/-- Every operation is followed by an observation. One that failed or that did
something else is then followed by routing what was observed, and by an error. -/
theorem Execution.operate_before (h : Execution observed steps applied calls result)
    (hcalls : calls = before ++ .Operate step answer :: after) :
    ∃ seen rest, after = .Observe seen :: rest ∧ ∀ actual, seen = .ok actual →
      answer ≠ .ok () ∨ actual ≠ replay observed (operations before ++ [step]) →
        (∃ routed, rest = [.Reconcile actual routed]) ∧
          ∃ e, result = .error e ∧ ∀ failure, answer = .error failure → e = failure := by
  induction h generalizing before with
  | finished | refused => simp at hcalls
  | advance _ ih =>
    rcases next_round hcalls with ⟨rfl, rfl, rfl, rfl⟩ | ⟨later, rfl, hlater⟩
    · exact ⟨_, _, rfl, by simp [operations_nil]⟩
    · have hround := ih hlater
      exact hround
  | _ =>
    obtain ⟨rfl, rfl, rfl, rfl⟩ := last_round (by simp [operations_nil]) hcalls
    exact ⟨_, _, rfl, by simp [operations_nil]⟩

/-- A loop that ends normally has applied every step and routed the result. -/
theorem Execution.success {report : NapExecutionReport} (h : Execution observed steps applied calls (.ok report)) :
    report = { applied := applied ++ steps, observed := replay observed steps } ∧ operations calls = steps ∧
      (calls = [] ∨ ∃ earlier, calls = earlier ++ [.Reconcile (replay observed steps) (.ok ())]) := by
  generalize hresult : Except.ok report = result at h
  induction h with
  | finished =>
    cases hresult
    simp [operations_nil]
  | @advance observed step _ _ calls _ _ ih =>
    obtain ⟨hreport, hoperations, hlast⟩ := ih hresult
    refine ⟨by simpa using hreport, by simpa using hoperations, .inr ?_⟩
    rcases hlast with rfl | ⟨earlier, rfl⟩
    · rw [← hoperations]
      exact ⟨[_, _], rfl⟩
    · exact ⟨_ :: _ :: _ :: earlier, rfl⟩
  | _ => cases hresult

/-- What a backend may rely on, whatever it answers: the calls made to it for
a plan from one set of links to another. -/
structure ObservationGated (active desired : Finset NapLink) (steps : List NapPlanStep) (calls : List Call)
    (result : Result NapExecutionReport) : Prop where
  in_order : operations calls <+: steps
  without_repetition : (operations calls).Nodup
  stale : calls.head? ≠ some (.Observe (.ok active)) → operations calls = []
  first_operation : ∀ before step answer after, calls = before ++ .Operate step answer :: after →
    operations before = [] → before = [.Observe (.ok active)]
  later_operation : ∀ before step answer after, calls = before ++ .Operate step answer :: after →
    operations before ≠ [] → ∃ earlier, before = earlier ++
      [.Observe (.ok (replay active (operations before))), .Reconcile (replay active (operations before)) (.ok ())]
  success : ∀ report, result = .ok report → report = { applied := steps, observed := desired } ∧
    operations calls = steps ∧ ∃ earlier, calls = earlier ++ [.Reconcile desired (.ok ())]
  observed_after : ∀ before step answer after, calls = before ++ .Operate step answer :: after →
    ∃ seen rest, after = .Observe seen :: rest
  failed_routed : ∀ before step failure actual after,
    calls = before ++ .Operate step (.error failure) :: .Observe (.ok actual) :: after →
      (∃ routed, after = [.Reconcile actual routed]) ∧ result = .error failure
  wrong_routed : ∀ before step actual after,
    calls = before ++ .Operate step (.ok ()) :: .Observe (.ok actual) :: after →
      actual ≠ replay active (operations before ++ [step]) →
      (∃ routed, after = [.Reconcile actual routed]) ∧ ∃ e, result = .error e

/-- The loop behind a first observation that is still what was planned from. -/
theorem Execution.gated {active desired : Finset NapLink} (hnodup : steps.Nodup)
    (hfinal : replay active steps = desired)
    (hsteps : steps ≠ []) (h : Execution active steps [] calls result) :
    ObservationGated active desired steps (.Observe (.ok active) :: calls) result := by
  -- the split of the whole log gives a split of the loop's part
  have hloop : ∀ {before : List Call} {step : NapPlanStep} {answer : Result Unit} {after : List Call},
      .Observe (.ok active) :: calls = before ++ .Operate step answer :: after →
        ∃ inner, before = .Observe (.ok active) :: inner ∧ calls = inner ++ .Operate step answer :: after := by
    intro before step answer after hcalls
    cases before with
    | nil => simp at hcalls
    | cons call inner =>
      obtain ⟨rfl, hinner⟩ := List.cons.inj hcalls
      exact ⟨inner, rfl, hinner⟩
  refine ⟨h.operations_prefix, h.operations_prefix.sublist.nodup hnodup, fun hstale => absurd rfl hstale,
    ?_, ?_, ?_, ?_, ?_, ?_⟩
  · intro before step answer after hcalls hnone
    obtain ⟨inner, rfl, hinner⟩ := hloop hcalls
    rcases h.operate_after hinner with rfl | ⟨hsome, _⟩
    · rfl
    · exact absurd hnone hsome
  · intro before step answer after hcalls hsome
    obtain ⟨inner, rfl, hinner⟩ := hloop hcalls
    rcases h.operate_after hinner with rfl | ⟨_, earlier, hearlier⟩
    · exact absurd rfl hsome
    · refine ⟨.Observe (.ok active) :: earlier, ?_⟩
      rw [operations_observe, List.cons_append, ← hearlier]
  · rintro report rfl
    obtain ⟨hreport, hoperations, rfl | ⟨earlier, rfl⟩⟩ := h.success
    · exact absurd hoperations.symm hsteps
    · exact ⟨hfinal ▸ hreport, hoperations, .Observe (.ok active) :: earlier, hfinal ▸ rfl⟩
  · intro before step answer after hcalls
    obtain ⟨inner, rfl, hinner⟩ := hloop hcalls
    obtain ⟨seen, rest, hafter, _⟩ := h.operate_before hinner
    exact ⟨seen, rest, hafter⟩
  · intro before step failure actual after hcalls
    obtain ⟨inner, rfl, hinner⟩ := hloop hcalls
    obtain ⟨_, _, hafter, hrepair⟩ := h.operate_before hinner
    cases hafter
    obtain ⟨hrouted, e, rfl, hfailure⟩ := hrepair actual rfl (.inl (by simp))
    exact ⟨hrouted, hfailure failure rfl ▸ rfl⟩
  · intro before step actual after hcalls hwrong
    obtain ⟨inner, rfl, hinner⟩ := hloop hcalls
    obtain ⟨_, _, hafter, hrepair⟩ := h.operate_before hinner
    cases hafter
    obtain ⟨hrouted, e, rfl, _⟩ := hrepair actual rfl (.inr hwrong)
    exact ⟨hrouted, e, rfl⟩

/-- A run that makes no operation. -/
theorem ObservationGated.idle {active desired : Finset NapLink} (hnone : operations calls = [])
    (hsuccess : ∀ report, result = .ok report → report = { applied := steps, observed := desired } ∧
      steps = [] ∧ ∃ earlier, calls = earlier ++ [.Reconcile desired (.ok ())]) :
    ObservationGated active desired steps calls result := by
  have hno : ∀ {before : List Call} {step : NapPlanStep} {answer : Result Unit} {after : List Call},
      calls ≠ before ++ .Operate step answer :: after := by
    rintro before step answer after rfl
    simp at hnone
  refine ⟨by simp [hnone], by simp [hnone], fun _ => hnone, fun _ _ _ _ h => absurd h hno,
    fun _ _ _ _ h => absurd h hno, ?_, fun _ _ _ _ h => absurd h hno, fun _ _ _ _ _ h => absurd h hno,
    fun _ _ _ _ h => absurd h hno⟩
  intro report hreport
  obtain ⟨heq, hsteps, hlast⟩ := hsuccess report hreport
  exact ⟨heq, hnone.trans hsteps.symm, hlast⟩

/-- What the executor does with a backend, given what the planner answered. -/
def Conforms (planned : Result NapPlanDiff) (active desired : Finset NapLink) (calls : List Call)
    (result : Result NapExecutionReport) : Prop :=
  match planned with
  | .error e => calls = [] ∧ result = .error e
  | .ok diff => ObservationGated active desired diff.steps calls result

/-- Whatever the backend answers, the executor only makes calls that its last
observation allows. The log does not change what the executor does. -/
theorem execute_nap_plan_conforms (inputs : TopologyPolicyInputs) (active desired : NapSelection)
    (operator : NapTopologyOperator σ) (s : σ) :
    ∃ result after calls, execute_nap_plan inputs active desired operator s = (result, after) ∧
      execute_nap_plan inputs active desired (traced operator) (s, []) = (result, after, calls) ∧
      Conforms (diff_nap_topology inputs active desired) (links active) (links desired) calls result := by
  unfold execute_nap_plan
  rcases hdiff : diff_nap_topology inputs active desired with e | diff
  · exact ⟨.error e, s, [], rfl, rfl, rfl, rfl⟩
  obtain ⟨_, _, hdesired, hdesirable, _⟩ := diff_nap_topology_eq_ok_iff.mp hdiff
  have hfeasible := hdesirable.feasible hdesired
  have hfollows := diff_nap_topology_follows hdiff
  rcases hobserve : operator.observe_links s with ⟨e | observed, s₁⟩
  · refine ⟨.error e, s₁, [.Observe (.error e)], ?_, ?_, ObservationGated.idle rfl (by simp)⟩ <;> simp [hobserve]
  by_cases hstale : observed = links active
  · subst hstale
    by_cases hsteps : diff.steps = []
    · have hfinal := hfollows.replay_eq hfeasible
      rw [hsteps, replay_nil] at hfinal
      rcases hreconcile : operator.reconcile_routes (links active) s₁ with ⟨e | _, s₂⟩
      · refine ⟨.error e, s₂, [.Observe (.ok (links active)), .Reconcile (links active) (.error e)], ?_, ?_,
          ObservationGated.idle rfl (by simp)⟩ <;>
        simp [hobserve, hsteps, hreconcile]
      · refine ⟨.ok { applied := [], observed := links active }, s₂,
          [.Observe (.ok (links active)), .Reconcile (links active) (.ok ())], ?_, ?_,
          ObservationGated.idle rfl ?_⟩
        · simp [hsteps, hreconcile, execute_steps]
        · simp [hobserve, hsteps, hreconcile, execute_steps]
        · rintro report heq
          cases heq
          exact ⟨by rw [hsteps, hfinal], hsteps, [.Observe (.ok (links active))], by rw [hfinal]; rfl⟩
    · obtain ⟨result, after, made, hplain, htraced, hexecution⟩ :=
        execute_steps_traced operator diff.steps (links active) [] s₁ [.Observe (.ok (links active))]
      refine ⟨result, after, .Observe (.ok (links active)) :: made, ?_, ?_,
        hexecution.gated (hfollows.exact hfeasible).1 (hfollows.replay_eq hfeasible) hsteps⟩
      · simpa [hsteps] using hplain
      · simpa [hobserve, hsteps] using htraced
  · refine ⟨.error (CoreError.new .InvalidState "PAN observations changed; replan before execution"), s₁,
      [.Observe (.ok observed)], ?_, ?_, ObservationGated.idle rfl (by simp)⟩ <;>
    simp [hobserve, hstale]

/-- A backend that does what it is asked and observes its own links. -/
def sample_operator : NapTopologyOperator (Finset NapLink) where
  observe_links := fun links => (.ok links, links)
  connect_link := fun link links => (.ok (), insert link links)
  disconnect_link := fun link links => (.ok (), links.erase link)
  reconcile_routes := fun _ links => (.ok (), links)

/-- The first operation needs the observation only: no routes are reconciled
before it. -/
theorem first_operation_unrouted :
    ∃ before step answer after,
      (execute_nap_plan (sample.inputs [1] [1, 2, 3]) (sample.selection [(1, [2])] [3])
        (sample.selection [(1, [3])] [2]) (traced sample_operator)
        (links (sample.selection [(1, [2])] [3]), [])).2.2 = before ++ .Operate step answer :: after ∧
      ∀ routed answer, .Reconcile routed answer ∉ before := by
  refine ⟨[.Observe (.ok (links (sample.selection [(1, [2])] [3])))],
    .Disconnect ⟨sample.node 1, sample.node 2⟩, .ok (), ?_, ?_, ?_⟩
  · exact [.Observe (.ok ∅), .Reconcile ∅ (.ok ()), .Operate (.Connect ⟨sample.node 1, sample.node 3⟩) (.ok ()),
      .Observe (.ok (links (sample.selection [(1, [3])] [2]))),
      .Reconcile (links (sample.selection [(1, [3])] [2])) (.ok ())]
  · decide
  · simp

/-- The links that a backend showed last. -/
def last_observed (calls : List Call) : Option (Finset NapLink) :=
  calls.reverse.findSome? fun
    | .Observe (.ok links) => some links
    | _ => none

/-- A log in which the planner permits every operation on the links that were shown last. -/
def AllPermitted (inputs : TopologyPolicyInputs) (desired : Finset NapLink) (calls : List Call) : Prop :=
  ∀ before step answer after, calls = before ++ .Operate step answer :: after →
    ∃ observed, last_observed before = some observed ∧ Permitted inputs desired observed step

/-- Whatever the backend answers, the executor connects only desired links of clients that it was last shown to be free
to hubs that it was shown to have room, and retires only links that it was shown and that are not desired. -/
theorem execute_nap_plan_permitted (inputs : TopologyPolicyInputs) (active desired : NapSelection)
    (operator : NapTopologyOperator σ) (s : σ) :
    AllPermitted inputs (links desired) (execute_nap_plan inputs active desired (traced operator) (s, [])).2.2 := by
  intro before step answer after h
  have hmade : step ∈ operations (execute_nap_plan inputs active desired (traced operator) (s, [])).2.2 := by
    simp [h]
  unfold execute_nap_plan at h hmade
  cases hdiff : diff_nap_topology inputs active desired with
  | error e => simp [hdiff, operations_nil] at hmade
  | ok diff =>
    simp only [hdiff, observe_links_traced, List.nil_append] at h hmade
    rcases hobserve : operator.observe_links s with ⟨e | observed, s₁⟩
    · simp [hobserve, operations_nil] at hmade
    simp only [hobserve, reconcile_routes_traced] at h hmade
    by_cases hstale : observed = links active
    · subst hstale
      by_cases hsteps : diff.steps = []
      · rcases hreconcile : operator.reconcile_routes (links active) s₁ with ⟨e | _, s₂⟩ <;>
        simp [hsteps, hreconcile, execute_steps, operations_nil] at hmade
      · obtain ⟨result, last, made, -, htraced, hexecution⟩ :=
          execute_steps_traced operator diff.steps (links active) [] s₁ [.Observe (.ok (links active))]
        simp only [ne_eq, not_true_eq_false, if_false, if_neg hsteps, htraced] at h
        obtain _ | ⟨_, inner⟩ := before
        · cases h
        simp only [List.cons_append, List.nil_append, List.cons.injEq] at h
        obtain ⟨rfl, rfl⟩ := h
        obtain ⟨rest, hrest⟩ := hexecution.operations_prefix
        rw [operations_append, operations_operate, List.append_assoc, List.cons_append] at hrest
        have hpermitted := (hrest ▸ diff_nap_topology_follows hdiff).permitted
        refine ⟨_, ?_, hpermitted⟩
        obtain rfl | ⟨-, earlier, hearlier⟩ := hexecution.operate_after rfl
        · rfl
        · generalize replay (links active) (operations inner) = current at hearlier ⊢
          simp [hearlier, last_observed]
    · simp [hstale, operations_nil] at hmade

end blueroute.topology_executor
