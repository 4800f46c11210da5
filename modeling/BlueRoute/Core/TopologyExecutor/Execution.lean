import BlueRoute.Core.TopologyExecutor.Model

namespace blueroute.topology_executor

open topology_plan

variable {σ : Type}

@[simp]
theorem operations_append (left right : List Call) : operations (left ++ right) = operations left ++ operations right :=
  List.filterMap_append

@[simp]
theorem operations_observe (answer : Result (Finset NapLink)) (calls : List Call) :
    operations (.Observe answer :: calls) = operations calls :=
  rfl

@[simp]
theorem operations_operate (step : NapPlanStep) (answer : Result Unit) (calls : List Call) :
    operations (.Operate step answer :: calls) = step :: operations calls :=
  rfl

variable (operator : NapTopologyOperator σ) (links : Finset NapLink) (s : σ) (calls : List Call)

@[simp]
theorem operations_reconcile (answer : Result Unit) (calls : List Call) :
    operations (.Reconcile links answer :: calls) = operations calls :=
  rfl

theorem operations_nil : operations [] = [] := rfl

theorem expected_links_eq_ok {observed expected : Finset NapLink} {step : NapPlanStep}
    (h : expected_links observed step = .ok expected) : expected = step.apply observed := by
  cases step with
  | Connect link =>
    simp only [expected_links] at h
    split at h
    · cases h
    · exact (Except.ok.inj h).symm
  | Disconnect link =>
    simp only [expected_links] at h
    split at h
    · exact (Except.ok.inj h).symm
    · cases h

/-- Every way in which the loop can use its backend: the calls it makes from
an observation, and what it returns. -/
inductive Execution : Finset NapLink → List NapPlanStep → List NapPlanStep → List Call →
    Result NapExecutionReport → Prop where
  | finished {observed : Finset NapLink} {applied : List NapPlanStep} :
      Execution observed [] applied [] (.ok { applied, observed })
  | refused {observed : Finset NapLink} {step : NapPlanStep} {rest applied : List NapPlanStep} {e : CoreError}
      (hrefused : expected_links observed step = .error e) :
      Execution observed (step :: rest) applied [] (.error e)
  | failed_blind {observed : Finset NapLink} {step : NapPlanStep} {rest applied : List NapPlanStep}
      {e unseen : CoreError} :
      Execution observed (step :: rest) applied [.Operate step (.error e), .Observe (.error unseen)] (.error e)
  | failed {observed actual : Finset NapLink} {step : NapPlanStep} {rest applied : List NapPlanStep}
      {e : CoreError} {answer : Result Unit} :
      Execution observed (step :: rest) applied
        [.Operate step (.error e), .Observe (.ok actual), .Reconcile actual answer] (.error e)
  | blind {observed : Finset NapLink} {step : NapPlanStep} {rest applied : List NapPlanStep} {e : CoreError} :
      Execution observed (step :: rest) applied [.Operate step (.ok ()), .Observe (.error e)] (.error e)
  | unrouted {observed actual : Finset NapLink} {step : NapPlanStep} {rest applied : List NapPlanStep}
      {e : CoreError} :
      Execution observed (step :: rest) applied
        [.Operate step (.ok ()), .Observe (.ok actual), .Reconcile actual (.error e)] (.error e)
  | wrong {observed actual : Finset NapLink} {step : NapPlanStep} {rest applied : List NapPlanStep}
      (hwrong : actual ≠ step.apply observed) :
      Execution observed (step :: rest) applied
        [.Operate step (.ok ()), .Observe (.ok actual), .Reconcile actual (.ok ())]
        (.error (CoreError.new .TopologyFailure "PAN operation did not produce the expected observed topology"))
  | advance {observed : Finset NapLink} {step : NapPlanStep} {rest applied : List NapPlanStep}
      {calls : List Call} {result : Result NapExecutionReport}
      (hrest : Execution (step.apply observed) rest (applied ++ [step]) calls result) :
      Execution observed (step :: rest) applied
        (.Operate step (.ok ()) :: .Observe (.ok (step.apply observed)) ::
          .Reconcile (step.apply observed) (.ok ()) :: calls) result

@[simp]
theorem observe_links_traced :
    (traced operator).observe_links (s, calls) =
      ((operator.observe_links s).1, (operator.observe_links s).2,
        calls ++ [.Observe (operator.observe_links s).1]) :=
  rfl

@[simp]
theorem reconcile_routes_traced :
    (traced operator).reconcile_routes links (s, calls) =
      ((operator.reconcile_routes links s).1, (operator.reconcile_routes links s).2,
        calls ++ [.Reconcile links (operator.reconcile_routes links s).1]) :=
  rfl

@[simp]
theorem operate_traced (step : NapPlanStep) (s : σ) (calls : List Call) :
    operate (traced operator) step (s, calls) =
      ((operate operator step s).1, (operate operator step s).2,
        calls ++ [.Operate step (operate operator step s).1]) := by
  cases step <;> rfl

/-- Keeping a log changes nothing, and the log of the loop is one of the
executions listed above. -/
theorem execute_steps_traced (steps : List NapPlanStep) :
    ∀ (observed : Finset NapLink) (applied : List NapPlanStep) (s : σ) (calls : List Call),
      ∃ result after made, execute_steps operator steps observed applied s = (result, after) ∧
        execute_steps (traced operator) steps observed applied (s, calls) = (result, after, calls ++ made) ∧
        Execution observed steps applied made result := by
  induction steps with
  | nil =>
    intro observed applied s calls
    exact ⟨_, _, [], rfl, by simp [execute_steps], .finished⟩
  | cons step rest ih =>
    intro observed applied s calls
    unfold execute_steps
    rcases hexpected : expected_links observed step with e | expected
    · exact ⟨_, _, [], rfl, by simp, .refused hexpected⟩
    obtain rfl := expected_links_eq_ok hexpected
    rcases hoperate : operate operator step s with ⟨e | _, s₁⟩
    · rcases hobserve : operator.observe_links s₁ with ⟨unseen | actual, s₂⟩
      · refine ⟨.error e, s₂, [.Operate step (.error e), .Observe (.error unseen)], ?_, ?_, .failed_blind⟩ <;>
        simp [hoperate, hobserve]
      · refine ⟨.error e, (operator.reconcile_routes actual s₂).2, [.Operate step (.error e), .Observe (.ok actual),
          .Reconcile actual (operator.reconcile_routes actual s₂).1], ?_, ?_, .failed⟩ <;>
        simp [hoperate, hobserve]
    rcases hobserve : operator.observe_links s₁ with ⟨e | actual, s₂⟩
    · refine ⟨.error e, s₂, [.Operate step (.ok ()), .Observe (.error e)], ?_, ?_, .blind⟩ <;>
      simp [hoperate, hobserve]
    rcases hreconcile : operator.reconcile_routes actual s₂ with ⟨e | _, s₃⟩
    · refine ⟨.error e, s₃, [.Operate step (.ok ()), .Observe (.ok actual), .Reconcile actual (.error e)],
        ?_, ?_, .unrouted⟩ <;>
      simp [hoperate, hobserve, hreconcile]
    by_cases hactual : actual = step.apply observed
    · subst hactual
      obtain ⟨result, after, made, hplain, htraced, hrest⟩ :=
        ih (step.apply observed) (applied ++ [step]) s₃ (calls ++ [.Operate step (.ok ()),
          .Observe (.ok (step.apply observed)), .Reconcile (step.apply observed) (.ok ())])
      refine ⟨result, after, _, ?_, ?_, .advance hrest⟩
      · simpa [hobserve, hreconcile] using hplain
      · simpa [hoperate, hobserve, hreconcile] using htraced
    · refine ⟨_, s₃, [.Operate step (.ok ()), .Observe (.ok actual), .Reconcile actual (.ok ())],
        ?_, ?_, .wrong hactual⟩ <;>
      simp [hactual, hoperate, hobserve, hreconcile]

end blueroute.topology_executor
