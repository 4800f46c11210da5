import BlueRoute.Core.TopologyPlan.LinkSet

open Fallible Ordered

namespace blueroute

/-- The observed links after a step took effect. -/
def NapPlanStep.apply (links : Finset NapLink) : NapPlanStep → Finset NapLink
  | .Connect link => insert link links
  | .Disconnect link => links.erase link

/-- No client is attached to two hubs. -/
def SingleAttachment (links : Finset NapLink) : Prop :=
  ∀ left ∈ links, ∀ right ∈ links, left.client = right.client → left = right

end blueroute

namespace blueroute.topology_plan

open topology_executor

/-- The links after a list of steps took effect in order. -/
def replay (links : Finset NapLink) (steps : List NapPlanStep) : Finset NapLink :=
  steps.foldl NapPlanStep.apply links

@[simp]
theorem replay_nil (links : Finset NapLink) : replay links [] = links := rfl

@[simp]
theorem replay_cons (links : Finset NapLink) (step : NapPlanStep) (rest : List NapPlanStep) :
    replay links (step :: rest) = replay (step.apply links) rest :=
  rfl

theorem replay_append (links : Finset NapLink) (before after : List NapPlanStep) :
    replay links (before ++ after) = replay (replay links before) after :=
  List.foldl_append

/-- The step that the planner takes from a set of links. It depends on nothing
else: the pending links are always the missing part of the target. -/
def next_step (inputs : TopologyPolicyInputs) (target current : Finset NapLink) : Option NapPlanStep :=
  if target \ current = ∅ then (ascending (current \ target)).head?.map .Disconnect
  else
    match first (ready inputs current) (target \ current) with
    | some link => some (.Connect link)
    | none => ((ascending (target \ current)).findSome? (obstacle current target)).map .Disconnect

/-- A run of the planner's steps from a set of links until it has none left. -/
inductive Follows (inputs : TopologyPolicyInputs) (target : Finset NapLink) :
    Finset NapLink → List NapPlanStep → Prop where
  | done {current : Finset NapLink} (hnext : next_step inputs target current = none) :
      Follows inputs target current []
  | step {current : Finset NapLink} {step : NapPlanStep} {rest : List NapPlanStep}
      (hnext : next_step inputs target current = some step)
      (hrest : Follows inputs target (step.apply current) rest) : Follows inputs target current (step :: rest)

variable {inputs : TopologyPolicyInputs} {target current : Finset NapLink}

theorem Follows.unique {left right : List NapPlanStep} (hleft : Follows inputs target current left)
    (hright : Follows inputs target current right) : left = right := by
  induction hleft generalizing right with
  | done hnext =>
    cases hright with
    | done => rfl
    | step hother => rw [hnext] at hother; cases hother
  | step hnext _ ih =>
    cases hright with
    | done hother => rw [hnext] at hother; cases hother
    | step hother hrest =>
      rw [hnext] at hother
      cases hother
      rw [ih hrest]

/-- A run can be resumed after any of its prefixes from the links reached there. -/
theorem Follows.resume {before after : List NapPlanStep} (h : Follows inputs target current (before ++ after)) :
    Follows inputs target (replay current before) after := by
  induction before generalizing current with
  | nil => exact h
  | cons step rest ih =>
    cases h with
    | step _ hrest => exact ih hrest

/-- What the planner may do next: connect a missing link whose client is free
and whose hub has room, or retire a link that the target does not keep. -/
def Permitted (inputs : TopologyPolicyInputs) (target current : Finset NapLink) : NapPlanStep → Prop
  | .Connect link => link ∈ target ∧ link ∉ current ∧ (∀ old ∈ current, old.client ≠ link.client) ∧
      occupied current link.hub < capacity inputs link.hub
  | .Disconnect link => link ∈ current ∧ link ∉ target

theorem ready_eq_true {current : Finset NapLink} {link : NapLink} (h : ready inputs current link = true) :
    (∀ old ∈ current, old.client ≠ link.client) ∧ occupied current link.hub < capacity inputs link.hub := by
  simpa [ready] using h

theorem obstacle_eq_some {current target : Finset NapLink} {link old : NapLink}
    (h : obstacle current target link = some old) : old ∈ current ∧ old ∉ target := by
  rw [obstacle, Option.or_eq_some_iff] at h
  rcases h with hclient | ⟨_, hhub⟩
  · exact Finset.mem_sdiff.mp (first_eq_some hclient).1
  · exact Finset.mem_sdiff.mp (first_eq_some hhub).1

theorem next_step_permitted {step : NapPlanStep} (h : next_step inputs target current = some step) :
    Permitted inputs target current step := by
  unfold next_step at h
  split at h
  · obtain ⟨old, hold, rfl⟩ := Option.map_eq_some_iff.mp h
    exact Finset.mem_sdiff.mp (mem_ascending.mp (List.mem_of_mem_head? hold))
  · split at h
    · rename_i link hready
      cases h
      obtain ⟨hmem, hready⟩ := first_eq_some hready
      obtain ⟨hfree, hroom⟩ := ready_eq_true hready
      exact ⟨(Finset.mem_sdiff.mp hmem).1, (Finset.mem_sdiff.mp hmem).2, hfree, hroom⟩
    · obtain ⟨old, hold, rfl⟩ := Option.map_eq_some_iff.mp h
      obtain ⟨link, _, hobstacle⟩ := List.exists_of_findSome?_eq_some hold
      exact obstacle_eq_some hobstacle

/-- Permitted steps never attach a client twice. -/
theorem Permitted.single {step : NapPlanStep} (h : Permitted inputs target current step)
    (hsingle : SingleAttachment current) :
    SingleAttachment (step.apply current) := by
  cases step with
  | Connect link =>
    intro left hleft right hright heq
    obtain ⟨_, _, hfree, _⟩ := h
    rcases Finset.mem_insert.mp hleft with hnewLeft | holdLeft <;>
      rcases Finset.mem_insert.mp hright with hnewRight | holdRight
    · rw [hnewLeft, hnewRight]
    · exact absurd (by rw [← heq, hnewLeft]) (hfree right holdRight)
    · exact absurd (by rw [heq, hnewRight]) (hfree left holdLeft)
    · exact hsingle left holdLeft right holdRight heq
  | Disconnect link =>
    intro left hleft right hright heq
    exact hsingle left (Finset.mem_of_mem_erase hleft) right (Finset.mem_of_mem_erase hright) heq

end blueroute.topology_plan
