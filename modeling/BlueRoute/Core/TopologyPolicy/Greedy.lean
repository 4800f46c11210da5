import BlueRoute.Core.TopologyPolicy.Select

open Fallible Ordered Ranking

namespace blueroute.topology_policy

/-- The nodes that the stars of a list use. -/
def taken (stars : List NapAssignment) : Finset NodeId :=
  (stars.flatMap fun star => star.hub :: star.clients).toFinset

def hubs (stars : List NapAssignment) : Finset NodeId := (stars.map NapAssignment.hub).toFinset

/-- The nodes that the stars of a list leave unserved. -/
def remaining (inputs : TopologyPolicyInputs) (stars : List NapAssignment) : Finset NodeId :=
  inputs.candidates.keys.toFinset \ taken stars

variable {stars before : List NapAssignment} {node : NodeId} {proposal : Proposal}

theorem mem_taken : node ∈ taken stars ↔ ∃ star ∈ stars, node = star.hub ∨ node ∈ star.clients := by
  simp [taken]

theorem mem_hubs : node ∈ hubs stars ↔ ∃ star ∈ stars, star.hub = node := by
  simp [hubs]

variable {inputs : TopologyPolicyInputs}

theorem mem_remaining : node ∈ remaining inputs stars ↔ node ∈ inputs.candidates ∧ node ∉ taken stars := by
  simp [remaining]

/-- The loop variables after a list of stars was assigned. -/
def state_after (inputs : TopologyPolicyInputs) (stars : List NapAssignment) : SelectState where
  unserved := remaining inputs stars
  selected_hubs := hubs stars
  stars := stars

theorem state_after_nil (inputs : TopologyPolicyInputs) :
    state_after inputs [] = { unserved := inputs.candidates.keys.toFinset, selected_hubs := ∅, stars := [] } := by
  simp [state_after, remaining, taken, hubs]

theorem assign_state_after (inputs : TopologyPolicyInputs) (stars : List NapAssignment) (star : NapAssignment) :
    (state_after inputs stars).assign star = state_after inputs (stars ++ [star]) := by
  have hunserved : ((remaining inputs stars).erase star.hub) \ star.clients.toFinset =
      remaining inputs (stars ++ [star]) := by
    ext node
    simp only [Finset.mem_sdiff, Finset.mem_erase, mem_remaining, mem_taken, List.mem_append, List.mem_singleton,
      List.mem_toFinset, or_and_right, exists_or, exists_eq_left, not_or]
    tauto
  have hselected : insert star.hub (hubs stars) = hubs (stars ++ [star]) := by
    ext node
    simp [hubs, eq_comm]
  simp only [SelectState.assign, state_after, hunserved, hselected]

/-- The runs of the selection loop: from the stars so far, the stars it adds. -/
inductive Greedy (inputs : TopologyPolicyInputs) : List NapAssignment → List NapAssignment → Prop where
  | done {before : List NapAssignment} (hbest : best inputs (remaining inputs before) (hubs before) = none) :
      Greedy inputs before []
  | pick {before rest : List NapAssignment} {proposal : Proposal}
      (hbest : best inputs (remaining inputs before) (hubs before) = some proposal)
      (hrest : Greedy inputs (before ++ [proposal.star]) rest) : Greedy inputs before (proposal.star :: rest)

theorem Greedy.unique {left right : List NapAssignment} (hleft : Greedy inputs before left)
    (hright : Greedy inputs before right) : left = right := by
  induction hleft generalizing right with
  | done hbest =>
    cases hright with
    | done => rfl
    | pick hother => rw [hbest] at hother; cases hother
  | pick hbest _ ih =>
    cases hright with
    | done hother => rw [hbest] at hother; cases hother
    | pick hother hrest =>
      rw [hbest] at hother
      cases hother
      rw [ih hrest]

/-- The stars of a run are picked one after the other. -/
theorem Greedy.pick_at {first after : List NapAssignment} {star : NapAssignment}
    (h : Greedy inputs before (first ++ star :: after)) :
    ∃ proposal, best inputs (remaining inputs (before ++ first)) (hubs (before ++ first)) = some proposal ∧
      proposal.star = star ∧ Greedy inputs (before ++ first ++ [star]) after := by
  induction first generalizing before with
  | nil =>
    cases h with
    | pick hbest hrest =>
      rw [List.append_nil]
      exact ⟨_, hbest, rfl, hrest⟩
  | cons head rest ih =>
    cases h with
    | pick _ hrest =>
      have htail := ih hrest
      simpa only [List.append_assoc, List.singleton_append] using htail

theorem Greedy.done_at (h : Greedy inputs before stars) :
    best inputs (remaining inputs (before ++ stars)) (hubs (before ++ stars)) = none := by
  induction h with
  | done hbest => simpa using hbest
  | pick _ _ ih => simpa using ih

/-- Everything that a proposal is made of. -/
structure Proposes (inputs : TopologyPolicyInputs) (unserved selected : Finset NodeId) (candidate : TopologyCandidate)
    (capacity : Nat) (proposal : Proposal) : Prop where
  found : inputs.candidates[proposal.hub]? = some candidate
  fresh : proposal.hub ∉ selected
  can_host : candidate.capabilities.can_host_pan = some true
  usable : candidate.capabilities.usable = some true
  ceiling : candidate.capabilities.ceiling = some capacity
  positive : 0 < capacity
  clients : proposal.clients = offer inputs unserved proposal.hub candidate capacity
  nonempty : proposal.clients ≠ []
  score : proposal.score = toLex (proposal.clients.length,
    toLex (candidate.currently_hosting, standing proposal.hub candidate proposal.clients))

variable {unserved selected : Finset NodeId}

/-- In an iteration, a hub makes one proposal. -/
theorem Proposes.eq_of_hub {candidate found : TopologyCandidate} {capacity room : Nat} {other : Proposal}
    (h : Proposes inputs unserved selected candidate capacity proposal)
    (hother : Proposes inputs unserved selected found room other) (hhub : proposal.hub = other.hub) :
    proposal = other := by
  have hfound := h.found
  rw [hhub, hother.found] at hfound
  cases hfound
  have hceiling := h.ceiling
  rw [hother.ceiling] at hceiling
  cases hceiling
  have hclients : proposal.clients = other.clients := by rw [h.clients, hother.clients, hhub]
  have hscore : proposal.score = other.score := by rw [h.score, hother.score, hclients, hhub]
  cases proposal
  cases other
  simp only at hhub hclients hscore
  subst hhub hclients hscore
  rfl

theorem mem_proposals :
    proposal ∈ inputs.candidates.toList.filterMap (propose inputs unserved selected) ↔
      ∃ candidate capacity, Proposes inputs unserved selected candidate capacity proposal := by
  rw [List.mem_filterMap]
  constructor
  · rintro ⟨⟨id, candidate⟩, hentry, hpropose⟩
    have hfound := mem_toList.mp hentry
    unfold propose at hpropose
    split at hpropose
    · cases hpropose
    rename_i hable
    simp only [not_or, not_not] at hable
    split at hpropose
    · cases hpropose
    rename_i capacity hceiling
    split at hpropose
    · cases hpropose
    rename_i hpositive
    dsimp only at hpropose
    split at hpropose
    · cases hpropose
    rename_i hnonempty
    cases hpropose
    exact ⟨candidate, capacity, hfound, hable.1, hable.2.1, hable.2.2, hceiling, Nat.pos_of_ne_zero hpositive, rfl,
      hnonempty, rfl⟩
  · rintro ⟨candidate, capacity, h⟩
    refine ⟨(proposal.hub, candidate), mem_toList.mpr h.found, ?_⟩
    have hable : ¬ (proposal.hub ∈ selected ∨ candidate.capabilities.can_host_pan ≠ some true ∨
        candidate.capabilities.usable ≠ some true) := by
      simp [h.fresh, h.can_host, h.usable]
    have hclients := h.clients
    have hnonempty := h.nonempty
    have hscore := h.score
    obtain ⟨hub, clients, score⟩ := proposal
    simp only at hclients hnonempty hscore hable
    subst hclients hscore
    simp only [propose, if_neg hable, h.ceiling, h.positive.ne', if_false, if_neg hnonempty]

theorem best_proposes (h : best inputs unserved selected = some proposal) :
    (∃ candidate capacity, Proposes inputs unserved selected candidate capacity proposal) ∧
      ∀ other candidate capacity, Proposes inputs unserved selected candidate capacity other →
        other.score ≤ proposal.score := by
  obtain ⟨hmem, hmax⟩ := strongest_eq_some h
  exact ⟨mem_proposals.mp hmem, fun other candidate capacity hother =>
    hmax other (mem_proposals.mpr ⟨candidate, capacity, hother⟩)⟩

theorem best_eq_none :
    best inputs unserved selected = none ↔
      ∀ proposal candidate capacity, ¬ Proposes inputs unserved selected candidate capacity proposal := by
  rw [best, strongest_eq_none, List.eq_nil_iff_forall_not_mem]
  simp only [mem_proposals, not_exists]

/-- The loop from the stars so far does what a greedy run does. -/
theorem greedy_of_exits {state final : SelectState} (h : Loop.Exits (select_hub inputs) state (.ok final)) :
    ∀ before, state = state_after inputs before →
      ∃ stars, Greedy inputs before stars ∧ final = state_after inputs (before ++ stars) := by
  refine h.backward ?_ ?_
  · rintro hbody before rfl
    simp only [select_hub] at hbody
    split at hbody
    · rename_i hbest
      exact ⟨[], .done hbest, by rw [List.append_nil]⟩
    · cases hbody
  · rintro state next hbody ih before rfl
    simp only [select_hub] at hbody
    split at hbody
    · cases hbody
    · rename_i proposal hbest
      cases hbody
      obtain ⟨stars, hgreedy, hfinal⟩ := ih (before ++ [proposal.star]) (assign_state_after inputs before _)
      refine ⟨proposal.star :: stars, .pick hbest hgreedy, ?_⟩
      rw [hfinal, List.append_assoc, List.singleton_append]

/-- The loop makes every greedy run. -/
theorem Greedy.exits (h : Greedy inputs before stars) :
    Loop.Exits (select_hub inputs) (state_after inputs before) (.ok (state_after inputs (before ++ stars))) := by
  induction h with
  | done hbest =>
    rw [List.append_nil]
    exact .stop (by simp only [select_hub, state_after, hbest])
  | @pick before rest proposal hbest hrest ih =>
    rw [List.append_assoc, List.singleton_append] at ih
    refine .next ?_ ih
    rw [← assign_state_after]
    simp only [select_hub, state_after, hbest]

/-- The candidates that the loop can still select. -/
def SelectState.rank (inputs : TopologyPolicyInputs) (state : SelectState) : Nat :=
  (inputs.candidates.keys.toFinset \ state.selected_hubs).card

theorem select_hub_rank {state next : SelectState} (h : select_hub inputs state = .ok (some next)) :
    next.rank inputs < state.rank inputs := by
  simp only [select_hub] at h
  split at h
  · cases h
  · rename_i proposal hbest
    cases h
    obtain ⟨⟨candidate, capacity, hproposes⟩, _⟩ := best_proposes hbest
    refine Finset.card_lt_card ⟨Finset.sdiff_subset_sdiff (Finset.Subset.refl _) (Finset.subset_insert _ _), ?_⟩
    intro hsubset
    have hknown : proposal.hub ∈ inputs.candidates.keys.toFinset := by
      rw [List.mem_toFinset, Std.ExtTreeMap.mem_keys]
      exact mem_iff_exists.mpr ⟨candidate, hproposes.found⟩
    have hnot := hsubset (Finset.mem_sdiff.mpr ⟨hknown, hproposes.fresh⟩)
    exact (Finset.mem_sdiff.mp hnot).2 (Finset.mem_insert_self _ _)

/-- The loop always returns, with the stars of a greedy run. -/
theorem exists_greedy (inputs : TopologyPolicyInputs) :
    ∃ stars, Greedy inputs [] stars ∧
      Loop.run (select_hub inputs) (inputs.candidates.size + 1) (state_after inputs []) =
        .ok (state_after inputs stars) := by
  have hrank : (state_after inputs []).rank inputs < inputs.candidates.size + 1 := by
    refine Nat.lt_succ_of_le (le_trans (Finset.card_le_card Finset.sdiff_subset) ?_)
    exact (List.toFinset_card_le _).trans (Std.ExtTreeMap.length_keys).le
  have hexits := Loop.run_exits (fun _ => True) (SelectState.rank inputs) (fun _ _ _ _ => trivial)
    (fun _ _ _ hbody => select_hub_rank hbody) (inputs.candidates.size + 1) (state_after inputs []) trivial hrank
  obtain ⟨final, hfinal⟩ := hexits.exists_ok (fun _ _ _ _ => trivial) (fun state e _ => by
    simp only [select_hub]
    split <;> simp) trivial
  rw [hfinal] at hexits
  obtain ⟨stars, hgreedy, hstate⟩ := greedy_of_exits hexits [] rfl
  rw [List.nil_append] at hstate
  exact ⟨stars, hgreedy, hstate ▸ hfinal⟩

/-- The selection of valid inputs is the outcome of the greedy run. -/
theorem select_nap_hubs_eq_ok_iff {selection : NapSelection} :
    select_nap_hubs inputs = .ok selection ↔ inputs.validate = .ok () ∧ Greedy inputs [] selection.stars ∧
      selection.unserved = remaining inputs selection.stars := by
  obtain ⟨stars, hgreedy, hrun⟩ := exists_greedy inputs
  simp only [select_nap_hubs, ← state_after_nil, hrun, bind_eq_ok_iff, Except.ok.injEq]
  constructor
  · rintro ⟨_, hvalid, _, rfl, rfl⟩
    exact ⟨hvalid, hgreedy, rfl⟩
  · rintro ⟨hvalid, hother, hunserved⟩
    cases hgreedy.unique hother
    refine ⟨(), hvalid, _, rfl, ?_⟩
    simp only [state_after]
    rw [← hunserved]

end blueroute.topology_policy
