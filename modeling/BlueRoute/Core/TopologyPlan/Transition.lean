import BlueRoute.Core.TopologyPlan.Diff

open Fallible Ordered

namespace blueroute.topology_plan

open topology_executor sample

variable {inputs : TopologyPolicyInputs} {target : Finset NapLink}

/-- The clean-up loop is the rest of a run whose target is already connected. -/
theorem follows_retire :
    ∀ (obsolete : List NapLink) (current : Finset NapLink), target \ current = ∅ →
      ascending (current \ target) = obsolete → Follows inputs target current (obsolete.map .Disconnect) := by
  intro obsolete
  induction obsolete with
  | nil =>
    intro current hconnected hobsolete
    exact .done (by simp [next_step, hconnected, hobsolete])
  | cons old rest ih =>
    intro current hconnected hobsolete
    have hmem : old ∈ current \ target := by
      rw [← mem_ascending, hobsolete]
      exact List.mem_cons_self
    have hrest : ascending (current.erase old \ target) = rest := by
      rw [Finset.erase_sdiff_comm]
      exact ascending_erase_head hobsolete
    have hstill : target \ current.erase old = ∅ := by
      rw [Finset.sdiff_eq_empty_iff_subset] at hconnected ⊢
      intro link hlink
      exact Finset.mem_erase.mpr ⟨fun heq => (Finset.mem_sdiff.mp hmem).2 (heq ▸ hlink), hconnected hlink⟩
    exact .step (by simp [next_step, hconnected, hobsolete]) (ih (current.erase old) hstill hrest)

/-- From any state of the loop, the steps that the plan still gains are a run
from the links of that state. -/
theorem exits_follows {state final : DiffState} (h : Loop.Exits (reconcile inputs target) state (.ok final))
    (hinv : Reconciling target state) :
    ∃ rest, (retire target final).steps = state.result.steps ++ rest ∧
      Follows inputs target state.current rest := by
  revert hinv
  refine h.backward ?_ ?_
  · intro hbody hinv
    have hconnected : target \ final.current = ∅ := hinv.pending ▸ reconcile_eq_none hbody
    exact ⟨_, rfl, follows_retire _ final.current hconnected rfl⟩
  · intro state next hbody ih hinv
    obtain ⟨rest, hsteps, hfollows⟩ := ih (hinv.step hbody)
    obtain ⟨step, hnext, rfl⟩ := reconcile_eq_some hinv.pending hbody
    refine ⟨step :: rest, ?_, .step hnext ?_⟩
    · rw [hsteps, advance_steps, List.append_assoc, List.singleton_append]
    · rw [← advance_current target state step]
      exact hfollows

/-- The clients that still have to be moved from a hub the target drops. -/
def Interrupted (current target : Finset NapLink) (client : NodeId) : Prop :=
  ∃ old ∈ current, old ∉ target ∧ old.client = client ∧ ∃ new ∈ target, new.client = client

theorem advance_interruptions {state : DiffState} {step : NapPlanStep}
    (h : Permitted inputs target state.current step) (client : NodeId) :
    client ∈ (state.advance target step).result.reconnect_interruptions ∨
        Interrupted (state.advance target step).current target client ↔
      client ∈ state.result.reconnect_interruptions ∨ Interrupted state.current target client := by
  cases step with
  | Connect link =>
    have hsame : Interrupted (insert link state.current) target client ↔
        Interrupted state.current target client := by
      constructor
      · rintro ⟨old, hold, hobsolete, hrest⟩
        rcases Finset.mem_insert.mp hold with rfl | hold
        · exact absurd h.1 hobsolete
        · exact ⟨old, hold, hobsolete, hrest⟩
      · rintro ⟨old, hold, hrest⟩
        exact ⟨old, Finset.mem_insert_of_mem hold, hrest⟩
    exact or_congr_right hsame
  | Disconnect old =>
    obtain ⟨hpresent, hobsolete⟩ := h
    have hsplit : Interrupted state.current target client ↔
        (old.client = client ∧ ∃ new ∈ target, new.client = client) ∨
          Interrupted (state.current.erase old) target client := by
      constructor
      · rintro ⟨other, hother, hrest⟩
        by_cases heq : other = old
        · exact .inl (heq ▸ hrest.2)
        · exact .inr ⟨other, Finset.mem_erase.mpr ⟨heq, hother⟩, hrest⟩
      · rintro (hold | ⟨other, hother, hrest⟩)
        · exact ⟨old, hpresent, hobsolete, hold⟩
        · exact ⟨other, Finset.mem_of_mem_erase hother, hrest⟩
    rw [hsplit]
    change client ∈ (if ∃ new ∈ target, new.client = old.client then
        insert old.client state.result.reconnect_interruptions else state.result.reconnect_interruptions) ∨
      Interrupted (state.current.erase old) target client ↔ _
    split
    · rename_i hmoves
      rw [Finset.mem_insert]
      constructor
      · rintro ((rfl | hin) | hrest)
        · exact .inr (.inl ⟨rfl, hmoves⟩)
        · exact .inl hin
        · exact .inr (.inr hrest)
      · rintro (hin | ⟨rfl, _⟩ | hrest)
        · exact .inl (.inr hin)
        · exact .inl (.inl rfl)
        · exact .inr hrest
    · rename_i hstays
      constructor
      · rintro (hin | hrest)
        · exact .inl hin
        · exact .inr (.inr hrest)
      · rintro (hin | ⟨rfl, hmoves⟩ | hrest)
        · exact .inl hin
        · exact absurd hmoves hstays
        · exact .inr hrest

/-- The reported interruptions are the clients that had to be moved. -/
theorem exits_interruptions {state final : DiffState} (h : Loop.Exits (reconcile inputs target) state (.ok final))
    (hinv : Reconciling target state) (client : NodeId) :
    client ∈ (retire target final).reconnect_interruptions ↔
      client ∈ state.result.reconnect_interruptions ∨ Interrupted state.current target client := by
  revert hinv
  refine h.backward ?_ ?_
  · intro hbody hinv
    have hconnected : target ⊆ final.current := by
      rw [← Finset.sdiff_eq_empty_iff_subset, ← hinv.pending]
      exact reconcile_eq_none hbody
    have hnone : ¬ Interrupted final.current target client := by
      rintro ⟨old, hold, hobsolete, hclient, new, hnew, hnewClient⟩
      exact hobsolete (hinv.single old hold new (hconnected hnew) (hclient.trans hnewClient.symm) ▸ hnew)
    simp [retire, hnone]
  · intro state next hbody ih hinv
    rw [ih (hinv.step hbody)]
    obtain ⟨step, hnext, rfl⟩ := reconcile_eq_some hinv.pending hbody
    exact advance_interruptions (next_step_permitted hnext) client

/-- Enough fuel: the loop exits normally from the links of two accepted plans. -/
theorem reconcile_exits {target current : Finset NapLink} (hfeasible : Feasible inputs target)
    (hsingle : SingleAttachment current) :
    ∃ final, Loop.Exits (reconcile inputs target) (initial current target) (.ok final) ∧
      Loop.run (reconcile inputs target) ((initial current target).rank target + 1) (initial current target) =
        .ok final := by
  have hinit : Reconciling target (initial current target) := ⟨rfl, hsingle⟩
  have hexits : Loop.Exits (reconcile inputs target) (initial current target) _ :=
    Loop.run_exits (Reconciling target) (DiffState.rank target) (fun _ _ hinv hbody => hinv.step hbody)
      (fun _ _ hinv hbody => hinv.rank_lt hbody) _ _ hinit (Nat.lt_succ_self _)
  obtain ⟨final, hfinal⟩ := hexits.exists_ok (fun _ _ hinv hbody => hinv.step hbody)
    (fun _ e hinv => reconcile_ne_error hfeasible hinv.pending e) hinit
  exact ⟨final, hfinal ▸ hexits, hfinal⟩

/-- What a successful diff is made of. -/
theorem diff_nap_topology_eq_ok_iff {active desired : NapSelection} {diff : NapPlanDiff} :
    diff_nap_topology inputs active desired = .ok diff ↔
      inputs.validate = .ok () ∧ WellShaped active ∧ WellShaped desired ∧ Desirable inputs desired ∧
        ∃ final, Loop.Exits (reconcile inputs (links desired)) (initial (links active) (links desired)) (.ok final) ∧
          diff = retire (links desired) final := by
  simp only [diff_nap_topology, bind_eq_ok_iff, link_set_active_eq_ok_iff, link_set_desired_eq_ok_iff, Except.ok.injEq]
  constructor
  · rintro ⟨_, hvalid, _, ⟨hactive, rfl⟩, _, ⟨hdesired, hdesirable, rfl⟩, final, hrun, rfl⟩
    obtain ⟨other, hexits, hother⟩ := reconcile_exits (hdesirable.feasible hdesired) hactive.links_single
    rw [hother, Except.ok.injEq] at hrun
    exact ⟨hvalid, hactive, hdesired, hdesirable, final, hrun ▸ hexits, rfl⟩
  · rintro ⟨hvalid, hactive, hdesired, hdesirable, final, hexits, rfl⟩
    obtain ⟨other, hother, hrun⟩ := reconcile_exits (hdesirable.feasible hdesired) hactive.links_single
    cases hexits.unique hother
    exact ⟨(), hvalid, _, ⟨hactive, rfl⟩, _, ⟨hdesired, hdesirable, rfl⟩, final, hrun, rfl⟩

theorem diff_nap_topology_follows {active desired : NapSelection} {diff : NapPlanDiff}
    (h : diff_nap_topology inputs active desired = .ok diff) :
    Follows inputs (links desired) (links active) diff.steps := by
  obtain ⟨_, hactive, _, _, final, hexits, rfl⟩ := diff_nap_topology_eq_ok_iff.mp h
  obtain ⟨rest, hsteps, hfollows⟩ := exits_follows hexits ⟨rfl, hactive.links_single⟩
  rw [hsteps]
  exact hfollows

/-- A plan from one set of links to another, read as a sequence of changes to
what is observed. -/
structure ExactTransition (inputs : TopologyPolicyInputs) (active desired : Finset NapLink)
    (diff : NapPlanDiff) : Prop where
  connect_absent : ∀ before link after, diff.steps = before ++ .Connect link :: after →
    link ∉ replay active before
  connect_below_ceiling : ∀ before link after, diff.steps = before ++ .Connect link :: after →
    occupied (replay active (before ++ [.Connect link])) link.hub ≤ capacity inputs link.hub
  disconnect_present : ∀ before link after, diff.steps = before ++ .Disconnect link :: after →
    link ∈ replay active before
  single : ∀ before after, diff.steps = before ++ after → SingleAttachment (replay active before)
  connects : ∀ link, diff.steps.count (.Connect link) = if link ∈ desired \ active then 1 else 0
  disconnects : ∀ link, diff.steps.count (.Disconnect link) = if link ∈ active \ desired then 1 else 0
  final : replay active diff.steps = desired
  interruptions : ∀ client, client ∈ diff.reconnect_interruptions ↔
    ∃ old ∈ active, ∃ new ∈ desired, old.client = client ∧ new.client = client ∧ old.hub ≠ new.hub

theorem occupied_insert_le (current : Finset NapLink) (link : NapLink) (hub : NodeId) :
    occupied (insert link current) hub ≤ occupied current hub + 1 := by
  unfold occupied
  rw [Finset.filter_insert]
  split
  · exact Finset.card_insert_le _ _
  · exact Nat.le_succ _

theorem interrupted_iff {current target : Finset NapLink} (hsingle : SingleAttachment target) (client : NodeId) :
    Interrupted current target client ↔
      ∃ old ∈ current, ∃ new ∈ target, old.client = client ∧ new.client = client ∧ old.hub ≠ new.hub := by
  constructor
  · rintro ⟨old, hold, hobsolete, hclient, new, hnew, hnewClient⟩
    refine ⟨old, hold, new, hnew, hclient, hnewClient, fun hhub => hobsolete ?_⟩
    have heq : old = new := by
      cases old
      cases new
      simp_all
    exact heq ▸ hnew
  · rintro ⟨old, hold, new, hnew, hclient, hnewClient, hhub⟩
    refine ⟨old, hold, fun hkept => hhub ?_, hclient, new, hnew, hnewClient⟩
    rw [hsingle old hkept new hnew (hclient.trans hnewClient.symm)]

/-- Every accepted pair of topologies has a plan, and the plan is exact: the
loop exits without its error, nothing is connected twice or retired while
absent, no client is ever on two hubs, no connect overfills a hub, and the
reported interruptions are the clients that change hubs. The active topology
may exceed capacities and mention unknown nodes. -/
theorem diff_nap_topology_exact {inputs : TopologyPolicyInputs} {active desired : NapSelection}
    {current target : Finset NapLink} (hvalid : inputs.validate = .ok ())
    (hactive : link_set active inputs false = .ok current)
    (hdesired : link_set desired inputs true = .ok target) :
    ∃ final diff, Loop.Exits (reconcile inputs (links desired)) (initial (links active) (links desired)) (.ok final) ∧
      diff = retire (links desired) final ∧ diff_nap_topology inputs active desired = .ok diff ∧
      ExactTransition inputs (links active) (links desired) diff := by
  obtain ⟨hactiveShape, rfl⟩ := link_set_active_eq_ok_iff.mp hactive
  obtain ⟨hdesiredShape, hdesirable, rfl⟩ := link_set_desired_eq_ok_iff.mp hdesired
  have hfeasible := hdesirable.feasible hdesiredShape
  obtain ⟨final, hexits, _⟩ := reconcile_exits hfeasible hactiveShape.links_single
  have hok : diff_nap_topology inputs active desired = .ok (retire (links desired) final) :=
    diff_nap_topology_eq_ok_iff.mpr ⟨hvalid, hactiveShape, hdesiredShape, hdesirable, final, hexits, rfl⟩
  have hfollows := diff_nap_topology_follows hok
  obtain ⟨hnodup, hsteps⟩ := hfollows.exact hfeasible
  refine ⟨final, _, hexits, rfl, hok, ?_⟩
  constructor
  · intro before link after hsteps
    exact (hsteps ▸ hfollows).permitted.2.1
  · intro before link after hsteps
    have hroom := (hsteps ▸ hfollows).permitted.2.2.2
    have hle := occupied_insert_le (replay (links active) before) link link.hub
    simp only [replay_append, replay_cons, replay_nil, NapPlanStep.apply]
    omega
  · intro before link after hsteps
    exact (hsteps ▸ hfollows).permitted.1
  · intro before after hsteps
    exact (hsteps ▸ hfollows).single hactiveShape.links_single
  · intro link
    simp only [hnodup.count, hsteps, Due, Finset.mem_sdiff]
  · intro link
    simp only [hnodup.count, hsteps, Due, Finset.mem_sdiff]
  · exact hfollows.replay_eq hfeasible
  · intro client
    rw [exits_interruptions hexits ⟨rfl, hactiveShape.links_single⟩, ← interrupted_iff hfeasible.single]
    simp [initial]

/-- Moving the only slot of a hub from one client to another. -/
theorem diff_nap_topology_exact_sample :
    ∃ final diff, Loop.Exits (reconcile (sample.inputs [1] [1, 2, 3]) (links (sample.selection [(1, [3])] [2])))
        (initial (links (selection [(1, [2])] [3])) (links (selection [(1, [3])] [2]))) (.ok final) ∧
      diff = retire (links (selection [(1, [3])] [2])) final ∧
      diff_nap_topology (sample.inputs [1] [1, 2, 3]) (sample.selection [(1, [2])] [3])
        (selection [(1, [3])] [2]) = .ok diff ∧
      ExactTransition (sample.inputs [1] [1, 2, 3]) (links (sample.selection [(1, [2])] [3]))
        (links (selection [(1, [3])] [2])) diff :=
  diff_nap_topology_exact (by decide)
    (by decide : link_set (selection [(1, [2])] [3]) _ false = .ok (links (selection [(1, [2])] [3])))
    (by decide : link_set (selection [(1, [3])] [2]) _ true = .ok (links (selection [(1, [3])] [2])))

end blueroute.topology_plan
