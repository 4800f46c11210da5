import BlueRoute.Core.TopologyPlan.Transition

open Fallible Ordered

namespace blueroute.topology_recovery_flow

open topology_plan topology_executor

/-- One iteration of the grouping loop: append the client to its hub's star. -/
def group_link (stars : Map NodeId (List NodeId)) (link : NapLink) : Map NodeId (List NodeId) :=
  stars.alter link.hub fun clients => some (clients.getD [] ++ [link.client])

def observed_selection (observed : Finset NapLink) : NapSelection where
  stars := ((ascending observed).foldl group_link ∅).toList.map fun entry => { hub := entry.1, clients := entry.2 }
  unserved := ∅

/-- The clients of a hub in the order in which their links are met. -/
def clients_of (links : List NapLink) (hub : NodeId) : List NodeId :=
  (links.filter fun link => link.hub = hub).map NapLink.client

theorem mem_clients_of {links : List NapLink} {hub client : NodeId} :
    client ∈ clients_of links hub ↔ { hub, client } ∈ links := by
  rw [clients_of, List.mem_map]
  constructor
  · rintro ⟨link, hlink, rfl⟩
    obtain ⟨hmem, hhub⟩ := List.mem_filter.mp hlink
    rw [decide_eq_true_eq] at hhub
    subst hhub
    exact hmem
  · intro hmem
    exact ⟨_, List.mem_filter.mpr ⟨hmem, by simp⟩, rfl⟩

/-- Grouping appends, for every hub, its clients in order. -/
theorem group_links_getElem? (links : List NapLink) (stars : Map NodeId (List NodeId)) (hub : NodeId) :
    (links.foldl group_link stars)[hub]? =
      if clients_of links hub = [] then stars[hub]? else some (stars[hub]?.getD [] ++ clients_of links hub) := by
  induction links generalizing stars with
  | nil => simp [clients_of]
  | cons link rest ih =>
    rw [List.foldl_cons, ih]
    by_cases hhub : link.hub = hub
    · have hcons : clients_of (link :: rest) hub = link.client :: clients_of rest hub := by
        simp [clients_of, hhub]
      have hget : (group_link stars link)[hub]? = some (stars[hub]?.getD [] ++ [link.client]) := by
        simp [group_link, hhub]
      rw [hcons, hget]
      split
      · rename_i hnil
        simp [hnil]
      · simp
    · have hcons : clients_of (link :: rest) hub = clients_of rest hub := by simp [clients_of, hhub]
      have hget : (group_link stars link)[hub]? = stars[hub]? := by
        simp [group_link, Std.ExtTreeMap.getElem?_alter, hhub]
      rw [hcons, hget]

variable {observed : Finset NapLink}

/-- The stars of an observation are the non-empty groups of its links by hub. -/
theorem mem_observed_stars {star : NapAssignment} :
    star ∈ (observed_selection observed).stars ↔
      star.clients = clients_of (ascending observed) star.hub ∧ star.clients ≠ [] := by
  obtain ⟨hub, clients⟩ := star
  have hentry : ({ hub, clients } : NapAssignment) ∈ (observed_selection observed).stars ↔
      (hub, clients) ∈ ((ascending observed).foldl group_link ∅).toList := by
    simp [observed_selection]
  rw [hentry, mem_toList, group_links_getElem?]
  by_cases hnone : clients_of (ascending observed) hub = []
  · simp only [hnone, if_true, Std.ExtTreeMap.getElem?_empty]
    constructor
    · intro h
      cases h
    · rintro ⟨hnil, hne⟩
      exact absurd hnil hne
  · simp only [hnone, if_false, Std.ExtTreeMap.getElem?_empty, Option.getD_none, List.nil_append,
      Option.some.injEq]
    constructor
    · rintro rfl
      exact ⟨rfl, hnone⟩
    · rintro ⟨heq, _⟩
      exact heq.symm

theorem links_observed_selection (observed : Finset NapLink) : links (observed_selection observed) = observed := by
  ext link
  rw [mem_links]
  constructor
  · rintro ⟨star, hstar, hhub, hclient⟩
    obtain ⟨hclients, _⟩ := mem_observed_stars.mp hstar
    rw [hclients, mem_clients_of, mem_ascending, hhub] at hclient
    exact hclient
  · intro hlink
    have hclient : link.client ∈ clients_of (ascending observed) link.hub :=
      mem_clients_of.mpr (mem_ascending.mpr hlink)
    refine ⟨{ hub := link.hub, clients := _ }, mem_observed_stars.mpr ⟨rfl, ?_⟩, rfl, hclient⟩
    exact List.ne_nil_of_mem hclient

theorem clients_of_nodup (hsingle : SingleAttachment observed) (hub : NodeId) :
    (clients_of (ascending observed) hub).Nodup := by
  refine List.Nodup.map_on ?_ ((ascending_nodup observed).filter _)
  intro left hleft right hright heq
  exact hsingle left (mem_ascending.mp (List.mem_of_mem_filter hleft)) right
    (mem_ascending.mp (List.mem_of_mem_filter hright)) heq

/-- Regrouping links without self links or double attachments gives a topology
that the planner accepts as observed. -/
theorem observed_selection_wellShaped (hsingle : SingleAttachment observed)
    (hself : ∀ link ∈ observed, link.hub ≠ link.client) : WellShaped (observed_selection observed) := by
  constructor
  · have hkeys : (observed_selection observed).stars.map NapAssignment.hub =
        ((ascending observed).foldl group_link ∅).keys := by
      simp [observed_selection, Function.comp_def, ← Std.ExtTreeMap.map_fst_toList_eq_keys]
    rw [hkeys]
    exact Std.ExtTreeMap.nodup_keys
  · intro star hstar
    exact (mem_observed_stars.mp hstar).2
  · intro star hstar hmem
    rw [(mem_observed_stars.mp hstar).1, mem_clients_of, mem_ascending] at hmem
    exact hself _ hmem rfl
  · rw [List.nodup_flatMap]
    refine ⟨?_, ?_⟩
    · intro star hstar
      rw [(mem_observed_stars.mp hstar).1]
      exact clients_of_nodup hsingle star.hub
    · have hordered : (observed_selection observed).stars.Pairwise fun left right => left.hub ≠ right.hub := by
        rw [observed_selection, List.pairwise_map]
        refine Std.ExtTreeMap.distinct_keys_toList.imp ?_
        intro left right hne heq
        exact hne (Std.LawfulEqCmp.compare_eq_iff_eq.mpr heq)
      refine hordered.imp_of_mem ?_
      intro left right hleft hright hne client hclientLeft hclientRight
      rw [(mem_observed_stars.mp hleft).1, mem_clients_of, mem_ascending] at hclientLeft
      rw [(mem_observed_stars.mp hright).1, mem_clients_of, mem_ascending] at hclientRight
      exact hne (congrArg NapLink.hub (hsingle _ hclientLeft _ hclientRight rfl))

end blueroute.topology_recovery_flow

namespace blueroute.topology_plan

open topology_recovery_flow topology_executor

/-- Links along a run come from where it started or from its target. -/
theorem Follows.replay_subset {inputs : TopologyPolicyInputs} {target current : Finset NapLink}
    {before after : List NapPlanStep} (h : Follows inputs target current (before ++ after)) :
    replay current before ⊆ current ∪ target := by
  induction before generalizing current with
  | nil => exact Finset.subset_union_left
  | cons step rest ih =>
    cases h with
    | step hnext hrest =>
      refine (ih hrest).trans (Finset.union_subset ?_ Finset.subset_union_right)
      have hpermitted := next_step_permitted hnext
      cases step with
      | Connect link =>
        exact Finset.insert_subset (Finset.mem_union_right current hpermitted.1) Finset.subset_union_left
      | Disconnect link => exact (Finset.erase_subset link current).trans Finset.subset_union_left

/-- Replanning after any interruption resumes the same plan: the links reached
after the first `k` steps, regrouped by hub, are accepted again and lead to
exactly the steps that were left. -/
theorem diff_nap_topology_resumes {inputs : TopologyPolicyInputs} {active desired : NapSelection}
    {diff : NapPlanDiff} (h : diff_nap_topology inputs active desired = .ok diff) (k : Nat) :
    ∃ resumed, diff_nap_topology inputs (observed_selection (replay (links active) (diff.steps.take k))) desired =
        .ok resumed ∧ resumed.steps = diff.steps.drop k := by
  have hfollows := diff_nap_topology_follows h
  rw [← List.take_append_drop k diff.steps] at hfollows
  obtain ⟨hvalid, hactive, hdesired, hdesirable, _⟩ := diff_nap_topology_eq_ok_iff.mp h
  have hsingle := hfollows.single hactive.links_single
  have hself : ∀ link ∈ replay (links active) (diff.steps.take k), link.hub ≠ link.client := by
    intro link hlink
    rcases Finset.mem_union.mp (hfollows.replay_subset hlink) with hold | hnew
    · exact hactive.links_no_self hold
    · exact hdesired.links_no_self hnew
  have hshape := observed_selection_wellShaped hsingle hself
  obtain ⟨final, hexits, _⟩ := reconcile_exits (hdesirable.feasible hdesired) hshape.links_single
  have hresumed := diff_nap_topology_eq_ok_iff.mpr
    ⟨hvalid, hshape, hdesired, hdesirable, final, hexits, rfl⟩
  refine ⟨_, hresumed, ?_⟩
  have hagain := diff_nap_topology_follows hresumed
  rw [links_observed_selection] at hagain
  exact hagain.unique hfollows.resume

/-- The slot was freed and the executor stopped: what is left is the connect. -/
theorem diff_nap_topology_resumes_sample :
    ∃ resumed, diff_nap_topology (sample.inputs [1] [1, 2, 3])
        (observed_selection (replay (links (sample.selection [(1, [2])] [3]))
          ([.Disconnect ⟨sample.node 1, sample.node 2⟩, .Connect ⟨sample.node 1, sample.node 3⟩].take 1)))
        (sample.selection [(1, [3])] [2]) = .ok resumed ∧
      resumed.steps =
        [.Disconnect ⟨sample.node 1, sample.node 2⟩, .Connect ⟨sample.node 1, sample.node 3⟩].drop 1 :=
  diff_nap_topology_resumes
    (by decide : diff_nap_topology _ _ _ = .ok
      ⟨[.Disconnect ⟨sample.node 1, sample.node 2⟩, .Connect ⟨sample.node 1, sample.node 3⟩], ∅⟩) 1

end blueroute.topology_plan
