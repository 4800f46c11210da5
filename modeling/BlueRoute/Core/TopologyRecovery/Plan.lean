import BlueRoute.Core.TopologyPolicy.Selection
import BlueRoute.Core.TopologyRecovery.Survivors

open Fallible Ordered

namespace blueroute.topology_recovery

open topology_executor topology_plan topology_policy topology_recovery_flow TopologyPolicyInputs sample

/-- What `plan_hub_loss_recovery` asks of one observed link. -/
def Credible (inputs : TopologyPolicyInputs) (lost_hubs : Finset NodeId) (link : NapLink) : Prop :=
  link.hub ≠ link.client ∧ link.hub ∈ inputs.candidates ∧ link.client ∈ inputs.candidates ∧
    link.hub ∉ lost_hubs ∧ link.client ∉ lost_hubs

variable {inputs : TopologyPolicyInputs} {lost_hubs : Finset NodeId}

theorem observe_links_eq_ok_iff {links : List NapLink} {state final : Map NodeId (List NodeId) × Finset NodeId} :
    links.foldlM (observe_link inputs lost_hubs) state = .ok final ↔
      (∀ link ∈ links, Credible inputs lost_hubs link ∧ link.client ∉ state.2) ∧
        (links.map NapLink.client).Nodup ∧
        final = (links.foldl group_link state.1, state.2 ∪ (links.map NapLink.client).toFinset) := by
  induction links generalizing state with
  | nil =>
    obtain ⟨stars, attached⟩ := state
    simp [pure, Except.pure, eq_comm]
  | cons link rest ih =>
    rw [foldlM_cons_eq_ok_iff]
    simp only [observe_link, bind_eq_ok_iff, reject_if_eq_ok, Except.ok.injEq]
    constructor
    · rintro ⟨middle, ⟨_, hlink, rfl⟩, hrest⟩
      obtain ⟨hcredible, hnodup, rfl⟩ := ih.mp hrest
      simp only [not_or, not_not] at hlink
      have hfree : ∀ other ∈ rest, link.client ≠ other.client ∧ other.client ∉ state.2 := by
        intro other hother
        have hout := (hcredible other hother).2
        simp only [Finset.mem_insert, not_or] at hout
        exact ⟨Ne.symm hout.1, hout.2⟩
      refine ⟨?_, ?_, ?_⟩
      · intro other hother
        obtain rfl | hother := List.mem_cons.mp hother
        · exact ⟨⟨hlink.1, hlink.2.1, hlink.2.2.1, hlink.2.2.2.1, hlink.2.2.2.2.1⟩, hlink.2.2.2.2.2⟩
        · exact ⟨(hcredible other hother).1, (hfree other hother).2⟩
      · rw [List.map_cons, List.nodup_cons]
        refine ⟨fun hin => ?_, hnodup⟩
        obtain ⟨other, hother, heq⟩ := List.mem_map.mp hin
        exact (hfree other hother).1 heq.symm
      · simp [Finset.insert_union, Finset.union_insert]
    · rintro ⟨hcredible, hnodup, rfl⟩
      rw [List.map_cons, List.nodup_cons] at hnodup
      obtain ⟨⟨hne, hhub, hclient, hhubKept, hclientKept⟩, hfree⟩ := hcredible link List.mem_cons_self
      refine ⟨(group_link state.1 link, insert link.client state.2), ⟨(), ?_, rfl⟩, ih.mpr ⟨?_, hnodup.2, ?_⟩⟩
      · simp [hne, hhub, hclient, hhubKept, hclientKept, hfree]
      · intro other hother
        obtain ⟨hother', hout⟩ := hcredible other (List.mem_cons_of_mem _ hother)
        refine ⟨hother', ?_⟩
        rw [Finset.mem_insert, not_or]
        exact ⟨fun heq => hnodup.1 (List.mem_map.mpr ⟨other, hother, heq⟩), hout⟩
      · simp [Finset.insert_union, Finset.union_insert]

/-- The observation is one that recovery accepts. -/
def Consistent (inputs : TopologyPolicyInputs) (lost_hubs : Finset NodeId) (observed_links : Finset NapLink) : Prop :=
  (∀ link ∈ observed_links, Credible inputs lost_hubs link) ∧ SingleAttachment observed_links

variable {observed_links : Finset NapLink}

theorem nodup_clients_iff :
    ((ascending observed_links).map NapLink.client).Nodup ↔ SingleAttachment observed_links := by
  constructor
  · intro hnodup left hleft right hright heq
    exact List.inj_on_of_nodup_map hnodup (mem_ascending.mpr hleft) (mem_ascending.mpr hright) heq
  · intro hsingle
    refine List.Nodup.map_on ?_ (ascending_nodup observed_links)
    intro left hleft right hright heq
    exact hsingle left (mem_ascending.mp hleft) right (mem_ascending.mp hright) heq

variable {stars : List NapAssignment}

/-- The topology of stars among the survivors, with the lost nodes unserved. -/
abbrev recovered (inputs : TopologyPolicyInputs) (observed_links : Finset NapLink) (lost_hubs : Finset NodeId)
    (stars : List NapAssignment) : NapSelection where
  stars
  unserved := remaining (available inputs observed_links lost_hubs) stars ∪ lost_hubs

section Survivors

variable (h : Greedy (available inputs observed_links lost_hubs) [] stars)

include h

/-- A star of a selection among the survivors, seen from all candidates. -/
theorem star_capable {star : NapAssignment} (hstar : star ∈ stars) :
    ∃ hub capacity, Capable inputs star hub capacity := by
  obtain ⟨_, capacity, hcapable⟩ := h.capable hstar
  obtain ⟨_, original, horiginal, rfl⟩ := available_found hcapable.found
  refine ⟨original, capacity, horiginal, hcapable.can_host, hcapable.usable, hcapable.ceiling, hcapable.nonempty,
    hcapable.bounded, fun client hclient => ?_⟩
  obtain ⟨_, hfound, hjoin, husable, hneighbor, hreverse⟩ := hcapable.clients client hclient
  obtain ⟨_, peer, hpeer, rfl⟩ := available_found hfound
  exact ⟨peer, hpeer, hjoin, husable, (mem_survivor_neighbors.mp hneighbor).1, (mem_survivor_neighbors.mp hreverse).1⟩

/-- The nodes of such a star are known and none is lost. -/
theorem taken_survives {node : NodeId} (hnode : node ∈ taken stars) : node ∈ inputs.candidates ∧ node ∉ lost_hubs :=
  mem_available.mp (h.taken_known hnode)

theorem star_credible (hvalid : inputs.validate = .ok ()) {star : NapAssignment} (hstar : star ∈ stars)
    {client : NodeId} (hclient : client ∈ star.clients) : Credible inputs lost_hubs { hub := star.hub, client } := by
  obtain ⟨_, _, hcapable⟩ := star_capable h hstar
  obtain ⟨hhub, hhubKept⟩ := taken_survives h (mem_taken.mpr ⟨star, hstar, .inl rfl⟩)
  obtain ⟨hknown, hkept⟩ := taken_survives h (mem_taken.mpr ⟨star, hstar, .inr hclient⟩)
  refine ⟨?_, hhub, hknown, hhubKept, hkept⟩
  intro (hself : star.hub = client)
  exact hcapable.client_ne hvalid (hself ▸ hclient)

/-- A selection among the survivors is a desired topology of all candidates,
with the lost nodes unserved. -/
theorem selection_accepted (hvalid : inputs.validate = .ok ()) (hlost : lost_hubs ⊆ known inputs) :
    WellShaped (recovered inputs observed_links lost_hubs stars) ∧
      Desirable inputs (recovered inputs observed_links lost_hubs stars) := by
  refine ⟨⟨h.hubs_nodup.1, fun star hin => ?_, fun star hin => ?_, h.clients_nodup.1⟩, fun star hin => ?_,
    fun star hin => ?_, ?_, ?_⟩
  · obtain ⟨_, _, hcapable⟩ := star_capable h hin
    exact hcapable.nonempty
  · obtain ⟨_, _, hcapable⟩ := star_capable h hin
    exact hcapable.client_ne hvalid
  · obtain ⟨_, _, hcapable⟩ := star_capable h hin
    exact hcapable.accepted.1
  · obtain ⟨_, _, hcapable⟩ := star_capable h hin
    exact hcapable.accepted.2
  · rw [Finset.disjoint_left]
    intro node hnode hserved
    obtain hleft | hlostNode := Finset.mem_union.mp hnode
    · exact (mem_remaining.mp hleft).2 hserved
    · exact (taken_survives h hserved).2 hlostNode
  · have hserved : served (recovered inputs observed_links lost_hubs stars) = taken stars := rfl
    have hcover : taken stars ∪ remaining (available inputs observed_links lost_hubs) stars =
        known (available inputs observed_links lost_hubs) := h.desirable.partition
    rw [hserved, ← Finset.union_assoc, hcover]
    exact known_available hlost

/-- The links of a selection among the survivors are an acceptable observation. -/
theorem selection_consistent (hvalid : inputs.validate = .ok ()) (hlost : lost_hubs ⊆ known inputs) :
    Consistent inputs lost_hubs (links { stars, unserved := ∅ }) := by
  refine ⟨?_, (selection_accepted h hvalid hlost).1.links_single⟩
  intro link hlink
  obtain ⟨star, hstar, hhub, hclient⟩ := mem_links.mp hlink
  have hcredible := star_credible h hvalid hstar hclient
  rwa [hhub] at hcredible

end Survivors

/-- What a successful recovery plan is made of. -/
theorem plan_hub_loss_recovery_eq_ok_iff {plan : HubLossRecoveryPlan} :
    plan_hub_loss_recovery inputs observed_links lost_hubs = .ok plan ↔
      inputs.validate = .ok () ∧ lost_hubs ≠ ∅ ∧ lost_hubs ⊆ known inputs ∧
        Consistent inputs lost_hubs observed_links ∧
        ∃ stars transition, Greedy (available inputs observed_links lost_hubs) [] stars ∧
          diff_nap_topology inputs (observed_selection observed_links)
            (recovered inputs observed_links lost_hubs stars) = .ok transition ∧
          plan = { desired := recovered inputs observed_links lost_hubs stars
                   transition
                   unavailable := (recovered inputs observed_links lost_hubs stars).unserved } := by
  simp only [plan_hub_loss_recovery, bind_eq_ok_iff, reject_if_eq_ok, not_or, not_not, Except.ok.injEq,
    select_nap_hubs_eq_ok_iff, observe_links_eq_ok_iff, nodup_clients_iff, mem_ascending, Finset.notMem_empty,
    not_false_eq_true, and_true]
  constructor
  · rintro ⟨_, hvalid, _, ⟨hnonempty, hlost⟩, _, ⟨hcredible, hsingle, rfl⟩, selection, ⟨_, hgreedy, hunserved⟩,
      transition, hdiff, rfl⟩
    rw [hunserved] at hdiff ⊢
    exact ⟨hvalid, hnonempty, hlost, ⟨hcredible, hsingle⟩, selection.stars, transition, hgreedy, hdiff, rfl⟩
  · rintro ⟨hvalid, hnonempty, hlost, ⟨hcredible, hsingle⟩, stars, transition, hgreedy, hdiff, rfl⟩
    exact ⟨(), hvalid, (), ⟨hnonempty, hlost⟩, _, ⟨hcredible, hsingle, rfl⟩,
      { stars, unserved := remaining (available inputs observed_links lost_hubs) stars },
      ⟨available_validate hvalid, hgreedy, rfl⟩, transition, hdiff, rfl⟩

/-- Every acceptable loss has a plan. -/
theorem exists_plan (hvalid : inputs.validate = .ok ()) (hnonempty : lost_hubs ≠ ∅) (hlost : lost_hubs ⊆ known inputs)
    (hconsistent : Consistent inputs lost_hubs observed_links) :
    ∃ plan, plan_hub_loss_recovery inputs observed_links lost_hubs = .ok plan := by
  obtain ⟨stars, hgreedy, _⟩ := exists_greedy (available inputs observed_links lost_hubs)
  obtain ⟨hshape, hdesirable⟩ := selection_accepted hgreedy hvalid hlost
  have hactive := observed_selection_wellShaped hconsistent.2 fun link hlink => (hconsistent.1 link hlink).1
  obtain ⟨final, hexits, _⟩ := reconcile_exits (hdesirable.feasible hshape) hactive.links_single
  have hdiff := diff_nap_topology_eq_ok_iff.mpr ⟨hvalid, hactive, hshape, hdesirable, final, hexits, rfl⟩
  exact ⟨_, plan_hub_loss_recovery_eq_ok_iff.mpr ⟨hvalid, hnonempty, hlost, hconsistent, stars, _, hgreedy, hdiff, rfl⟩⟩

/-- The link that a step connects or disconnects. -/
def step_link : NapPlanStep → NapLink
  | .Connect link => link
  | .Disconnect link => link

/-- What a recovery plan guarantees: the lost nodes take no part in it, every
candidate is either in a star or unavailable, and the steps lead from the
observed links to the desired ones without touching what both have. -/
structure Recovers (inputs : TopologyPolicyInputs) (observed_links : Finset NapLink) (lost_hubs : Finset NodeId)
    (plan : HubLossRecoveryPlan) : Prop where
  stars_survive : ∀ star ∈ plan.desired.stars, star.hub ∉ lost_hubs ∧ ∀ client ∈ star.clients, client ∉ lost_hubs
  steps_survive : ∀ step ∈ plan.transition.steps,
    (step_link step).hub ∉ lost_hubs ∧ (step_link step).client ∉ lost_hubs
  lost_unavailable : lost_hubs ⊆ plan.unavailable
  partition : ∀ node, node ∈ inputs.candidates ↔ node ∈ plan.unavailable ∨ node ∈ served plan.desired
  disjoint : ∀ node, node ∈ plan.unavailable → node ∉ served plan.desired
  kept : ∀ link ∈ observed_links, link ∈ links plan.desired → .Disconnect link ∉ plan.transition.steps
  final : replay observed_links plan.transition.steps = links plan.desired

theorem plan_recovers {plan : HubLossRecoveryPlan}
    (h : plan_hub_loss_recovery inputs observed_links lost_hubs = .ok plan) :
    Recovers inputs observed_links lost_hubs plan := by
  obtain ⟨hvalid, _, hlost, hconsistent, stars, transition, hgreedy, hdiff, rfl⟩ :=
    plan_hub_loss_recovery_eq_ok_iff.mp h
  obtain ⟨hshape, hdesirable⟩ := selection_accepted hgreedy hvalid hlost
  have hfeasible := hdesirable.feasible hshape
  have hfollows := diff_nap_topology_follows hdiff
  rw [links_observed_selection] at hfollows
  have hdue := (hfollows.exact hfeasible).2
  refine ⟨fun star hstar => ⟨?_, fun client hclient => ?_⟩, fun step hstep => ?_, Finset.subset_union_right,
    fun node => ?_, fun node hnode => ?_, fun link hobserved hdesired hstep => ?_, hfollows.replay_eq hfeasible⟩
  · exact (taken_survives hgreedy (mem_taken.mpr ⟨star, hstar, .inl rfl⟩)).2
  · exact (taken_survives hgreedy (mem_taken.mpr ⟨star, hstar, .inr hclient⟩)).2
  · have hdue := (hdue step).mp hstep
    cases step with
    | Connect link => exact ((selection_consistent hgreedy hvalid hlost).1 link hdue.1).2.2.2
    | Disconnect link => exact (hconsistent.1 link hdue.1).2.2.2
  · have hknown : node ∈ inputs.candidates ↔ node ∈ known inputs := by simp [known]
    rw [hknown, ← hdesirable.partition, Finset.mem_union, or_comm]
  · exact Finset.disjoint_left.mp hdesirable.unserved_disjoint hnode
  · exact ((hdue _).mp hstep).2 hdesired

/-- Among valid inputs, the losses and observations that have a plan are the
non-empty sets of known nodes with links between other known nodes, each client
on one hub; every plan keeps clear of the lost nodes and of the links that stay. -/
theorem plan_hub_loss_recovery_recovers {inputs : TopologyPolicyInputs} (hvalid : inputs.validate = .ok ())
    (observed_links : Finset NapLink) (lost_hubs : Finset NodeId) :
    ((∃ plan, plan_hub_loss_recovery inputs observed_links lost_hubs = .ok plan) ↔
      lost_hubs ≠ ∅ ∧ (∀ node ∈ lost_hubs, node ∈ inputs.candidates) ∧
        (∀ link ∈ observed_links, link.hub ≠ link.client ∧ link.hub ∈ inputs.candidates ∧
          link.client ∈ inputs.candidates ∧ link.hub ∉ lost_hubs ∧ link.client ∉ lost_hubs) ∧
        ∀ left ∈ observed_links, ∀ right ∈ observed_links, left.client = right.client → left = right) ∧
      ∀ plan, plan_hub_loss_recovery inputs observed_links lost_hubs = .ok plan →
        Recovers inputs observed_links lost_hubs plan := by
  have hknown : lost_hubs ⊆ known inputs ↔ ∀ node ∈ lost_hubs, node ∈ inputs.candidates := by
    simp [Finset.subset_iff, known]
  refine ⟨⟨?_, ?_⟩, fun plan hplan => plan_recovers hplan⟩
  · rintro ⟨plan, hplan⟩
    obtain ⟨-, hnonempty, hlost, ⟨hcredible, hsingle⟩, -⟩ := plan_hub_loss_recovery_eq_ok_iff.mp hplan
    exact ⟨hnonempty, hknown.mp hlost, hcredible, hsingle⟩
  · rintro ⟨hnonempty, hlost, hcredible, hsingle⟩
    exact exists_plan hvalid hnonempty (hknown.mpr hlost) ⟨hcredible, hsingle⟩

/-- Two hubs with one slot each swap their clients. -/
def sample_swap : HubLossRecoveryPlan where
  desired := selection [(1, [3]), (2, [4])] [5]
  transition :=
    { steps :=
        [.Disconnect ⟨node 2, node 3⟩, .Disconnect ⟨node 1, node 4⟩,
          .Connect ⟨node 1, node 3⟩, .Connect ⟨node 2, node 4⟩]
      reconnect_interruptions := { node 4, node 3 } }
  unavailable := { node 5 }

theorem plan_hub_loss_recovery_recovers_sample :
    let observed := { ⟨node 2, node 3⟩, ⟨node 1, node 4⟩ }
    plan_hub_loss_recovery (sample.inputs [1, 2] [1, 2, 3, 4, 5]) observed { sample.node 5 } = .ok sample_swap ∧
      Recovers (sample.inputs [1, 2] [1, 2, 3, 4, 5]) observed { sample.node 5 } sample_swap := by
  intro observed
  obtain ⟨hplans, hrecovers⟩ := plan_hub_loss_recovery_recovers
    (by decide +kernel : (inputs [1, 2] [1, 2, 3, 4, 5]).validate = .ok ()) observed { node 5 }
  obtain ⟨plan, hplan⟩ := hplans.mpr (by decide +kernel)
  obtain rfl : sample_swap = plan := Except.ok.inj (.trans (by decide +kernel) hplan)
  exact ⟨hplan, hrecovers _ hplan⟩

end blueroute.topology_recovery
