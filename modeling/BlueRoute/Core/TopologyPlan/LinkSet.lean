import BlueRoute.Core.TopologyPlan.Model

open Fallible Ordered

namespace blueroute.topology_executor

def links (plan : NapSelection) : Finset NapLink :=
  (plan.stars.flatMap fun star => star.clients.map fun client => { hub := star.hub, client }).toFinset

theorem mem_links {plan : NapSelection} {link : NapLink} :
    link ∈ links plan ↔ ∃ star ∈ plan.stars, star.hub = link.hub ∧ link.client ∈ star.clients := by
  rw [links, List.mem_toFinset, List.mem_flatMap]
  constructor
  · rintro ⟨star, hstar, hlink⟩
    obtain ⟨client, hclient, rfl⟩ := List.mem_map.mp hlink
    exact ⟨star, hstar, rfl, hclient⟩
  · rintro ⟨star, hstar, hhub, hclient⟩
    exact ⟨star, hstar, List.mem_map.mpr ⟨link.client, hclient, by rw [hhub]⟩⟩

end blueroute.topology_executor

namespace blueroute.topology_plan

open topology_executor

/-- The state after a client has passed every check of its star. -/
def LinkSetState.assign (hub : NodeId) (state : LinkSetState) (client : NodeId) : LinkSetState :=
  { state with
    client_hubs := state.client_hubs.insert client hub
    served := insert client state.served
    links := insert { hub, client } state.links }

/-- The state after a whole star has passed its checks. -/
def LinkSetState.assign_star (state : LinkSetState) (star : NapAssignment) : LinkSetState :=
  star.clients.foldl (LinkSetState.assign star.hub)
    { state with hubs := insert star.hub state.hubs, served := insert star.hub state.served }

theorem assign_clients_spec (hub : NodeId) (clients : List NodeId) (state : LinkSetState) :
    let final := clients.foldl (LinkSetState.assign hub) state
    final.hubs = state.hubs ∧ final.served = state.served ∪ clients.toFinset ∧
      final.links = state.links ∪ (clients.map fun client => ({ hub, client } : NapLink)).toFinset ∧
      ∀ client, client ∈ final.client_hubs ↔ client ∈ state.client_hubs ∨ client ∈ clients := by
  induction clients generalizing state with
  | nil => simp
  | cons client rest ih =>
    obtain ⟨hhubs, hserved, hlinks, hassigned⟩ := ih (state.assign hub client)
    refine ⟨hhubs, ?_, ?_, ?_⟩
    · rw [List.foldl_cons, hserved]
      ext node
      simp only [LinkSetState.assign, Finset.mem_union, Finset.mem_insert, List.mem_toFinset, List.mem_cons]
      tauto
    · rw [List.foldl_cons, hlinks]
      ext link
      simp only [LinkSetState.assign, Finset.mem_union, Finset.mem_insert, List.mem_toFinset, List.map_cons,
        List.mem_cons]
      tauto
    · intro other
      rw [List.foldl_cons, hassigned other]
      simp only [LinkSetState.assign, Std.ExtTreeMap.mem_insert, Std.LawfulEqCmp.compare_eq_iff_eq, List.mem_cons]
      rw [eq_comm]
      tauto

variable {inputs : TopologyPolicyInputs}

variable {desired : Bool} {plan : NapSelection} {result : Finset NapLink}

theorem link_set_client_eq_ok_iff {hub client : NodeId} {state next : LinkSetState} :
    link_set_client inputs desired hub state client = .ok next ↔
      client ≠ hub ∧ client ∉ state.client_hubs ∧
        (desired = true → check_desired_client inputs hub client = .ok ()) ∧ next = state.assign hub client := by
  simp only [link_set_client, bind_eq_ok_iff, reject_if_eq_ok, not_or, check_when_eq_ok, Except.ok.injEq]
  constructor
  · rintro ⟨_, ⟨hne, hfree⟩, _, hcheck, rfl⟩
    exact ⟨hne, hfree, hcheck, rfl⟩
  · rintro ⟨hne, hfree, hcheck, rfl⟩
    exact ⟨(), ⟨hne, hfree⟩, (), hcheck, rfl⟩

/-- The client loop accepts exactly the distinct, unassigned clients other than
the hub itself whose desired-only checks pass. -/
theorem link_set_clients_eq_ok_iff {hub : NodeId} {clients : List NodeId} {state final : LinkSetState} :
    clients.foldlM (link_set_client inputs desired hub) state = .ok final ↔
      hub ∉ clients ∧ clients.Nodup ∧ (∀ client ∈ clients, client ∉ state.client_hubs) ∧
        (desired = true → ∀ client ∈ clients, check_desired_client inputs hub client = .ok ()) ∧
        final = clients.foldl (LinkSetState.assign hub) state := by
  induction clients generalizing state with
  | nil => simp [pure, Except.pure, eq_comm]
  | cons client rest ih =>
    rw [foldlM_cons_eq_ok_iff]
    have hfresh (other : NodeId) :
        other ∉ (state.assign hub client).client_hubs ↔ other ≠ client ∧ other ∉ state.client_hubs := by
      have h := (assign_clients_spec hub [client] state).2.2.2 other
      simp only [List.foldl_cons, List.foldl_nil, List.mem_singleton] at h
      rw [h]
      tauto
    simp only [link_set_client_eq_ok_iff, List.mem_cons, not_or, List.nodup_cons, forall_eq_or_imp, List.foldl_cons]
    constructor
    · rintro ⟨middle, ⟨hne, hfree, hcheck, rfl⟩, hrest⟩
      obtain ⟨hhub, hnodup, hclients, hchecks, rfl⟩ := ih.mp hrest
      refine ⟨⟨Ne.symm hne, hhub⟩, ⟨?_, hnodup⟩, ⟨hfree, ?_⟩, fun h => ⟨hcheck h, hchecks h⟩, rfl⟩
      · intro hmem
        exact ((hfresh client).mp (hclients client hmem)).1 rfl
      · intro other hother
        exact ((hfresh other).mp (hclients other hother)).2
    · rintro ⟨⟨hne, hhub⟩, ⟨hnotin, hnodup⟩, ⟨hfree, hclients⟩, hchecks, rfl⟩
      refine ⟨state.assign hub client, ⟨Ne.symm hne, hfree, fun h => (hchecks h).1, rfl⟩, ?_⟩
      refine ih.mpr ⟨hhub, hnodup, ?_, fun h => (hchecks h).2, rfl⟩
      intro other hother
      exact (hfresh other).mpr ⟨fun heq => hnotin (heq ▸ hother), hclients other hother⟩

theorem assign_star_spec (state : LinkSetState) (star : NapAssignment) :
    (state.assign_star star).hubs = insert star.hub state.hubs ∧
      (state.assign_star star).served = state.served ∪ insert star.hub star.clients.toFinset ∧
      (state.assign_star star).links =
        state.links ∪ (star.clients.map fun client => ({ hub := star.hub, client } : NapLink)).toFinset ∧
      ∀ client, client ∈ (state.assign_star star).client_hubs ↔
        client ∈ state.client_hubs ∨ client ∈ star.clients := by
  obtain ⟨hhubs, hserved, hlinks, hassigned⟩ := assign_clients_spec star.hub star.clients
    { state with hubs := insert star.hub state.hubs, served := insert star.hub state.served }
  refine ⟨hhubs, ?_, hlinks, hassigned⟩
  rw [LinkSetState.assign_star, hserved]
  ext node
  simp only [Finset.mem_union, Finset.mem_insert, List.mem_toFinset]
  tauto

theorem link_set_star_eq_ok_iff {star : NapAssignment} {state next : LinkSetState} :
    link_set_star inputs desired state star = .ok next ↔
      star.hub ∉ state.hubs ∧ star.clients ≠ [] ∧ star.hub ∉ star.clients ∧ star.clients.Nodup ∧
        (∀ client ∈ star.clients, client ∉ state.client_hubs) ∧
        (desired = true → check_desired_hub inputs star = .ok () ∧
          ∀ client ∈ star.clients, check_desired_client inputs star.hub client = .ok ()) ∧
        next = state.assign_star star := by
  simp only [link_set_star, bind_eq_ok_iff, reject_if_eq_ok, not_or, check_when_eq_ok, link_set_clients_eq_ok_iff]
  constructor
  · rintro ⟨_, ⟨hhub, hnonempty⟩, _, hcheck, hself, hnodup, hfree, hchecks, rfl⟩
    exact ⟨hhub, hnonempty, hself, hnodup, hfree, fun h => ⟨hcheck h, hchecks h⟩, rfl⟩
  · rintro ⟨hhub, hnonempty, hself, hnodup, hfree, hchecks, rfl⟩
    exact ⟨(), ⟨hhub, hnonempty⟩, (), fun h => (hchecks h).1, hself, hnodup, hfree, fun h => (hchecks h).2, rfl⟩

theorem assign_stars_spec (stars : List NapAssignment) (state : LinkSetState) :
    let final := stars.foldl LinkSetState.assign_star state
    final.served = state.served ∪ (stars.flatMap fun star => star.hub :: star.clients).toFinset ∧
      final.links = state.links ∪
        (stars.flatMap fun star => star.clients.map fun client =>
          ({ hub := star.hub, client } : NapLink)).toFinset := by
  induction stars generalizing state with
  | nil => simp
  | cons star rest ih =>
    obtain ⟨hserved, hlinks⟩ := ih (state.assign_star star)
    obtain ⟨_, hstarServed, hstarLinks, _⟩ := assign_star_spec state star
    refine ⟨?_, ?_⟩
    · rw [List.foldl_cons, hserved, hstarServed]
      ext node
      simp only [Finset.mem_union, Finset.mem_insert, List.mem_toFinset, List.flatMap_cons, List.mem_append,
        List.mem_cons]
      tauto
    · rw [List.foldl_cons, hlinks, hstarLinks, List.flatMap_cons, List.toFinset_append, Finset.union_assoc]

/-- The star loop accepts exactly distinct new hubs with non-empty stars whose
clients are pairwise distinct, unassigned and different from their hub. -/
theorem link_set_stars_eq_ok_iff {stars : List NapAssignment} {state final : LinkSetState} :
    stars.foldlM (link_set_star inputs desired) state = .ok final ↔
      (stars.map NapAssignment.hub).Nodup ∧ (∀ star ∈ stars, star.hub ∉ state.hubs) ∧
        (∀ star ∈ stars, star.clients ≠ [] ∧ star.hub ∉ star.clients) ∧
        (stars.flatMap NapAssignment.clients).Nodup ∧
        (∀ star ∈ stars, ∀ client ∈ star.clients, client ∉ state.client_hubs) ∧
        (desired = true → ∀ star ∈ stars, check_desired_hub inputs star = .ok () ∧
          ∀ client ∈ star.clients, check_desired_client inputs star.hub client = .ok ()) ∧
        final = stars.foldl LinkSetState.assign_star state := by
  induction stars generalizing state with
  | nil => simp [pure, Except.pure, eq_comm]
  | cons star rest ih =>
    rw [foldlM_cons_eq_ok_iff]
    obtain ⟨hhubs, _, _, hassigned⟩ := assign_star_spec state star
    constructor
    · rintro ⟨middle, hstar, hrest⟩
      obtain ⟨hhub, hnonempty, hself, hnodup, hfree, hchecks, rfl⟩ := link_set_star_eq_ok_iff.mp hstar
      obtain ⟨hrestHubs, hrestNew, hrestShape, hrestNodup, hrestFree, hrestChecks, rfl⟩ := ih.mp hrest
      simp only [hhubs, Finset.mem_insert, not_or] at hrestNew
      refine ⟨?_, ?_, ?_, ?_, ?_, ?_, rfl⟩
      · simp only [List.map_cons, List.nodup_cons, List.mem_map, not_exists, not_and]
        exact ⟨fun other hother => (hrestNew other hother).1, hrestHubs⟩
      · simp only [List.mem_cons, forall_eq_or_imp]
        exact ⟨hhub, fun other hother => (hrestNew other hother).2⟩
      · simp only [List.mem_cons, forall_eq_or_imp]
        exact ⟨⟨hnonempty, hself⟩, hrestShape⟩
      · rw [List.flatMap_cons, List.nodup_append]
        refine ⟨hnodup, hrestNodup, ?_⟩
        intro client hclient other hother heq
        obtain ⟨source, hsource, hmem⟩ := List.mem_flatMap.mp hother
        exact hrestFree source hsource other hmem ((hassigned other).mpr (.inr (heq ▸ hclient)))
      · simp only [List.mem_cons, forall_eq_or_imp]
        refine ⟨hfree, fun other hother client hclient hmem => ?_⟩
        exact hrestFree other hother client hclient ((hassigned client).mpr (.inl hmem))
      · intro hdesired
        simp only [List.mem_cons, forall_eq_or_imp]
        exact ⟨hchecks hdesired, hrestChecks hdesired⟩
    · rintro ⟨hnodupHubs, hnew, hshape, hnodup, hfree, hchecks, rfl⟩
      simp only [List.map_cons, List.nodup_cons, List.mem_map, not_exists, not_and] at hnodupHubs
      simp only [List.mem_cons, forall_eq_or_imp] at hnew hshape hfree hchecks
      rw [List.flatMap_cons, List.nodup_append] at hnodup
      refine ⟨state.assign_star star, link_set_star_eq_ok_iff.mpr
        ⟨hnew.1, hshape.1.1, hshape.1.2, hnodup.1, hfree.1, fun h => (hchecks h).1, rfl⟩, ?_⟩
      refine ih.mpr ⟨hnodupHubs.2, ?_, hshape.2, hnodup.2.1, ?_, fun h => (hchecks h).2, rfl⟩
      · intro other hother
        simp only [hhubs, Finset.mem_insert, not_or]
        exact ⟨hnodupHubs.1 other hother, hnew.2 other hother⟩
      · intro other hother client hclient hmem
        rcases (hassigned client).mp hmem with hold | hstar
        · exact hfree.2 other hother client hclient hold
        · exact hnodup.2.2 client hstar client (List.mem_flatMap.mpr ⟨other, hother, hclient⟩) rfl

/-- Distinct hubs, non-empty stars, no self link, and each client under at most
one hub: what `link_set` asks of every topology, observed or desired. -/
structure WellShaped (plan : NapSelection) : Prop where
  hubs_nodup : (plan.stars.map NapAssignment.hub).Nodup
  nonempty : ∀ star ∈ plan.stars, star.clients ≠ []
  no_self : ∀ star ∈ plan.stars, star.hub ∉ star.clients
  clients_nodup : (plan.stars.flatMap NapAssignment.clients).Nodup

/-- The nodes that a plan serves, as hub or as client. -/
def served (plan : NapSelection) : Finset NodeId :=
  (plan.stars.flatMap fun star => star.hub :: star.clients).toFinset

/-- What `link_set` asks in addition of a desired topology. -/
structure Desirable (inputs : TopologyPolicyInputs) (plan : NapSelection) : Prop where
  hub_ok : ∀ star ∈ plan.stars, check_desired_hub inputs star = .ok ()
  client_ok : ∀ star ∈ plan.stars, ∀ client ∈ star.clients, check_desired_client inputs star.hub client = .ok ()
  unserved_disjoint : Disjoint plan.unserved (served plan)
  partition : served plan ∪ plan.unserved = known inputs

private theorem link_set_eq_ok_iff_of_flag {inputs : TopologyPolicyInputs} :
    link_set plan inputs desired = .ok result ↔
      WellShaped plan ∧ (desired = true → Desirable inputs plan) ∧ result = links plan := by
  obtain ⟨hserved, hlinks⟩ := assign_stars_spec plan.stars
    { links := ∅, hubs := ∅, client_hubs := ∅, served := ∅ }
  simp only [Finset.empty_union] at hserved hlinks
  simp only [link_set, bind_eq_ok_iff, link_set_stars_eq_ok_iff, check_when_eq_ok, reject_if_eq_ok, not_or,
    not_not, Except.ok.injEq]
  constructor
  · rintro ⟨final, ⟨hhubs, _, hshape, hnodup, _, hchecks, rfl⟩, _, hcover, rfl⟩
    refine ⟨⟨hhubs, fun star hstar => (hshape star hstar).1, fun star hstar => (hshape star hstar).2, hnodup⟩,
      ?_, hlinks⟩
    intro hdesired
    obtain ⟨hdisjoint, _, hpartition⟩ := hcover hdesired
    rw [hserved] at hdisjoint hpartition
    exact ⟨fun star hstar => (hchecks hdesired star hstar).1, fun star hstar => (hchecks hdesired star hstar).2,
      hdisjoint, hpartition⟩
  · rintro ⟨hshape, hdesirable, rfl⟩
    refine ⟨_, ⟨hshape.hubs_nodup, by simp, fun star hstar => ⟨hshape.nonempty star hstar, hshape.no_self star hstar⟩,
      hshape.clients_nodup, by simp, ?_, rfl⟩, (), ?_, hlinks⟩
    · intro hdesired star hstar
      exact ⟨(hdesirable hdesired).hub_ok star hstar, (hdesirable hdesired).client_ok star hstar⟩
    · intro hdesired
      have hok := hdesirable hdesired
      rw [hserved]
      exact ⟨hok.unserved_disjoint, hok.partition ▸ Finset.subset_union_right, hok.partition⟩

/-- An observed topology is accepted exactly when it is well shaped, whatever
the inputs know about its nodes; the result is its set of links. -/
theorem link_set_active_eq_ok_iff :
    link_set plan inputs false = .ok result ↔ WellShaped plan ∧ result = links plan := by
  simp [link_set_eq_ok_iff_of_flag]

/-- A desired topology is accepted exactly when it is also desirable. -/
theorem link_set_desired_eq_ok_iff :
    link_set plan inputs true = .ok result ↔ WellShaped plan ∧ Desirable inputs plan ∧ result = links plan := by
  simp [link_set_eq_ok_iff_of_flag]

end blueroute.topology_plan
