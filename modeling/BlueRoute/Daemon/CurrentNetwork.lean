import BlueRoute.Core.Membership

namespace blueroute_daemon.single_star

open blueroute

/-- The networks that the registry has this node a member of. -/
def members (registry : MembershipRegistry) : List NetworkId :=
  (registry.networks.filter fun membership => membership.state = .Member).map NetworkMembership.network_id

/-- The network that the registry has this node a member of, which must be the only one. -/
def current_network (registry : MembershipRegistry) : Result (Option NetworkId) :=
  match members registry with
  | [] => .ok none
  | [current] => .ok (some current)
  | _ :: _ :: _ => .error (.new .InvalidState "durable state contains more than one active BlueRoute network")

/-- The registry has this node a member of the network. -/
def IsMember (registry : MembershipRegistry) (network : NetworkId) : Prop :=
  ∃ membership, registry.network network = some membership ∧ membership.state = .Member

variable {registry : MembershipRegistry}

theorem mem_members_iff {network : NetworkId} : network ∈ members registry ↔ IsMember registry network := by
  simp only [members, MembershipRegistry.networks, List.mem_map, List.mem_filter, Prod.exists, exists_eq_right]
  constructor
  · rintro ⟨membership, ⟨⟨key, hentry⟩, hstate⟩, rfl⟩
    have hkey := Ordered.mem_toList.mp hentry
    rw [← registry.keyed key membership hkey] at hkey
    exact ⟨membership, hkey, by simpa using hstate⟩
  · rintro ⟨membership, hmembership, hstate⟩
    exact ⟨membership, ⟨⟨network, Ordered.mem_toList.mpr hmembership⟩, by simpa using hstate⟩,
      registry.keyed network membership hmembership⟩

theorem members_nodup (registry : MembershipRegistry) : (members registry).Nodup := by
  have hids : registry.networks.map NetworkMembership.network_id = registry.entries.toList.map Prod.fst := by
    rw [MembershipRegistry.networks, List.map_map]
    refine List.map_congr_left fun entry hentry => ?_
    exact registry.keyed entry.1 entry.2 (Ordered.mem_toList.mp hentry)
  have hdistinct : (registry.networks.map NetworkMembership.network_id).Nodup := by
    rw [hids, List.Nodup, List.pairwise_map]
    refine Std.ExtTreeMap.distinct_keys_toList.imp ?_
    intro left right hne heq
    rw [heq] at hne
    simp at hne
  exact hdistinct.sublist (List.filter_sublist.map _)

theorem current_network_eq_none_iff :
    current_network registry = .ok none ↔ ∀ network, ¬ IsMember registry network := by
  simp only [← mem_members_iff, ← List.eq_nil_iff_forall_not_mem]
  unfold current_network
  cases members registry with
  | nil => simp
  | cons first rest => cases rest <;> simp

theorem current_network_eq_some_iff {network : NetworkId} :
    current_network registry = .ok (some network) ↔ ∀ other, IsMember registry other ↔ other = network := by
  have hnodup := members_nodup registry
  simp only [← mem_members_iff]
  unfold current_network
  cases hmembers : members registry with
  | nil => simp
  | cons first rest =>
    cases rest with
    | nil => simp
    | cons second rest =>
      rw [hmembers] at hnodup
      refine ⟨nofun, fun hall => ?_⟩
      have hfirst := (hall first).mp (by simp)
      have hsecond := (hall second).mp (by simp)
      simp [hfirst, hsecond] at hnodup

end blueroute_daemon.single_star
