import BlueRoute.Daemon.SingleStar.Operations

namespace blueroute_daemon.single_star

open blueroute blueroute_linux Interact SingleStarNetworkOperations

/-- The networks that a host was started for, or asked to be. -/
def started (events : List StarEvent) : List NetworkId :=
  events.filterMap fun event =>
    match event.request with
    | StarRequest.start_host network _ _ => some network
    | _ => none

theorem started_append (before after : List StarEvent) : started (before ++ after) = started before ++ started after :=
  List.filterMap_append ..

/-- What a part of an operation does, whatever is answered. -/
abbrev Doing {α : Type} (s : StarState) (Q : Result α → StarState → List StarEvent → Prop) (p : StarAction α) : Prop :=
  Does (World.recorder (ι := star_interface) star_world) (fun _ _ => True) s Q p

section Does

variable {α β : Type} {s : StarState}

theorem ask_does {r : StarRequest} {f : r.Answer → StarAction β} {Q : Result β → StarState → List StarEvent → Prop}
    (h : ∀ answer t, star_world s r answer t →
      Doing t (fun result u events => Q result u (⟨s, r, answer, t⟩ :: events)) (f answer)) :
    Doing s Q (ask r >>= f) := by
  refine Does.perform trivial ?_
  rintro answer e t ⟨hworld, rfl⟩
  exact h answer t hworld

theorem lift_does {result : Result α} {f : α → StarAction β} {Q : Result β → StarState → List StarEvent → Prop}
    (herror : ∀ error, result = .error error → Q (.error error) s [])
    (h : ∀ value, result = .ok value → Doing s Q (f value)) : Doing s Q (Action.lift result >>= f) := by
  cases result with
  | error error => exact .ret (herror error rfl)
  | ok value => exact h value rfl

end Does

section Candidates

variable {registry : MembershipRegistry} {attempted : Finset NetworkId} {s : StarState}

theorem unique_network_id_within_does (tries : Nat) :
    Doing s (fun result t events => t = s ∧ started events = [] ∧
        ∀ candidate, result = .ok candidate → registry.network candidate = none ∧ candidate ∉ attempted)
      (unique_network_id_within registry attempted tries) := by
  induction tries with
  | zero => exact .ret ⟨rfl, rfl, nofun⟩
  | succ tries ih =>
    refine ask_does ?_
    rintro generated _ rfl
    refine lift_does (fun _ _ => ⟨rfl, rfl, nofun⟩) fun candidate _ => ?_
    split_ifs with hnew
    · refine .ret ⟨rfl, rfl, fun other hother => ?_⟩
      obtain rfl := Except.ok.inj hother
      exact hnew
    · exact ih

theorem unique_network_id_does :
    Doing s (fun result t events => t = s ∧ started events = [] ∧
        ∀ candidate, result = .ok candidate → registry.network candidate = none ∧ candidate ∉ attempted)
      (unique_network_id registry attempted) :=
  unique_network_id_within_does 16

/-- The candidates that were attempted are new ones, each attempted once. -/
structure Fresh (registry : MembershipRegistry) (attempted : Finset NetworkId) (networks : List NetworkId) : Prop where
  nodup : networks.Nodup
  unknown : ∀ network ∈ networks, registry.network network = none
  unattempted : ∀ network ∈ networks, network ∉ attempted

theorem Fresh.nil : Fresh registry attempted [] := ⟨.nil, by simp, by simp⟩

theorem Fresh.cons {network : NetworkId} {networks : List NetworkId} (hunknown : registry.network network = none)
    (hunattempted : network ∉ attempted) (h : Fresh registry (insert network attempted) networks) :
    Fresh registry attempted (network :: networks) where
  nodup := List.nodup_cons.mpr ⟨fun hmem => h.unattempted network hmem (Finset.mem_insert_self _ _), h.nodup⟩
  unknown := List.forall_mem_cons.mpr ⟨hunknown, h.unknown⟩
  unattempted := List.forall_mem_cons.mpr ⟨hunattempted, fun other hother hmem =>
    h.unattempted other hother (Finset.mem_insert_of_mem hmem)⟩

/-- The candidates whose start was refused left nothing behind. -/
theorem start_candidate_does (self : SingleStarNetworkOperations) (remaining : Nat) (last_conflict : Option CoreError) :
    Doing s (fun result t events =>
        Fresh registry attempted (started events) ∧ (started events).length ≤ remaining ∧
        (∀ error, result = .error error → t = s) ∧
        ∀ host, result = .ok host → t = { s with host := some host.network } ∧ host.network ∈ started events)
      (self.start_candidate registry remaining attempted last_conflict) := by
  induction remaining generalizing attempted last_conflict with
  | zero => exact .ret ⟨.nil, le_rfl, fun _ _ => rfl, nofun⟩
  | succ remaining ih =>
    rw [start_candidate]
    refine Does.seq unique_network_id_does ?_ ?_
    · rintro error _ events ⟨rfl, hnone, -⟩
      rw [hnone]
      exact ⟨.nil, Nat.zero_le _, fun _ _ => rfl, nofun⟩
    · intro network t before hnetwork
      -- whatever name and address the network gets
      generalize bridge_name network = named
      generalize local_star_address network self.config = planned
      obtain ⟨rfl, hnone, hnew⟩ := hnetwork
      obtain ⟨hunknown, hunattempted⟩ := hnew network rfl
      simp only [started_append, hnone, List.nil_append]
      refine lift_does (fun _ _ => ⟨.nil, Nat.zero_le _, fun _ _ => rfl, nofun⟩) fun bridge _ => ?_
      refine lift_does (fun _ _ => ⟨.nil, Nat.zero_le _, fun _ _ => rfl, nofun⟩) fun address _ => ?_
      have hone : Fresh registry attempted [network] := Fresh.cons hunknown hunattempted .nil
      refine ask_does ?_
      rintro (error | _) t hworld
      · obtain ⟨-, rfl⟩ := hworld
        dsimp only
        split_ifs
        · refine (ih (some error)).mono ?_
          rintro result t events ⟨hfresh, hlength, herror, hok⟩
          refine ⟨.cons hunknown hunattempted hfresh, Nat.succ_le_succ hlength, herror, fun host hhost => ?_⟩
          obtain ⟨ht, hmem⟩ := hok host hhost
          exact ⟨ht, List.mem_cons_of_mem _ hmem⟩
        · exact .ret ⟨hone, Nat.succ_le_succ (Nat.zero_le _), fun _ _ => rfl, nofun⟩
      · obtain rfl := hworld
        refine .ret ⟨hone, Nat.succ_le_succ (Nat.zero_le _), nofun, fun host hhost => ?_⟩
        obtain rfl := Except.ok.inj hhost
        exact ⟨rfl, List.mem_singleton_self _⟩

end Candidates

section Registry

variable {registry : MembershipRegistry} {network : NetworkId} {membership : NetworkMembership}

theorem current_network_of_joined (hcurrent : current_network registry = .ok none)
    (hstate : membership.state = .Member) :
    current_network (registry.remember_network membership) = .ok (some membership.network_id) := by
  rw [current_network_eq_none_iff] at hcurrent
  rw [current_network_eq_some_iff]
  intro other
  simp only [IsMember, MembershipRegistry.network_remember_network]
  split_ifs with hother
  · simp [hother, hstate]
  · exact ⟨fun h => absurd h (hcurrent other), fun h => absurd h.symm hother⟩

theorem current_network_of_left (hcurrent : current_network registry = .ok (some membership.network_id))
    (hstate : membership.state ≠ .Member) :
    current_network (registry.remember_network membership) = .ok none := by
  rw [current_network_eq_some_iff] at hcurrent
  rw [current_network_eq_none_iff]
  intro other
  simp only [IsMember, MembershipRegistry.network_remember_network]
  split_ifs with hother
  · simp [hstate]
  · exact fun h => hother ((hcurrent other).mp h).symm

/-- What is left of a membership: the same peers, trusted as before and members no more. -/
structure Behind (membership left : NetworkMembership) : Prop where
  network_id : left.network_id = membership.network_id
  network_name : left.network_name = membership.network_name
  state : left.state = .NotMember
  peers : ∀ node : NodeId, left.peers[node]? = membership.peers[node]?.map fun peer => { peer with member := false }

theorem getElem?_set_peer_member {peer : NodeId} {known : PeerMembership}
    (hknown : membership.peers[peer]? = some known)
    (member : Bool) (node : NodeId) :
    (membership.set_peer_member peer member).2.peers[node]? =
      if node = peer then some { known with member } else membership.peers[node]? := by
  have hentry : membership.entry peer = known := by rw [NetworkMembership.entry, hknown, Option.getD_some]
  simp only [NetworkMembership.set_peer_member, NetworkMembership.set_peer, hentry, Ordered.getElem?_insert_eq,
    membership.peers_keyed peer known hknown, eq_comm]

/-- Clearing the member flags of some known peers. -/
theorem getElem?_foldl_set_peer_member (membership : NetworkMembership) (nodes : List NodeId)
    (hknown : ∀ node ∈ nodes, node ∈ membership.peers) (node : NodeId) :
    (nodes.foldl (fun membership peer => (membership.set_peer_member peer false).2) membership).peers[node]? =
      if node ∈ nodes then membership.peers[node]?.map fun peer => { peer with member := false }
      else membership.peers[node]? := by
  induction nodes generalizing membership with
  | nil => rfl
  | cons peer nodes ih =>
    obtain ⟨hpeer, hnodes⟩ := List.forall_mem_cons.mp hknown
    obtain ⟨known, hentry⟩ := Ordered.mem_iff_exists.mp hpeer
    have hget := getElem?_set_peer_member hentry false
    rw [List.foldl_cons, ih, hget]
    · by_cases hnode : node = peer
      · subst hnode
        simp [hentry]
      · simp [hnode]
    · intro other hother
      obtain ⟨before, hbefore⟩ := Ordered.mem_iff_exists.mp (hnodes other hother)
      rw [Ordered.mem_iff_exists, hget]
      split_ifs
      · exact ⟨_, rfl⟩
      · exact ⟨before, hbefore⟩

theorem foldl_set_peer_member_fields (membership : NetworkMembership) (nodes : List NodeId) :
    let cleared := nodes.foldl (fun membership peer => (membership.set_peer_member peer false).2) membership
    cleared.network_id = membership.network_id ∧ cleared.network_name = membership.network_name ∧
      cleared.state = membership.state := by
  induction nodes generalizing membership with
  | nil => exact ⟨rfl, rfl, rfl⟩
  | cons peer nodes ih => exact ih _

theorem left_membership_behind (hstate : membership.state = .Member) :
    ∃ left, left_membership membership = .ok left ∧ Behind membership left := by
  have hnodes : ∀ node, node ∈ membership.peers.toList.map (fun entry => entry.2.node_id) ↔
    node ∈ membership.peers := by
    intro node
    simp only [List.mem_map, Prod.exists, Ordered.mem_iff_exists, Ordered.mem_toList]
    constructor
    · rintro ⟨key, peer, hentry, rfl⟩
      exact ⟨peer, membership.peers_keyed key peer hentry ▸ hentry⟩
    · rintro ⟨peer, hentry⟩
      exact ⟨node, peer, hentry, membership.peers_keyed node peer hentry⟩
  refine ⟨_, by rw [left_membership, hstate]; rfl, ?_⟩
  obtain ⟨hid, hname, hleft⟩ := foldl_set_peer_member_fields { membership with state := .NotMember }
    (membership.peers.toList.map fun entry => entry.2.node_id)
  refine ⟨hid, hname, hleft, fun node => ?_⟩
  refine (getElem?_foldl_set_peer_member { membership with state := .NotMember } _
    (fun other hother => (hnodes other).mp hother) node).trans ?_
  rw [ite_eq_left_iff, hnodes]
  intro hunknown
  have hnone : membership.peers[node]? = none := by
    rw [Option.eq_none_iff_forall_ne_some]
    exact fun peer hentry => hunknown (Ordered.mem_iff_exists.mpr ⟨peer, hentry⟩)
  simp [hnone]

end Registry

/-- A host runs only for the network of the stored membership, and no operation is under way. -/
structure Agreed (s : StarState) : Prop where
  running : ∀ network, s.host = some network → current_network s.stored = .ok (some network)
  idle : s.creating = false

theorem Agreed.host_of_current_none {s : StarState} (h : Agreed s) (hcurrent : current_network s.stored = .ok none) :
    s.host = none := by
  rw [Option.eq_none_iff_forall_ne_some]
  intro network hhost
  cases (h.running network hhost).symm.trans hcurrent

section Operations

variable {α : Type} {s : StarState}

/-- The guard is free between calls, and a body under it leaves it alone. -/
theorem transition_does {operation : StarAction α}
    {P : Result α → Option NetworkId → MembershipRegistry → List NetworkId → Prop}
    (hidle : s.creating = false)
    (h : Doing { s with creating := true, save_failed := false }
      (fun result t events => P result t.host t.stored (started events)) operation) :
    Doing s (fun result t events => t.creating = false ∧ P result t.host t.stored (started events))
      (transition operation) := by
  refine ask_does ?_
  rintro claimed _ ⟨rfl, rfl⟩
  rw [hidle]
  refine Does.attempt h fun result t before hbody => ?_
  refine ask_does ?_
  rintro _ _ rfl
  refine .ret ⟨rfl, ?_⟩
  change P result t.host t.stored (started (before ++ [_]))
  rw [started_append]
  simpa only [started, List.filterMap_cons, List.filterMap_nil, List.append_nil] using hbody

/-- The registry that was read is the stored one. -/
theorem load_does {f : MembershipRegistry → StarAction α} {P : Result α → StarState → List NetworkId → Prop}
    (herror : ∀ error, P (.error error) s [])
    (h : Doing s (fun result t events => P result t (started events)) (f s.stored)) :
    Doing s (fun result t events => P result t (started events)) (do
      let loaded ← ask .load
      let registry ← Action.lift loaded
      f registry) := by
  refine ask_does ?_
  rintro loaded _ ⟨rfl, hloaded⟩
  refine lift_does (fun error _ => herror error) fun registry hregistry => ?_
  rw [hloaded registry hregistry]
  exact h

/-- How a call of `create_network` ends. -/
structure Created (s : StarState) (result : Result NetworkId) (host : Option NetworkId) (stored : MembershipRegistry)
    (networks : List NetworkId) : Prop where
  fresh : Fresh s.stored ∅ networks
  bounded : networks.length ≤ MAX_ADDRESS_CONFLICT_RETRIES
  failed : ∀ error, result = .error error → host = s.host ∧ stored = s.stored
  joined : ∀ network, result = .ok network → host = some network ∧ current_network s.stored = .ok none ∧
    ∃ membership : NetworkMembership, membership.network_id = network ∧ membership.state = .Member ∧
      stored = s.stored.remember_network membership

theorem commit_created_does {name : DisplayName} {host : Started} :
    Doing s (fun result t events => started events = [] ∧
        (∀ error, result = .error error → t.host = none ∧ t.stored = s.stored) ∧
        ∀ network, result = .ok network → network = host.network ∧ t.host = s.host ∧
          t.stored = s.stored.remember_network { NetworkMembership.new network name with state := .Member })
      (commit_created s.stored name host) := by
  refine ask_does ?_
  rintro (persist_error | _) t hsaved
  · obtain rfl := hsaved
    refine ask_does ?_
    rintro (cleanup_error | _) u hstopped
    · cases hstopped.1
    · obtain ⟨-, rfl⟩ := hstopped
      exact .ret ⟨rfl, fun _ _ => ⟨rfl, rfl⟩, nofun⟩
  · obtain rfl := hsaved
    refine .ret ⟨rfl, nofun, fun network hnetwork => ?_⟩
    obtain rfl := Except.ok.inj hnetwork
    exact ⟨rfl, rfl, rfl⟩

theorem Created.refused {error : CoreError} : Created s (.error error) s.host s.stored [] :=
  ⟨.nil, Nat.zero_le _, fun _ _ => ⟨rfl, rfl⟩, nofun⟩

variable (self : SingleStarNetworkOperations)

theorem create_network_does (name : DisplayName) (h : Agreed s) :
    Doing s (fun result t events => t.creating = false ∧ Created s result t.host t.stored (started events))
      (self.create_network name) := by
  refine transition_does h.idle ?_
  refine lift_does (fun _ _ => .refused) fun _ _ => ?_
  refine load_does (P := fun result t networks => Created s result t.host t.stored networks) (fun _ => .refused) ?_
  refine lift_does (fun _ _ => .refused) fun current hcurrent => ?_
  split_ifs with hsome
  · exact .ret .refused
  · obtain rfl : current = none := by simpa using hsome
    have hhost := h.host_of_current_none hcurrent
    refine Does.seq (start_candidate_does self _ none) ?_ ?_
    · rintro error t events ⟨hfresh, hlength, herror, -⟩
      obtain rfl := herror error rfl
      exact ⟨hfresh, hlength, fun _ _ => ⟨rfl, rfl⟩, nofun⟩
    · rintro host t before ⟨hfresh, hlength, -, hok⟩
      obtain ⟨rfl, hmem⟩ := hok host rfl
      refine commit_created_does.mono ?_
      rintro result u events ⟨hnone, herror, hjoined⟩
      rw [started_append, hnone, List.append_nil]
      refine ⟨hfresh, hlength, fun error hresult => ?_, fun network hresult => ?_⟩
      · rw [hhost]
        exact herror error hresult
      · obtain ⟨rfl, hrunning, hstored⟩ := hjoined network hresult
        exact ⟨hrunning, hcurrent, _, rfl, rfl, hstored⟩

/-- How a call of `leave_network` ends. -/
structure Departed (s : StarState) (result : Result Unit) (host : Option NetworkId) (stored : MembershipRegistry) :
    Prop where
  failed : ∀ error, result = .error error → host = s.host ∧ stored = s.stored
  left : result = .ok () → (current_network s.stored = .ok none ∧ host = s.host ∧ stored = s.stored) ∨
    ∃ network membership left, current_network s.stored = .ok (some network) ∧
      s.stored.network network = some membership ∧ Behind membership left ∧ host = none ∧
      stored = s.stored.remember_network left

theorem Departed.refused {error : CoreError} : Departed s (.error error) s.host s.stored :=
  ⟨fun _ _ => ⟨rfl, rfl⟩, nofun⟩

theorem commit_left_does {host : Started} (hcurrent : current_network s.stored = .ok (some host.network))
    (hstopped : s.host = none) :
    Doing s (fun result t _ => Departed { s with host := some host.network } result t.host t.stored)
      (commit_left s.stored host) := by
  obtain ⟨membership, hmembership, hstate⟩ := (current_network_eq_some_iff.mp hcurrent host.network).mpr rfl
  obtain ⟨left, hleft, hbehind⟩ := left_membership_behind hstate
  rw [commit_left, hmembership]
  refine lift_does (fun error herror => nomatch herror) fun found hfound => ?_
  obtain rfl := Except.ok.inj hfound
  rw [hleft]
  refine ask_does ?_
  rintro (persist_error | _) t hsaved
  · obtain rfl := hsaved
    refine ask_does ?_
    rintro (rollback_error | _) u hrestored
    · cases hrestored.1
    · obtain rfl := hrestored
      exact .ret .refused
  · obtain rfl := hsaved
    refine .ret ⟨nofun, fun _ => .inr ⟨host.network, membership, left, hcurrent, hmembership, hbehind, hstopped, rfl⟩⟩

theorem leave_network_does (h : Agreed s) :
    Doing s (fun result t _ => t.creating = false ∧ Departed s result t.host t.stored) self.leave_network := by
  refine transition_does (P := fun result host stored _ => Departed s result host stored) h.idle ?_
  refine load_does (P := fun result t _ => Departed s result t.host t.stored) (fun _ => .refused) ?_
  refine lift_does (fun _ _ => .refused) fun current hcurrent => ?_
  cases current with
  | none => exact .ret ⟨nofun, fun _ => .inl ⟨hcurrent, rfl, rfl⟩⟩
  | some network =>
    dsimp only
    generalize bridge_name network = named
    generalize local_star_address network self.config = planned
    split_ifs
    · exact .ret .refused
    · refine lift_does (fun _ _ => .refused) fun bridge _ => ?_
      refine lift_does (fun _ _ => .refused) fun address _ => ?_
      refine ask_does ?_
      rintro (error | _) t hstopped
      · obtain ⟨-, rfl⟩ := hstopped
        exact .ret .refused
      · obtain ⟨hhost, rfl⟩ := hstopped
        have hcommit : Doing { s with host := none, creating := true, save_failed := false } _
            (commit_left s.stored ⟨network, bridge, address⟩) := commit_left_does hcurrent rfl
        refine hcommit.mono ?_
        rintro result t _ hdeparted
        refine ⟨fun error herror => ?_, fun hok => ?_⟩
        · rw [show s.host = some network from hhost]
          exact hdeparted.failed error herror
        · obtain ⟨hnone, -⟩ | hleft := hdeparted.left hok
          · cases hnone.symm.trans hcurrent
          · exact .inr hleft

/-- How a call of `reconcile_on_startup` ends. -/
structure Reconciled (s : StarState) (result : Result Unit) (host : Option NetworkId) (stored : MembershipRegistry) :
    Prop where
  stored : stored = s.stored
  failed : ∀ error, result = .error error → host = s.host
  running : result = .ok () → (current_network s.stored = .ok none ∧ host = s.host) ∨
    ∃ network, current_network s.stored = .ok (some network) ∧ host = some network

theorem Reconciled.refused {error : CoreError} : Reconciled s (.error error) s.host s.stored :=
  ⟨rfl, fun _ _ => rfl, nofun⟩

theorem reconcile_on_startup_does (h : Agreed s) :
    Doing s (fun result t _ => t.creating = false ∧ Reconciled s result t.host t.stored) self.reconcile_on_startup := by
  refine transition_does (P := fun result host stored _ => Reconciled s result host stored) h.idle ?_
  refine load_does (P := fun result t _ => Reconciled s result t.host t.stored) (fun _ => .refused) ?_
  refine lift_does (fun _ _ => .refused) fun current hcurrent => ?_
  cases current with
  | none => exact .ret ⟨rfl, nofun, fun _ => .inl ⟨hcurrent, rfl⟩⟩
  | some network =>
    dsimp only
    generalize bridge_name network = named
    generalize local_star_address network self.config = planned
    refine lift_does (fun _ _ => .refused) fun _ _ => ?_
    refine lift_does (fun _ _ => .refused) fun bridge _ => ?_
    refine lift_does (fun _ _ => .refused) fun address _ => ?_
    refine ask_does ?_
    rintro (error | _) t hstarted
    · obtain ⟨-, rfl⟩ := hstarted
      exact .ret .refused
    · obtain rfl := hstarted
      exact .ret ⟨rfl, nofun, fun _ => .inr ⟨network, hcurrent, rfl⟩⟩

end Operations

end blueroute_daemon.single_star
