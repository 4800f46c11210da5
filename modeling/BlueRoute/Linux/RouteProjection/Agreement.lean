import BlueRoute.Linux.RouteProjection

namespace blueroute_linux.route_projection

open blueroute net Fallible Tables blueroute.route_reconciliation

/-- A block given by its first address, not a default route, with private addresses only. -/
structure PrivateBlock (p : IpPrefix) : Prop where
  canonical : ∃ address, p.Canonical address
  len : p.prefix_len ≠ 0
  private_space : ∀ word ∈ p.block, IsRfc1918 word

theorem pool_is_rfc1918_of_in_rfc1918 {bits : BitVec 32} {len : UInt8} (h : in_rfc1918 bits len = true) :
    pool_is_rfc1918 ⟨bits⟩ len = true := by
  simp only [in_rfc1918, Bool.or_eq_true, Bool.and_eq_true, decide_eq_true_eq, ge_iff_le, UInt8.le_iff_toNat_le] at h
  simp only [pool_is_rfc1918, PRIVATE_RANGES, List.any_cons, List.any_nil, Bool.or_false, Bool.or_eq_true]
  obtain (⟨hbits, hlen⟩ | ⟨hbits, hlen⟩) | ⟨hbits, hlen⟩ := h
  · exact .inl ((if_neg (not_lt.mpr (show 8 ≤ len.toNat from hlen))).trans hbits)
  · exact .inr (.inl ((if_neg (not_lt.mpr (show 12 ≤ len.toNat from hlen))).trans hbits))
  · exact .inr (.inr ((if_neg (not_lt.mpr (show 16 ≤ len.toNat from hlen))).trans hbits))

theorem privateBlock_of_private_prefix {p : IpPrefix} {u : Unit} (h : private_prefix p = .ok u) : PrivateBlock p := by
  unfold private_prefix at h
  split at h
  · cases h
  · next address haddress =>
    simp only [bind_eq_ok_iff, reject_if_eq_ok, not_not, not_or, exists_const] at h
    obtain ⟨⟨hpositive, hlen⟩, hbits, hprivate⟩ := h
    have hle : p.prefix_len.toNat ≤ 32 := UInt8.not_lt.mp hlen
    have hnonzero : p.prefix_len.toNat ≠ 0 := fun hzero => hpositive (UInt8.toNat.inj hzero)
    have hmask : checked_shl (BitVec.allOnes 32) (32 - p.prefix_len.toNat) =
        some (BitVec.allOnes 32 <<< (32 - p.prefix_len.toNat)) := if_pos (by omega)
    rw [hmask, Option.getD_some] at hbits
    have haligned : Bits.align p.host_bits address.bits.toNat = address.bits.toNat :=
      (Bits.toNat_and_high_mask _ _).symm.trans (congrArg BitVec.toNat hbits)
    refine ⟨⟨address, haddress, hle, ?_⟩, hpositive, fun word hword => ?_⟩
    · rw [← haligned]
      exact Bits.dvd_align _ _
    · rw [IpPrefix.block, haddress] at hword
      exact isRfc1918_of_pool (pool_is_rfc1918_of_in_rfc1918 hprivate) hword

section Lookups

variable {network : NetworkId} {destinations : List RouteDestinationBinding} {next_hops : List RouteNextHopBinding}

theorem getElem?_destination_table (h : (destinations.map RouteDestinationBinding.destination).Nodup)
    {destination : RouteDestination} {p : IpPrefix} :
    (destination_table destinations)[destination]? = some p ↔
      ∃ binding ∈ destinations, binding.destination = destination ∧ binding.prefix_ = p := by
  rw [destination_table, getElem?_of_entries (by rw [List.map_map]; exact h), List.mem_map]
  simp only [Prod.mk.injEq]

variable {node : NodeId}

theorem getElem?_hop_table (h : (next_hops.map RouteNextHopBinding.node).Nodup) {hop : RouteNextHopBinding} :
    (hop_table next_hops)[node]? = some hop ↔ hop ∈ next_hops ∧ hop.node = node := by
  rw [hop_table, getElem?_of_entries (by rw [List.map_map]; exact h), List.mem_map]
  simp only [Prod.mk.injEq]
  constructor
  · rintro ⟨found, hfound, hnode, rfl⟩
    exact ⟨hfound, hnode⟩
  · rintro ⟨hfound, hnode⟩
    exact ⟨hop, hfound, hnode, rfl⟩

theorem getElem?_address_table (h : (next_hops.map RouteNextHopBinding.address).Nodup) {address : Ipv4Addr} :
    (address_table next_hops)[address]? = some node ↔ ∃ hop ∈ next_hops, hop.address = address ∧ hop.node = node := by
  rw [address_table, getElem?_of_entries (by rw [List.map_map]; exact h), List.mem_map]
  simp only [Prod.mk.injEq]

variable {binding : RouteDestinationBinding}

/-- A destination node that has the address of an observed peer is that peer. -/
theorem BindingsAccepted.owner (h : BindingsAccepted network destinations next_hops)
    (hbinding : binding ∈ destinations) (hnode : binding.destination = .Node node) {hop : RouteNextHopBinding}
    (hhop : hop ∈ next_hops) (haddress : binding.prefix_.address = .V4 hop.address) : hop.node = node := by
  have hobserved := h.observed binding hbinding
  simp only [check_observed, hnode, haddress, bind_eq_ok_iff, reject_if_eq_ok, exists_const] at hobserved
  have hlookup := (getElem?_address_table h.distinct_addresses).mpr ⟨hop, hhop, rfl, rfl⟩
  simpa [hlookup] using hobserved.2

theorem BindingsAccepted.prefix_private (h : BindingsAccepted network destinations next_hops)
    (hbinding : binding ∈ destinations) :
    private_prefix binding.prefix_ = .ok () := by
  have hcheck := h.destination binding hbinding
  simp only [check_destination, bind_eq_ok_iff] at hcheck
  obtain ⟨_, -, _, -, _, hprivate, -⟩ := hcheck
  exact hprivate

theorem BindingsAccepted.node_len (h : BindingsAccepted network destinations next_hops)
    (hbinding : binding ∈ destinations) (hnode : binding.destination = .Node node) :
    binding.prefix_.prefix_len = 32 := by
  have hcheck := h.destination binding hbinding
  simp only [check_destination, hnode, bind_eq_ok_iff, reject_if_eq_ok, not_not] at hcheck
  obtain ⟨_, -, _, -, _, -, hlen⟩ := hcheck
  exact hlen

end Lookups

section Routes

variable {network : NetworkId} {destinations : List RouteDestinationBinding} {next_hops : List RouteNextHopBinding}
  {route : Route} {routes : List Route} {linux : LinuxRoute} {output : List LinuxRoute}

/-- What the kernel route of a route says. -/
structure Describes (network : NetworkId) (destinations : List RouteDestinationBinding)
    (next_hops : List RouteNextHopBinding) (route : Route) (linux : LinuxRoute) (hop : RouteNextHopBinding) : Prop where
  owner : linux.owner = network
  metric : linux.metric = route.cost
  destination : ∃ binding ∈ destinations, binding.destination = route.destination ∧ binding.prefix_ = linux.destination
  observed : hop ∈ next_hops ∧ hop.node = route.next_hop
  interface : linux.interface = hop.interface
  direct_iff : linux.via = none ↔ route.destination = .Node route.next_hop
  direct : linux.via = none → linux.destination = ⟨.V4 hop.address, 32⟩
  indirect : linux.via ≠ none → linux.via = some (.V4 hop.address) ∧
    (linux.destination.prefix_len = 32 → linux.destination.address ≠ .V4 hop.address)

theorem project_route_spec (h : BindingsAccepted network destinations next_hops) {p : IpPrefix}
    (hroute : project_route network (destination_table destinations) (hop_table next_hops) route = .ok (p, linux)) :
    p = linux.destination ∧ route.cost ≠ 0 ∧ ∃ hop, Describes network destinations next_hops route linux hop := by
  simp only [project_route, bind_eq_ok_iff, reject_if_eq_ok, ok_or_eq_ok, not_or, not_and, not_not] at hroute
  obtain ⟨_, -, _, -, _, ⟨hcost, -⟩, found, hfound, hop, hhop, _, hdirect, via, hvia, hlinux⟩ := hroute
  obtain ⟨rfl, rfl⟩ := Prod.mk.inj (Except.ok.inj hlinux)
  obtain ⟨binding, hbinding, hdestination, rfl⟩ := (getElem?_destination_table h.distinct_destinations).mp hfound
  obtain ⟨hmem, hnode⟩ := (getElem?_hop_table h.distinct_nodes).mp hhop
  refine ⟨rfl, hcost, hop, ?_⟩
  by_cases hself : binding.prefix_.prefix_len = 32 ∧ binding.prefix_.address = .V4 hop.address
  · -- the destination is the first hop itself
    simp only [gateway, if_pos hself, bind_eq_ok_iff, reject_if_eq_ok, not_not, exists_const] at hvia
    obtain ⟨hnext, hnone⟩ := hvia
    obtain rfl := Except.ok.inj hnone
    have hhost : binding.prefix_ = ⟨.V4 hop.address, 32⟩ := by rw [← hself.1, ← hself.2]
    exact ⟨rfl, rfl, ⟨binding, hbinding, hdestination, rfl⟩, ⟨hmem, hnode⟩, rfl, iff_of_true rfl hnext,
      fun _ => hhost, fun hsome => absurd rfl hsome⟩
  · simp only [gateway, if_neg hself] at hvia
    obtain rfl := Except.ok.inj hvia
    have hother : route.destination ≠ .Node route.next_hop := fun hnext =>
      hself ⟨h.node_len hbinding (hdestination.trans hnext), hdirect hnext⟩
    exact ⟨rfl, rfl, ⟨binding, hbinding, hdestination, rfl⟩, ⟨hmem, hnode⟩, rfl,
      iff_of_false (Option.some_ne_none _) hother, fun hnone => absurd hnone (Option.some_ne_none _),
      fun _ => ⟨rfl, fun hlen haddress => hself ⟨hlen, haddress⟩⟩⟩

/-- The reconciler accepts a projected route. -/
theorem Describes.validate_owned {hop : RouteNextHopBinding} (h : BindingsAccepted network destinations next_hops)
    (hcost : route.cost ≠ 0) (hdescribes : Describes network destinations next_hops route linux hop) :
    route_reconciliation.validate_owned linux network = .ok () := by
  obtain ⟨binding, hbinding, -, hbound⟩ := hdescribes.destination
  have hprivate := h.prefix_private hbinding
  rw [hbound] at hprivate
  have hmetric : linux.metric ≠ 0 := hdescribes.metric ▸ hcost
  have hvia : ∀ via, linux.via = some via → (IpPrefix.new via 32 >>= private_prefix) = .ok () ∧
      ¬ (linux.destination.prefix_len = 32 ∧ linux.destination.address = via) := by
    intro via hsome
    obtain ⟨hgateway, hapart⟩ := hdescribes.indirect (by rw [hsome]; exact Option.some_ne_none _)
    obtain rfl := Option.some.inj (hsome.symm.trans hgateway)
    refine ⟨?_, fun hself => hapart hself.1 hself.2⟩
    have hcheck := h.next_hop hop hdescribes.observed.1
    simp only [check_next_hop, bind_eq_ok_iff] at hcheck
    obtain ⟨_, -, host, hhost, hprivate⟩ := hcheck
    exact bind_eq_ok_iff.mpr ⟨host, hhost, hprivate⟩
  simp only [route_reconciliation.validate_owned, bind_eq_ok_iff, reject_if_eq_ok, not_not, exists_const]
  refine ⟨hdescribes.owner, (), hprivate, hmetric, ?_⟩
  cases hlinux : linux.via with
  | none => rfl
  | some via =>
    obtain ⟨hhost, hapart⟩ := hvia via hlinux
    obtain ⟨host, hnew, hprivate⟩ := bind_eq_ok_iff.mp hhost
    simp only [bind_eq_ok_iff, reject_if_eq_ok]
    exact ⟨host, hnew, (), hprivate, hapart⟩

/-- The routes of an accepted projection with their kernel routes. -/
structure Projected (network : NetworkId) (routes : List Route) (destinations : List RouteDestinationBinding)
    (next_hops : List RouteNextHopBinding) (output : List LinuxRoute) : Prop where
  /-- Each route has one kernel route. -/
  matched : ∃ described, List.Forall₂ (fun route linux =>
    ∃ hop, Describes network destinations next_hops route linux hop)
    routes described ∧ described.Perm output
  sorted : (output.map LinuxRoute.destination).Pairwise (· < ·)
  private_space : ∀ linux ∈ output, PrivateBlock linux.destination
  /-- No node, of a route or not, has the address of another observed peer. -/
  unaliased : ∀ binding ∈ destinations, ∀ node, binding.destination = .Node node →
    ∀ hop ∈ next_hops, binding.prefix_.address = .V4 hop.address → hop.node = node
  reconciled : route_reconciliation.plan_linux_route_reconciliation network output [] =
    .ok { upsert := output, remove := [] }

theorem index_output {entries : List (IpPrefix × LinuxRoute)} (hdistinct : (entries.map Prod.fst).Nodup)
    (hkeys : ∀ entry ∈ entries, entry.1 = entry.2.destination) :
    Reconcile.index LinuxRoute.destination ((of_entries entries).toList.map Prod.snd) = of_entries entries ∧
      (((of_entries entries).toList.map Prod.snd).map LinuxRoute.destination).Pairwise (· < ·) := by
  have hperm := toList_of_entries_perm hdistinct
  have hdestinations : ((of_entries entries).toList.map Prod.snd).map LinuxRoute.destination =
      (of_entries entries).toList.map Prod.fst := by
    rw [List.map_map]
    exact List.map_congr_left fun entry hentry => (hkeys entry (hperm.mem_iff.mp hentry)).symm
  have hsorted := keys_pairwise (of_entries entries)
  have hnodup : (((of_entries entries).toList.map Prod.snd).map LinuxRoute.destination).Nodup := by
    rw [hdestinations]
    exact hsorted.imp ne_of_lt
  refine ⟨Ordered.ext_getElem?_some fun k linux => ?_, hdestinations ▸ hsorted⟩
  rw [Reconcile.getElem?_index hnodup, ← Ordered.mem_toList, List.mem_map]
  constructor
  · rintro ⟨⟨⟨key, _⟩, hentry, rfl⟩, rfl⟩
    rwa [← hkeys _ (hperm.mem_iff.mp hentry)]
  · intro hentry
    exact ⟨⟨(k, linux), hentry, rfl⟩, (hkeys _ (hperm.mem_iff.mp hentry)).symm⟩

theorem diff_empty {R : Type} [DecidableEq R] (wanted : Ordered.Map IpPrefix R) :
    Reconcile.diff wanted ∅ = { upsert := wanted.toList.map Prod.snd, remove := [] } := by
  simp [Reconcile.diff]

theorem projected_of_ok (hproject : project_ipv4_route_intents network routes destinations next_hops = .ok output) :
    Projected network routes destinations next_hops output := by
  obtain ⟨h, entries, hentries, hdistinct, rfl⟩ := project_eq_ok_iff.mp hproject
  have hspec : ∀ entry ∈ entries, ∃ route, entry.1 = entry.2.destination ∧ route.cost ≠ 0 ∧
      ∃ hop, Describes network destinations next_hops route entry.2 hop := by
    intro entry hentry
    obtain ⟨route, -, hroute⟩ := exists_row hentries hentry
    exact ⟨route, project_route_spec h hroute⟩
  have hkeys : ∀ entry ∈ entries, entry.1 = entry.2.destination :=
    fun entry hentry => (hspec entry hentry).choose_spec.1
  obtain ⟨hindex, hsorted⟩ := index_output hdistinct hkeys
  have hperm := toList_of_entries_perm hdistinct
  have hmem {linux : LinuxRoute} (hlinux : linux ∈ (of_entries entries).toList.map Prod.snd) :
      ∃ route, route.cost ≠ 0 ∧ ∃ hop, Describes network destinations next_hops route linux hop := by
    obtain ⟨entry, hentry, rfl⟩ := List.mem_map.mp hlinux
    obtain ⟨route, -, hrest⟩ := hspec entry (hperm.mem_iff.mp hentry)
    exact ⟨route, hrest⟩
  refine ⟨⟨entries.map Prod.snd, ?_, (hperm.map Prod.snd).symm⟩, hsorted, fun linux hlinux => ?_, ?_, ?_⟩
  · rw [List.forall₂_map_right_iff]
    exact hentries.imp fun route entry hroute => (project_route_spec h hroute).2.2
  · obtain ⟨route, -, hop, hdescribes⟩ := hmem hlinux
    obtain ⟨binding, hbinding, -, hbound⟩ := hdescribes.destination
    exact privateBlock_of_private_prefix (hbound ▸ h.prefix_private hbinding)
  · exact fun binding hbinding node hnode hop hhop haddress => h.owner hbinding hnode hhop haddress
  · refine Reconcile.Policy.plan_eq_ok_iff.mpr ⟨⟨?_, fun linux hlinux => ?_, ?_, ?_, ?_, ?_⟩, ?_⟩
    · exact reject_if_eq_ok.mpr (by rw [h.network_nonzero]; exact Bool.false_ne_true)
    · obtain ⟨route, hcost, hop, hdescribes⟩ := hmem hlinux
      exact hdescribes.validate_owned h hcost
    · exact hsorted.imp ne_of_lt
    · exact fun _ hin => absurd hin List.not_mem_nil
    · exact fun _ hin => absurd hin List.not_mem_nil
    · exact List.nodup_nil
    · rw [show Reconcile.index (route_reconciliation.policy network).key _ = of_entries entries from hindex]
      exact (diff_empty _).symm

/-- The tables do not depend on the order of the bindings. -/
theorem BindingsAccepted.perm (h : BindingsAccepted network destinations next_hops)
    {destinations₂ : List RouteDestinationBinding} {next_hops₂ : List RouteNextHopBinding}
    (hdestinations : destinations.Perm destinations₂) (hhops : next_hops.Perm next_hops₂) :
    BindingsAccepted network destinations₂ next_hops₂ ∧
      destination_table destinations₂ = destination_table destinations ∧
      hop_table next_hops₂ = hop_table next_hops := by
  have hdestination_table : destination_table destinations₂ = destination_table destinations :=
    (of_entries_perm (by rw [List.map_map]; exact h.distinct_destinations) (hdestinations.map _)).symm
  have hhop_table : hop_table next_hops₂ = hop_table next_hops :=
    (of_entries_perm (by rw [List.map_map]; exact h.distinct_nodes) (hhops.map _)).symm
  have haddress_table : address_table next_hops₂ = address_table next_hops :=
    (of_entries_perm (by rw [List.map_map]; exact h.distinct_addresses) (hhops.map _)).symm
  refine ⟨⟨h.network_nonzero, fun binding hbinding => h.destination binding (hdestinations.mem_iff.mpr hbinding),
    (hdestinations.map _).nodup_iff.mp h.distinct_prefixes, (hdestinations.map _).nodup_iff.mp h.distinct_destinations,
    fun binding hbinding => h.next_hop binding (hhops.mem_iff.mpr hbinding),
    (hhops.map _).nodup_iff.mp h.distinct_addresses, (hhops.map _).nodup_iff.mp h.distinct_nodes, ?_⟩,
    hdestination_table, hhop_table⟩
  rw [hhop_table, haddress_table]
  exact fun binding hbinding => h.observed binding (hdestinations.mem_iff.mpr hbinding)

theorem project_perm {routes₂ : List Route} {destinations₂ : List RouteDestinationBinding}
    {next_hops₂ : List RouteNextHopBinding} (hroutes : routes.Perm routes₂)
    (hdestinations : destinations.Perm destinations₂)
    (hhops : next_hops.Perm next_hops₂)
    (hproject : project_ipv4_route_intents network routes destinations next_hops = .ok output) :
    project_ipv4_route_intents network routes₂ destinations₂ next_hops₂ = .ok output := by
  obtain ⟨h, entries, hentries, hdistinct, rfl⟩ := project_eq_ok_iff.mp hproject
  obtain ⟨haccepted, hdestination_table, hhop_table⟩ := h.perm hdestinations hhops
  obtain ⟨made, hmade, hperm⟩ := forall₂_perm hroutes hentries
  refine project_eq_ok_iff.mpr ⟨haccepted, made, ?_, (hperm.map _).nodup_iff.mpr hdistinct, ?_⟩
  · rw [hdestination_table, hhop_table]
    exact hmade
  · rw [of_entries_perm hdistinct hperm.symm]

end Routes

/-- A successful projection has one kernel route for each route, sorted by distinct private destinations;
it is direct exactly for the first hop itself; no node is mapped to the address of another peer; the
reconciler takes the output as it is; and the order of the inputs does not matter. -/
theorem project_ipv4_route_intents_correct (network : NetworkId) (routes : List Route)
    (destinations : List RouteDestinationBinding) (next_hops : List RouteNextHopBinding) :
    (∀ output, project_ipv4_route_intents network routes destinations next_hops = .ok output →
      Projected network routes destinations next_hops output) ∧
    ∀ routes₂ destinations₂ next_hops₂, routes.Perm routes₂ → destinations.Perm destinations₂ →
      next_hops.Perm next_hops₂ → ∀ output,
      project_ipv4_route_intents network routes₂ destinations₂ next_hops₂ = .ok output ↔
        project_ipv4_route_intents network routes destinations next_hops = .ok output := by
  refine ⟨fun output hproject => projected_of_ok hproject, ?_⟩
  intro routes₂ destinations₂ next_hops₂ hroutes hdestinations hhops output
  exact ⟨project_perm hroutes.symm hdestinations.symm hhops.symm, project_perm hroutes hdestinations hhops⟩

def sample_hop (n : UInt8) : RouteNextHopBinding :=
  ⟨.filled 1, .filled n, .new 10 20 0 n, ⟨"bnep0", is_blank_bnep0⟩⟩

def sample_destination (n : UInt8) : RouteDestinationBinding :=
  ⟨.filled 1, .Node (.filled n), ⟨.V4 (.new 10 20 0 n), 32⟩⟩

def sample_route (destination next_hop : UInt8) : Route :=
  ⟨.Node (.filled destination), .filled next_hop, 5, .BlueRouteNetwork (.filled 1)⟩

def sample_output : List LinuxRoute :=
  [(4, none), (5, some (.V4 (.new 10 20 0 4))), (6, some (.V4 (.new 10 20 0 2)))].map fun (n, via) =>
    ⟨⟨.V4 (.new 10 20 0 n), 32⟩, via, ⟨"bnep0", is_blank_bnep0⟩, 5, .filled 1⟩

/-- Two peers, one of them a destination itself, and two destinations behind them. -/
theorem project_ipv4_route_intents_correct_sample :
    Projected (.filled 1) [sample_route 4 4, sample_route 5 4, sample_route 6 2]
      [sample_destination 4, sample_destination 5, sample_destination 6] [sample_hop 2, sample_hop 4] sample_output ∧
    project_ipv4_route_intents (.filled 1) [sample_route 6 2, sample_route 5 4, sample_route 4 4]
      [sample_destination 6, sample_destination 5, sample_destination 4] [sample_hop 4, sample_hop 2] =
      .ok sample_output := by
  have hproject : project_ipv4_route_intents (.filled 1) [sample_route 4 4, sample_route 5 4, sample_route 6 2]
      [sample_destination 4, sample_destination 5, sample_destination 6] [sample_hop 2, sample_hop 4] =
      .ok sample_output := by decide +kernel
  obtain ⟨hcorrect, hperm⟩ := project_ipv4_route_intents_correct (.filled 1)
    [sample_route 4 4, sample_route 5 4, sample_route 6 2]
    [sample_destination 4, sample_destination 5, sample_destination 6] [sample_hop 2, sample_hop 4]
  refine ⟨hcorrect _ hproject, (hperm _ _ _ ?_ ?_ ?_ _).mpr hproject⟩
  · exact (List.reverse_perm _).symm
  · exact (List.reverse_perm _).symm
  · exact (List.reverse_perm _).symm

end blueroute_linux.route_projection
