import BlueRoute.Core.SegmentAllocator.Reservations

namespace blueroute.segment_allocator

open net Fallible Checked Ipv4AddressPool SegmentIpv4Allocator

/-- The slot that a segment comes to first. -/
def start_slot (pool : Ipv4AddressPool) (segment : SegmentId) : Nat :=
  (leading_word (.from_bytes segment.as_bytes)).toNat % slots pool

/-- The slots in the order in which a segment comes to them. -/
def probed (pool : Ipv4AddressPool) (segment : SegmentId) (index : Nat) : Nat :=
  (start_slot pool segment + index) % slots pool

/-- No address is in the prefix and in a reservation, or in an IPv4 prefix of the host that is not a
default route. -/
structure Free (allocator : SegmentIpv4Allocator) (foreign : List IpPrefix) (p : IpPrefix) : Prop where
  unreserved : ∀ segment q, allocator.get segment = some q → ¬ p.SharesAddress q
  unused : ∀ q ∈ foreign, q.IsIpv4 → q.prefix_len ≠ 0 → ¬ p.SharesAddress q

/-- The IPv4 prefixes of the host have a length. -/
def WellFormed (foreign : List IpPrefix) : Prop :=
  ∀ q ∈ foreign, q.address.is_ipv4 = true → q.prefix_len.toNat ≤ 32

/-- A slot that the search can take. -/
def Usable (allocator : SegmentIpv4Allocator) (foreign : List IpPrefix) (slot : Nat) : Prop :=
  WellFormed foreign ∧ Free allocator foreign (slot_segment allocator.pool slot)

section Slots

variable {pool : Ipv4AddressPool} {slot : Nat}

/-- Different slots are different segments. -/
theorem slot_segment_injOn (hvalid : pool.Valid) : Set.InjOn (slot_segment pool) (Set.Iio (slots pool)) := by
  intro left hleft right hright heq
  have haddress : (BitVec.ofNat 32 (pool.network.bits.toNat + left * 2 ^ pool.segment_host_bits)).toNat =
      (BitVec.ofNat 32 (pool.network.bits.toNat + right * 2 ^ pool.segment_host_bits)).toNat := by
    simp only [slot_segment, IpPrefix.mk.injEq, IpAddr.V4.injEq, Ipv4Addr.mk.injEq, and_true] at heq
    rw [heq]
  rw [toNat_slot_address hvalid hleft, toNat_slot_address hvalid hright] at haddress
  exact Nat.eq_of_mul_eq_mul_right (Nat.two_pow_pos _) (Nat.add_left_cancel haddress)

/-- Segments of a pool that share an address are the same. -/
theorem InPool.eq_of_shares {p q : IpPrefix} {left right : Ipv4Addr} (hp : InPool pool p left)
    (hq : InPool pool q right)
    (hshares : p.SharesAddress q) : p = q := by
  obtain ⟨word, hleft, hright⟩ := hshares
  rw [IpPrefix.block, hp.address_eq, IpPrefix.host_bits, hp.len] at hleft
  rw [IpPrefix.block, hq.address_eq, IpPrefix.host_bits, hq.len] at hright
  have hquotient : left.bits.toNat / 2 ^ pool.segment_host_bits = right.bits.toNat / 2 ^ pool.segment_host_bits :=
    (Bits.mem_block_iff.mp hleft).symm.trans (Bits.mem_block_iff.mp hright)
  have haddress : left.bits.toNat = right.bits.toNat := by
    rw [← Nat.div_mul_cancel hp.aligned, ← Nat.div_mul_cancel hq.aligned, hquotient]
  have hsame : left = right := congrArg Ipv4Addr.mk (BitVec.eq_of_toNat_eq haddress)
  obtain ⟨address, len⟩ := p
  obtain ⟨address', len'⟩ := q
  rw [IpPrefix.mk.injEq]
  exact ⟨hp.address_eq.trans (hsame ▸ hq.address_eq.symm), hp.len.trans hq.len.symm⟩

theorem probed_lt (pool : Ipv4AddressPool) (segment : SegmentId) (index : Nat) :
    probed pool segment index < slots pool :=
  Nat.mod_lt _ (slots_pos pool)

/-- A round over the slots comes to none of them twice. -/
theorem probed_injOn (pool : Ipv4AddressPool) (segment : SegmentId) :
    Set.InjOn (probed pool segment) (Set.Iio (slots pool)) := by
  intro left hleft right hright heq
  have hmod : start_slot pool segment + left ≡ start_slot pool segment + right [MOD slots pool] := heq
  have hcancel : left % slots pool = right % slots pool := Nat.ModEq.add_left_cancel' _ hmod
  rwa [Nat.mod_eq_of_lt hleft, Nat.mod_eq_of_lt hright] at hcancel

end Slots

theorem available_iff {p : IpPrefix} {others : List IpPrefix} {u : Unit} (hp : p.IsIpv4) :
    ensure_ipv4_segment_available_checked p others = .ok u ↔
      ∀ other ∈ others, other.address.is_ipv4 = true → other.prefix_len ≠ 0 →
        other.prefix_len.toNat ≤ 32 ∧ ¬ p.SharesAddress other := by
  rw [ensure_ipv4_segment_available_checked_eq, lift_eq_ok_iff, ensure_ipv4_segment_available_eq_ok_iff hp]

namespace SegmentIpv4Allocator

variable {self : SegmentIpv4Allocator} {segment : SegmentId} {p : IpPrefix} {foreign : List IpPrefix}

theorem mem_reserved {q : IpPrefix} : q ∈ self.reserved ↔ ∃ segment, self.get segment = some q := by
  simp only [reserved, List.mem_map, Prod.exists, Ordered.mem_toList, get, exists_eq_right]

/-- Whether the search passes over a candidate. -/
theorem is_taken_eq_ok (h : self.Sound) (foreign : List IpPrefix) (hp : p.IsIpv4) :
    (self.is_taken p foreign = .ok false ∧ WellFormed foreign ∧ Free self foreign p) ∨
      (self.is_taken p foreign = .ok true ∧ ¬ (WellFormed foreign ∧ Free self foreign p)) := by
  have hvalid := valid_of_validate h.validated
  have hreserved : (∃ u, ensure_ipv4_segment_available_checked p self.reserved = .ok u) ↔
      ∀ segment q, self.get segment = some q → ¬ p.SharesAddress q := by
    simp only [available_iff hp, exists_const]
    constructor
    · intro hall segment q hq
      obtain ⟨address, hinPool⟩ := h.in_pool segment q hq
      exact (hall q (mem_reserved.mpr ⟨segment, hq⟩) (hinPool.canonical hvalid).isIpv4.address
        (hinPool.len_ne_zero hvalid)).2
    · intro hall q hq _ _
      obtain ⟨segment, hget⟩ := mem_reserved.mp hq
      obtain ⟨address, hinPool⟩ := h.in_pool segment q hget
      exact ⟨(hinPool.canonical hvalid).len, hall segment q hget⟩
  have hforeign : (∃ u, ensure_ipv4_segment_available_checked p foreign = .ok u) ↔
      WellFormed foreign ∧ ∀ q ∈ foreign, q.IsIpv4 → q.prefix_len ≠ 0 → ¬ p.SharesAddress q := by
    simp only [available_iff hp, exists_const]
    constructor
    · intro hall
      refine ⟨fun q hq hipv4 => ?_, fun q hq hipv4 hlen => (hall q hq hipv4.address hlen).2⟩
      by_cases hdefault : q.prefix_len = 0
      · rw [hdefault]
        decide
      · exact (hall q hq hipv4 hdefault).1
    · rintro ⟨hwell, hall⟩ q hq hipv4 hlen
      exact ⟨hwell q hq hipv4, hall q hq ⟨hipv4, hwell q hq hipv4⟩ hlen⟩
  unfold is_taken
  obtain ⟨u, hok, herr⟩ | herr := (calm_available p self.reserved).is_err_eq
  · rw [herr]
    change (is_err _ = _ ∧ _) ∨ (is_err _ = _ ∧ _)
    obtain ⟨v, hok', herr'⟩ | herr' := (calm_available p foreign).is_err_eq
    · obtain ⟨hwell, hunused⟩ := hforeign.mp ⟨v, hok'⟩
      exact .inl ⟨herr', hwell, hreserved.mp ⟨u, hok⟩, hunused⟩
    · refine .inr ⟨herr', fun ⟨hwell, hfree⟩ => ?_⟩
      obtain ⟨v, hok'⟩ := hforeign.mpr ⟨hwell, hfree.unused⟩
      rw [hok'] at herr'
      cases herr'
  · rw [herr]
    refine .inr ⟨rfl, fun ⟨_, hfree⟩ => ?_⟩
    obtain ⟨u, hok⟩ := hreserved.mpr hfree.unreserved
    rw [hok] at herr
    cases herr

/-- The error of a search that has come to no free slot. -/
def no_prefix_found : Fault CoreError :=
  .error (.new .AddressConflict "no conflict-free PAN prefix found in bounded IPv4 pool search")

open Classical in
/-- The search takes the first slot that it can use. -/
theorem probe_eq (h : self.Sound) (segment : SegmentId) (foreign : List IpPrefix) (indices : List Nat)
    (hindices : ∀ index ∈ indices, index < slots self.pool) :
    self.probe foreign (1#32 <<< Valid.segment_bits self.pool)
        (leading_word (.from_bytes segment.as_bytes) % (1#32 <<< Valid.segment_bits self.pool))
        (indices.map (BitVec.ofNat 32)) =
      match indices.find? (fun index => Usable self foreign (probed self.pool segment index)) with
      | some index => .ok (slot_segment self.pool (probed self.pool segment index))
      | none => .error no_prefix_found := by
  have hvalid := valid_of_validate h.validated
  have hcount : (1#32 <<< Valid.segment_bits self.pool).toNat = slots self.pool := hvalid.toNat_segment_count
  have hbits : slots self.pool ≤ 2 ^ 22 := by
    refine Nat.pow_le_pow_right (n := 2) (by omega) ?_
    have := hvalid.room
    have := hvalid.private_space
    omega
  have hfirst : (leading_word (.from_bytes segment.as_bytes) % (1#32 <<< Valid.segment_bits self.pool)).toNat =
      start_slot self.pool segment := by
    rw [BitVec.toNat_umod, hcount]
    rfl
  have hstart : start_slot self.pool segment < slots self.pool := Nat.mod_lt _ (slots_pos _)
  induction indices with
  | nil => rfl
  | cons index rest ih =>
    obtain ⟨hindex, hrest⟩ := List.forall_mem_cons.mp hindices
    have hoffset : (BitVec.ofNat 32 index).toNat = index := by
      rw [BitVec.toNat_ofNat, Nat.mod_eq_of_lt (by omega)]
    generalize hword : leading_word (.from_bytes segment.as_bytes) % (1#32 <<< Valid.segment_bits self.pool) = first
      at ih hfirst ⊢
    have hfits : first.toNat + (BitVec.ofNat 32 index).toNat < 2 ^ 32 := by omega
    have hslot : ((first + BitVec.ofNat 32 index) % (1#32 <<< Valid.segment_bits self.pool)).toNat =
        probed self.pool segment index := by
      rw [BitVec.toNat_umod, hcount, BitVec.toNat_add, Nat.mod_eq_of_lt hfits, hfirst, hoffset]
      rfl
    have hcandidate := prefix_at_slot hvalid (hslot ▸ probed_lt self.pool segment index)
    rw [hslot] at hcandidate
    obtain ⟨address, hinPool, -⟩ := slot_segment_inPool hvalid (probed_lt self.pool segment index)
    rw [List.map_cons, probe, add_eq_ok hfits]
    change (self.prefix_at _ >>= _) = _
    rw [hcandidate]
    change (self.is_taken _ foreign >>= _) = _
    obtain ⟨htaken, husable⟩ | ⟨htaken, hunusable⟩ := is_taken_eq_ok h foreign (hinPool.canonical hvalid).isIpv4
    · have hhit : decide (Usable self foreign (probed self.pool segment index)) = true := decide_eq_true husable
      rw [htaken, List.find?_cons, hhit]
      rfl
    · have hmiss : decide (Usable self foreign (probed self.pool segment index)) = false := decide_eq_false hunusable
      rw [htaken, List.find?_cons, hmiss]
      exact ih hrest

open Classical in
theorem search_eq (h : self.Sound) (hroom : self.reservations.size < MAX_RESERVED_PAN_SEGMENTS) (segment : SegmentId)
    (foreign : List IpPrefix) :
    self.search segment foreign =
      match (List.range (min (slots self.pool) MAX_PREFIX_PROBES)).find?
        (fun index => Usable self foreign (probed self.pool segment index)) with
      | some index => .ok (slot_segment self.pool (probed self.pool segment index))
      | none => .error no_prefix_found := by
  have hvalid := valid_of_validate h.validated
  have hcount : (1#32 <<< Valid.segment_bits self.pool).toNat = slots self.pool := hvalid.toNat_segment_count
  have hensure : self.ensure_room = .ok () := reject_if_eq_ok.mpr (not_le.mpr hroom)
  rw [search, hensure, segment_count_eq hvalid]
  change self.probe foreign _ _ (offsets _) = _
  rw [offsets, hcount]
  refine probe_eq h segment foreign _ fun index hindex => ?_
  exact lt_of_lt_of_le (List.mem_range.mp hindex) (min_le_left _ _)

/-- Each reservation takes one slot, so among more slots than reservations one is free. -/
theorem exists_free_slot (h : self.Sound) (segment : SegmentId) {probes : Nat} (hprobes : probes ≤ slots self.pool)
    (hless : self.reservations.size < probes) :
    ∃ index < probes, Free self [] (slot_segment self.pool (probed self.pool segment index)) := by
  have hvalid := valid_of_validate h.validated
  by_contra hnone
  have hreserved : ∀ index ∈ Finset.range probes,
      slot_segment self.pool (probed self.pool segment index) ∈ self.reserved.toFinset := by
    intro index hindex
    have hblocked : ∃ owner q, self.get owner = some q ∧
        (slot_segment self.pool (probed self.pool segment index)).SharesAddress q := by
      by_contra hall
      refine hnone ⟨index, Finset.mem_range.mp hindex, ⟨fun owner q hq hshares => hall ⟨owner, q, hq, hshares⟩, ?_⟩⟩
      exact fun _ hin => absurd hin List.not_mem_nil
    obtain ⟨owner, q, hq, hshares⟩ := hblocked
    obtain ⟨address, hinPool⟩ := h.in_pool owner q hq
    obtain ⟨own, hslot, -⟩ := slot_segment_inPool hvalid (probed_lt self.pool segment index)
    rw [hslot.eq_of_shares hinPool hshares, List.mem_toFinset]
    exact mem_reserved.mpr ⟨owner, hq⟩
  have hinj : Set.InjOn (fun index => slot_segment self.pool (probed self.pool segment index))
    (Finset.range probes) := by
    intro left hleft right hright heq
    have hbelow {index : Nat} (hindex : index ∈ (Finset.range probes : Set Nat)) : index ∈ Set.Iio (slots self.pool) :=
      lt_of_lt_of_le (Finset.mem_range.mp hindex) hprobes
    have hsame := slot_segment_injOn hvalid (probed_lt self.pool segment left) (probed_lt self.pool segment right) heq
    exact probed_injOn self.pool segment (hbelow hleft) (hbelow hright) hsame
  have hcard := Finset.card_le_card_of_injOn _ hreserved hinj
  have hlength : self.reserved.length = self.reservations.size := by
    rw [reserved, List.length_map, Std.ExtTreeMap.length_toList]
  rw [Finset.card_range] at hcard
  have := List.toFinset_card_le self.reserved
  omega

/-- The first usable slot of a bounded round, for a segment that has none. -/
structure Taken (allocator : SegmentIpv4Allocator) (segment : SegmentId) (foreign : List IpPrefix) (p : IpPrefix)
    (index : Nat) : Prop where
  bounded : index < min (slots allocator.pool) MAX_PREFIX_PROBES
  usable : Usable allocator foreign (probed allocator.pool segment index)
  first : ∀ earlier < index, ¬ Usable allocator foreign (probed allocator.pool segment earlier)
  found : p = slot_segment allocator.pool (probed allocator.pool segment index)

open Classical in
theorem exists_taken {index : Nat} (hbounded : index < min (slots self.pool) MAX_PREFIX_PROBES)
    (husable : Usable self foreign (probed self.pool segment index)) :
    ∃ p first, Taken self segment foreign p first := by
  have hexists : ∃ index, Usable self foreign (probed self.pool segment index) := ⟨index, husable⟩
  have hle := Nat.find_min' hexists husable
  exact ⟨_, Nat.find hexists, lt_of_le_of_lt hle hbounded, Nat.find_spec hexists,
    fun earlier hless => Nat.find_min hexists hless, rfl⟩

open Classical in
theorem search_eq_ok_iff (h : self.Sound) (hroom : self.reservations.size < MAX_RESERVED_PAN_SEGMENTS) :
    self.search segment foreign = .ok p ↔ ∃ index, Taken self segment foreign p index := by
  rw [search_eq h hroom]
  constructor
  · intro hfound
    split at hfound
    · rename_i index hindex
      obtain rfl := Except.ok.inj hfound
      rw [List.find?_range_eq_some] at hindex
      obtain ⟨husable, hmem, hearlier⟩ := hindex
      exact ⟨index, List.mem_range.mp hmem, of_decide_eq_true husable,
        fun earlier hless => by simpa using hearlier earlier hless, rfl⟩
    · cases hfound
  · rintro ⟨index, hbounded, husable, hfirst, rfl⟩
    have hindex : (List.range (min (slots self.pool) MAX_PREFIX_PROBES)).find?
        (fun index => Usable self foreign (probed self.pool segment index)) = some index := by
      rw [List.find?_range_eq_some]
      exact ⟨decide_eq_true husable, List.mem_range.mpr hbounded,
        fun earlier hless => by simpa using hfirst earlier hless⟩
    rw [hindex]

theorem allocate_eq_ok_iff (h : self.Sound) (hroom : self.reservations.size < MAX_RESERVED_PAN_SEGMENTS)
    (hget : self.get segment = none) :
    (self.allocate segment foreign).1 = .ok p ↔ ∃ index, Taken self segment foreign p index := by
  rw [← search_eq_ok_iff h hroom, allocate, hget]
  dsimp only
  cases self.search segment foreign with
  | error fault => exact iff_of_false nofun nofun
  | ok candidate => rfl

/-- An allocation that is repeated finds the prefix that was reserved. -/
theorem allocate_again (h : self.Sound) (hroom : self.reservations.size < MAX_RESERVED_PAN_SEGMENTS)
    (hget : self.get segment = none) (hallocate : (self.allocate segment foreign).1 = .ok p) :
    ((self.allocate segment foreign).2.allocate segment foreign).1 = .ok p := by
  have hvalid := valid_of_validate h.validated
  obtain ⟨index, htaken⟩ := (allocate_eq_ok_iff h hroom hget).mp hallocate
  have hsearch := (search_eq_ok_iff h hroom).mpr ⟨index, htaken⟩
  have hafter : (self.allocate segment foreign).2 =
      { self with reservations := self.reservations.insert segment p } := by
    rw [allocate, hget]
    dsimp only
    rw [hsearch]
  have hkept : (self.allocate segment foreign).2.get segment = some p := by
    rw [hafter, get_insert, if_pos rfl]
  obtain ⟨address, hinPool, -⟩ := slot_segment_inPool hvalid (probed_lt self.pool segment index)
  have havailable : ensure_ipv4_segment_available_checked p foreign = .ok () := by
    rw [htaken.found, available_iff (hinPool.canonical hvalid).isIpv4]
    intro q hq hipv4 hlen
    have hlong := htaken.usable.1 q hq hipv4
    exact ⟨hlong, htaken.usable.2.unused q hq ⟨hipv4, hlong⟩ hlen⟩
  rw [allocate, hkept]
  dsimp only
  rw [havailable]
  rfl

end SegmentIpv4Allocator

/-- Any calls on an allocator of a validated pool, and a segment without a reservation where there is room
for one. Its allocation succeeds exactly if the IPv4 prefixes of the host are well formed and one of the
slots in the bounded round from its own is free; it takes the first of them, does so without foreign
prefixes whenever there are fewer reservations than slots, and finds the same prefix again. -/
theorem allocation_complete {pool : Ipv4AddressPool} {init allocator : SegmentIpv4Allocator}
    {labels : List AllocatorLabel} (hnew : new pool = .ok init)
    (hrun : Runs.Run AllocatorStep init labels allocator) (hroom : allocator.reservations.size < 256)
    (segment : SegmentId) (hget : allocator.get segment = none) (foreign : List IpPrefix) :
    ((∃ p, (allocator.allocate segment foreign).1 = .ok p) ↔ WellFormed foreign ∧
      ∃ index < min (slots pool) 4096, Free allocator foreign (slot_segment pool (probed pool segment index))) ∧
    (∀ p, (allocator.allocate segment foreign).1 = .ok p → ∃ index < min (slots pool) 4096,
      p = slot_segment pool (probed pool segment index) ∧ Free allocator foreign p ∧
      ∀ earlier < index, ¬ Free allocator foreign (slot_segment pool (probed pool segment earlier))) ∧
    (allocator.reservations.size < slots pool → ∃ p, (allocator.allocate segment []).1 = .ok p) ∧
    ∀ p, (allocator.allocate segment foreign).1 = .ok p →
      ((allocator.allocate segment foreign).2.allocate segment foreign).1 = .ok p := by
  obtain ⟨hsound, rfl⟩ := sound_of_run hnew hrun
  have hiff (foreign : List IpPrefix) : (∃ p, (allocator.allocate segment foreign).1 = .ok p) ↔ WellFormed foreign ∧
      ∃ index < min (slots allocator.pool) 4096,
        Free allocator foreign (slot_segment allocator.pool (probed allocator.pool segment index)) := by
    simp only [allocate_eq_ok_iff hsound hroom hget]
    constructor
    · rintro ⟨p, index, htaken⟩
      exact ⟨htaken.usable.1, index, htaken.bounded, htaken.usable.2⟩
    · rintro ⟨hwell, index, hbounded, hfree⟩
      exact exists_taken hbounded ⟨hwell, hfree⟩
  refine ⟨hiff foreign, fun p hp => ?_, fun hless => ?_, fun p hp => ?_⟩
  · obtain ⟨index, htaken⟩ := (allocate_eq_ok_iff hsound hroom hget).mp hp
    refine ⟨index, htaken.bounded, htaken.found, htaken.found ▸ htaken.usable.2, fun earlier hearlier hfree => ?_⟩
    exact htaken.first earlier hearlier ⟨htaken.usable.1, hfree⟩
  · refine (hiff []).mpr ⟨fun _ hin => absurd hin List.not_mem_nil, ?_⟩
    exact exists_free_slot hsound segment (min_le_left _ _) (lt_min hless (hroom.trans (by decide)))
  · exact allocate_again hsound hroom hget hp

/-- A third segment, moved on from a slot that is reserved. -/
theorem allocation_complete_sample :
    (sample.run.2.allocate (.filled 3) []).1 = .ok ⟨.V4 (.new 10 201 4 0), 24⟩ ∧
      ∃ index < 256, ⟨.V4 (.new 10 201 4 0), 24⟩ = slot_segment .default (probed .default (.filled 3) index) ∧
        ∀ earlier < index, ¬ Free sample.run.2 [] (slot_segment .default (probed .default (.filled 3) earlier)) := by
  have hnew : new .default = .ok sample.init := rfl
  have hrun : Runs.Run AllocatorStep sample.init sample.run.1 sample.run.2 := .trace (fun _ _ => rfl) _ _
  have hallocate : (sample.run.2.allocate (.filled 3) []).1 = .ok ⟨.V4 (.new 10 201 4 0), 24⟩ := rfl
  obtain ⟨index, hbounded, hfound, -, hfirst⟩ :=
    (allocation_complete hnew hrun (by decide) (.filled 3) rfl []).2.1 _ hallocate
  exact ⟨hallocate, index, lt_of_lt_of_le hbounded (min_le_left _ _), hfound, hfirst⟩

/-- An IPv4 prefix of the host that is longer than an address makes every slot look taken, although it
is not an address block and no slot is in use. -/
theorem malformed_prefix_blocks_allocation :
    (∀ p, (sample.init.allocate (.filled 1) [⟨.V4 (.new 192 168 0 0), 33⟩]).1 ≠ .ok p) ∧
      Free sample.init [⟨.V4 (.new 192 168 0 0), 33⟩] (slot_segment .default (probed .default (.filled 1) 0)) := by
  have hsound : sample.init.Sound := sound_new (show new .default = _ from rfl)
  constructor
  · intro p hp
    obtain ⟨index, htaken⟩ := (allocate_eq_ok_iff hsound (by decide) rfl).mp hp
    exact absurd (htaken.usable.1 _ List.mem_cons_self rfl) (by decide)
  · refine ⟨fun segment q hq => ?_, fun q hq hipv4 => ?_⟩
    · cases hq
    · obtain rfl := List.mem_singleton.mp hq
      exact absurd hipv4.len (by decide)

end blueroute.segment_allocator
