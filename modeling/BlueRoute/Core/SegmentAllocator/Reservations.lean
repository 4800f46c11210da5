import BlueRoute.Core.SegmentAllocator

namespace blueroute.segment_allocator

open net Fallible Checked Ipv4AddressPool SegmentIpv4Allocator

/-- A segment of the pool, given by its first address. -/
structure InPool (pool : Ipv4AddressPool) (p : IpPrefix) (address : Ipv4Addr) : Prop where
  address_eq : p.address = .V4 address
  len : p.prefix_len = pool.segment_prefix_len
  aligned : 2 ^ pool.segment_host_bits ∣ address.bits.toNat
  low : pool.network.bits.toNat ≤ address.bits.toNat
  high : address.bits.toNat < pool.network.bits.toNat + 2 ^ pool.pool_host_bits

/-- No address is in the block of the prefix and in that of an IPv4 prefix of the list, default routes excepted. -/
def Avoids (p : IpPrefix) (others : List IpPrefix) : Prop :=
  ∀ other ∈ others, other.address.is_ipv4 = true → other.prefix_len ≠ 0 → ¬ p.SharesAddress other

section Pool

variable {pool : Ipv4AddressPool} {p : IpPrefix} {address : Ipv4Addr}

theorem InPool.canonical (h : InPool pool p address) (hvalid : pool.Valid) : p.Canonical address where
  address_eq := h.address_eq
  len := by
    have := hvalid.room
    rw [h.len]
    omega
  aligned := by
    rw [IpPrefix.host_bits, h.len]
    exact h.aligned

theorem InPool.len_ne_zero (h : InPool pool p address) (hvalid : pool.Valid) : p.prefix_len ≠ 0 := by
  have hlong : 8 ≤ pool.segment_prefix_len.toNat := hvalid.private_space.trans hvalid.nested
  intro hzero
  rw [← h.len, hzero] at hlong
  exact absurd hlong (by decide)

/-- Every address of a segment is one of the pool. -/
theorem InPool.block_subset (h : InPool pool p address) (hvalid : pool.Valid) :
    p.block ⊆ Bits.Block pool.pool_host_bits pool.network.bits := by
  intro word hword
  have hbits : p.host_bits = pool.segment_host_bits := by rw [IpPrefix.host_bits, h.len, segment_host_bits]
  rw [IpPrefix.block, h.address_eq] at hword
  dsimp only at hword
  rw [hbits, Bits.mem_block_of_dvd h.aligned] at hword
  rw [Bits.mem_block_of_dvd hvalid.aligned]
  -- the last address of the segment is still below the end of the pool, since both are aligned
  obtain ⟨k, hk⟩ := h.aligned
  obtain ⟨n, hn⟩ : 2 ^ pool.segment_host_bits ∣ pool.network.bits.toNat + 2 ^ pool.pool_host_bits := by
    rw [← hvalid.segments_fill]
    refine Nat.dvd_add ((Dvd.intro_left _ hvalid.segments_fill).trans hvalid.aligned) (Nat.dvd_mul_left _ _)
  have hlt : k < n := by
    have hhigh := h.high
    rw [hk, hn] at hhigh
    exact lt_of_mul_lt_mul_left hhigh (Nat.zero_le _)
  have hend : address.bits.toNat + 2 ^ pool.segment_host_bits ≤ pool.network.bits.toNat + 2 ^ pool.pool_host_bits := by
    rw [hk, hn, ← Nat.mul_succ]
    exact Nat.mul_le_mul_left _ hlt
  have hlow := h.low
  have := Nat.two_pow_pos pool.segment_host_bits
  omega

end Pool

/-- The segment of a pool with a number. -/
def slot_segment (pool : Ipv4AddressPool) (slot : Nat) : IpPrefix :=
  ⟨.V4 ⟨BitVec.ofNat 32 (pool.network.bits.toNat + slot * 2 ^ pool.segment_host_bits)⟩, pool.segment_prefix_len⟩

/-- How many segments a pool has. -/
def slots (pool : Ipv4AddressPool) : Nat :=
  2 ^ (pool.segment_prefix_len.toNat - pool.pool_prefix_len.toNat)

section Slots

variable {pool : Ipv4AddressPool} {slot : Nat}

theorem slots_pos (pool : Ipv4AddressPool) : 0 < slots pool := Nat.two_pow_pos _

theorem toNat_slot_address (hvalid : pool.Valid) (hslot : slot < slots pool) :
    (BitVec.ofNat 32 (pool.network.bits.toNat + slot * 2 ^ pool.segment_host_bits)).toNat =
      pool.network.bits.toNat + slot * 2 ^ pool.segment_host_bits := by
  have hend := hvalid.segment_end_le hslot
  have hpool := hvalid.network_add_le
  have hsize := hvalid.four_le_segment_size
  rw [BitVec.toNat_ofNat, Nat.mod_eq_of_lt (by omega)]

theorem slot_segment_inPool (hvalid : pool.Valid) (hslot : slot < slots pool) :
    ∃ address, InPool pool (slot_segment pool slot) address ∧
      address.bits.toNat = pool.network.bits.toNat + slot * 2 ^ pool.segment_host_bits := by
  have hend := hvalid.segment_end_le hslot
  have hsize := hvalid.four_le_segment_size
  have haddress := toNat_slot_address hvalid hslot
  refine ⟨_, ⟨rfl, rfl, ?_, ?_, ?_⟩, haddress⟩
  · rw [haddress]
    exact Nat.dvd_add ((Dvd.intro_left _ hvalid.segments_fill).trans hvalid.aligned) (Nat.dvd_mul_left _ _)
  · rw [haddress]
    exact Nat.le_add_right _ _
  · rw [haddress]
    omega

end Slots

/-- What an available segment is known to avoid, whatever the list holds. -/
theorem avoids_of_available {p : IpPrefix} {others : List IpPrefix} {u : Unit}
    (h : ensure_ipv4_segment_available_checked p others = .ok u) : Avoids p others := by
  rw [ensure_ipv4_segment_available_checked_eq, lift_eq_ok_iff] at h
  have hipv4 : p.IsIpv4 := by
    rw [ensure_ipv4_segment_available, bind_eq_ok_iff] at h
    obtain ⟨normal, hnormal, -⟩ := h
    exact isIpv4_of_normalized hnormal
  intro other hother haddress hlen
  exact ((ensure_ipv4_segment_available_eq_ok_iff hipv4).mp h other hother haddress hlen).2

namespace SegmentIpv4Allocator

variable {self next : SegmentIpv4Allocator} {segment : SegmentId} {p : IpPrefix} {foreign : List IpPrefix}

theorem segment_count_eq (hvalid : self.pool.Valid) :
    self.segment_count = .ok (1#32 <<< Valid.segment_bits self.pool) := by
  rw [segment_count, sub_eq_ok hvalid.nested]
  exact shl_eq_ok hvalid.segment_bits_lt

theorem prefix_at_slot (hvalid : self.pool.Valid) {slot : BitVec 32} (hslot : slot.toNat < slots self.pool) :
    self.prefix_at slot = .ok (slot_segment self.pool slot.toNat) := by
  have hoffset := hvalid.toNat_offset hslot
  have hend := hvalid.segment_end_le hslot
  have hpool := hvalid.network_add_le
  have hsize := hvalid.four_le_segment_size
  have hlen : self.pool.segment_prefix_len.toNat ≤ 32 := hvalid.room.trans (by decide)
  have hfits : self.pool.network.bits.toNat + (slot <<< self.pool.segment_host_bits).toNat < 2 ^ 32 := by omega
  have haddress : self.pool.network.bits + slot <<< self.pool.segment_host_bits =
      BitVec.ofNat 32 (self.pool.network.bits.toNat + slot.toNat * 2 ^ self.pool.segment_host_bits) := by
    apply BitVec.eq_of_toNat_eq
    rw [toNat_slot_address hvalid hslot, BitVec.toNat_add, Nat.mod_eq_of_lt hfits, hoffset]
  rw [prefix_at, sub_eq_ok hlen]
  change (shl slot self.pool.segment_host_bits _ >>= _) = _
  rw [shl_eq_ok hvalid.segment_host_bits_lt]
  change (add self.pool.network.bits _ _ >>= _) = _
  rw [add_eq_ok hfits, haddress]
  exact lift_eq_ok_iff.mpr (IpPrefix.new_eq_ok_iff.mpr ⟨hlen, rfl⟩)

theorem calm_reject_if {bad : Prop} [Decidable bad] (error : CoreError) :
    Calm (reject_if bad (.error error : Fault CoreError)) := by
  unfold reject_if
  split_ifs
  · exact calm_error error
  · exact calm_ok ()

theorem toNat_size (hvalid : self.pool.Valid) :
    (1#32 <<< self.pool.segment_host_bits).toNat = 2 ^ self.pool.segment_host_bits := by
  rw [BitVec.toNat_shiftLeft, Nat.shiftLeft_eq, Nat.mod_eq_of_lt]
  · exact one_mul _
  · rw [show (1#32).toNat = 1 from rfl, one_mul]
    exact Nat.pow_lt_pow_right (by omega) hvalid.segment_host_bits_lt

theorem ensure_prefix_in_pool_calm (hvalid : self.pool.Valid) (p : IpPrefix) : Calm (self.ensure_prefix_in_pool p) := by
  have hlen : self.pool.segment_prefix_len.toNat ≤ 32 := hvalid.room.trans (by decide)
  unfold ensure_prefix_in_pool
  refine .bind ?_ fun canonical _ => .bind (calm_reject_if _) fun _ _ => ?_
  · unfold is_canonical
    split_ifs
    · exact calm_ok _
    · rw [normalized_ipv4_prefix_checked_eq]
      exact (calm_lift _).bind fun _ _ => calm_ok _
  · cases p.address with
    | V6 address => exact calm_error _
    | V4 address =>
      refine .of_ok (sub_eq_ok hlen) (.of_ok (shl_eq_ok hvalid.segment_host_bits_lt) ?_)
      refine .bind (calm_reject_if _) fun _ hlow => ?_
      rw [reject_if_eq_ok, BitVec.not_lt, BitVec.le_def] at hlow
      refine .of_ok (sub_eq_ok hlow) (.bind (calm_reject_if _) fun _ _ => ?_)
      exact .of_ok (segment_count_eq hvalid) (calm_reject_if _)

/-- What passes the check is a segment of the pool. -/
theorem inPool_of_ensure (hvalid : self.pool.Valid) {u : Unit} (h : self.ensure_prefix_in_pool p = .ok u) :
    ∃ address, InPool self.pool p address := by
  have hlen : self.pool.segment_prefix_len.toNat ≤ 32 := hvalid.room.trans (by decide)
  simp only [ensure_prefix_in_pool, bind_eq_ok_iff, reject_if_eq_ok, Bool.not_eq_false] at h
  obtain ⟨canonical, hcanonical, -, hcheck, hrest⟩ := h
  have hprefix : p.prefix_len = self.pool.segment_prefix_len := by
    by_contra hne
    rw [is_canonical, if_pos hne] at hcanonical
    cases hcanonical
    cases hcheck
  cases haddress : p.address with
  | V6 address =>
    rw [haddress] at hrest
    cases hrest
  | V4 address =>
    rw [haddress] at hrest
    simp only [sub_eq_ok hlen, Except.ok.injEq, exists_eq_left', bind_eq_ok_iff, reject_if_eq_ok] at hrest
    change ∃ size, shl 1#32 self.pool.segment_host_bits none = .ok size ∧ _ at hrest
    simp only [shl_eq_ok hvalid.segment_host_bits_lt, Except.ok.injEq, exists_eq_left', exists_const,
      segment_count_eq hvalid, toNat_size hvalid, hvalid.toNat_segment_count, not_not, not_le, ge_iff_le] at hrest
    obtain ⟨hlow, distance, hdistance, hmultiple, hbelow⟩ := hrest
    rw [BitVec.not_lt, BitVec.le_def] at hlow
    obtain rfl := Except.ok.inj ((sub_eq_ok hlow).symm.trans hdistance)
    have haligned : 2 ^ self.pool.segment_host_bits ∣ self.pool.network.bits.toNat :=
      (Dvd.intro_left _ hvalid.segments_fill).trans hvalid.aligned
    refine ⟨address, haddress, hprefix, ?_, hlow, ?_⟩
    · exact (Nat.dvd_sub_iff_left hlow haligned).mp (Nat.dvd_of_mod_eq_zero hmultiple)
    · rw [Nat.div_lt_iff_lt_mul (Nat.two_pow_pos _), hvalid.segments_fill] at hbelow
      omega

theorem calm_available (p : IpPrefix) (others : List IpPrefix) :
    Calm (ensure_ipv4_segment_available_checked p others) := by
  rw [ensure_ipv4_segment_available_checked_eq]
  exact calm_lift _

/-- A free segment of the pool. -/
structure Vacant (allocator : SegmentIpv4Allocator) (foreign : List IpPrefix) (p : IpPrefix) : Prop where
  in_pool : ∃ address, InPool allocator.pool p address
  unreserved : Avoids p allocator.reserved
  unused : Avoids p foreign

theorem is_taken_eq (self : SegmentIpv4Allocator) (p : IpPrefix) (foreign : List IpPrefix) :
    self.is_taken p foreign = .ok true ∨
      self.is_taken p foreign = .ok false ∧ Avoids p self.reserved ∧ Avoids p foreign := by
  unfold is_taken
  obtain ⟨u, hreserved, herr⟩ | herr := (calm_available p self.reserved).is_err_eq
  · rw [herr]
    change is_err _ = _ ∨ is_err _ = _ ∧ _
    obtain ⟨v, hforeign, herr'⟩ | herr' := (calm_available p foreign).is_err_eq
    · exact .inr ⟨herr', avoids_of_available hreserved, avoids_of_available hforeign⟩
    · exact .inl herr'
  · rw [herr]
    exact .inl rfl

/-- The search over slots never overflows, and what it finds is free. -/
theorem probe_spec (foreign : List IpPrefix) (hvalid : self.pool.Valid) {first : BitVec 32} {offsets : List (BitVec 32)}
    (hfirst : first.toNat < 2 ^ Valid.segment_bits self.pool)
    (hoffsets : ∀ offset ∈ offsets, offset.toNat < 2 ^ Valid.segment_bits self.pool) :
    Calm (self.probe foreign (1#32 <<< Valid.segment_bits self.pool) first offsets) ∧
      ∀ p, self.probe foreign (1#32 <<< Valid.segment_bits self.pool) first offsets = .ok p →
        self.Vacant foreign p := by
  induction offsets with
  | nil => exact ⟨calm_error _, nofun⟩
  | cons offset rest ih =>
    obtain ⟨hoffset, hrest⟩ := List.forall_mem_cons.mp hoffsets
    obtain ⟨hcalm, hfound⟩ := ih hrest
    have hfits : first.toNat + offset.toNat < 2 ^ 32 := by
      have hbits : Valid.segment_bits self.pool ≤ 22 := by
        have := hvalid.room
        have := hvalid.private_space
        unfold Valid.segment_bits
        omega
      have hpow : 2 ^ Valid.segment_bits self.pool ≤ 2 ^ 22 := Nat.pow_le_pow_right (n := 2) (by omega) hbits
      omega
    have hslot : ((first + offset) % (1#32 <<< Valid.segment_bits self.pool)).toNat <
      2 ^ Valid.segment_bits self.pool := by
      rw [BitVec.toNat_umod, hvalid.toNat_segment_count]
      exact Nat.mod_lt _ (Nat.two_pow_pos _)
    have hcandidate := prefix_at_slot hvalid hslot
    obtain ⟨address, hinPool, -⟩ := slot_segment_inPool hvalid hslot
    generalize slot_segment self.pool _ = candidate at hcandidate hinPool
    have hprobe : self.probe foreign (1#32 <<< Valid.segment_bits self.pool) first (offset :: rest) =
        self.is_taken candidate foreign >>= fun taken => if taken = true then
          self.probe foreign (1#32 <<< Valid.segment_bits self.pool) first rest
        else .ok candidate := by
      rw [probe, add_eq_ok hfits]
      change (self.prefix_at _ >>= _) = _
      rw [hcandidate]
      rfl
    rw [hprobe]
    obtain htaken | ⟨hfree, hreserved, hforeign⟩ := self.is_taken_eq candidate foreign
    · rw [htaken]
      exact ⟨hcalm, hfound⟩
    · rw [hfree]
      refine ⟨calm_ok _, fun p hp => ?_⟩
      obtain rfl := Except.ok.inj hp
      exact ⟨⟨address, hinPool⟩, hreserved, hforeign⟩

theorem search_spec (hvalid : self.pool.Valid) (segment : SegmentId) (foreign : List IpPrefix) :
    Calm (self.search segment foreign) ∧ ∀ p, self.search segment foreign = .ok p →
      self.reservations.size < MAX_RESERVED_PAN_SEGMENTS ∧ self.Vacant foreign p := by
  have hfirst : (leading_word (.from_bytes segment.as_bytes) % (1#32 <<< Valid.segment_bits self.pool)).toNat <
      2 ^ Valid.segment_bits self.pool := by
    rw [BitVec.toNat_umod, hvalid.toNat_segment_count]
    exact Nat.mod_lt _ (Nat.two_pow_pos _)
  have hoffsets : ∀ offset ∈ offsets (1#32 <<< Valid.segment_bits self.pool),
      offset.toNat < 2 ^ Valid.segment_bits self.pool := by
    intro offset hoffset
    obtain ⟨index, hindex, rfl⟩ := List.mem_map.mp hoffset
    rw [List.mem_range, hvalid.toNat_segment_count] at hindex
    exact lt_of_le_of_lt (BitVec.toNat_ofNat index 32 ▸ Nat.mod_le _ _) (lt_of_lt_of_le hindex (min_le_left _ _))
  obtain ⟨hcalm, hfound⟩ := probe_spec foreign hvalid hfirst hoffsets
  unfold search ensure_room
  constructor
  · refine .bind (calm_reject_if _) fun _ _ => .of_ok (segment_count_eq hvalid) hcalm
  · intro p hp
    rw [bind_eq_ok_iff] at hp
    obtain ⟨_, hroom, hp⟩ := hp
    rw [segment_count_eq hvalid] at hp
    rw [reject_if_eq_ok] at hroom
    exact ⟨not_le.mp hroom, hfound p hp⟩

/-- What a call that is to reserve a prefix can do. -/
inductive Effect (self : SegmentIpv4Allocator) (foreign : List IpPrefix) :
    CheckedResult IpPrefix × SegmentIpv4Allocator → Prop where
  | refused {fault : Fault CoreError} (hcalm : ∀ reported, fault ≠ .overflow reported) :
      Effect self foreign (.error fault, self)
  | kept {segment : SegmentId} {p : IpPrefix} (hget : self.get segment = some p) (hforeign : Avoids p foreign) :
      Effect self foreign (.ok p, self)
  | reserved {segment : SegmentId} {p : IpPrefix} (hget : self.get segment = none)
      (hroom : self.reservations.size < MAX_RESERVED_PAN_SEGMENTS) (hvacant : self.Vacant foreign p) :
      Effect self foreign (.ok p, { self with reservations := self.reservations.insert segment p })

theorem keep_effect (hget : self.get segment = some p) (foreign : List IpPrefix) :
    self.Effect foreign (ensure_ipv4_segment_available_checked p foreign >>= fun _ => pure p, self) := by
  have hcalm := calm_available p foreign
  cases hcheck : ensure_ipv4_segment_available_checked p foreign with
  | error fault => exact .refused (hcalm.ne_overflow hcheck)
  | ok u => exact .kept hget (avoids_of_available hcheck)

/-- The checks of a prefix for a segment that has none. -/
theorem ensure_vacant_spec (p : IpPrefix) (foreign : List IpPrefix) :
    Calm (self.ensure_vacant p foreign) ∧ ∀ u, self.ensure_vacant p foreign = .ok u →
      self.reservations.size < MAX_RESERVED_PAN_SEGMENTS ∧ Avoids p self.reserved ∧ Avoids p foreign := by
  unfold ensure_vacant ensure_room
  refine ⟨.bind (calm_reject_if _) fun _ _ => (calm_available _ _).bind fun _ _ => calm_available _ _, ?_⟩
  intro u hu
  simp only [bind_eq_ok_iff, reject_if_eq_ok] at hu
  obtain ⟨_, hroom, _, hreserved, hforeign⟩ := hu
  exact ⟨not_le.mp hroom, avoids_of_available hreserved, avoids_of_available hforeign⟩

theorem reserve_exact_effect (hvalid : self.pool.Valid) (segment : SegmentId) (p : IpPrefix) (foreign : List IpPrefix) :
    self.Effect foreign (self.reserve_exact segment p foreign) := by
  unfold reserve_exact
  have hcalm := ensure_prefix_in_pool_calm hvalid p
  cases hensure : self.ensure_prefix_in_pool p with
  | error fault => exact .refused (hcalm.ne_overflow hensure)
  | ok u =>
    cases hget : self.get segment with
    | some existing =>
      dsimp only
      split_ifs with hsame
      · exact keep_effect hget foreign
      · exact .refused nofun
    | none =>
      dsimp only
      obtain ⟨hcalm, hspec⟩ := self.ensure_vacant_spec p foreign
      cases hvacant : self.ensure_vacant p foreign with
      | error fault => exact .refused (hcalm.ne_overflow hvacant)
      | ok u =>
        obtain ⟨hroom, hreserved, hforeign⟩ := hspec u hvacant
        exact .reserved hget hroom ⟨inPool_of_ensure hvalid hensure, hreserved, hforeign⟩

theorem reserve_bootstrap_effect (hvalidate : self.pool.validate = .ok ()) (network : NetworkId) (segment : SegmentId)
    (foreign : List IpPrefix) : self.Effect foreign (self.reserve_bootstrap network segment foreign) := by
  unfold reserve_bootstrap
  rw [Ipv4StarAddressPlan.for_network_checked_eq network hvalidate]
  have hcalm := calm_lift (Ipv4StarAddressPlan.for_network network self.pool)
  cases hplan : lift (Ipv4StarAddressPlan.for_network network self.pool) with
  | error fault => exact .refused (hcalm.ne_overflow hplan)
  | ok plan => exact reserve_exact_effect (valid_of_validate hvalidate) segment plan.segment foreign

theorem allocate_effect (hvalid : self.pool.Valid) (segment : SegmentId) (foreign : List IpPrefix) :
    self.Effect foreign (self.allocate segment foreign) := by
  unfold allocate
  cases hget : self.get segment with
  | some existing => exact keep_effect hget foreign
  | none =>
    dsimp only
    obtain ⟨hcalm, hfound⟩ := search_spec hvalid segment foreign
    cases hsearch : self.search segment foreign with
    | error fault => exact .refused (hcalm.ne_overflow hsearch)
    | ok candidate =>
      obtain ⟨hroom, hvacant⟩ := hfound candidate hsearch
      exact .reserved hget hroom hvacant

/-- The reservations of an allocator are segments of its pool that share no address. -/
structure Sound (allocator : SegmentIpv4Allocator) : Prop where
  validated : allocator.pool.validate = .ok ()
  in_pool : ∀ segment p, allocator.get segment = some p → ∃ address, InPool allocator.pool p address
  disjoint : ∀ segment other p q, segment ≠ other → allocator.get segment = some p → allocator.get other = some q →
    ¬ p.SharesAddress q
  bounded : allocator.reservations.size ≤ MAX_RESERVED_PAN_SEGMENTS

theorem sound_new {pool : Ipv4AddressPool} (h : new pool = .ok self) : self.Sound := by
  rw [new, bind_eq_ok_iff] at h
  obtain ⟨u, hvalidate, hself⟩ := h
  obtain rfl := Except.ok.inj hself
  exact ⟨hvalidate, by simp [get], by simp [get], by simp⟩

theorem get_insert (other : SegmentId) :
    get { self with reservations := self.reservations.insert segment p } other =
      if segment = other then some p else self.get other :=
  Ordered.getElem?_insert_eq ..

theorem Sound.reserve (h : self.Sound) (hget : self.get segment = none)
    (hroom : self.reservations.size < MAX_RESERVED_PAN_SEGMENTS) (hvacant : self.Vacant foreign p) :
    Sound { self with reservations := self.reservations.insert segment p } := by
  have hvalid := valid_of_validate h.validated
  -- every other reservation is one that the new prefix was checked against
  have havoids (other : SegmentId) (q : IpPrefix) (hq : self.get other = some q) : ¬ p.SharesAddress q := by
    obtain ⟨address, hinPool⟩ := h.in_pool other q hq
    refine hvacant.unreserved q ?_ (hinPool.canonical hvalid).isIpv4.address (hinPool.len_ne_zero hvalid)
    exact List.mem_map.mpr ⟨(other, q), Ordered.mem_toList.mpr hq, rfl⟩
  refine ⟨h.validated, fun other q hq => ?_, fun first second q r hne hq hr => ?_, ?_⟩
  · rw [get_insert] at hq
    split_ifs at hq
    · obtain rfl := Option.some.inj hq
      exact hvacant.in_pool
    · exact h.in_pool other q hq
  · rw [get_insert] at hq hr
    split_ifs at hq hr with hfirst hsecond hsecond
    · exact absurd (hfirst.symm.trans hsecond) hne
    · obtain rfl := Option.some.inj hq
      exact havoids second r hr
    · obtain rfl := Option.some.inj hr
      intro hshares
      exact havoids first q hq (by rwa [IpPrefix.SharesAddress, Set.inter_comm])
    · exact h.disjoint first second q r hne hq hr
  · have hfree : segment ∉ self.reservations := by
      intro hmem
      obtain ⟨q, hq⟩ := Ordered.mem_iff_exists.mp hmem
      cases hget.symm.trans hq
    rw [Ordered.size_insert_of_notMem p hfree]
    exact hroom

theorem Sound.release (h : self.Sound) (segment : SegmentId) : (self.release segment).2.Sound := by
  have hkept (other : SegmentId) (q : IpPrefix) (hq : (self.release segment).2.get other = some q) :
      self.get other = some q := by
    rw [get, SegmentIpv4Allocator.release, Ordered.getElem?_erase_eq] at hq
    split_ifs at hq
    exact hq
  refine ⟨h.validated, fun other q hq => h.in_pool other q (hkept other q hq), ?_, ?_⟩
  · intro first second q r hne hq hr
    exact h.disjoint first second q r hne (hkept first q hq) (hkept second r hr)
  · exact Std.ExtTreeMap.size_erase_le.trans h.bounded

theorem Sound.effect (h : self.Sound) {result : CheckedResult IpPrefix} (heffect : self.Effect foreign (result, next)) :
    next.Sound ∧ next.pool = self.pool := by
  cases heffect with
  | refused | kept => exact ⟨h, rfl⟩
  | reserved hget hroom hvacant => exact ⟨h.reserve hget hroom hvacant, rfl⟩

end SegmentIpv4Allocator

section Steps

variable {allocator next : SegmentIpv4Allocator} {label : AllocatorLabel}

/-- A call either releases a segment or is to reserve a prefix. -/
theorem step_cases (h : allocator.Sound) (hstep : AllocatorStep allocator label next) :
    (∃ segment, label = ⟨.release segment, .released (allocator.get segment)⟩ ∧ next = (allocator.release segment).2) ∨
      ∃ result, label.outcome = .reserved result ∧ allocator.Effect label.call.foreign (result, next) := by
  have hvalid := valid_of_validate h.validated
  obtain ⟨call, outcome⟩ := label
  obtain rfl : (call.run allocator).1 = outcome := congrArg Prod.fst hstep
  obtain rfl : (call.run allocator).2 = next := congrArg Prod.snd hstep
  cases call with
  | reserve_bootstrap network segment foreign =>
    exact .inr ⟨_, rfl, reserve_bootstrap_effect h.validated network segment foreign⟩
  | reserve_exact segment p foreign => exact .inr ⟨_, rfl, reserve_exact_effect hvalid segment p foreign⟩
  | allocate segment foreign => exact .inr ⟨_, rfl, allocate_effect hvalid segment foreign⟩
  | release segment => exact .inl ⟨segment, rfl, rfl⟩

theorem sound_step (h : allocator.Sound) (hstep : AllocatorStep allocator label next) :
    next.Sound ∧ next.pool = allocator.pool := by
  obtain ⟨segment, -, rfl⟩ | ⟨result, -, heffect⟩ := step_cases h hstep
  · exact ⟨h.release segment, rfl⟩
  · exact h.effect heffect

end Steps

theorem sound_of_run {pool : Ipv4AddressPool} {init allocator : SegmentIpv4Allocator} {labels : List AllocatorLabel}
    (hnew : new pool = .ok init) (hrun : Runs.Run AllocatorStep init labels allocator) :
    allocator.Sound ∧ allocator.pool = pool := by
  have hpool : init.pool = pool := by
    rw [new, bind_eq_ok_iff] at hnew
    obtain ⟨u, -, hinit⟩ := hnew
    exact congrArg SegmentIpv4Allocator.pool (Except.ok.inj hinit).symm
  refine hrun.invariant (fun allocator => allocator.Sound ∧ allocator.pool = pool) ?_
    ⟨sound_new hnew, hpool⟩
  rintro allocator label next ⟨hsound, rfl⟩ hstep
  exact sound_step hsound hstep

/-- Any calls on an allocator of a validated pool. Its reservations are segments of the pool that share
no address, and at most 256; a prefix that is returned shares no address with the foreign ones,
default routes excepted; no operation overflows; and a call that fails changes nothing. -/
theorem segment_allocator_runs {pool : Ipv4AddressPool} {init allocator : SegmentIpv4Allocator}
    {labels : List AllocatorLabel} (hnew : new pool = .ok init)
    (hrun : Runs.Run AllocatorStep init labels allocator) :
    (∀ segment other p q, segment ≠ other → allocator.get segment = some p → allocator.get other = some q →
      ¬ p.SharesAddress q) ∧
    (∀ segment p, allocator.get segment = some p → (∃ address, p.Canonical address) ∧
      p.prefix_len = pool.segment_prefix_len ∧ p.block ⊆ Bits.Block pool.pool_host_bits pool.network.bits) ∧
    allocator.reservations.size ≤ 256 ∧
    ∀ label next, AllocatorStep allocator label next →
      (∀ p, label.outcome = .reserved (.ok p) → ∀ other ∈ label.call.foreign, other.address.is_ipv4 = true →
        other.prefix_len ≠ 0 → ¬ p.SharesAddress other) ∧
      ∀ fault, label.outcome = .reserved (.error fault) → next = allocator ∧
        ∀ reported, fault ≠ .overflow reported := by
  obtain ⟨hsound, rfl⟩ := sound_of_run hnew hrun
  have hvalid := valid_of_validate hsound.validated
  refine ⟨hsound.disjoint, fun segment p hp => ?_, hsound.bounded, fun label next hstep => ?_⟩
  · obtain ⟨address, hinPool⟩ := hsound.in_pool segment p hp
    exact ⟨⟨address, hinPool.canonical hvalid⟩, hinPool.len, hinPool.block_subset hvalid⟩
  · obtain ⟨segment, rfl, -⟩ | ⟨result, houtcome, heffect⟩ := step_cases hsound hstep
    · exact ⟨nofun, nofun⟩
    · rw [houtcome]
      cases heffect with
      | refused hcalm =>
        refine ⟨nofun, fun fault hfault => ⟨rfl, ?_⟩⟩
        obtain rfl := Except.error.inj (AllocatorOutcome.reserved.inj hfault)
        exact hcalm
      | kept hget hforeign =>
        refine ⟨fun p hp => ?_, nofun⟩
        obtain rfl := Except.ok.inj (AllocatorOutcome.reserved.inj hp)
        exact hforeign
      | reserved hget hroom hvacant =>
        refine ⟨fun p hp => ?_, nofun⟩
        obtain rfl := Except.ok.inj (AllocatorOutcome.reserved.inj hp)
        exact hvacant.unused

namespace sample

def init : SegmentIpv4Allocator := { pool := .default, reservations := ∅ }

/-- The slot that segment 1 comes to first, held by the host. -/
def foreign : List IpPrefix := [⟨.V4 (.new 10 201 1 0), 24⟩]

def calls : List AllocatorCall := [.allocate (.filled 1) foreign, .allocate (.filled 2) []]

def run : List AllocatorLabel × SegmentIpv4Allocator := Runs.trace .mk AllocatorCall.run init calls

end sample

/-- Two segments of the default pool, the first moved on from the slot that is in use. -/
theorem segment_allocator_runs_sample :
    sample.run.2.get (.filled 1) = some ⟨.V4 (.new 10 201 2 0), 24⟩ ∧
      sample.run.2.get (.filled 2) = some ⟨.V4 (.new 10 201 3 0), 24⟩ ∧
      sample.run.2.reservations.size ≤ 256 := by
  have hrun : Runs.Run AllocatorStep sample.init sample.run.1 sample.run.2 := .trace (fun _ _ => rfl) _ _
  have hnew : new .default = .ok sample.init := rfl
  exact ⟨rfl, rfl, (segment_allocator_runs hnew hrun).2.2.1⟩

end blueroute.segment_allocator
