import BlueRoute.Core.SegmentAllocator.Completeness

namespace blueroute.segment_allocator

open net Fallible Checked Ipv4AddressPool Ipv4StarAddressPlan

theorem pool_is_rfc1918_of_validate {pool : Ipv4AddressPool} {u : Unit} (h : pool.validate = .ok u) :
    pool_is_rfc1918 pool.network pool.pool_prefix_len = true := by
  simp only [validate, bind_eq_ok_iff, reject_if_eq_ok, not_not, exists_const] at h
  exact h.2.2.2.2

/-- A canonical prefix is its own normal form. -/
theorem normalized_of_canonical {p : IpPrefix} {address : Ipv4Addr} (h : p.Canonical address) :
    normalized_ipv4_prefix p = .ok p := by
  obtain ⟨start, hstart, hnormal⟩ := normalized_ipv4_prefix_eq_ok h.address_eq h.len
  have hsame : start = address := by
    refine congrArg Ipv4Addr.mk (BitVec.eq_of_toNat_eq ?_)
    rw [hstart, Bits.align, Nat.div_mul_cancel h.aligned]
  rw [hnormal, hsame, ← h.address_eq]

namespace SegmentIpv4Allocator

variable {self : SegmentIpv4Allocator} {slot : Nat}

/-- Every segment of the pool passes the check. -/
theorem ensure_prefix_in_pool_slot (hvalid : self.pool.Valid) (hslot : slot < slots self.pool) :
    self.ensure_prefix_in_pool (slot_segment self.pool slot) = .ok () := by
  obtain ⟨address, hinPool, haddress⟩ := slot_segment_inPool hvalid hslot
  have hlen : self.pool.segment_prefix_len.toNat ≤ 32 := hvalid.room.trans (by decide)
  have hcanonical : self.is_canonical (slot_segment self.pool slot) = .ok true := by
    rw [is_canonical, if_neg (not_not.mpr hinPool.len), normalized_ipv4_prefix_checked_eq,
      normalized_of_canonical (hinPool.canonical hvalid)]
    exact congrArg Except.ok (decide_eq_true rfl)
  have hlow : ¬ address.bits < self.pool.network.bits := by
    rw [BitVec.not_lt, BitVec.le_def]
    exact hinPool.low
  have hdistance : address.bits.toNat - self.pool.network.bits.toNat = slot * 2 ^ self.pool.segment_host_bits := by
    rw [haddress, Nat.add_sub_cancel_left]
  have hsize : (1#32 <<< (32 - self.pool.segment_prefix_len.toNat)).toNat = 2 ^ self.pool.segment_host_bits :=
    toNat_size hvalid
  rw [ensure_prefix_in_pool, hcanonical, hinPool.address_eq]
  simp only [bind_eq_ok_iff, reject_if_eq_ok, Except.ok.injEq, exists_eq_left', exists_const, Bool.true_eq_false,
    not_false_eq_true, true_and, sub_eq_ok hlen]
  refine ⟨_, shl_eq_ok hvalid.segment_host_bits_lt, hlow, _, sub_eq_ok hinPool.low, ?_, _, segment_count_eq hvalid, ?_⟩
  · rw [not_not, hsize, hdistance]
    exact Nat.mul_mod_left _ _
  · rw [hsize, hvalid.toNat_segment_count, hdistance, Nat.mul_div_cancel _ (Nat.two_pow_pos _)]
    exact not_le.mpr hslot

theorem available_nil {p : IpPrefix} (hp : p.IsIpv4) : ensure_ipv4_segment_available_checked p [] = .ok () :=
  (available_iff hp).mpr fun _ hin => absurd hin List.not_mem_nil

/-- A fresh allocator reserves any segment of its pool. -/
theorem reserve_exact_fresh {pool : Ipv4AddressPool} (hnew : new pool = .ok self) (segment : SegmentId)
    (hslot : slot < slots pool) :
    (self.reserve_exact segment (slot_segment pool slot) []).1 = .ok (slot_segment pool slot) ∧
      (self.reserve_exact segment (slot_segment pool slot) []).2.get segment = some (slot_segment pool slot) := by
  rw [new, bind_eq_ok_iff] at hnew
  obtain ⟨u, hvalidate, hself⟩ := hnew
  obtain rfl := Except.ok.inj hself
  have hvalid := valid_of_validate hvalidate
  obtain ⟨address, hinPool, -⟩ := slot_segment_inPool hvalid hslot
  have havailable := available_nil (hinPool.canonical hvalid).isIpv4
  have hensure : ensure_prefix_in_pool { pool, reservations := ∅ } (slot_segment pool slot) = .ok () :=
    ensure_prefix_in_pool_slot hvalid hslot
  have hvacant : ensure_vacant { pool, reservations := ∅ } (slot_segment pool slot) [] = .ok () := by
    have hreserved : reserved { pool, reservations := ∅ } = [] := rfl
    have hroom : ensure_room { pool, reservations := ∅ } = .ok () := rfl
    rw [ensure_vacant, hroom, hreserved, havailable]
    rfl
  have hget : get { pool, reservations := ∅ } segment = none := Std.ExtTreeMap.getElem?_empty
  rw [reserve_exact, hensure]
  dsimp only
  rw [hget]
  dsimp only
  rw [hvacant]
  exact ⟨rfl, Ordered.getElem?_insert_eq .. |>.trans (if_pos rfl)⟩

end SegmentIpv4Allocator

/-- The plan of a network, written out. -/
theorem for_network_checked_eq_ok (network : NetworkId) {pool : Ipv4AddressPool} (hvalidate : pool.validate = .ok ()) :
    ∃ slot < slots pool, ∃ start : BitVec 32,
      start.toNat = pool.network.bits.toNat + slot * 2 ^ pool.segment_host_bits ∧
      start.toNat + 4 ≤ 2 ^ 32 ∧
      for_network_checked network pool = .ok
        { segment := slot_segment pool slot
          host := ⟨.V4 ⟨start + 1#32⟩, pool.segment_prefix_len⟩
          first_client := ⟨.V4 ⟨start + 2#32⟩, pool.segment_prefix_len⟩ } := by
  have hvalid := valid_of_validate hvalidate
  have hselector := selector_lt network hvalid
  obtain ⟨hfits, hroom⟩ := additions_fit hvalid hselector
  have hoffset := hvalid.toNat_offset hselector
  have hlen : pool.segment_prefix_len.toNat ≤ 32 := hvalid.room.trans (by decide)
  have hstart : (pool.network.bits +
      (leading_word network % (1#32 <<< Valid.segment_bits pool)) <<< pool.segment_host_bits).toNat =
        pool.network.bits.toNat +
          (leading_word network % (1#32 <<< Valid.segment_bits pool)).toNat * 2 ^ pool.segment_host_bits := by
    rw [BitVec.toNat_add, Nat.mod_eq_of_lt hfits, hoffset]
  refine ⟨_, hselector, _, hstart, hroom, ?_⟩
  rw [for_network_checked_eq network hvalidate, lift_eq_ok_iff]
  simp only [for_network, bind_eq_ok_iff, ok_or_eq_ok, IpPrefix.new_eq_ok_iff]
  refine ⟨(), hvalidate, _, if_pos hfits, _, if_pos ?_, _, if_pos ?_, _, ⟨hlen, rfl⟩, _, ⟨hlen, rfl⟩, _,
    ⟨hlen, rfl⟩, ?_⟩
  · exact lt_of_lt_of_le (Nat.add_lt_add_left (by decide) _) hroom
  · exact lt_of_lt_of_le (Nat.add_lt_add_left (by decide) _) hroom
  · rw [slot_segment, ← hstart, BitVec.ofNat_toNat, BitVec.setWidth_eq]
    rfl

/-- The first and the last address of a block. -/
def network_address (p : IpPrefix) (address : BitVec 32) : Prop :=
  address ∈ p.block ∧ ∀ word ∈ p.block, address ≤ word

def broadcast_address (p : IpPrefix) (address : BitVec 32) : Prop :=
  address ∈ p.block ∧ ∀ word ∈ p.block, word ≤ address

/-- An address of a block that a host can have. -/
structure HostAddress (p : IpPrefix) (address : BitVec 32) : Prop where
  mem : address ∈ p.block
  not_network : ¬ network_address p address
  not_broadcast : ¬ broadcast_address p address

/-- The addresses strictly inside a segment are host addresses. -/
theorem hostAddress_of_lt {pool : Ipv4AddressPool} {p : IpPrefix} {address : Ipv4Addr} (h : InPool pool p address)
    (hend : address.bits.toNat + 2 ^ pool.segment_host_bits ≤ 2 ^ 32) {word : BitVec 32}
    (hlow : address.bits.toNat < word.toNat)
    (hhigh : word.toNat + 1 < address.bits.toNat + 2 ^ pool.segment_host_bits) : HostAddress p word := by
  have hmem (word : BitVec 32) : word ∈ p.block ↔
      address.bits.toNat ≤ word.toNat ∧ word.toNat ≤ address.bits.toNat + (2 ^ pool.segment_host_bits - 1) := by
    have hbits : p.host_bits = pool.segment_host_bits := by rw [IpPrefix.host_bits, h.len, segment_host_bits]
    rw [IpPrefix.block, h.address_eq]
    dsimp only
    rw [hbits, Bits.mem_block_of_dvd h.aligned]
  have hnext : (word + 1#32).toNat = word.toNat + 1 := by
    rw [BitVec.toNat_add, show (1#32).toNat = 1 from rfl, Nat.mod_eq_of_lt (by omega)]
  refine ⟨(hmem word).mpr (by omega), fun hfirst => ?_, fun hlast => ?_⟩
  · have hle := hfirst.2 address.bits ((hmem _).mpr (by omega))
    rw [BitVec.le_def] at hle
    omega
  · have hle := hlast.2 (word + 1#32) ((hmem _).mpr (by omega))
    rw [BitVec.le_def] at hle
    omega

/-- The star plan of a network in a validated pool. No operation overflows, its segment is one of the
pool's blocks and private, the addresses of the host and of the client are two host addresses of it, and a
fresh allocator reserves exactly that segment. -/
theorem star_plan_fits (network : NetworkId) (pool : Ipv4AddressPool) (hvalidate : pool.validate = .ok ()) :
    ∃ plan slot host first_client, for_network_checked network pool = .ok plan ∧
      for_network network pool = .ok plan ∧
      slot < slots pool ∧ plan.segment = slot_segment pool slot ∧
      (∀ word ∈ plan.segment.block, IsRfc1918 word) ∧
      plan.host = ⟨.V4 ⟨host⟩, pool.segment_prefix_len⟩ ∧ HostAddress plan.segment host ∧
      plan.first_client = ⟨.V4 ⟨first_client⟩, pool.segment_prefix_len⟩ ∧ HostAddress plan.segment first_client ∧
      host ≠ first_client ∧
      ∀ allocator, SegmentIpv4Allocator.new pool = .ok allocator → ∀ segment,
        (allocator.reserve_bootstrap network segment []).1 = .ok plan.segment ∧
          (allocator.reserve_bootstrap network segment []).2.get segment = some plan.segment := by
  have hvalid := valid_of_validate hvalidate
  have hsize := hvalid.four_le_segment_size
  obtain ⟨slot, hslot, start, hstart, hroom, hplan⟩ := for_network_checked_eq_ok network hvalidate
  obtain ⟨address, hinPool, haddress⟩ := slot_segment_inPool hvalid hslot
  have hend : address.bits.toNat + 2 ^ pool.segment_host_bits ≤ 2 ^ 32 := by
    have := hvalid.segment_end_le hslot
    have := hvalid.network_add_le
    omega
  have hhost : (start + 1#32).toNat = start.toNat + 1 := by
    rw [BitVec.toNat_add, show (1#32).toNat = 1 from rfl, Nat.mod_eq_of_lt (by omega)]
  have hclient : (start + 2#32).toNat = start.toNat + 2 := by
    rw [BitVec.toNat_add, show (2#32).toNat = 2 from rfl, Nat.mod_eq_of_lt (by omega)]
  refine ⟨_, slot, start + 1#32, start + 2#32, hplan, ?_, hslot, rfl, fun word hword => ?_, rfl, ?_, rfl, ?_,
    fun hsame => ?_, fun allocator hnew segment => ?_⟩
  · rw [for_network_checked_eq network hvalidate] at hplan
    exact lift_eq_ok_iff.mp hplan
  · exact isRfc1918_of_pool (pool_is_rfc1918_of_validate hvalidate) (hinPool.block_subset hvalid hword)
  · exact hostAddress_of_lt hinPool hend (by omega) (by omega)
  · exact hostAddress_of_lt hinPool hend (by omega) (by omega)
  · have := congrArg BitVec.toNat hsame
    omega
  · have hpool : allocator.pool = pool := (sound_of_run hnew .nil).2
    rw [SegmentIpv4Allocator.reserve_bootstrap, hpool, hplan]
    exact SegmentIpv4Allocator.reserve_exact_fresh hnew segment hslot

theorem star_plan_fits_default :
    ∃ slot < 256, ∃ plan, for_network_checked (.filled 7) .default = .ok plan ∧
      plan.segment = slot_segment .default slot ∧
      (sample.init.reserve_bootstrap (.filled 7) (.filled 1) []).2.get (.filled 1) = some plan.segment := by
  obtain ⟨plan, slot, -, -, hplan, -, hslot, hsegment, -, -, -, -, -, -, hreserve⟩ :=
    star_plan_fits (.filled 7) .default rfl
  exact ⟨slot, hslot, plan, hplan, hsegment, (hreserve sample.init rfl (.filled 1)).2⟩

end blueroute.segment_allocator
