import BlueRoute.Core.Config

namespace blueroute

open net Fallible Ipv4AddressPool

/-- `u32::checked_add` -/
def checked_add (left right : BitVec 32) : Option (BitVec 32) :=
  if left.toNat + right.toNat < 2 ^ 32 then some (left + right) else none

theorem checked_add_eq_some {left right sum : BitVec 32} (h : checked_add left right = some sum) :
    sum = left + right ∧ sum.toNat = left.toNat + right.toNat := by
  unfold checked_add at h
  split at h
  · obtain rfl := Option.some.inj h
    exact ⟨rfl, by rw [BitVec.toNat_add, Nat.mod_eq_of_lt ‹_›]⟩
  · cases h

/-- Deterministic IPv4 addresses for the initial single-star topology. -/
structure Ipv4StarAddressPlan where
  segment : IpPrefix
  host : IpPrefix
  first_client : IpPrefix
deriving DecidableEq

/-- `u32::from_be_bytes` of the first four identity bytes -/
def leading_word (network : NetworkId) : BitVec 32 :=
  let bytes := network.as_bytes
  bytes[0].toBitVec ++ bytes[1].toBitVec ++ bytes[2].toBitVec ++ bytes[3].toBitVec

def Ipv4StarAddressPlan.for_network (network : NetworkId) (pool : Ipv4AddressPool) :
    Result Ipv4StarAddressPlan := do
  pool.validate
  let segment_bits := pool.segment_prefix_len.toNat - pool.pool_prefix_len.toNat
  let segment_count := 1#32 <<< segment_bits
  let selector := leading_word network % segment_count
  let segment_host_bits := 32 - pool.segment_prefix_len.toNat
  let segment_offset := selector <<< segment_host_bits
  let segment_network ← ok_or (checked_add pool.network.bits segment_offset)
    (.new .InvalidInput "IPv4 pool overflow")
  let host ← ok_or (checked_add segment_network 1#32)
    (.new .InvalidInput "IPv4 host address overflow")
  let first_client ← ok_or (checked_add segment_network 2#32)
    (.new .InvalidInput "IPv4 client address overflow")
  let segment ← IpPrefix.new (.V4 { bits := segment_network }) pool.segment_prefix_len
  let host ← IpPrefix.new (.V4 { bits := host }) pool.segment_prefix_len
  let first_client ← IpPrefix.new (.V4 { bits := first_client }) pool.segment_prefix_len
  pure { segment, host, first_client }

def ipv4_mask (prefix_len : UInt8) : Result (BitVec 32) :=
  if prefix_len > 32 then
    .error (.new .InvalidInput "IPv4 prefix length cannot exceed 32")
  else if prefix_len = 0 then .ok 0#32
  else .ok (BitVec.allOnes 32 <<< (32 - prefix_len.toNat))

def normalized_ipv4_prefix (p : IpPrefix) : Result IpPrefix :=
  match p.address with
  | .V6 _ => .error (.new .InvalidInput "expected an IPv4 prefix")
  | .V4 address => do
    let mask ← ipv4_mask p.prefix_len
    IpPrefix.new (.V4 { bits := address.bits &&& mask }) p.prefix_len

def ipv4_prefixes_overlap (left right : IpPrefix) : Bool :=
  match left.address, right.address with
  | .V4 left_address, .V4 right_address =>
    let left_host_bits := 32 - left.prefix_len.toNat
    let right_host_bits := 32 - right.prefix_len.toNat
    let left_end := left_address.bits ||| host_mask left_host_bits
    let right_end := right_address.bits ||| host_mask right_host_bits
    left_address.bits ≤ right_end && right_address.bits ≤ left_end
  | _, _ => false

def segment_conflict (candidate p : IpPrefix) : CoreError :=
  .with_diagnostic .AddressConflict "BlueRoute IPv4 segment overlaps an active local network"
    (s!"candidate={candidate.address.to_string}/{candidate.prefix_len.toNat} " ++
      s!"conflicting={p.address.to_string}/{p.prefix_len.toNat}")

/-- Rejects an IPv4 segment that overlaps any active non-default IPv4 prefix. -/
def ensure_ipv4_segment_available (candidate : IpPrefix) (active : List IpPrefix) : Result Unit := do
  let candidate ← normalized_ipv4_prefix candidate
  check_each (fun p =>
    if !p.address.is_ipv4 || p.prefix_len = 0 then .ok ()
    else do
      let p ← normalized_ipv4_prefix p
      reject_if (ipv4_prefixes_overlap candidate p) (segment_conflict candidate p)) active

/-- An address of one of the private ranges. -/
def IsRfc1918 (word : BitVec 32) : Prop :=
  ∃ range ∈ PRIVATE_RANGES, word ∈ Bits.Block (32 - range.2) range.1

/-- A pool in private space has private addresses only. -/
theorem isRfc1918_of_pool {network : Ipv4Addr} {prefix_len : UInt8} (h : pool_is_rfc1918 network prefix_len = true)
    {word : BitVec 32} (hword : word ∈ Bits.Block (32 - prefix_len.toNat) network.bits) : IsRfc1918 word := by
  obtain ⟨⟨private_network, private_len⟩, hrange, hcontains⟩ := List.any_eq_true.mp h
  dsimp only at hcontains
  split_ifs at hcontains with hshort
  have hmasked : private_network.toNat = Bits.align (32 - private_len) network.bits.toNat := by
    rw [← eq_of_beq hcontains]
    exact Bits.toNat_and_high_mask _ _
  refine ⟨_, hrange, Bits.mem_block_iff.mpr ?_⟩
  dsimp only
  -- agreement on more bits gives agreement on fewer
  have hsplit : 2 ^ (32 - private_len) = 2 ^ (32 - prefix_len.toNat) *
    2 ^ (32 - private_len - (32 - prefix_len.toNat)) := by
    rw [← pow_add]
    congr 1
    omega
  rw [hmasked, Bits.align_div, hsplit, ← Nat.div_div_eq_div_mul, ← Nat.div_div_eq_div_mul, Bits.mem_block_iff.mp hword]

/-! The blocks of addresses that prefixes stand for. -/

namespace IpPrefix

def host_bits (p : IpPrefix) : Nat := 32 - p.prefix_len.toNat

/-- The IPv4 addresses that agree with a prefix on its network part. -/
def block (p : IpPrefix) : Set (BitVec 32) :=
  match p.address with
  | .V4 address => Bits.Block p.host_bits address.bits
  | .V6 _ => ∅

/-- Some address belongs to both blocks. -/
def SharesAddress (left right : IpPrefix) : Prop := (left.block ∩ right.block).Nonempty

/-- An IPv4 prefix as `IpPrefix::new` returns it. -/
structure IsIpv4 (p : IpPrefix) : Prop where
  address : p.address.is_ipv4 = true
  len : p.prefix_len.toNat ≤ 32

/-- A block given by its first address. -/
structure Canonical (p : IpPrefix) (address : Ipv4Addr) : Prop where
  address_eq : p.address = .V4 address
  len : p.prefix_len.toNat ≤ 32
  aligned : 2 ^ p.host_bits ∣ address.bits.toNat

theorem IsIpv4.exists_address {p : IpPrefix} (h : p.IsIpv4) : ∃ address, p.address = .V4 address := by
  cases haddress : p.address with
  | V4 address => exact ⟨address, rfl⟩
  | V6 address => exact absurd h.address (by simp [haddress, IpAddr.is_ipv4])

theorem Canonical.isIpv4 {p : IpPrefix} {address : Ipv4Addr} (h : p.Canonical address) : p.IsIpv4 :=
  ⟨by rw [h.address_eq]; rfl, h.len⟩

end IpPrefix

open IpPrefix

theorem ipv4_mask_eq_ok {prefix_len : UInt8} (hlen : prefix_len.toNat ≤ 32) :
    ipv4_mask prefix_len = .ok (BitVec.allOnes 32 <<< (32 - prefix_len.toNat)) := by
  have hle : ¬ prefix_len > 32 := UInt8.not_lt.mpr hlen
  unfold ipv4_mask
  rw [if_neg hle]
  split
  · subst prefix_len
    decide
  · rfl

/-- Normalising keeps the length and the block and clears the host bits. -/
theorem normalized_ipv4_prefix_eq_ok {p : IpPrefix} {address : Ipv4Addr} (haddress : p.address = .V4 address)
    (hlen : p.prefix_len.toNat ≤ 32) :
    ∃ start : Ipv4Addr, start.bits.toNat = Bits.align p.host_bits address.bits.toNat ∧
      normalized_ipv4_prefix p = .ok ⟨.V4 start, p.prefix_len⟩ := by
  refine ⟨⟨address.bits &&& (BitVec.allOnes 32 <<< p.host_bits)⟩, Bits.toNat_and_high_mask _ _, ?_⟩
  have hmax : p.prefix_len ≤ maximum (.V4 ⟨address.bits &&& (BitVec.allOnes 32 <<< p.host_bits)⟩) :=
    hlen
  simp only [haddress, normalized_ipv4_prefix, bind_eq_ok_iff]
  exact ⟨_, ipv4_mask_eq_ok hlen, new_eq_ok_iff.mpr ⟨hmax, rfl⟩⟩

theorem exists_normalized {p : IpPrefix} (h : p.IsIpv4) :
    ∃ q start, normalized_ipv4_prefix p = .ok q ∧ q.Canonical start ∧ q.block = p.block ∧
      q.prefix_len = p.prefix_len := by
  obtain ⟨address, haddress⟩ := h.exists_address
  obtain ⟨start, hstart, hnormalized⟩ := normalized_ipv4_prefix_eq_ok haddress h.len
  refine ⟨_, start, hnormalized, ⟨rfl, h.len, ?_⟩, ?_, rfl⟩
  · rw [hstart]
    exact Bits.dvd_align _ _
  · simp only [block, haddress]
    refine Bits.block_congr ?_
    rw [hstart]
    exact Bits.align_div _ _

theorem ipv4_prefixes_overlap_iff {left right : IpPrefix} {left_address right_address : Ipv4Addr}
    (hleft : left.Canonical left_address) (hright : right.Canonical right_address) :
    ipv4_prefixes_overlap left right = true ↔ left.SharesAddress right := by
  have hleft_end := Bits.toNat_or_low_mask hleft.aligned (toNat_host_mask (Nat.sub_le 32 _))
  have hright_end := Bits.toNat_or_low_mask hright.aligned (toNat_host_mask (Nat.sub_le 32 _))
  have hoverlap := Bits.overlap_iff_inter_nonempty hleft.aligned hright.aligned
  simp only [ipv4_prefixes_overlap, SharesAddress, block, hleft.address_eq,
    hright.address_eq, Bool.and_eq_true, decide_eq_true_eq, BitVec.le_def, ← hoverlap]
  rw [← hleft_end, ← hright_end]
  rfl

theorem isIpv4_of_normalized {p q : IpPrefix} (h : normalized_ipv4_prefix p = .ok q) : p.IsIpv4 := by
  unfold normalized_ipv4_prefix at h
  split at h
  · cases h
  · rename_i address haddress
    simp only [bind_eq_ok_iff, new_eq_ok_iff] at h
    obtain ⟨mask, -, hlen, -⟩ := h
    exact ⟨by rw [haddress]; rfl, hlen⟩

/-- A segment is available exactly when every IPv4 prefix of the list, default routes excepted, has a
length and shares no address with it. -/
theorem ensure_ipv4_segment_available_eq_ok_iff {candidate : IpPrefix} {active : List IpPrefix} {u : Unit}
    (hcandidate : candidate.IsIpv4) :
    ensure_ipv4_segment_available candidate active = .ok u ↔
      ∀ p ∈ active, p.address.is_ipv4 = true → p.prefix_len ≠ 0 →
        p.prefix_len.toNat ≤ 32 ∧ ¬ candidate.SharesAddress p := by
  obtain ⟨normal, start, hnormal, hcanonical, hblock, -⟩ := exists_normalized hcandidate
  rw [ensure_ipv4_segment_available, hnormal]
  change check_each _ active = .ok u ↔ _
  rw [check_each_eq_ok_iff]
  refine forall₂_congr fun p _ => ?_
  by_cases hskip : p.address.is_ipv4 = true ∧ p.prefix_len ≠ 0
  · obtain ⟨hipv4, hdefault⟩ := hskip
    simp only [hipv4, hdefault, Bool.not_true, decide_false, Bool.or_self, Bool.false_eq_true, if_false, bind_eq_ok_iff,
      reject_if_eq_ok, ne_eq, not_false_eq_true, forall_const]
    -- a prefix that can be normalised is compared by its block
    have hoverlap : ∀ q, normalized_ipv4_prefix p = .ok q →
        (ipv4_prefixes_overlap normal q = true ↔ candidate.SharesAddress p) := by
      intro q hq
      obtain ⟨q', q_start, hq', hq_canonical, hq_block, -⟩ := exists_normalized (isIpv4_of_normalized hq)
      obtain rfl := Except.ok.inj (hq.symm.trans hq')
      rw [ipv4_prefixes_overlap_iff hcanonical hq_canonical, SharesAddress, hblock, hq_block]
      rfl
    constructor
    · rintro ⟨q, hq, hfree⟩
      exact ⟨(isIpv4_of_normalized hq).len, fun hshares => hfree ((hoverlap q hq).mpr hshares)⟩
    · rintro ⟨hlen, hfree⟩
      obtain ⟨q, -, hq, -⟩ := exists_normalized ⟨hipv4, hlen⟩
      exact ⟨q, hq, fun hshares => hfree ((hoverlap q hq).mp hshares)⟩
  · have hpass : (!p.address.is_ipv4 || decide (p.prefix_len = 0)) = true := by
      by_cases hipv4 : p.address.is_ipv4 = true
      · simpa [hipv4] using hskip
      · simp [hipv4]
    rw [if_pos hpass]
    exact ⟨fun _ hipv4 hlen => absurd ⟨hipv4, hlen⟩ hskip, fun _ => rfl⟩

namespace Ipv4StarAddressPlan

/-- The shape of a plan: a block of the pool's segment size, its first address for the
host and its second for a client. -/
structure Shape (plan : Ipv4StarAddressPlan) (pool : Ipv4AddressPool) (start : BitVec 32) : Prop where
  segment : plan.segment = ⟨.V4 ⟨start⟩, pool.segment_prefix_len⟩
  host : plan.host = ⟨.V4 ⟨start + 1#32⟩, pool.segment_prefix_len⟩
  first_client : plan.first_client = ⟨.V4 ⟨start + 2#32⟩, pool.segment_prefix_len⟩
  aligned : 2 ^ pool.segment_host_bits ∣ start.toNat
  host_bits : 2 ≤ pool.segment_host_bits
  len : 8 ≤ pool.segment_prefix_len.toNat

variable {plan : Ipv4StarAddressPlan} {pool : Ipv4AddressPool}

variable {start offset : BitVec 32}

/-- Every address of a segment's block is its start plus an offset below the block size. -/
theorem Shape.toNat_add (h : plan.Shape pool start) (hoffset : offset.toNat < 2 ^ pool.segment_host_bits) :
    (start + offset).toNat = start.toNat + offset.toNat := by
  obtain ⟨k, hk⟩ := h.aligned
  have hsize : 2 ^ (32 - pool.segment_host_bits) * 2 ^ pool.segment_host_bits = 2 ^ 32 := by
    rw [← pow_add]
    congr 1
    have := h.len
    unfold segment_host_bits
    omega
  have hk_lt : k < 2 ^ (32 - pool.segment_host_bits) := by
    by_contra hge
    have hmul := Nat.mul_le_mul_right (2 ^ pool.segment_host_bits) (not_lt.mp hge)
    have := start.isLt
    rw [hsize, mul_comm k, ← hk] at hmul
    omega
  have hnext := Nat.mul_le_mul_right (2 ^ pool.segment_host_bits) hk_lt
  rw [BitVec.toNat_add, Nat.mod_eq_of_lt]
  rw [hsize, Nat.succ_mul, mul_comm k, ← hk] at hnext
  omega

theorem dvd_selected_offset {host_bits : Nat} (selector : BitVec 32) (hbits : host_bits ≤ 32) :
    2 ^ host_bits ∣ (selector <<< host_bits).toNat := by
  rw [BitVec.toNat_shiftLeft, Nat.shiftLeft_eq]
  exact (Nat.dvd_mod_iff (pow_dvd_pow 2 hbits)).mpr (Nat.dvd_mul_left _ _)

theorem shape_of_for_network {network : NetworkId} (h : for_network network pool = .ok plan) :
    ∃ start, plan.Shape pool start := by
  simp only [for_network, bind_eq_ok_iff, ok_or_eq_ok, new_eq_ok_iff] at h
  obtain ⟨⟨⟩, hvalidate, start, hstart, host, hhost, client, hclient, _, ⟨-, rfl⟩, _, ⟨-, rfl⟩, _, ⟨-, rfl⟩, hplan⟩ := h
  obtain rfl := Except.ok.inj hplan
  obtain ⟨rfl, -⟩ := checked_add_eq_some hhost
  obtain ⟨rfl, -⟩ := checked_add_eq_some hclient
  have hvalid := valid_of_validate hvalidate
  have hnested := hvalid.nested
  have hroom := hvalid.room
  have hprivate := hvalid.private_space
  refine ⟨start, rfl, rfl, rfl, ?_, ?_, by omega⟩
  · have hpool : 2 ^ pool.segment_host_bits ∣ pool.network.bits.toNat := by
      refine (pow_dvd_pow 2 ?_).trans hvalid.aligned
      unfold segment_host_bits pool_host_bits
      omega
    rw [(checked_add_eq_some hstart).2]
    exact Nat.dvd_add hpool (dvd_selected_offset _ (Nat.sub_le 32 _))
  · unfold segment_host_bits
    omega

/-- An address of the segment other than its first does not start a block of that size. -/
theorem Shape.not_canonical {address : Ipv4Addr} (h : plan.Shape pool start) (hpos : 0 < offset.toNat)
    (hoffset : offset.toNat < 2 ^ pool.segment_host_bits) :
    ¬ Canonical ⟨.V4 ⟨start + offset⟩, pool.segment_prefix_len⟩ address := by
  rintro ⟨⟨⟩, -, haligned⟩
  have hsum : 2 ^ pool.segment_host_bits ∣ start.toNat + offset.toNat := h.toNat_add hoffset ▸ haligned
  have hdvd := (Nat.dvd_add_right h.aligned).mp hsum
  exact absurd (Nat.le_of_dvd hpos hdvd) (not_le.mpr hoffset)

/-- An address of the segment names the block of the segment. -/
theorem Shape.block_add (h : plan.Shape pool start) (hoffset : offset.toNat < 2 ^ pool.segment_host_bits) :
    block ⟨.V4 ⟨start + offset⟩, pool.segment_prefix_len⟩ = plan.segment.block := by
  rw [h.segment]
  refine Bits.block_congr ?_
  rw [h.toNat_add hoffset, ← Bits.align_div]
  exact congrArg (· / _) (Bits.align_add_of_dvd h.aligned hoffset)

variable {start : BitVec 32}

theorem Shape.segment_size (h : plan.Shape pool start) : 4 ≤ 2 ^ pool.segment_host_bits :=
  Nat.pow_le_pow_right (n := 2) (by omega) h.host_bits

theorem Shape.host_block (h : plan.Shape pool start) : plan.host.block = plan.segment.block := by
  have hsize := h.segment_size
  rw [h.host]
  exact h.block_add (lt_of_lt_of_le (by decide) hsize)

theorem Shape.host_isIpv4 (h : plan.Shape pool start) : plan.host.IsIpv4 := by
  have hbits := h.host_bits
  unfold segment_host_bits at hbits
  rw [h.host]
  refine ⟨rfl, ?_⟩
  dsimp only
  omega

theorem Shape.segment_nonempty (h : plan.Shape pool start) : plan.segment.block.Nonempty := by
  rw [h.segment]
  exact ⟨start, rfl⟩

end Ipv4StarAddressPlan

end blueroute
