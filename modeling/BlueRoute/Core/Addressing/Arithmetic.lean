import BlueRoute.Base.Checked
import BlueRoute.Core.Addressing

/-! The address computations with every shift, addition and subtraction checked, and that
none of them overflows. -/

namespace blueroute

open net Fallible Checked

abbrev CheckedResult (T : Type) := Except (Fault CoreError) T

def host_mask_checked (host_bits : Nat) : CheckedResult (BitVec 32) :=
  if host_bits = 32 then .ok (BitVec.allOnes 32)
  else if host_bits = 0 then .ok 0#32
  else do
    let power ← shl 1#32 host_bits none
    pure (power - 1#32)

def ipv4_mask_checked (prefix_len : UInt8) : CheckedResult (BitVec 32) :=
  if prefix_len > 32 then .error (.error (.new .InvalidInput "IPv4 prefix length cannot exceed 32"))
  else if prefix_len = 0 then .ok 0#32
  else do
    let amount ← sub 32 prefix_len.toNat
    shl (BitVec.allOnes 32) amount none

def normalized_ipv4_prefix_checked (p : IpPrefix) : CheckedResult IpPrefix :=
  match p.address with
  | .V6 _ => .error (.error (.new .InvalidInput "expected an IPv4 prefix"))
  | .V4 address => do
    let mask ← ipv4_mask_checked p.prefix_len
    lift (IpPrefix.new (.V4 { bits := address.bits &&& mask }) p.prefix_len)

def ipv4_prefixes_overlap_checked (left right : IpPrefix) : CheckedResult Bool :=
  match left.address, right.address with
  | .V4 left_address, .V4 right_address => do
    let left_host_bits ← sub 32 left.prefix_len.toNat
    let right_host_bits ← sub 32 right.prefix_len.toNat
    let left_mask ← host_mask_checked left_host_bits
    let right_mask ← host_mask_checked right_host_bits
    pure (left_address.bits ≤ right_address.bits ||| right_mask && right_address.bits ≤ left_address.bits ||| left_mask)
  | _, _ => .ok false

def ensure_ipv4_segment_available_checked (candidate : IpPrefix) (active : List IpPrefix) : CheckedResult Unit := do
  let candidate ← normalized_ipv4_prefix_checked candidate
  check_each (fun p =>
    if !p.address.is_ipv4 || p.prefix_len = 0 then .ok ()
    else do
      let p ← normalized_ipv4_prefix_checked p
      let overlap ← ipv4_prefixes_overlap_checked candidate p
      reject_if (overlap = true) (.error (segment_conflict candidate p))) active

def Ipv4StarAddressPlan.for_network_checked (network : NetworkId) (pool : Ipv4AddressPool) :
    CheckedResult Ipv4StarAddressPlan := do
  lift pool.validate
  let segment_bits ← sub pool.segment_prefix_len.toNat pool.pool_prefix_len.toNat
  let segment_count ← shl 1#32 segment_bits none
  let selector := leading_word network % segment_count
  let segment_host_bits ← sub 32 pool.segment_prefix_len.toNat
  let segment_offset ← shl selector segment_host_bits none
  let segment_network ← add pool.network.bits segment_offset (some (.new .InvalidInput "IPv4 pool overflow"))
  let host ← add segment_network 1#32 (some (.new .InvalidInput "IPv4 host address overflow"))
  let first_client ← add segment_network 2#32 (some (.new .InvalidInput "IPv4 client address overflow"))
  let segment ← lift (IpPrefix.new (.V4 { bits := segment_network }) pool.segment_prefix_len)
  let host ← lift (IpPrefix.new (.V4 { bits := host }) pool.segment_prefix_len)
  let first_client ← lift (IpPrefix.new (.V4 { bits := first_client }) pool.segment_prefix_len)
  pure { segment, host, first_client }

theorem host_mask_checked_eq {host_bits : Nat} (hbits : host_bits ≤ 32) :
    host_mask_checked host_bits = .ok (host_mask host_bits) := by
  unfold host_mask_checked host_mask
  split_ifs with hfull hempty
  · rfl
  · rfl
  · rw [shl_eq_ok (by omega)]
    rfl

theorem ipv4_mask_checked_eq (prefix_len : UInt8) : ipv4_mask_checked prefix_len = lift (ipv4_mask prefix_len) := by
  unfold ipv4_mask_checked ipv4_mask
  split_ifs with hlong hzero
  · rfl
  · rfl
  · have hle : prefix_len.toNat ≤ 32 := UInt8.not_lt.mp hlong
    have hpos : prefix_len.toNat ≠ 0 := fun h => hzero (UInt8.toNat.inj h)
    rw [sub_eq_ok hle]
    exact shl_eq_ok (by omega)

theorem normalized_ipv4_prefix_checked_eq (p : IpPrefix) :
    normalized_ipv4_prefix_checked p = (lift <| normalized_ipv4_prefix p) := by
  unfold normalized_ipv4_prefix_checked normalized_ipv4_prefix
  cases p.address with
  | V4 address =>
    dsimp only
    rw [ipv4_mask_checked_eq, lift_bind]
  | V6 address => rfl

theorem len_of_normalized {p q : IpPrefix} (h : normalized_ipv4_prefix p = .ok q) : q.prefix_len.toNat ≤ 32 := by
  unfold normalized_ipv4_prefix at h
  split at h
  · cases h
  · simp only [bind_eq_ok_iff, IpPrefix.new_eq_ok_iff] at h
    obtain ⟨mask, -, hlen, rfl⟩ := h
    exact hlen

theorem ipv4_prefixes_overlap_checked_eq {left right : IpPrefix} (hleft : left.prefix_len.toNat ≤ 32)
    (hright : right.prefix_len.toNat ≤ 32) :
    ipv4_prefixes_overlap_checked left right = .ok (ipv4_prefixes_overlap left right) := by
  unfold ipv4_prefixes_overlap_checked ipv4_prefixes_overlap
  cases left.address with
  | V6 address => rfl
  | V4 left_address =>
    cases right.address with
    | V6 address => rfl
    | V4 right_address =>
      dsimp only
      rw [sub_eq_ok hleft, sub_eq_ok hright]
      dsimp only [Bind.bind, Except.bind]
      rw [host_mask_checked_eq (Nat.sub_le _ _), host_mask_checked_eq (Nat.sub_le _ _)]
      rfl

theorem check_each_lift {α : Type} (check : α → Result Unit) (l : List α) :
    check_each (fun a => lift (check a)) l = lift (check_each check l) := by
  induction l with
  | nil => rfl
  | cons a rest ih => rw [check_each, check_each, lift_bind, ih]

theorem ensure_ipv4_segment_available_checked_eq (candidate : IpPrefix) (active : List IpPrefix) :
    ensure_ipv4_segment_available_checked candidate active = lift (ensure_ipv4_segment_available candidate active) := by
  unfold ensure_ipv4_segment_available_checked ensure_ipv4_segment_available
  rw [normalized_ipv4_prefix_checked_eq, lift_bind]
  cases hcandidate : normalized_ipv4_prefix candidate with
  | error error => rfl
  | ok normal =>
    refine Eq.trans ?_ (check_each_lift _ active)
    change check_each _ active = check_each _ active
    congr 1
    funext p
    split_ifs
    · rfl
    · rw [normalized_ipv4_prefix_checked_eq, lift_bind]
      cases hp : normalized_ipv4_prefix p with
      | error error => rfl
      | ok q =>
        change (ipv4_prefixes_overlap_checked normal q >>= _) = _
        rw [ipv4_prefixes_overlap_checked_eq (len_of_normalized hcandidate) (len_of_normalized hp)]
        change reject_if (ipv4_prefixes_overlap normal q = true) _ = lift (reject_if _ _)
        unfold reject_if
        split_ifs <;> rfl

namespace Ipv4AddressPool.Valid

variable {pool : Ipv4AddressPool}

/-- How many bits select a segment of the pool. -/
def segment_bits (pool : Ipv4AddressPool) : Nat :=
  pool.segment_prefix_len.toNat - pool.pool_prefix_len.toNat

theorem segment_bits_lt (h : pool.Valid) : segment_bits pool < 32 := by
  have := h.room
  unfold segment_bits
  omega

theorem segment_host_bits_lt (h : pool.Valid) : pool.segment_host_bits < 32 := by
  have := h.private_space
  have := h.nested
  unfold segment_host_bits
  omega

theorem four_le_segment_size (h : pool.Valid) : 4 ≤ 2 ^ pool.segment_host_bits := by
  have hbits : 2 ≤ pool.segment_host_bits := by
    have := h.room
    unfold segment_host_bits
    omega
  exact Nat.pow_le_pow_right (n := 2) (by omega) hbits

/-- The segments fill the pool. -/
theorem segments_fill (h : pool.Valid) :
    2 ^ segment_bits pool * 2 ^ pool.segment_host_bits = 2 ^ pool.pool_host_bits := by
  rw [← pow_add]
  congr 1
  have := h.nested
  have := h.room
  unfold segment_bits segment_host_bits pool_host_bits
  omega

theorem network_add_le (h : pool.Valid) : pool.network.bits.toNat + 2 ^ pool.pool_host_bits ≤ 2 ^ 32 := by
  obtain ⟨k, hk⟩ := h.aligned
  have hsplit : 2 ^ pool.pool_host_bits * 2 ^ pool.pool_prefix_len.toNat = 2 ^ 32 := by
    rw [← pow_add]
    congr 1
    have := h.nested
    have := h.room
    unfold pool_host_bits
    omega
  have hlt : 2 ^ pool.pool_host_bits * k < 2 ^ pool.pool_host_bits * 2 ^ pool.pool_prefix_len.toNat := by
    rw [hsplit, ← hk]
    exact pool.network.bits.isLt
  have hk_lt : k < 2 ^ pool.pool_prefix_len.toNat := lt_of_mul_lt_mul_left hlt (Nat.zero_le _)
  calc
    pool.network.bits.toNat + 2 ^ pool.pool_host_bits = 2 ^ pool.pool_host_bits * (k + 1) := by rw [hk, Nat.mul_succ]
    _ ≤ 2 ^ pool.pool_host_bits * 2 ^ pool.pool_prefix_len.toNat := Nat.mul_le_mul_left _ hk_lt
    _ = 2 ^ 32 := hsplit

/-- A segment lies inside the pool. -/
theorem segment_end_le (h : pool.Valid) {slot : Nat} (hslot : slot < 2 ^ segment_bits pool) :
    slot * 2 ^ pool.segment_host_bits + 2 ^ pool.segment_host_bits ≤ 2 ^ pool.pool_host_bits := by
  rw [← h.segments_fill, ← Nat.succ_mul]
  exact Nat.mul_le_mul_right _ hslot

/-- No bit of a selector is shifted out. -/
theorem toNat_offset (h : pool.Valid) {slot : BitVec 32} (hslot : slot.toNat < 2 ^ segment_bits pool) :
    (slot <<< pool.segment_host_bits).toNat = slot.toNat * 2 ^ pool.segment_host_bits := by
  have hend := h.segment_end_le hslot
  have hpool := h.network_add_le
  rw [BitVec.toNat_shiftLeft, Nat.shiftLeft_eq, Nat.mod_eq_of_lt]
  have := Nat.two_pow_pos pool.segment_host_bits
  omega

theorem toNat_segment_count (h : pool.Valid) : (1#32 <<< segment_bits pool).toNat = 2 ^ segment_bits pool := by
  rw [BitVec.toNat_shiftLeft, Nat.shiftLeft_eq, Nat.mod_eq_of_lt]
  · exact one_mul _
  · rw [show (1#32).toNat = 1 from rfl, one_mul]
    exact Nat.pow_lt_pow_right (by omega) h.segment_bits_lt

end Ipv4AddressPool.Valid

variable {pool : Ipv4AddressPool}

open Ipv4AddressPool in
/-- The slot that a network selects. -/
theorem Ipv4StarAddressPlan.selector_lt (network : NetworkId) (hvalid : pool.Valid) :
    (leading_word network % (1#32 <<< Valid.segment_bits pool)).toNat < 2 ^ Valid.segment_bits pool := by
  rw [BitVec.toNat_umod, hvalid.toNat_segment_count]
  exact Nat.mod_lt _ (Nat.two_pow_pos _)

open Ipv4AddressPool in
/-- The additions of a star plan fit into a word. -/
theorem Ipv4StarAddressPlan.additions_fit (hvalid : pool.Valid) {slot : BitVec 32}
    (hslot : slot.toNat < 2 ^ Valid.segment_bits pool) :
    pool.network.bits.toNat + (slot <<< pool.segment_host_bits).toNat < 2 ^ 32 ∧
      (pool.network.bits + slot <<< pool.segment_host_bits).toNat + 4 ≤ 2 ^ 32 := by
  have hoffset := hvalid.toNat_offset hslot
  have hend := hvalid.segment_end_le hslot
  have hpool := hvalid.network_add_le
  have hsize := hvalid.four_le_segment_size
  have hfits : pool.network.bits.toNat + (slot <<< pool.segment_host_bits).toNat < 2 ^ 32 := by omega
  refine ⟨hfits, ?_⟩
  rw [BitVec.toNat_add, Nat.mod_eq_of_lt hfits]
  omega

open Ipv4AddressPool in
/-- The star plan of a validated pool exists, and none of its operations overflows. -/
theorem Ipv4StarAddressPlan.for_network_checked_eq (network : NetworkId) (hvalidate : pool.validate = .ok ()) :
    for_network_checked network pool = lift (for_network network pool) := by
  have hvalid := valid_of_validate hvalidate
  obtain ⟨hfits, hstart⟩ := additions_fit hvalid (selector_lt network hvalid)
  have hhostBits : pool.segment_prefix_len.toNat ≤ 32 := by
    have := hvalid.room
    omega
  generalize hslot : (leading_word network % (1#32 <<< Valid.segment_bits pool)) <<< pool.segment_host_bits = offset
    at hfits hstart
  have hhost : (pool.network.bits + offset).toNat + (1#32).toNat < 2 ^ 32 :=
    lt_of_lt_of_le (Nat.add_lt_add_left (by decide) _) hstart
  have hclient : (pool.network.bits + offset).toNat + (2#32).toNat < 2 ^ 32 :=
    lt_of_lt_of_le (Nat.add_lt_add_left (by decide) _) hstart
  unfold for_network_checked for_network
  rw [hvalidate, sub_eq_ok hvalid.nested, sub_eq_ok hhostBits]
  simp only [lift_bind]
  change (shl 1#32 (Valid.segment_bits pool) none >>= _) = _
  rw [shl_eq_ok hvalid.segment_bits_lt]
  change (shl _ pool.segment_host_bits none >>= _) = _
  rw [shl_eq_ok hvalid.segment_host_bits_lt, hslot]
  change (add pool.network.bits offset _ >>= _) =
    lift (ok_or (checked_add pool.network.bits ((leading_word network % (1#32 <<< Valid.segment_bits pool)) <<<
      pool.segment_host_bits)) _) >>= _
  rw [hslot, add_eq_ok hfits, checked_add, if_pos hfits]
  change (add _ 1#32 _ >>= _) = lift (ok_or (checked_add _ 1#32) _) >>= _
  rw [add_eq_ok hhost, checked_add, if_pos hhost]
  change (add _ 2#32 _ >>= _) = lift (ok_or (checked_add _ 2#32) _) >>= _
  rw [add_eq_ok hclient, checked_add, if_pos hclient]
  rfl

end blueroute
