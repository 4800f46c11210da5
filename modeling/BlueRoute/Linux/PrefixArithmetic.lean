import BlueRoute.Core.Addressing.Arithmetic
import BlueRoute.Linux.RouteReconciliation

namespace blueroute_linux

open blueroute blueroute.route_reconciliation net Fallible Checked IpPrefix

/-- The bits of an address as a number. -/
def word : IpAddr → Nat
  | .V4 address => address.bits.toNat
  | .V6 address => address.bits.toNat

/-- The canonicalisation of observed routes, which the core and the Linux backend write out alike, with its
subtractions checked. The shift is one that gives no result instead of overflowing. -/
def canonical_prefix_checked (p : IpPrefix) : CheckedResult IpPrefix := do
  let _ ← lift (new p.address p.prefix_len)
  let address ← match p.address with
    | .V4 address => do
      let shift ← sub 32 p.prefix_len.toNat
      pure (IpAddr.V4 { bits := address.bits &&& (checked_shl (BitVec.allOnes 32) shift).getD 0 })
    | .V6 address => do
      let shift ← sub 128 p.prefix_len.toNat
      pure (IpAddr.V6 { bits := address.bits &&& (checked_shl (BitVec.allOnes 128) shift).getD 0 })
  lift (new address p.prefix_len)

variable {p : IpPrefix}

theorem canonical_prefix_checked_eq (p : IpPrefix) : canonical_prefix_checked p = (lift <| canonical_prefix p) := by
  unfold canonical_prefix_checked canonical_prefix
  rw [lift_bind]
  cases hnew : new p.address p.prefix_len with
  | error error => rfl
  | ok q =>
    -- the length was checked before it is subtracted
    have hlen := (new_eq_ok_iff.mp hnew).1
    cases haddress : p.address with
    | V4 address =>
      rw [haddress] at hlen
      have hle : p.prefix_len.toNat ≤ 32 := hlen
      dsimp only
      rw [sub_eq_ok hle]
      rfl
    | V6 address =>
      rw [haddress] at hlen
      have hle : p.prefix_len.toNat ≤ 128 := hlen
      dsimp only
      rw [sub_eq_ok hle]
      rfl

theorem normalized_eq_network_of (hipv4 : p.address.is_ipv4 = true)
    (hlen : p.prefix_len ≤ maximum p.address) : normalized_ipv4_prefix p = .ok (network_of p) := by
  obtain ⟨address, prefix_len⟩ := p
  cases address with
  | V6 address => cases hipv4
  | V4 address =>
    simp only [bind_eq_ok_iff, normalized_ipv4_prefix]
    exact ⟨_, ipv4_mask_eq_ok hlen, new_eq_ok_iff.mpr ⟨hlen, rfl⟩⟩

/-- Only the bits after the length are cleared. -/
theorem word_network_of (p : IpPrefix) :
    word (network_of p).address =
      Bits.align ((maximum p.address).toNat - p.prefix_len.toNat) (word p.address) := by
  obtain ⟨address, prefix_len⟩ := p
  cases address with
  | V4 address | V6 address => exact Bits.toNat_and_high_mask _ _

theorem maximum_network_of (p : IpPrefix) : maximum (network_of p).address = maximum p.address := by
  obtain ⟨address, prefix_len⟩ := p
  cases address <;> rfl

theorem network_of_idem (p : IpPrefix) : network_of (network_of p) = network_of p := by
  obtain ⟨address, prefix_len⟩ := p
  cases address with
  | V4 address | V6 address => simp only [network_of, BitVec.and_assoc, BitVec.and_self]

/-- What every canonicalisation makes of a prefix. -/
structure Canonicalised (p q : IpPrefix) : Prop where
  core : canonical_observed_destination (.Prefix p) = .ok (.Prefix q)
  linux : route_reconciliation.canonical p = .ok q
  normalized : p.address.is_ipv4 = true → normalized_ipv4_prefix p = .ok q

theorem canonicalised_network_of (hlen : p.prefix_len ≤ maximum p.address) :
    Canonicalised p (network_of p) where
  core := by
    rw [canonical_observed_destination, canonical_prefix_eq_ok hlen]
    rfl
  linux := canonical_prefix_eq_ok hlen
  normalized := fun hipv4 => normalized_eq_network_of hipv4 hlen

/-- The overlap check is exact on valid prefixes. All three canonicalisations give a valid prefix the same network
address, which they leave as it is. None of the computations overflows. -/
theorem prefix_arithmetic_agrees :
    (∀ (candidate : IpPrefix) (active : List IpPrefix), candidate.IsIpv4 →
      (∀ p ∈ active, p.prefix_len ≤ maximum p.address) →
      (ensure_ipv4_segment_available candidate active = .ok () ↔
        ∀ p ∈ active, p.address.is_ipv4 = true → p.prefix_len ≠ 0 → ¬ candidate.SharesAddress p)) ∧
    (∀ p : IpPrefix, p.prefix_len ≤ maximum p.address → ∃ q, Canonicalised p q ∧ Canonicalised q q ∧
      q.prefix_len = p.prefix_len ∧ maximum q.address = maximum p.address ∧
      word q.address = Bits.align ((maximum p.address).toNat - p.prefix_len.toNat) (word p.address)) ∧
    (∀ p, canonical_prefix_checked p = (lift <| canonical_prefix p) ∧ Calm (canonical_prefix_checked p) ∧
      Calm (normalized_ipv4_prefix_checked p)) ∧
    ∀ candidate active, Calm (ensure_ipv4_segment_available_checked candidate active) := by
  refine ⟨fun candidate active hcandidate hactive => ?_, fun p hlen => ?_,
    fun p => ⟨canonical_prefix_checked_eq p, ?_, ?_⟩, fun candidate active => ?_⟩
  · rw [ensure_ipv4_segment_available_eq_ok_iff hcandidate]
    refine forall₄_congr fun p hp hipv4 _ => and_iff_right ?_
    have hlen := hactive p hp
    cases haddress : p.address with
    | V4 address =>
      rw [haddress] at hlen
      exact hlen
    | V6 address =>
      rw [haddress] at hipv4
      cases hipv4
  · have hnetwork : (network_of p).prefix_len ≤ maximum (network_of p).address := by
      rw [maximum_network_of]
      exact hlen
    have hagain := canonicalised_network_of hnetwork
    rw [network_of_idem] at hagain
    exact ⟨_, canonicalised_network_of hlen, hagain, rfl, maximum_network_of p, word_network_of p⟩
  · rw [canonical_prefix_checked_eq]
    exact calm_lift _
  · rw [normalized_ipv4_prefix_checked_eq]
    exact calm_lift _
  · rw [ensure_ipv4_segment_available_checked_eq]
    exact calm_lift _

/-- A host address of a /31 next to a default route, an IPv6 prefix and a neighbour, and the IPv6 default route. -/
theorem prefix_arithmetic_agrees_sample :
    (∀ p ∈ [⟨.V4 ⟨0⟩, 0⟩, ⟨.V6 ⟨1⟩, 128⟩, ⟨.V4 ⟨0x0a000004⟩, 32⟩], p.address.is_ipv4 = true → p.prefix_len ≠ 0 →
      ¬ SharesAddress ⟨.V4 ⟨0x0a000003⟩, 31⟩ p) ∧
      ∃ q, Canonicalised ⟨.V6 ⟨1⟩, 0⟩ q ∧ word q.address = 0 := by
  obtain ⟨havailable, hcanonical, -⟩ := prefix_arithmetic_agrees
  obtain ⟨q, hq, -, -, -, hword⟩ := hcanonical ⟨.V6 ⟨1⟩, 0⟩ (by decide)
  exact ⟨(havailable ⟨.V4 ⟨0x0a000003⟩, 31⟩ _ ⟨rfl, by decide⟩ (by decide)).mp (by decide), q, hq, hword⟩

end blueroute_linux
