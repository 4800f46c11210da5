import BlueRoute.Base.Bits
import BlueRoute.Core.Route

namespace blueroute

open net Fallible

/-- The word whose low `host_bits` bits are set. -/
def host_mask (host_bits : Nat) : BitVec 32 :=
  if host_bits = 32 then BitVec.allOnes 32
  else if host_bits = 0 then 0#32
  else (1#32 <<< host_bits) - 1#32

theorem toNat_host_mask {host_bits : Nat} (hbits : host_bits ≤ 32) :
    (host_mask host_bits).toNat = 2 ^ host_bits - 1 := by
  unfold host_mask
  split_ifs with hfull hempty
  · rw [hfull, BitVec.toNat_allOnes]
  · rw [hempty]
    rfl
  · exact Bits.toNat_low_mask (by omega)

/-- IPv4 pool from which routed PAN-segment prefixes are allocated. -/
structure Ipv4AddressPool where
  network : Ipv4Addr
  pool_prefix_len : UInt8
  segment_prefix_len : UInt8
deriving DecidableEq

def PRIVATE_RANGES : List (BitVec 32 × Nat) :=
  [(0x0a000000#32, 8), (0xac100000#32, 12), (0xc0a80000#32, 16)]

def pool_is_rfc1918 (network : Ipv4Addr) (prefix_len : UInt8) : Bool :=
  PRIVATE_RANGES.any fun (private_network, private_prefix_len) =>
    if prefix_len.toNat < private_prefix_len then false
    else network.bits &&& (BitVec.allOnes 32 <<< (32 - private_prefix_len)) == private_network

namespace Ipv4AddressPool

def validate (pool : Ipv4AddressPool) : Result Unit := do
  reject_if (pool.pool_prefix_len > 32)
    (.new .InvalidInput "IPv4 pool prefix length cannot exceed 32")
  reject_if (pool.segment_prefix_len > 30)
    (.new .InvalidInput "PAN segment prefix must leave room for host addresses")
  reject_if (pool.segment_prefix_len < pool.pool_prefix_len)
    (.new .InvalidInput
      "PAN segment prefix cannot be broader than the BlueRoute address pool")
  let host_bits := 32 - pool.pool_prefix_len.toNat
  reject_if (pool.network.bits &&& host_mask host_bits ≠ 0#32)
    (.new .InvalidInput "IPv4 pool address must be aligned to its prefix")
  reject_if (¬ pool_is_rfc1918 pool.network pool.pool_prefix_len)
    (.new .InvalidInput
      "BlueRoute IPv4 address pool must be fully contained in RFC1918 private space")

def default : Ipv4AddressPool :=
  { network := Ipv4Addr.new 10 201 0 0, pool_prefix_len := 16, segment_prefix_len := 24 }

/-- The number of address bits outside the pool's network part. -/
def pool_host_bits (pool : Ipv4AddressPool) : Nat := 32 - pool.pool_prefix_len.toNat

/-- The number of host bits of one of its segments. -/
def segment_host_bits (pool : Ipv4AddressPool) : Nat := 32 - pool.segment_prefix_len.toNat

/-- What a validated pool guarantees. -/
structure Valid (pool : Ipv4AddressPool) : Prop where
  private_space : 8 ≤ pool.pool_prefix_len.toNat
  nested : pool.pool_prefix_len.toNat ≤ pool.segment_prefix_len.toNat
  room : pool.segment_prefix_len.toNat ≤ 30
  aligned : 2 ^ pool.pool_host_bits ∣ pool.network.bits.toNat

end Ipv4AddressPool

theorem le_of_pool_is_rfc1918 {network : Ipv4Addr} {prefix_len : UInt8}
    (h : pool_is_rfc1918 network prefix_len = true) : 8 ≤ prefix_len.toNat := by
  by_contra hlt
  have hshort : ∀ range ∈ PRIVATE_RANGES, prefix_len.toNat < range.2 := by
    intro range hrange
    simp only [PRIVATE_RANGES, List.mem_cons, List.not_mem_nil, or_false] at hrange
    obtain rfl | rfl | rfl := hrange <;> dsimp only <;> omega
  obtain ⟨⟨private_network, private_prefix_len⟩, hrange, hcontains⟩ := List.any_eq_true.mp h
  have hless : prefix_len.toNat < private_prefix_len := hshort _ hrange
  simp only [if_pos hless, Bool.false_eq_true] at hcontains

theorem Ipv4AddressPool.valid_of_validate {pool : Ipv4AddressPool} {u : Unit}
    (h : pool.validate = .ok u) : pool.Valid := by
  simp only [validate, bind_eq_ok_iff, reject_if_eq_ok, gt_iff_lt, UInt8.not_lt, UInt8.le_iff_toNat_le,
    ne_eq, not_not, exists_const] at h
  obtain ⟨-, hsegment, hnested, haligned, hprivate⟩ := h
  have hmask := toNat_host_mask (Nat.sub_le 32 pool.pool_prefix_len.toNat)
  exact {
    private_space := le_of_pool_is_rfc1918 hprivate
    nested := hnested
    room := hsegment
    aligned := (Bits.and_low_mask_eq_zero_iff hmask).mp haligned }

/-- Persistent configuration schema version. -/
structure ConfigVersion where
  value : UInt32
deriving DecidableEq

def ConfigVersion.CURRENT : ConfigVersion := { value := 1 }

/-- Preferred Linux network configuration implementation. -/
inductive BackendPreference where
  | Auto
  | NetworkManager
  | SystemdNetworkd
  | DirectNetlink
  | Other (name : String)
deriving DecidableEq

structure ConfiguredTopologyPolicy where
  max_active_links : Option UInt16
deriving DecidableEq

structure GatewayPolicy where
  sharing_enabled : Bool
deriving DecidableEq

/-- Durable daemon configuration. -/
structure DaemonConfig where
  version : ConfigVersion
  ipv4_address_pool : Ipv4AddressPool
  topology : ConfiguredTopologyPolicy
  backend : BackendPreference
  gateway : GatewayPolicy
deriving DecidableEq

namespace DaemonConfig

def validate (config : DaemonConfig) : Result Unit := do
  reject_if (config.version ≠ ConfigVersion.CURRENT)
    (.new .InvalidInput
      s!"unsupported configuration version {config.version.value.toNat}; expected {ConfigVersion.CURRENT.value.toNat}")
  config.ipv4_address_pool.validate
  reject_if (config.topology.max_active_links = some 0)
    (.new .InvalidInput "maximum active links must be greater than zero when configured")
  match config.backend with
  | .Other name =>
    reject_if (is_blank name) (.new .InvalidInput "custom network backend name cannot be empty")
  | _ => pure ()
  reject_if config.gateway.sharing_enabled
    (.new .CapabilityUnavailable
      "Internet sharing is reserved but not implemented in configuration version 1")

def default : DaemonConfig :=
  { version := ConfigVersion.CURRENT
    ipv4_address_pool := Ipv4AddressPool.default
    topology := { max_active_links := none }
    backend := .Auto
    gateway := { sharing_enabled := false } }

end DaemonConfig

end blueroute
