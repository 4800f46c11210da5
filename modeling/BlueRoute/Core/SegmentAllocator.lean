import BlueRoute.Base.Ordered
import BlueRoute.Base.Runs
import BlueRoute.Core.Addressing.Arithmetic

namespace blueroute.segment_allocator

open net Fallible Checked

def MAX_RESERVED_PAN_SEGMENTS : Nat := 256

/-- Limit worst-case scanning when a user-configured RFC1918 pool is enormous. -/
def MAX_PREFIX_PROBES : Nat := 4096

structure SegmentIpv4Allocator where
  pool : Ipv4AddressPool
  reservations : Ordered.Map SegmentId IpPrefix

namespace SegmentIpv4Allocator

def new (pool : Ipv4AddressPool) : Result SegmentIpv4Allocator := do
  pool.validate
  pure { pool, reservations := ∅ }

variable (self : SegmentIpv4Allocator)

def get (segment : SegmentId) : Option IpPrefix := self.reservations[segment]?

def reserved : List IpPrefix := self.reservations.toList.map Prod.snd

def ensure_room : CheckedResult Unit :=
  reject_if (self.reservations.size ≥ MAX_RESERVED_PAN_SEGMENTS)
    (.error (.new .CapabilityUnavailable "PAN segment allocator reservation limit reached"))

def segment_count : CheckedResult (BitVec 32) := do
  let segment_bits ← sub self.pool.segment_prefix_len.toNat self.pool.pool_prefix_len.toNat
  shl 1#32 segment_bits none

def prefix_at (slot : BitVec 32) : CheckedResult IpPrefix := do
  let host_bits ← sub 32 self.pool.segment_prefix_len.toNat
  let offset ← shl slot host_bits (some (.new .InvalidInput "IPv4 segment shift overflow"))
  let number ← add self.pool.network.bits offset (some (.new .InvalidInput "IPv4 segment pool overflow"))
  lift (IpPrefix.new (.V4 { bits := number }) self.pool.segment_prefix_len)

def outside_pool : Fault CoreError :=
  .error (.new .InvalidInput "prefix outside BlueRoute address pool")

/-- The prefix has the length of a segment and no host bits. -/
def is_canonical (p : IpPrefix) : CheckedResult Bool :=
  if p.prefix_len ≠ self.pool.segment_prefix_len then .ok false
  else do
    let normal ← normalized_ipv4_prefix_checked p
    pure (decide (normal = p))

def ensure_prefix_in_pool (p : IpPrefix) : CheckedResult Unit := do
  let canonical ← self.is_canonical p
  reject_if (canonical = false) (.error (.new .InvalidInput "not a canonical PAN segment prefix"))
  match p.address with
  | .V6 _ => .error (.error (.new .InvalidInput "PAN segment must be IPv4"))
  | .V4 address => do
    let base := self.pool.network.bits
    let host_bits ← sub 32 self.pool.segment_prefix_len.toNat
    let size ← shl 1#32 host_bits none
    reject_if (address.bits < base) outside_pool
    let distance ← sub address.bits.toNat base.toNat
    reject_if (distance % size.toNat ≠ 0) outside_pool
    let count ← self.segment_count
    reject_if (distance / size.toNat ≥ count.toNat) outside_pool

/-- The checks of a prefix for a segment that has none. -/
def ensure_vacant (p : IpPrefix) (foreign_host_prefixes : List IpPrefix) : CheckedResult Unit := do
  self.ensure_room
  ensure_ipv4_segment_available_checked p self.reserved
  ensure_ipv4_segment_available_checked p foreign_host_prefixes

def reserve_exact (segment : SegmentId) (p : IpPrefix) (foreign_host_prefixes : List IpPrefix) :
    CheckedResult IpPrefix × SegmentIpv4Allocator :=
  match self.ensure_prefix_in_pool p with
  | .error fault => (.error fault, self)
  | .ok _ =>
    match self.get segment with
    | some existing =>
      if existing = p then
        (ensure_ipv4_segment_available_checked existing foreign_host_prefixes >>= fun _ => pure existing, self)
      else (.error (.error (.new .AddressConflict "segment already owns a different IPv4 prefix")), self)
    | none =>
      match self.ensure_vacant p foreign_host_prefixes with
      | .error fault => (.error fault, self)
      | .ok _ => (.ok p, { self with reservations := self.reservations.insert segment p })

/-- Preserve the existing single-star subnet for the bootstrap PAN. -/
def reserve_bootstrap (network : NetworkId) (segment : SegmentId) (foreign_host_prefixes : List IpPrefix) :
    CheckedResult IpPrefix × SegmentIpv4Allocator :=
  match Ipv4StarAddressPlan.for_network_checked network self.pool with
  | .error fault => (.error fault, self)
  | .ok plan => self.reserve_exact segment plan.segment foreign_host_prefixes

/-- Whether one of the two checks of a candidate fails. -/
def is_taken (candidate : IpPrefix) (foreign : List IpPrefix) : CheckedResult Bool := do
  let reserved ← is_err (ensure_ipv4_segment_available_checked candidate self.reserved)
  if reserved = true then .ok true else is_err (ensure_ipv4_segment_available_checked candidate foreign)

/-- The loop over the offsets from the first slot. -/
def probe (self : SegmentIpv4Allocator) (foreign : List IpPrefix) (choices first : BitVec 32) :
    List (BitVec 32) → CheckedResult IpPrefix
  | [] => .error (.error (.new .AddressConflict "no conflict-free PAN prefix found in bounded IPv4 pool search"))
  | offset :: rest => do
    let sum ← add first offset none
    let candidate ← self.prefix_at (sum % choices)
    let taken ← self.is_taken candidate foreign
    if taken = true then self.probe foreign choices first rest else pure candidate

def offsets (choices : BitVec 32) : List (BitVec 32) :=
  (List.range (min choices.toNat MAX_PREFIX_PROBES)).map (BitVec.ofNat 32)

/-- The search for a prefix of a segment that has none. -/
def search (segment : SegmentId) (foreign : List IpPrefix) : CheckedResult IpPrefix := do
  self.ensure_room
  let choices ← self.segment_count
  let first := leading_word (.from_bytes segment.as_bytes) % choices
  self.probe foreign choices first (offsets choices)

/-- Deterministic collision probing from a stable segment identity. -/
def allocate (segment : SegmentId) (foreign_host_prefixes : List IpPrefix) :
    CheckedResult IpPrefix × SegmentIpv4Allocator :=
  match self.get segment with
  | some existing =>
    (ensure_ipv4_segment_available_checked existing foreign_host_prefixes >>= fun _ => pure existing, self)
  | none =>
    match self.search segment foreign_host_prefixes with
    | .error fault => (.error fault, self)
    | .ok candidate => (.ok candidate, { self with reservations := self.reservations.insert segment candidate })

def release (segment : SegmentId) : Option IpPrefix × SegmentIpv4Allocator :=
  (self.get segment, { self with reservations := self.reservations.erase segment })

end SegmentIpv4Allocator

inductive AllocatorCall where
  | reserve_bootstrap (network : NetworkId) (segment : SegmentId) (foreign_host_prefixes : List IpPrefix)
  | reserve_exact (segment : SegmentId) (p : IpPrefix) (foreign_host_prefixes : List IpPrefix)
  | allocate (segment : SegmentId) (foreign_host_prefixes : List IpPrefix)
  | release (segment : SegmentId)

inductive AllocatorOutcome where
  | reserved (result : CheckedResult IpPrefix)
  | released (previous : Option IpPrefix)

/-- A call with its result. -/
structure AllocatorLabel where
  call : AllocatorCall
  outcome : AllocatorOutcome

namespace AllocatorCall

def run (allocator : SegmentIpv4Allocator) : AllocatorCall → AllocatorOutcome × SegmentIpv4Allocator
  | reserve_bootstrap network segment foreign =>
    let (result, next) := allocator.reserve_bootstrap network segment foreign
    (.reserved result, next)
  | reserve_exact segment p foreign =>
    let (result, next) := allocator.reserve_exact segment p foreign
    (.reserved result, next)
  | allocate segment foreign =>
    let (result, next) := allocator.allocate segment foreign
    (.reserved result, next)
  | release segment =>
    let (previous, next) := allocator.release segment
    (.released previous, next)

/-- The foreign prefixes that a call brings. -/
def foreign : AllocatorCall → List IpPrefix
  | reserve_bootstrap _ _ foreign | reserve_exact _ _ foreign | allocate _ foreign => foreign
  | release _ => []

end AllocatorCall

def AllocatorStep (allocator : SegmentIpv4Allocator) (label : AllocatorLabel) (next : SegmentIpv4Allocator) : Prop :=
  label.call.run allocator = (label.outcome, next)

end blueroute.segment_allocator
