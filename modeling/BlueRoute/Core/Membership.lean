import BlueRoute.Base.Ordered
import BlueRoute.Core.Id

namespace blueroute

open Fallible

inductive MembershipState where
  | NotMember
  | Joining
  | Member
  | Leaving
deriving DecidableEq

namespace MembershipState

/-- The name that `Debug` prints. -/
def debug : MembershipState → String
  | NotMember => "NotMember"
  | Joining => "Joining"
  | Member => "Member"
  | Leaving => "Leaving"

def transition (self next : MembershipState) : Result MembershipState :=
  let allowed := match self, next with
    | NotMember, Joining | Joining, Member | Joining, NotMember => true
    | Member, Leaving | Leaving, NotMember | Leaving, Member => true
    | _, _ => false
  if allowed = true ∨ self = next then
    .ok next
  else
    .error (.new .InvalidState s!"invalid membership transition from {self.debug} to {next.debug}")

end MembershipState

/-- Durable membership/trust facts remembered for one peer in a BlueRoute network. -/
structure PeerMembership where
  node_id : NodeId
  member : Bool
  trusted : Bool
deriving DecidableEq

def PeerMembership.new (node_id : NodeId) : PeerMembership :=
  { node_id, member := false, trusted := false }

/-- Local durable/working membership state for one BlueRoute network. -/
structure NetworkMembership where
  network_id : NetworkId
  network_name : DisplayName
  state : MembershipState
  peers : Ordered.Map NodeId PeerMembership
  peers_keyed : ∀ (node : NodeId) (peer : PeerMembership), peers[node]? = some peer → peer.node_id = node

namespace NetworkMembership

def new (network_id : NetworkId) (network_name : DisplayName) : NetworkMembership :=
  { network_id, network_name, state := .NotMember, peers := ∅, peers_keyed := by simp }

variable (self : NetworkMembership)

/-- Writes the entry of a peer, as `entry(peer).or_insert(..)` and a mutation of it do. -/
def set_peer (peer : PeerMembership) : NetworkMembership :=
  { self with
    peers := self.peers.insert peer.node_id peer
    peers_keyed := by
      intro node found hfound
      rw [Ordered.getElem?_insert_eq] at hfound
      split at hfound
      · rename_i hkey
        exact Option.some.inj hfound ▸ hkey
      · exact self.peers_keyed node found hfound }

/-- The entry of a peer, with a fresh one for an unknown peer. -/
def entry (peer : NodeId) : PeerMembership := self.peers[peer]?.getD (.new peer)

def is_peer_known (peer : NodeId) : Bool := self.peers.contains peer

def remember_peer (peer : NodeId) : Bool × NetworkMembership :=
  if self.is_peer_known peer then (false, self) else (true, self.set_peer (.new peer))

def set_peer_member (peer : NodeId) (member : Bool) : Bool × NetworkMembership :=
  let entry := self.entry peer
  (entry.member != member, self.set_peer { entry with member })

def trust_peer (peer : NodeId) : Bool × NetworkMembership :=
  let entry := self.entry peer
  (!entry.trusted, self.set_peer { entry with trusted := true })

def forget_peer (peer : NodeId) : Bool × NetworkMembership :=
  (self.peers.contains peer,
    { self with
      peers := self.peers.erase peer
      peers_keyed := by
        intro node found hfound
        rw [Ordered.getElem?_erase_eq] at hfound
        split at hfound
        · cases hfound
        · exact self.peers_keyed node found hfound })

def is_peer_trusted (peer : NodeId) : Bool := self.peers[peer]?.any PeerMembership.trusted

theorem ext_peers {self other : NetworkMembership} (hid : self.network_id = other.network_id)
    (hname : self.network_name = other.network_name) (hstate : self.state = other.state)
    (hpeers : self.peers = other.peers) : self = other := by
  cases self
  cases other
  simp_all

/-- A peer that is written twice has what was written last. -/
theorem set_peer_set_peer {first second : PeerMembership} (h : first.node_id = second.node_id) :
    (self.set_peer first).set_peer second = self.set_peer second := by
  refine ext_peers rfl rfl rfl ?_
  simp only [set_peer, h]
  exact Ordered.insert_insert ..

theorem entry_set_peer {peer : PeerMembership} {node : NodeId} (h : peer.node_id = node) :
    (self.set_peer peer).entry node = peer := by
  rw [entry, set_peer, Ordered.getElem?_insert_eq, if_pos h, Option.getD_some]

end NetworkMembership

/-- Deterministic collection of remembered BlueRoute networks. -/
structure MembershipRegistry where
  entries : Ordered.Map NetworkId NetworkMembership
  keyed : ∀ (network : NetworkId) (membership : NetworkMembership),
    entries[network]? = some membership → membership.network_id = network

namespace MembershipRegistry

def default : MembershipRegistry := { entries := ∅, keyed := by simp }

/-- Also what a mutation through `network_mut` writes back, as no mutation changes the identifier. -/
def remember_network (self : MembershipRegistry) (membership : NetworkMembership) : MembershipRegistry :=
  { entries := self.entries.insert membership.network_id membership
    keyed := by
      intro network found hfound
      rw [Ordered.getElem?_insert_eq] at hfound
      split at hfound
      · rename_i hkey
        exact Option.some.inj hfound ▸ hkey
      · exact self.keyed network found hfound }

def network (self : MembershipRegistry) (network_id : NetworkId) : Option NetworkMembership :=
  self.entries[network_id]?

def networks (self : MembershipRegistry) : List NetworkMembership :=
  self.entries.toList.map Prod.snd

theorem ext_entries {self other : MembershipRegistry} (h : self.entries = other.entries) : self = other := by
  cases self
  cases other
  simpa using h

/-- A network that is written twice has what was written last. -/
theorem remember_network_remember_network (self : MembershipRegistry) {first second : NetworkMembership}
    (h : first.network_id = second.network_id) :
    (self.remember_network first).remember_network second = self.remember_network second := by
  refine ext_entries ?_
  simp only [remember_network, h]
  exact Ordered.insert_insert ..

@[simp]
theorem network_remember_network (self : MembershipRegistry) (membership : NetworkMembership) (network_id : NetworkId) :
    (self.remember_network membership).network network_id =
      if membership.network_id = network_id then some membership else self.network network_id :=
  Ordered.getElem?_insert_eq _ _ _ _

theorem mem_networks {self : MembershipRegistry} {membership : NetworkMembership} :
    membership ∈ self.networks ↔ self.network membership.network_id = some membership := by
  constructor
  · intro h
    obtain ⟨⟨key, found⟩, hentry, rfl⟩ := List.mem_map.mp h
    have hfound : self.network key = some found := Ordered.mem_toList.mp hentry
    obtain rfl := self.keyed key found hfound
    exact hfound
  · exact fun h => List.mem_map_of_mem (f := Prod.snd) (Ordered.mem_toList.mpr h)

end MembershipRegistry

end blueroute
