import BlueRoute.Daemon.PeerTrust.Operations

namespace blueroute_daemon.peer_trust

open blueroute blueroute_protocol.peer_pin Fallible Interact single_star peer_pin_store

/-- The two files that the operations share. -/
structure Disk where
  registry : MembershipRegistry
  pin_file : Option (List UInt8)

variable {T : Type}

/-- Reads answer what is on the disk or fail. A write that answers success has persisted; one that
fails has persisted completely or not at all. -/
def world : World (interface T) Disk
  | s, .load_registry, answer, t => t = s ∧ ∀ registry, answer = .ok registry → registry = s.registry
  | s, .save_registry registry, answer, t => t = { s with registry } ∨ t = s ∧ answer ≠ .ok ()
  | s, .load_secret, answer, t => t = s ∧ ∀ contents, answer = .ok contents → contents = s.pin_file
  | s, .save_secret contents, answer, t => t = { s with pin_file := some contents } ∨ t = s ∧ answer ≠ .ok ()
  | s, _, _, t => t = s

/-- The node has the key on the disk. -/
def Disk.Pinned (disk : Disk) (network : NetworkId) (node : NodeId) (key : SpkiSha256) : Prop :=
  ∃ pins, load disk.pin_file = .ok pins ∧ pins.get network node = some key

theorem Disk.Pinned.get {disk : Disk} {network : NetworkId} {node : NodeId} {key : SpkiSha256} {pins : PeerKeyPins}
    (h : disk.Pinned network node key) (hpins : load disk.pin_file = .ok pins) :
    pins.get network node = some key := by
  obtain ⟨found, hfound, hget⟩ := h
  obtain rfl := Except.ok.inj (hpins.symm.trans hfound)
  exact hget

/-- The network is the current one and trusts the node. -/
def Disk.Approves (disk : Disk) (network : NetworkId) (node : NodeId) : Prop :=
  current_network disk.registry = .ok (some network) ∧
    ∃ membership, disk.registry.network network = some membership ∧ membership.is_peer_trusted node = true

inductive Call where
  | trust_peer (self : DurablePeerTrustOperations) (node : NodeId)
  | forget_peer (self : DurablePeerTrustOperations) (node : NodeId)
  | enroll_key_inner (self : DurablePeerTrustOperations) (network : NetworkId) (node : NodeId)
      (verified_tls_spki confirmed_spki : SpkiSha256) (deadline : Option Nat)
  | with_approved_pinned_tls_peer (self : DurablePeerTrustOperations) (network : NetworkId) (node : NodeId)
      (verified_spki_sha256 : SpkiSha256)

/-- The executions of a call, to its end or up to a crash after any of its requests. -/
def Call.Execution : Call → Disk → List (Event (interface T) Disk) → Disk → Prop
  | trust_peer self node, s, events, t => ∃ left, Exec world s (peer_trust.trust_peer self node) events t left
  | forget_peer self node, s, events, t => ∃ left, Exec world s (peer_trust.forget_peer self node) events t left
  | enroll_key_inner self network node verified confirmed deadline, s, events, t =>
    ∃ left, Exec world s (peer_trust.enroll_key_inner self network node verified confirmed deadline) events t left
  | with_approved_pinned_tls_peer self network node key, s, events, t =>
    ∃ left, Exec world s (peer_trust.with_approved_pinned_tls_peer self network node key) events t left

/-- What a call has seen on the disk when it writes the pins, or runs the caller's operation. -/
def Call.Guard : Call → Disk → Request → Prop
  | forget_peer _ node, s, .save_secret contents =>
    ∃ network pins, current_network s.registry = .ok (some network) ∧ load s.pin_file = .ok pins ∧
      render (pins.revoke network node).2 = .ok contents
  | enroll_key_inner _ network node verified _ _, s, .save_secret contents =>
    ∃ pins added, load s.pin_file = .ok pins ∧
      pins.enroll_verified network node verified = .ok (true, added) ∧ render added = .ok contents
  | with_approved_pinned_tls_peer _ network node key, s, .operate =>
    s.Approves network node ∧ s.Pinned network node key
  | _, _, .save_secret _ => False
  | _, _, .operate => False
  | _, _, _ => True

section Safety

variable {call : Call} {s : Disk}

theorem load_registry_ensures : Ensures world call.Guard (fun registry t => t = s ∧ registry = s.registry)
    (load_registry : Action (interface T) CoreError _) s := by
  refine .seq (.perform (by cases call <;> trivial) fun _ _ hstep => hstep) ?_
  rintro answer _ ⟨rfl, hanswer⟩
  exact .lift fun registry hregistry => ⟨rfl, hanswer registry hregistry⟩

theorem save_registry_ensures (registry : MembershipRegistry) : Ensures world call.Guard
    (fun _ t => t.pin_file = s.pin_file) (save_registry registry : Action (interface T) CoreError _) s := by
  refine .seq (.perform (by cases call <;> trivial) fun _ _ hstep => hstep) ?_
  rintro answer _ (rfl | ⟨rfl, -⟩)
  · exact .lift fun _ _ => rfl
  · exact .lift fun _ _ => rfl

theorem load_pins_ensures : Ensures world call.Guard
    (fun pins t => t = s ∧ load s.pin_file = .ok pins)
    (load_pins : Action (interface T) CoreError _) s := by
  refine .seq (.perform (by cases call <;> trivial) fun _ _ hstep => hstep) ?_
  rintro answer _ ⟨rfl, hanswer⟩
  refine .lift_seq fun contents hcontents => .lift fun pins hpins => ⟨rfl, ?_⟩
  rwa [hanswer contents hcontents] at hpins

theorem save_pins_ensures {pins : PeerKeyPins}
    (h : ∀ contents, render pins = .ok contents → call.Guard s (.save_secret contents)) :
    Ensures world call.Guard (fun _ t => load t.pin_file = .ok pins)
      (save_pins pins : Action (interface T) CoreError _) s := by
  refine .lift_seq fun contents hcontents => ?_
  refine .seq (.perform (h contents hcontents) fun _ _ hstep => hstep) ?_
  rintro answer _ (rfl | ⟨rfl, hfailed⟩)
  · exact .lift fun _ _ => parse_render hcontents
  · exact .lift fun _ hanswer => absurd hanswer hfailed

theorem try_lock_ensures : Ensures world call.Guard (fun _ t => t = s)
    (try_lock : Action (interface T) CoreError _) s := by
  refine .seq (.perform (by cases call <;> trivial) fun _ _ hstep => hstep) ?_
  rintro answer _ ⟨rfl, -⟩
  refine .lift_seq fun _ _ => ?_
  refine .seq (.perform (by cases call <;> trivial) fun _ _ hstep => hstep) ?_
  rintro answer _ rfl
  exact .lift fun _ _ => rfl

variable (self : DurablePeerTrustOperations) (network : NetworkId) (node : NodeId) (verified confirmed : SpkiSha256)
  (deadline : Option Nat)

theorem lock_state_ensures :
    Ensures world call.Guard (fun _ t => t = s) (lock_state self : Action (interface T) CoreError _) s := by
  refine .seq (.perform (by cases call <;> trivial) fun _ _ hstep => hstep) ?_
  rintro answer _ rfl
  refine .lift_seq fun _ _ => ?_
  split
  · exact try_lock_ensures
  · exact .pure rfl

theorem peer_approved_eq_ok_iff {registry : MembershipRegistry} {network : NetworkId} {node : NodeId} {u : Unit} :
    peer_approved registry network node = .ok u ↔ current_network registry = .ok (some network) ∧
      ∃ membership, registry.network network = some membership ∧ membership.is_peer_trusted node = true := by
  simp only [peer_approved, bind_eq_ok_iff, ok_or_eq_ok, reject_if_eq_ok, Bool.not_eq_false, not_not]
  constructor
  · rintro ⟨_, hcurrent, _, rfl, _, rfl, membership, hmembership, htrusted⟩
    exact ⟨hcurrent, membership, hmembership, htrusted⟩
  · rintro ⟨hcurrent, membership, hmembership, htrusted⟩
    exact ⟨_, hcurrent, network, rfl, (), rfl, membership, hmembership, htrusted⟩

theorem require_peer_approved_ensures :
    Ensures world call.Guard (fun _ t => t = s ∧ s.Approves network node)
      (require_peer_approved network node : Action (interface T) CoreError _) s := by
  refine .lift_seq fun _ _ => .seq load_registry_ensures ?_
  rintro _ _ ⟨rfl, rfl⟩
  exact .lift fun _ happroved => ⟨rfl, peer_approved_eq_ok_iff.mp happroved⟩

theorem check_deadline_ensures : Ensures world call.Guard (fun _ t => t = s)
    (check_deadline deadline : Action (interface T) CoreError _) s := by
  cases deadline with
  | none => exact .pure rfl
  | some limit =>
    refine .seq (.perform (by cases call <;> trivial) fun _ _ hstep => hstep) ?_
    rintro _ _ rfl
    exact .lift fun _ _ => rfl

theorem current_membership_eq_ok {registry : MembershipRegistry} {network : NetworkId}
    {membership : NetworkMembership} (h : current_membership registry = .ok (network, membership)) :
    current_network registry = .ok (some network) := by
  simp only [current_membership, bind_eq_ok_iff, ok_or_eq_ok] at h
  obtain ⟨_, hcurrent, _, rfl, _, _, hpair⟩ := h
  obtain ⟨rfl, -⟩ := Prod.mk.inj (Except.ok.inj hpair)
  exact hcurrent

theorem trust_peer_ensures :
    Ensures world (Call.trust_peer self node).Guard (fun _ _ => True)
      (trust_peer self node : Action (interface T) CoreError _) s := by
  refine .lift_seq fun _ _ => .seq (lock_state_ensures self) ?_
  rintro _ _ rfl
  refine .seq load_registry_ensures ?_
  rintro registry _ ⟨rfl, -⟩
  refine .lift_seq fun current _ => ?_
  dsimp only
  split
  · exact (save_registry_ensures _).mono fun _ _ _ => trivial
  · exact .pure trivial

theorem revoke_pin_ensures {self : DurablePeerTrustOperations} {network : NetworkId} {node : NodeId}
    (hcurrent : current_network s.registry = .ok (some network)) :
    Ensures world (Call.forget_peer self node).Guard
      (fun _ t => self.pin_store = true → ∀ key, ¬ t.Pinned network node key)
      (revoke_pin self network node : Action (interface T) CoreError _) s := by
  unfold revoke_pin
  split
  · refine .seq load_pins_ensures ?_
    rintro pins _ ⟨rfl, hpins⟩
    dsimp only
    split
    · refine .mono (save_pins_ensures fun contents hcontents => ?_) ?_
      · exact ⟨network, pins, hcurrent, hpins, hcontents⟩
      · rintro _ t hload - key hpinned
        have hget := hpinned.get hload
        rw [PeerKeyPins.get_revoke, if_pos ⟨rfl, rfl⟩] at hget
        cases hget
    · rename_i hnone
      exact .pure fun _ key hpinned => hnone (PeerKeyPins.revoke_of_get (hpinned.get hpins))
  · rename_i hstore
    exact .pure fun h => absurd h hstore

/-- A peer that was forgotten to the end has no pin. -/
theorem forget_peer_ensures :
    Ensures world (Call.forget_peer self node).Guard
      (fun _ t => self.pin_store = true → ∀ network, current_network s.registry = .ok (some network) →
        ∀ key, ¬ t.Pinned network node key)
      (forget_peer self node : Action (interface T) CoreError _) s := by
  refine .lift_seq fun _ _ => .seq (lock_state_ensures self) ?_
  rintro _ _ rfl
  refine .seq load_registry_ensures ?_
  rintro _ s ⟨rfl, rfl⟩
  refine .lift_seq fun current hcurrent => ?_
  have hnetwork := current_membership_eq_ok hcurrent
  refine .seq (revoke_pin_ensures hnetwork) fun _ t hgone => ?_
  have hlast : self.pin_store = true → ∀ network, current_network s.registry = .ok (some network) →
      ∀ key, ¬ t.Pinned network node key := by
    rintro hstore network hcurrent key
    obtain rfl := Option.some.inj (Except.ok.inj (hnetwork.symm.trans hcurrent))
    exact hgone hstore key
  dsimp only
  split
  · refine (save_registry_ensures _).mono fun _ u hsame => ?_
    simpa only [Disk.Pinned, hsame] using hlast
  · exact .pure hlast

theorem enroll_key_inner_ensures :
    Ensures world (Call.enroll_key_inner self network node verified confirmed deadline).Guard (fun _ _ => True)
      (enroll_key_inner self network node verified confirmed deadline : Action (interface T) CoreError _) s := by
  refine .seq (lock_state_ensures self) ?_
  rintro _ _ rfl
  refine .seq (require_peer_approved_ensures network node) ?_
  rintro _ _ ⟨rfl, -⟩
  refine .lift_seq fun _ _ => .lift_seq fun _ _ => .seq load_pins_ensures ?_
  rintro pins _ ⟨rfl, hpins⟩
  refine .seq (check_deadline_ensures deadline) ?_
  rintro _ _ rfl
  refine .lift_seq fun enrolled henrolled => ?_
  rw [mapError_eq_ok] at henrolled
  refine .seq (M := fun _ _ => True) ?_ fun _ _ _ => .pure trivial
  unfold save_enrollment
  split
  · rename_i hchanged
    refine .seq (check_deadline_ensures deadline) ?_
    rintro _ _ rfl
    refine (save_pins_ensures fun contents hcontents => ?_).mono fun _ _ _ => trivial
    exact ⟨pins, enrolled.2, hpins, henrolled.trans (by rw [← hchanged]), hcontents⟩
  · exact .pure trivial

theorem with_approved_pinned_tls_peer_ensures (key : SpkiSha256) :
    Ensures world (Call.with_approved_pinned_tls_peer self network node key).Guard (fun _ _ => True)
      (with_approved_pinned_tls_peer self network node key : Action (interface T) CoreError T) s := by
  refine .seq (lock_state_ensures self) ?_
  rintro _ _ rfl
  refine .seq (require_peer_approved_ensures network node) ?_
  rintro _ s ⟨rfl, happroves⟩
  refine .lift_seq fun _ _ => .seq load_pins_ensures ?_
  rintro pins _ ⟨rfl, hpins⟩
  refine .lift_seq fun _ hauthorized => ?_
  rw [mapError_eq_ok, PeerKeyPins.authorize_eq_ok_iff] at hauthorized
  refine .perform (ι := interface T) (r := .operate) ?_ fun _ _ _ => trivial
  exact ⟨happroves, pins, hpins, hauthorized.2.2⟩

end Safety

end blueroute_daemon.peer_trust
