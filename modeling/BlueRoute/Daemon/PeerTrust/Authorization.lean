import BlueRoute.Daemon.PeerTrust.Guards

namespace blueroute_daemon.peer_trust

open blueroute blueroute_protocol.peer_pin Fallible Interact single_star peer_pin_store PeerKeyPins

variable {T : Type}

/-- A request of a call. -/
structure Entry (T : Type) where
  call : Call
  event : Event (interface T) Disk

namespace Entry

/-- A write of the pins that is on the disk afterwards. -/
def Persists (entry : Entry T) : Prop :=
  ∃ contents, entry.event.request = .save_secret contents ∧ entry.event.after.pin_file = some contents

/-- An enrolment of the key that persists. -/
def Enrols (entry : Entry T) (network : NetworkId) (node : NodeId) (key : SpkiSha256) : Prop :=
  (∃ self confirmed deadline, entry.call = .enroll_key_inner self network node key confirmed deadline) ∧ entry.Persists

/-- A removal of the node's pin that persists. -/
def Removes (entry : Entry T) (network : NetworkId) (node : NodeId) : Prop :=
  (∃ self, entry.call = .forget_peer self node) ∧
    current_network entry.event.before.registry = .ok (some network) ∧ entry.Persists

/-- The caller's operation is run for the node with the key. -/
def Operates (entry : Entry T) (network : NetworkId) (node : NodeId) (key : SpkiSha256) : Prop :=
  (∃ self, entry.call = .with_approved_pinned_tls_peer self network node key) ∧ entry.event.request = .operate

end Entry

/-- The requests of calls that are made one after the other, each to its end or up to a crash. -/
inductive History : Disk → List (Entry T) → Disk → Prop where
  | nil {s : Disk} : History s [] s
  | call {s t u : Disk} {call : Call} {events : List (Event (interface T) Disk)} {rest : List (Entry T)}
      (hcall : call.Execution s events t) (hrest : History t rest u) :
      History s (events.map (Entry.mk call) ++ rest) u

/-- What is known of one request of a call. -/
def Entry.Step (s : Disk) (entry : Entry T) (t : Disk) : Prop :=
  world.Shows s entry.event t ∧ entry.call.Guard s entry.event.request

theorem Call.Execution.run {call : Call} {s t : Disk} {events : List (Event (interface T) Disk)}
    (h : call.Execution s events t) : Runs.Run Entry.Step s (events.map (Entry.mk call)) t := by
  have hrun : Runs.Run (fun s event t => world.Shows s event t ∧ call.Guard s event.request) s events t := by
    cases call with
    | trust_peer self node => exact (Safe.exec (trust_peer_ensures self node) h.choose_spec).1
    | forget_peer self node => exact (Safe.exec (forget_peer_ensures self node) h.choose_spec).1
    | enroll_key_inner self network node verified confirmed deadline =>
      exact (Safe.exec (enroll_key_inner_ensures self network node verified confirmed deadline) h.choose_spec).1
    | with_approved_pinned_tls_peer self network node key =>
      exact (Safe.exec (with_approved_pinned_tls_peer_ensures self network node key) h.choose_spec).1
  clear h
  induction hrun with
  | nil => exact .nil
  | cons hstep _ ih => exact .cons hstep ih

theorem History.run {s t : Disk} {history : List (Entry T)} (h : History s history t) :
    Runs.Run Entry.Step s history t := by
  induction h with
  | nil => exact .nil
  | call hcall _ ih => exact Runs.Run.append_iff.mpr ⟨_, hcall.run, ih⟩

section Steps

variable {s t : Disk} {entry : Entry T} {network : NetworkId} {node : NodeId} {key : SpkiSha256}

/-- The pins change only by an enrolment or a removal that persists. -/
theorem Entry.Step.cases (h : Entry.Step s entry t) :
    (t.pin_file = s.pin_file ∧ ¬ entry.Persists) ∨
    (∃ network node key pins added, entry.Enrols network node key ∧ load s.pin_file = .ok pins ∧
      pins.enroll_verified network node key = .ok (true, added) ∧ load t.pin_file = .ok added) ∨
    ∃ network node pins, entry.Removes network node ∧ load s.pin_file = .ok pins ∧
      load t.pin_file = .ok (pins.revoke network node).2 := by
  obtain ⟨⟨rfl, rfl, hworld⟩, hguard⟩ := h
  by_cases hpersists : entry.Persists
  · right
    obtain ⟨contents, hrequest, hcontents⟩ := hpersists
    rw [hrequest] at hguard
    have hload : ∀ pins, render pins = .ok contents →
        load entry.event.after.pin_file = .ok pins := by
      intro pins hpins
      rw [hcontents]
      exact parse_render hpins
    cases hcall : entry.call with
    | enroll_key_inner self network node verified confirmed deadline =>
      rw [hcall] at hguard
      obtain ⟨pins, added, hpins, hadded, hrender⟩ := hguard
      exact .inl ⟨network, node, verified, pins, added,
        ⟨⟨self, confirmed, deadline, hcall⟩, contents, hrequest, hcontents⟩, hpins, hadded, hload added hrender⟩
    | forget_peer self node =>
      rw [hcall] at hguard
      obtain ⟨network, pins, hcurrent, hpins, hrender⟩ := hguard
      exact .inr ⟨network, node, pins, ⟨⟨self, hcall⟩, hcurrent, contents, hrequest, hcontents⟩, hpins, hload _ hrender⟩
    | trust_peer self node | with_approved_pinned_tls_peer self network node key =>
      rw [hcall] at hguard
      exact hguard.elim
  · refine .inl ⟨?_, hpersists⟩
    obtain ⟨call, ⟨before, request, answer, after⟩⟩ := entry
    dsimp only at hworld ⊢
    cases request with
    | save_secret contents =>
      obtain rfl | ⟨rfl, -⟩ := hworld
      · exact absurd ⟨contents, rfl, rfl⟩ hpersists
      · rfl
    | save_registry registry =>
      obtain rfl | ⟨rfl, -⟩ := hworld
      · rfl
      · rfl
    | load_registry | load_secret => exact congrArg Disk.pin_file hworld.1
    | lock_thread | lock_process | now | operate => exact congrArg Disk.pin_file hworld

theorem Entry.Removes.unique {network' : NetworkId} {node' : NodeId} (h : entry.Removes network node)
    (h' : entry.Removes network' node') : network = network' ∧ node = node' := by
  obtain ⟨⟨self, hcall⟩, hcurrent, -⟩ := h
  obtain ⟨⟨self', hcall'⟩, hcurrent', -⟩ := h'
  exact ⟨Option.some.inj (Except.ok.inj (hcurrent.symm.trans hcurrent')),
    (Call.forget_peer.inj (hcall.symm.trans hcall')).2⟩

theorem Entry.Removes.not_enrols {other : NodeId} {network' : NetworkId} (h : entry.Removes network node) :
    ¬ entry.Enrols network' other key := by
  rintro ⟨⟨_, _, _, henroll⟩, -⟩
  obtain ⟨⟨_, hforget⟩, -⟩ := h
  rw [hforget] at henroll
  cases henroll

/-- A key on the disk is that of the enrolment just made, or it was there before and has not been
removed. -/
theorem Entry.Step.pinned (h : Entry.Step s entry t) (hpinned : t.Pinned network node key) :
    entry.Enrols network node key ∨ s.Pinned network node key ∧ ¬ entry.Removes network node := by
  obtain ⟨hsame, hpersists⟩ | ⟨network', node', key', pins, added, henrols, hpins, hadded, hload⟩ |
    ⟨network', node', pins, hremoves, hpins, hload⟩ := h.cases
  · rw [Disk.Pinned, hsame] at hpinned
    exact .inr ⟨hpinned, fun hremoves => hpersists hremoves.2.2⟩
  · obtain ⟨hnonzero, hfree, hnone, rfl⟩ := enroll_verified_eq_ok_true hadded
    have hget := hpinned.get hload
    rw [get_enroll] at hget
    split at hget
    · rename_i hsame
      obtain ⟨rfl, rfl⟩ := hsame
      obtain rfl := Option.some.inj hget
      exact .inl henrols
    · exact .inr ⟨⟨pins, hpins, hget⟩, fun hremoves => hremoves.not_enrols henrols⟩
  · have hget := hpinned.get hload
    rw [get_revoke] at hget
    split at hget
    · cases hget
    · rename_i hother
      exact .inr ⟨⟨pins, hpins, hget⟩, fun hremoves' => hother (hremoves.unique hremoves')⟩

/-- A key stays on the disk up to a removal. -/
theorem Entry.Step.pinned_after (h : Entry.Step s entry t) (hpinned : s.Pinned network node key)
    (hkept : ¬ entry.Removes network node) : t.Pinned network node key := by
  obtain ⟨hsame, -⟩ | ⟨network', node', key', pins, added, -, hpins, hadded, hload⟩ |
    ⟨network', node', pins, hremoves, hpins, hload⟩ := h.cases
  · rwa [Disk.Pinned, hsame]
  · obtain ⟨hnonzero, hfree, hnone, rfl⟩ := enroll_verified_eq_ok_true hadded
    refine ⟨_, hload, ?_⟩
    have hget := hpinned.get hpins
    rw [get_enroll, if_neg ?_, hget]
    rintro ⟨rfl, rfl⟩
    rw [hnone] at hget
    cases hget
  · refine ⟨_, hload, ?_⟩
    rw [get_revoke, if_neg ?_, hpinned.get hpins]
    rintro ⟨rfl, rfl⟩
    exact hkept hremoves

theorem Entry.Step.operates (h : Entry.Step s entry t) (hoperates : entry.Operates network node key) :
    s.Approves network node ∧ s.Pinned network node key ∧ t = s := by
  obtain ⟨⟨self, hcall⟩, hrequest⟩ := hoperates
  obtain ⟨⟨rfl, rfl, hworld⟩, hguard⟩ := h
  rw [hcall, hrequest] at hguard
  refine ⟨hguard.1, hguard.2, ?_⟩
  obtain ⟨call, ⟨before, request, answer, after⟩⟩ := entry
  obtain rfl := hrequest
  exact hworld

end Steps

section Runs

variable {s t : Disk} {history : List (Entry T)} {network : NetworkId} {node : NodeId} {key : SpkiSha256}

/-- The key was enrolled, and has not been removed since. -/
def Enrolled (history : List (Entry T)) (network : NetworkId) (node : NodeId) (key : SpkiSha256) : Prop :=
  ∃ (before after : List (Entry T)) (enrolment : Entry T), history = before ++ enrolment :: after ∧
    enrolment.Enrols network node key ∧ ∀ removal ∈ after, ¬ removal.Removes network node

/-- From a disk without keys, every key on the disk was enrolled and has not been removed since. -/
theorem enrolled_of_pinned {registry : MembershipRegistry} (h : Runs.Run Entry.Step ⟨registry, none⟩ history t)
    (hpinned : t.Pinned network node key) : Enrolled history network node key := by
  revert network node key
  refine Runs.Run.history (fun history t => ∀ {network node key}, t.Pinned network node key →
    Enrolled history network node key) ?_ ?_ h
  · intro network node key hpinned
    have hget := hpinned.get rfl
    rw [get_new] at hget
    cases hget
  · intro history t entry u ih hstep network node key hpinned
    obtain henrols | ⟨hbefore, hkept⟩ := hstep.pinned hpinned
    · exact ⟨history, [], entry, rfl, henrols, fun _ hmem => nomatch hmem⟩
    · obtain ⟨before, after, enrolment, rfl, henrols, hafter⟩ := ih hbefore
      refine ⟨before, after ++ [entry], enrolment, by simp, henrols, fun removal hremoval => ?_⟩
      obtain hremoval | hremoval := List.mem_append.mp hremoval
      · exact hafter removal hremoval
      · rwa [List.mem_singleton.mp hremoval]

/-- A key stays on the disk through a run without a removal of it. -/
theorem pinned_of_kept (h : Runs.Run Entry.Step s history t) (hpinned : s.Pinned network node key)
    (hkept : ∀ entry ∈ history, ¬ entry.Removes network node) : t.Pinned network node key :=
  Runs.Run.invariant_of_forall (fun disk => disk.Pinned network node key)
    (fun _ _ _ hkept hpinned hstep => hstep.pinned_after hpinned hkept) h hkept hpinned

/-- A key that was not on the disk and is there now was enrolled since. -/
theorem enrols_of_pinned (h : Runs.Run Entry.Step s history t) (hgone : ¬ s.Pinned network node key)
    (hpinned : t.Pinned network node key) : ∃ enrolment ∈ history, enrolment.Enrols network node key := by
  by_contra hnone
  refine Runs.Run.invariant_of_forall (fun disk => ¬ disk.Pinned network node key) ?_ h
    (fun entry hentry henrols => hnone ⟨entry, hentry, henrols⟩) hgone hpinned
  intro _ _ _ hnew hgone hstep hpinned
  exact (hstep.pinned hpinned).elim hnew fun hbefore => hgone hbefore.1

/-- The disk on which an operation of a run is let in. -/
theorem pinned_of_operates {earlier later : List (Entry T)} {entry : Entry T}
    (h : Runs.Run Entry.Step s (earlier ++ entry :: later) t) (hoperates : entry.Operates network node key) :
    Runs.Run Entry.Step s earlier entry.event.before ∧ entry.event.before.Approves network node ∧
      entry.event.before.Pinned network node key := by
  obtain ⟨_, hearlier, hrest⟩ := Runs.Run.append_iff.mp h
  cases hrest with
  | cons hstep _ =>
    obtain ⟨happroves, hpinned, -⟩ := hstep.operates hoperates
    obtain ⟨⟨rfl, -⟩, -⟩ := hstep
    exact ⟨hearlier, happroves, hpinned⟩

theorem Disk.Pinned.unique {other : NodeId} (h : t.Pinned network node key) (hother : t.Pinned network other key) :
    node = other := by
  obtain ⟨pins, hpins, hget⟩ := h
  exact pins.injective network node other key hget (hother.get hpins)

end Runs

/-- Every history of calls that starts without pins: an operation is run only for a trusted node of
the current network with a key that was enrolled for it and not removed since. After a removal of a
node's pin that persisted, and after a forgetting that was completed, only a new enrolment lets the node
in again. One key lets in two nodes of a network only if the pin of the first was removed in between. -/
theorem with_approved_pinned_tls_peer_authorized {registry : MembershipRegistry} {history : List (Entry T)}
    {disk : Disk} (hhistory : History ⟨registry, none⟩ history disk) :
    (∀ (earlier later : List (Entry T)) (entry : Entry T) (network : NetworkId) (node : NodeId) (key : SpkiSha256),
      history = earlier ++ entry :: later → entry.Operates network node key →
        entry.event.before.Approves network node ∧ Enrolled earlier network node key) ∧
    (∀ (earlier between later : List (Entry T)) (removal entry : Entry T) (network : NetworkId) (node : NodeId)
        (key : SpkiSha256),
      history = earlier ++ removal :: between ++ entry :: later → removal.Removes network node →
      entry.Operates network node key → ∃ enrolment ∈ between, enrolment.Enrols network node key) ∧
    (∀ (earlier between later : List (Entry T)) (first second : Entry T) (network : NetworkId) (node other : NodeId)
        (key : SpkiSha256),
      history = earlier ++ first :: between ++ second :: later → first.Operates network node key →
      second.Operates network other key → node ≠ other → ∃ removal ∈ between, removal.Removes network node) ∧
    ∀ (self : DurablePeerTrustOperations) (network : NetworkId) (node : NodeId) (forgotten last : Disk),
      self.pin_store = true → current_network disk.registry = .ok (some network) →
      Returns world disk (forget_peer self node : Action (interface T) CoreError Unit) () forgotten →
      (∀ key, ¬ forgotten.Pinned network node key) ∧
      ∀ (between later : List (Entry T)) (entry : Entry T) (key : SpkiSha256),
        History forgotten (between ++ entry :: later) last → entry.Operates network node key →
        ∃ enrolment ∈ between, enrolment.Enrols network node key := by
  have hrun := hhistory.run
  refine ⟨?_, ?_, ?_, ?_⟩
  · rintro earlier later entry network node key rfl hoperates
    obtain ⟨hearlier, happroves, hpinned⟩ := pinned_of_operates hrun hoperates
    exact ⟨happroves, enrolled_of_pinned hearlier hpinned⟩
  · rintro earlier between later removal entry network node key rfl hremoves hoperates
    obtain ⟨hbefore, -, hpinned⟩ := pinned_of_operates hrun hoperates
    obtain ⟨_, -, hbefore⟩ := Runs.Run.append_iff.mp hbefore
    cases hbefore with
    | cons hstep hbetween =>
      refine enrols_of_pinned hbetween (fun hleft => ?_) hpinned
      exact (hstep.pinned hleft).elim hremoves.not_enrols fun hkept => hkept.2 hremoves
  · rintro earlier between later first second network node other key rfl hfirst hsecond hne
    by_contra hkept
    obtain ⟨hbefore, -, hother⟩ := pinned_of_operates hrun hsecond
    obtain ⟨_, -, hbefore⟩ := Runs.Run.append_iff.mp hbefore
    cases hbefore with
    | cons hstep hbetween =>
      obtain ⟨-, hpinned, rfl⟩ := hstep.operates hfirst
      have hstays := pinned_of_kept hbetween hpinned fun removal hmem hremoves => hkept ⟨removal, hmem, hremoves⟩
      exact hne (hstays.unique hother)
  · rintro self network node forgotten last hstore hcurrent ⟨events, hexec⟩
    have hgone := (Safe.exec (forget_peer_ensures self node) hexec).2 () rfl hstore network hcurrent
    refine ⟨hgone, fun between later entry key hlater hoperates => ?_⟩
    obtain ⟨hbetween, -, hpinned⟩ := pinned_of_operates hlater.run hoperates
    exact enrols_of_pinned hbetween (hgone key) hpinned

namespace sample

def network : NetworkId := .filled 1

def node : NodeId := .filled 2

def key : SpkiSha256 := { as_bytes := Vector.replicate 32 3, nonzero := ⟨3, by decide, by decide⟩ }

def name : DisplayName := .lab

/-- One current network with one trusted node. -/
def registry : MembershipRegistry :=
  MembershipRegistry.default.remember_network
    { (NetworkMembership.new network name).trust_peer node |>.2 with state := .Member }

theorem approves (pin_file : Option (List UInt8)) : Disk.Approves ⟨registry, pin_file⟩ network node :=
  ⟨rfl, _, rfl, rfl⟩

def operations : DurablePeerTrustOperations := { pin_store := true }

section Executions

variable {s : Disk}

theorem load_secret_returns : Returns world s
    (Action.perform (ι := interface Unit) .load_secret : Action (interface Unit) CoreError _) (.ok s.pin_file) s :=
  .perform _ _ ⟨rfl, fun _ hcontents => (Except.ok.inj hcontents).symm⟩

theorem lock_state_returns : Returns world s (lock_state operations : Action (interface Unit) CoreError _) () s := by
  refine (Returns.perform (ι := interface Unit) .lock_thread true rfl).bind ((Returns.lift rfl).bind ?_)
  refine load_secret_returns.bind ((Returns.lift rfl).bind ?_)
  exact (Returns.perform (ι := interface Unit) .lock_process (.ok ()) rfl).bind (Returns.lift rfl)

theorem require_peer_approved_returns (h : s.registry = registry) :
    Returns world s (require_peer_approved network node : Action (interface Unit) CoreError _) () s := by
  refine (Returns.lift rfl).bind (Returns.bind (a := registry) (t := s) ?_ ?_)
  · refine (Returns.perform (ι := interface Unit) .load_registry (.ok registry) ⟨rfl, ?_⟩).bind (Returns.lift rfl)
    exact fun _ hregistry => h ▸ (Except.ok.inj hregistry).symm
  · exact .lift (peer_approved_eq_ok_iff.mpr (approves none))

theorem load_pins_returns {pins : PeerKeyPins} (h : load s.pin_file = .ok pins) :
    Returns world s (load_pins : Action (interface Unit) CoreError _) pins s :=
  load_secret_returns.bind ((Returns.lift rfl).bind (Returns.lift h))

end Executions

/-- The only pin is that of the node. -/
def pins : PeerKeyPins := new.enroll network node key (by decide) (by simp)

theorem enroll_key_inner_returns {contents : List UInt8} (h : render pins = .ok contents) :
    Returns world ⟨registry, none⟩
      (enroll_key_inner operations network node key key none : Action (interface Unit) CoreError _) true
      ⟨registry, some contents⟩ := by
  have hfree : new.get network node = none := get_new _ _
  refine lock_state_returns.bind ((require_peer_approved_returns rfl).bind ?_)
  refine (Returns.lift rfl).bind ((Returns.lift rfl).bind ((load_pins_returns rfl).bind ?_))
  refine Returns.bind (a := ()) ⟨[], .stop⟩ ((Returns.lift (a := (true, pins)) ?_).bind ?_)
  · exact mapError_eq_ok.mpr (enroll_verified_of_free _ _ hfree)
  · refine .bind (a := ()) (.bind (a := ()) ⟨[], .stop⟩ ?_) ⟨[], .stop⟩
    exact (Returns.lift h).bind ((Returns.perform (ι := interface Unit) (.save_secret contents) (.ok ())
      (.inl rfl)).bind
      (.lift rfl))

theorem with_approved_pinned_tls_peer_operates (disk : Disk) (hregistry : disk.registry = registry)
    (hload : load disk.pin_file = .ok pins) :
    ∃ earlier, Exec world disk
      (with_approved_pinned_tls_peer operations network node key : Action (interface Unit) CoreError Unit)
      (earlier ++ [⟨disk, .operate, (), disk⟩]) disk (.ret (.ok ())) := by
  have hget : pins.get network node = some key := by rw [pins, get_enroll, if_pos ⟨rfl, rfl⟩]
  have hauthorized : pins.authorize network node true key = .ok () :=
    authorize_eq_ok_iff.mpr ⟨by decide, rfl, hget⟩
  refine lock_state_returns.before ((require_peer_approved_returns hregistry).before ?_)
  refine (Returns.lift rfl).before ((load_pins_returns hload).before ?_)
  exact (Returns.lift (mapError_eq_ok.mpr hauthorized)).before ⟨[], .step rfl .stop⟩

end sample

open peer_trust.sample

/-- An enrolment, and then an operation that the enrolled key lets in. -/
theorem with_approved_pinned_tls_peer_authorized_sample :
    ∃ (earlier : List (Entry Unit)) (entry : Entry Unit) (disk : Disk),
      History ⟨registry, none⟩ (earlier ++ [entry]) disk ∧
      entry.Operates network node key ∧
      Enrolled earlier network node key := by
  obtain ⟨contents, hcontents⟩ := exists_render (show pins.len ≤ _ by decide)
  have hload : load (some contents) = .ok pins := parse_render hcontents
  obtain ⟨first, hfirst⟩ := enroll_key_inner_returns hcontents
  obtain ⟨second, hsecond⟩ := with_approved_pinned_tls_peer_operates ⟨_, some contents⟩ rfl hload
  have henroll : (Call.enroll_key_inner operations network node key key none).Execution
      ⟨registry, none⟩ first ⟨registry, some contents⟩ := ⟨_, hfirst⟩
  have hcall : (Call.with_approved_pinned_tls_peer operations network node key).Execution
      ⟨registry, some contents⟩ (second ++ [⟨_, .operate, (), _⟩]) ⟨registry, some contents⟩ :=
    ⟨_, hsecond⟩
  have hhistory := History.call henroll (History.call hcall .nil)
  rw [List.append_nil, List.map_append, ← List.append_assoc] at hhistory
  refine ⟨_, _, _, hhistory, ⟨⟨_, rfl⟩, rfl⟩, ?_⟩
  exact ((with_approved_pinned_tls_peer_authorized hhistory).1 _ [] _ _ _ _ rfl ⟨⟨_, rfl⟩, rfl⟩).2

end blueroute_daemon.peer_trust
