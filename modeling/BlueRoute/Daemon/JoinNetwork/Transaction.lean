import BlueRoute.Daemon.JoinNetwork

namespace blueroute_daemon.join_network

open blueroute blueroute_linux Interact single_star

def link_of : Answered → Option JoinPanLink
  | ⟨.runtime (.establish_panu _), some (.ok link)⟩ => some link
  | _ => none

def lease_of : Answered → Option JoinIpLease
  | ⟨.runtime (.configure_ip _ _), some (.ok lease)⟩ => some lease
  | _ => none

def session_of : Answered → Option JoinControlSession
  | ⟨.runtime (.start_control_session _ _ _), some (.ok session)⟩ => some session
  | _ => none

/-- The calls of the runtime that take something back. -/
inductive Rollback where
  | stop_control_session (session : JoinControlSession)
  | remove_ip (lease : JoinIpLease)
  | disconnect_panu (link : JoinPanLink)

def rollback_of : Answered → Option Rollback
  | ⟨.runtime (.stop_control_session session), _⟩ => some (.stop_control_session session)
  | ⟨.runtime (.remove_ip lease), _⟩ => some (.remove_ip lease)
  | ⟨.runtime (.disconnect_panu link), _⟩ => some (.disconnect_panu link)
  | _ => none

/-- The links, leases and sessions that a call was given, and what it has taken back, in order. -/
structure Tally where
  links : List JoinPanLink
  leases : List JoinIpLease
  sessions : List JoinControlSession
  rollbacks : List Rollback

def tally (log : List Answered) : Tally :=
  { links := log.filterMap link_of
    leases := log.filterMap lease_of
    sessions := log.filterMap session_of
    rollbacks := log.filterMap rollback_of }

def Tally.add (self : Tally) (answered : Answered) : Tally :=
  { links := self.links ++ (link_of answered).toList
    leases := self.leases ++ (lease_of answered).toList
    sessions := self.sessions ++ (session_of answered).toList
    rollbacks := self.rollbacks ++ (rollback_of answered).toList }

theorem tally_concat (log : List Answered) (answered : Answered) :
    tally (log ++ [answered]) = (tally log).add answered := by
  simp only [tally, Tally.add, List.filterMap_append]
  rfl

/-- A request that neither gives nor takes back anything. -/
theorem tally_concat_inert {log : List Answered} {answered : Answered} (hlink : link_of answered = none)
    (hlease : lease_of answered = none) (hsession : session_of answered = none)
    (hrollback : rollback_of answered = none) : tally (log ++ [answered]) = tally log := by
  rw [tally_concat, Tally.add, hlink, hlease, hsession, hrollback]
  simp only [Option.toList_none, List.append_nil]

/-- A lease that is the network's own, on the link's interface, with the planned address. -/
structure Owned (pool : Ipv4AddressPool) (network : NetworkId) (link : JoinPanLink) (lease : JoinIpLease) : Prop where
  owner : lease.address.owner = network
  interface : lease.interface = link.interface
  private_ipv4 : is_private_ipv4 lease.address.prefix_.address = true
  planned : ∃ plan, Ipv4StarAddressPlan.for_network network pool = .ok plan ∧ lease.address.prefix_ = plan.first_client

/-- The session is stopped, then the address is removed if it is known to be owned, then the link is
disconnected: each of them once, and nothing else. -/
structure RolledBack (pool : Ipv4AddressPool) (network : NetworkId) (tally : Tally) : Prop where
  links : tally.links.length ≤ 1
  leases : tally.leases.length ≤ 1
  sessions : tally.sessions.length ≤ 1
  order : ∃ owned : List JoinIpLease, owned.Sublist tally.leases ∧
    (∀ lease ∈ tally.leases, lease ∈ owned ↔ ∃ link ∈ tally.links, Owned pool network link lease) ∧
    tally.rollbacks = tally.sessions.map .stop_control_session ++ owned.map .remove_ip ++
      tally.links.map .disconnect_panu

/-- Everything that a membership may be saved after. -/
structure Committable (pool : Ipv4AddressPool) (network : NetworkId) (log : List Answered)
    (registry : MembershipRegistry) : Prop where
  preflight : ⟨.runtime (.preflight network), some (.ok ())⟩ ∈ log
  owned : ∃ link lease session,
    ⟨.runtime (.establish_panu network), some (.ok link)⟩ ∈ log ∧
    ⟨.runtime (.configure_ip network link), some (.ok lease)⟩ ∈ log ∧ Owned pool network link lease ∧
    ⟨.runtime (.start_control_session network link lease), some (.ok session)⟩ ∈ log ∧ session.network = network
  loaded : ∃ loaded, log.getLast? = some ⟨.load, .ok loaded⟩ ∧ current_network loaded = .ok none ∧
    mark_local_membership_joined loaded network = .ok registry

/-- Nothing was changed, the membership was saved, or everything that was made is known to be undone. -/
def Settled (log : List Answered) : Prop :=
  (∀ answered ∈ log, ∀ network, answered.1 ≠ .runtime (.establish_panu network)) ∨
  (∃ registry, ⟨.save registry, .ok ()⟩ ∈ log) ∨
  ∃ link lease session, (tally log).links = [link] ∧ (tally log).leases = [lease] ∧ (tally log).sessions = [session] ∧
    ⟨.runtime (.stop_control_session session), some (.ok ())⟩ ∈ log ∧
    ⟨.runtime (.remove_ip lease), some (.ok ())⟩ ∈ log ∧
    ⟨.runtime (.disconnect_panu link), some (.ok ())⟩ ∈ log

/-- What a call has done before its requests. -/
def Guard (pool : Ipv4AddressPool) (own : Caller) : Request → Prop
  | .claim => own.phase = .Fresh
  | .save registry => Committable pool own.network own.log registry
  | .drop_guard => own.phase = .Claimed ∧ (own.may_have_live_resources = false → Settled own.log)
  | _ => True

section Does

variable {κ : Type} {pool : Ipv4AddressPool} {k : κ} {own : Caller} {α β : Type}

/-- What a part of a call does, whatever it is answered and whatever the other calls do. -/
abbrev Doing (pool : Ipv4AddressPool) (k : κ) (own : Caller) (Q : Except Stop α → Caller → Prop)
    (p : JoinAction α) : Prop :=
  (tasks pool).Does (Guard pool) k own (fun result t _ => Q result t) p

variable {Q : Except Stop β → Caller → Prop}

theorem ask_does {r : Request} {f : r.Answer → JoinAction β} (hguard : Guard pool own r)
    (h : ∀ answer, Doing pool k (own.after ⟨r, answer⟩) Q (f answer)) :
    Doing pool k own Q (ask r >>= f) := by
  refine Tasks.Does.perform hguard ?_
  rintro shared answer own' shared' ⟨rfl, -⟩
  exact h answer

theorem await_does {call : RuntimeCall} {f : Result call.Value → JoinAction β}
    (hdropped : Q (.error .Dropped) (own.after ⟨.runtime call, none⟩))
    (h : ∀ result, Doing pool k (own.after ⟨.runtime call, some result⟩) Q (f result)) :
    Doing pool k own Q (await call >>= f) := by
  refine .seq (M := fun result t _ => (result = .error .Dropped ∧ t = own.after ⟨.runtime call, none⟩) ∨
    ∃ answer, result = .ok answer ∧ t = own.after ⟨.runtime call, some answer⟩) ?_ ?_ ?_
  · refine ask_does (Q := fun result t => (result = .error .Dropped ∧ t = own.after ⟨.runtime call, none⟩) ∨
      ∃ answer, result = .ok answer ∧ t = own.after ⟨.runtime call, some answer⟩) trivial ?_
    rintro (_ | result)
    · exact .ret (.inl ⟨rfl, rfl⟩)
    · exact .ret (.inr ⟨result, rfl, rfl⟩)
  · rintro error t _ (⟨herror, rfl⟩ | ⟨_, herror, -⟩)
    · obtain rfl := Except.error.inj herror
      exact hdropped
    · cases herror
  · rintro result t _ (⟨hresult, -⟩ | ⟨answer, hresult, rfl⟩)
    · cases hresult
    · obtain rfl := Except.ok.inj hresult
      exact h result

theorem propagate_does {result : Result α} {f : α → JoinAction β}
    (herror : ∀ error, result = .error error → Q (.error (.Failed error)) own)
    (h : ∀ value, result = .ok value → Doing pool k own Q (f value)) :
    Doing pool k own Q (propagate result >>= f) := by
  cases result with
  | error error => exact .ret (herror error rfl)
  | ok value => exact h value rfl

end Does

/-- A call that holds the guard and has changed something, with what it was given and took back. -/
structure Holding (own : Caller) (network : NetworkId) (counts : Tally) : Prop where
  same_network : own.network = network
  phase : own.phase = .Claimed
  live : own.may_have_live_resources = true
  tally : tally own.log = counts

section Holding

variable {own : Caller} {network : NetworkId} {counts : Tally}

theorem Holding.runtime (h : Holding own network counts) (call : RuntimeCall) (answer : Option (Result call.Value)) :
    Holding (own.after ⟨.runtime call, answer⟩) network (counts.add ⟨.runtime call, answer⟩) where
  same_network := h.same_network
  phase := h.phase
  live := h.live
  tally := by rw [← h.tally]; exact tally_concat ..

theorem Holding.load (h : Holding own network counts) (answer : Result MembershipRegistry) :
    Holding (own.after ⟨.load, answer⟩) network counts where
  same_network := h.same_network
  phase := h.phase
  live := h.live
  tally := (tally_concat_inert rfl rfl rfl rfl).trans h.tally

theorem Holding.save (h : Holding own network counts) (registry : MembershipRegistry) (answer : Result Unit) :
    Holding (own.after ⟨.save registry, answer⟩) network counts where
  same_network := h.same_network
  phase := h.phase
  live := h.live
  tally := (tally_concat_inert rfl rfl rfl rfl).trans h.tally

end Holding

/-- How the part of a call that runs under the guard ends: the guard is held, clears the flag only if all
is settled, and a failure has taken back what is known to be owned. -/
structure Left (pool : Ipv4AddressPool) (network : NetworkId) (result : Except Stop Unit) (own : Caller) : Prop where
  same_network : own.network = network
  phase : own.phase = .Claimed
  settled : own.may_have_live_resources = false → Settled own.log
  rolled_back : ∀ error, result = .error (.Failed error) → RolledBack pool network (tally own.log)

section Left

variable {pool : Ipv4AddressPool} {network : NetworkId} {own : Caller} {counts : Tally}

theorem Holding.dropped (h : Holding own network counts) : Left pool network (.error .Dropped) own where
  same_network := h.same_network
  phase := h.phase
  settled hlive := by rw [h.live] at hlive; cases hlive
  rolled_back _ hfailed := nomatch hfailed

theorem Holding.failed (h : Holding own network counts) (hback : RolledBack pool network counts) (error : CoreError) :
    Left pool network (.error (.Failed error)) own where
  same_network := h.same_network
  phase := h.phase
  settled hlive := by rw [h.live] at hlive; cases hlive
  rolled_back _ _ := h.tally ▸ hback

end Left

theorem rolledBack_nothing {pool : Ipv4AddressPool} {network : NetworkId} :
    RolledBack pool network ⟨[], [], [], []⟩ where
  links := Nat.zero_le _
  leases := Nat.zero_le _
  sessions := Nat.zero_le _
  order := ⟨[], .slnil, nofun, rfl⟩

/-- A call that has only a link, and perhaps a lease that is not known to be its own. -/
theorem rolledBack_link {pool : Ipv4AddressPool} {network : NetworkId} {link : JoinPanLink} {leases : List JoinIpLease}
    (hone : leases.length ≤ 1) (hforeign : ∀ lease ∈ leases, ¬ Owned pool network link lease) :
    RolledBack pool network ⟨[link], leases, [], [.disconnect_panu link]⟩ where
  links := le_rfl
  leases := hone
  sessions := Nat.zero_le _
  order := by
    refine ⟨[], List.nil_sublist _, fun lease hlease => ?_, rfl⟩
    simpa using hforeign lease hlease

/-- A call that has a lease of its own, and perhaps a session. -/
theorem rolledBack_lease {pool : Ipv4AddressPool} {network : NetworkId} {link : JoinPanLink} {lease : JoinIpLease}
    (sessions : List JoinControlSession) (hone : sessions.length ≤ 1) (howned : Owned pool network link lease) :
    RolledBack pool network
      ⟨[link], [lease], sessions, sessions.map .stop_control_session ++ [.remove_ip lease, .disconnect_panu link]⟩ where
  links := le_rfl
  leases := le_rfl
  sessions := hone
  order := by
    refine ⟨[lease], List.Sublist.refl _, fun other hother => ?_, by simp⟩
    obtain rfl := List.mem_singleton.mp hother
    simpa using howned

/-- How a rollback returns: everything is taken back, and it is clean only if every step has succeeded. -/
def Undone (network : NetworkId) (counts : Tally) (calls : List RuntimeCall) :
    Except Stop (CoreError × Bool) → Caller → Prop
  | .error stop, own => stop = .Dropped ∧ ∃ partly, Holding own network partly
  | .ok (_, clean), own => Holding own network counts ∧
    (clean = true → ∀ call ∈ calls, ∃ value, ⟨.runtime call, some (.ok value)⟩ ∈ own.log)

section Exits

variable {κ : Type} {pool : Ipv4AddressPool} {k : κ} {network : NetworkId} {own : Caller} {α : Type}
  {link : JoinPanLink} {lease : JoinIpLease} {session : JoinControlSession} {primary : CoreError}

theorem fail_with_link_does {leases : List JoinIpLease} (h : Holding own network ⟨[link], leases, [], []⟩)
    (hone : leases.length ≤ 1) (hforeign : ∀ lease ∈ leases, ¬ Owned pool network link lease)
    {Q : Except Stop α → Caller → Prop} (hQ : ∀ stop t, Left pool network (.error stop) t → Q (.error stop) t) :
    Doing pool k own Q (fail_with_link primary link) := by
  refine await_does (hQ _ _ (h.runtime (.disconnect_panu link) none).dropped) fun result => .ret (hQ _ _ ?_)
  have hlast := h.runtime (.disconnect_panu link) (some result)
  simp only [Tally.add, link_of, lease_of, session_of, rollback_of, Option.toList, List.append_nil,
    List.nil_append] at hlast
  exact hlast.failed (rolledBack_link hone hforeign) _

theorem mem_log_of_isOk {call : RuntimeCall} {result : Result call.Value} (hok : result.isOk = true) :
    ∃ value, (⟨.runtime call, some (.ok value)⟩ : Answered) ∈ (own.after ⟨.runtime call, some result⟩).log := by
  cases result with
  | error error => cases hok
  | ok value => exact ⟨value, List.mem_append_right _ (List.mem_singleton_self _)⟩

theorem mem_log_after {done : Answered} (h : done ∈ own.log) (answered : Answered) :
    done ∈ (own.after answered).log :=
  List.mem_append_left _ h

theorem rollback_after_control_does (h : Holding own network ⟨[link], [lease], [session], []⟩) :
    Doing pool k own (Undone network
        ⟨[link], [lease], [session], [.stop_control_session session, .remove_ip lease, .disconnect_panu link]⟩
        [.stop_control_session session, .remove_ip lease, .disconnect_panu link])
      (rollback_after_control primary session lease link) := by
  refine await_does ⟨rfl, _, h.runtime (.stop_control_session session) none⟩ fun control => ?_
  have hstopped := h.runtime (.stop_control_session session) (some control)
  refine await_does ⟨rfl, _, hstopped.runtime (.remove_ip lease) none⟩ fun address => ?_
  have hremoved := hstopped.runtime (.remove_ip lease) (some address)
  refine await_does ⟨rfl, _, hremoved.runtime (.disconnect_panu link) none⟩ fun panu => .ret ?_
  refine ⟨hremoved.runtime (.disconnect_panu link) (some panu), fun hclean => ?_⟩
  simp only [Bool.and_eq_true] at hclean
  obtain ⟨⟨hcontrol, haddress⟩, hpanu⟩ := hclean
  simp only [List.forall_mem_cons, List.not_mem_nil, false_imp_iff, implies_true, and_true]
  refine ⟨?_, ?_, mem_log_of_isOk hpanu⟩
  · exact (mem_log_of_isOk hcontrol).imp fun _ hmem => mem_log_after (mem_log_after hmem _) _
  · exact (mem_log_of_isOk haddress).imp fun _ hmem => mem_log_after hmem _

theorem rollback_after_ip_does (h : Holding own network ⟨[link], [lease], [], []⟩) :
    Doing pool k own (Undone network ⟨[link], [lease], [], [.remove_ip lease, .disconnect_panu link]⟩ [])
      (rollback_after_ip primary lease link) := by
  refine await_does ⟨rfl, _, h.runtime (.remove_ip lease) none⟩ fun address => ?_
  have hremoved := h.runtime (.remove_ip lease) (some address)
  refine await_does ⟨rfl, _, hremoved.runtime (.disconnect_panu link) none⟩ fun panu => .ret ?_
  exact ⟨hremoved.runtime (.disconnect_panu link) (some panu), fun _ => by simp⟩

theorem fail_with_session_does (h : Holding own network ⟨[link], [lease], [session], []⟩)
    (howned : Owned pool network link lease) :
    Doing pool k own (Left pool network) (fail_with_session primary session lease link) := by
  refine .seq (rollback_after_control_does h) ?_ ?_
  · rintro stop t _ ⟨rfl, _, hpartly⟩
    exact hpartly.dropped
  · rintro ⟨error, clean⟩ t _ ⟨hdone, hclean⟩
    have hback := rolledBack_lease [session] le_rfl howned
    cases clean with
    | false => exact .ret (hdone.failed hback error)
    | true =>
      have htally : tally (t.after ⟨.reconciled, ()⟩).log = tally t.log := tally_concat_inert rfl rfl rfl rfl
      refine ask_does trivial fun _ => .ret ⟨hdone.same_network, hdone.phase, fun _ => ?_, fun _ _ => ?_⟩
      · have hlog := hclean rfl
        simp only [List.forall_mem_cons, List.not_mem_nil, false_imp_iff, implies_true, and_true] at hlog
        obtain ⟨⟨_, hstop⟩, ⟨_, hremove⟩, _, hdisconnect⟩ := hlog
        have hcounts := htally.trans hdone.tally
        refine .inr (.inr ⟨link, lease, session, by rw [hcounts], by rw [hcounts], by rw [hcounts], ?_, ?_, ?_⟩)
        · exact mem_log_after hstop _
        · exact mem_log_after hremove _
        · exact mem_log_after hdisconnect _
      · rw [htally, hdone.tally]
        exact hback

end Exits

/-- A call that has established its link. -/
structure Attached (own : Caller) (network : NetworkId) (link : JoinPanLink) (counts : Tally) : Prop extends
    Holding own network counts where
  preflight : ⟨.runtime (.preflight network), some (.ok ())⟩ ∈ own.log
  established : ⟨.runtime (.establish_panu network), some (.ok link)⟩ ∈ own.log

theorem Attached.runtime {own : Caller} {network : NetworkId} {link : JoinPanLink} {counts : Tally}
    (h : Attached own network link counts) (call : RuntimeCall) (answer : Option (Result call.Value)) :
    Attached (own.after ⟨.runtime call, answer⟩) network link (counts.add ⟨.runtime call, answer⟩) where
  toHolding := h.toHolding.runtime call answer
  preflight := mem_log_after h.preflight _
  established := mem_log_after h.established _

/-- A call that has a lease of its own. -/
structure Leased (pool : Ipv4AddressPool) (own : Caller) (network : NetworkId) (link : JoinPanLink)
    (lease : JoinIpLease) (counts : Tally) : Prop extends Attached own network link counts where
  configured : ⟨.runtime (.configure_ip network link), some (.ok lease)⟩ ∈ own.log
  owned : Owned pool network link lease

/-- A part of a call that goes on with a value, or ends the call. -/
def Continues {α : Type} (pool : Ipv4AddressPool) (network : NetworkId) (Next : α → Caller → Prop) :
    Except Stop α → Caller → Prop
  | .error stop, own => Left pool network (.error stop) own
  | .ok value, own => Next value own

section Stages

variable {κ : Type} {pool : Ipv4AddressPool} {k : κ} {network : NetworkId} {own : Caller} {link : JoinPanLink}
  {lease : JoinIpLease} {session : JoinControlSession}

theorem obtain_lease_does {plan : Ipv4StarAddressPlan} (hplan : Ipv4StarAddressPlan.for_network network pool = .ok plan)
    (h : Attached own network link ⟨[link], [], [], []⟩) :
    Doing pool k own
      (Continues pool network fun lease t => Leased pool t network link lease ⟨[link], [lease], [], []⟩)
      (obtain_lease network plan.first_client link) := by
  refine await_does (h.runtime (.configure_ip network link) none).dropped fun configured => ?_
  have hnext := h.runtime (.configure_ip network link) (some configured)
  cases configured with
  | error error =>
    exact fail_with_link_does hnext.toHolding (Nat.zero_le _) (by simp [lease_of]) fun _ _ hleft => hleft
  | ok lease =>
    have hforeign (hnot : ¬ Owned pool network link lease) : ∀ other ∈ [lease], ¬ Owned pool network link other :=
      fun other hother => List.mem_singleton.mp hother ▸ hnot
    dsimp only
    split_ifs with hmismatch hpublic hunplanned
    · refine fail_with_link_does hnext.toHolding le_rfl (hforeign fun howned => ?_) fun _ _ hleft => hleft
      exact hmismatch.elim (absurd howned.owner) (absurd howned.interface)
    · refine fail_with_link_does hnext.toHolding le_rfl (hforeign fun howned => ?_) fun _ _ hleft => hleft
      rw [howned.private_ipv4] at hpublic
      cases hpublic
    · refine fail_with_link_does hnext.toHolding le_rfl (hforeign fun howned => ?_) fun _ _ hleft => hleft
      obtain ⟨other, hother, hprefix⟩ := howned.planned
      cases hplan.symm.trans hother
      exact hunplanned hprefix
    · rw [not_or, not_not, not_not] at hmismatch
      refine .ret ⟨hnext, List.mem_append_right _ (List.mem_singleton_self _), hmismatch.1, hmismatch.2, ?_,
        plan, hplan, not_not.mp hunplanned⟩
      simpa using hpublic

theorem obtain_session_does (h : Leased pool own network link lease ⟨[link], [lease], [], []⟩) :
    Doing pool k own
      (Continues pool network fun session t =>
        Leased pool t network link lease ⟨[link], [lease], [session], []⟩ ∧
        ⟨.runtime (.start_control_session network link lease), some (.ok session)⟩ ∈ t.log)
      (obtain_session network link lease) := by
  refine await_does (h.runtime (.start_control_session network link lease) none).dropped fun started => ?_
  have hnext := h.runtime (.start_control_session network link lease) (some started)
  cases started with
  | error error =>
    refine .seq (rollback_after_ip_does hnext.toHolding) ?_ ?_
    · rintro stop t _ ⟨rfl, _, hpartly⟩
      exact hpartly.dropped
    · rintro ⟨error, clean⟩ t _ ⟨hdone, -⟩
      exact .ret (hdone.failed (rolledBack_lease [] (Nat.zero_le _) h.owned) error)
  | ok session =>
    exact .ret ⟨⟨hnext, mem_log_after h.configured _, h.owned⟩, List.mem_append_right _ (List.mem_singleton_self _)⟩

theorem joined_registry_eq_ok_iff {registry joined : MembershipRegistry} :
    joined_registry registry network = .ok joined ↔
      current_network registry = .ok none ∧ mark_local_membership_joined registry network = .ok joined := by
  rw [joined_registry, Fallible.bind_eq_ok_iff]
  constructor
  · rintro ⟨_ | current, hcurrent, hjoined⟩
    · exact ⟨hcurrent, hjoined⟩
    · cases hjoined
  · rintro ⟨hcurrent, hjoined⟩
    exact ⟨none, hcurrent, hjoined⟩

theorem commit_does (h : Leased pool own network link lease ⟨[link], [lease], [session], []⟩)
    (hstarted : ⟨.runtime (.start_control_session network link lease), some (.ok session)⟩ ∈ own.log) :
    Doing pool k own (Left pool network) (commit network session lease link) := by
  unfold commit
  split_ifs with hforeign
  · exact fail_with_session_does h.toHolding h.owned
  · refine ask_does trivial fun loaded => ?_
    have hloaded := h.toHolding.load loaded
    split
    · exact fail_with_session_does hloaded h.owned
    · rename_i registry hregistry
      obtain ⟨current, rfl, hjoined⟩ := Fallible.bind_eq_ok_iff.mp hregistry
      have hcommittable : Committable pool network (own.after ⟨.load, .ok current⟩).log registry :=
        { preflight := mem_log_after h.preflight _
          owned := ⟨link, lease, session, mem_log_after h.established _, mem_log_after h.configured _, h.owned,
            mem_log_after hstarted _, not_not.mp hforeign⟩
          loaded := ⟨current, List.getLast?_concat .., joined_registry_eq_ok_iff.mp hjoined⟩ }
      refine ask_does (by rw [Guard, hloaded.same_network]; exact hcommittable) fun saved => ?_
      cases saved with
      | error error => exact fail_with_session_does (hloaded.save registry _) h.owned
      | ok saved =>
        refine ask_does trivial fun _ => .ret ⟨hloaded.same_network, hloaded.phase, fun _ => ?_, nofun⟩
        exact .inr (.inl ⟨registry, mem_log_after (List.mem_append_right _ (List.mem_singleton_self _)) _⟩)

/-- A call that holds the guard and has changed nothing. -/
structure Untouched (own : Caller) (network : NetworkId) : Prop where
  same_network : own.network = network
  phase : own.phase = .Claimed
  live : own.may_have_live_resources = false
  tally : tally own.log = ⟨[], [], [], []⟩
  unchanged : ∀ answered ∈ own.log, ∀ network, answered.1 ≠ .runtime (.establish_panu network)

theorem Untouched.left (h : Untouched own network) (result : Except Stop Unit) : Left pool network result own where
  same_network := h.same_network
  phase := h.phase
  settled _ := .inl h.unchanged
  rolled_back _ _ := by
    rw [h.tally]
    exact rolledBack_nothing

theorem Untouched.load (h : Untouched own network) (loaded : Result MembershipRegistry) :
    Untouched (own.after ⟨.load, loaded⟩) network where
  same_network := h.same_network
  phase := h.phase
  live := h.live
  tally := (tally_concat_inert rfl rfl rfl rfl).trans h.tally
  unchanged := List.forall_mem_append.mpr ⟨h.unchanged, by simp⟩

theorem Untouched.preflight (h : Untouched own network) (ready : Option (Result Unit)) :
    Untouched (own.after ⟨.runtime (.preflight network), ready⟩) network where
  same_network := h.same_network
  phase := h.phase
  live := h.live
  tally := (tally_concat_inert rfl rfl rfl rfl).trans h.tally
  unchanged := List.forall_mem_append.mpr ⟨h.unchanged, by simp⟩

theorem Untouched.mutation_started (h : Untouched own network) :
    Holding (own.after ⟨.mutation_started, ()⟩) network ⟨[], [], [], []⟩ where
  same_network := h.same_network
  phase := h.phase
  live := rfl
  tally := (tally_concat_inert rfl rfl rfl rfl).trans h.tally

theorem join_claimed_does (h : Untouched own network) :
    Doing pool k own (Left pool network) (join_claimed pool network) := by
  refine ask_does trivial fun loaded => ?_
  have hloaded := h.load loaded
  refine propagate_does (fun error _ => hloaded.left _) fun registry _ => ?_
  refine propagate_does (fun error _ => hloaded.left _) fun _ _ => ?_
  refine propagate_does (fun error _ => hloaded.left _) fun plan hplan => ?_
  refine await_does ((hloaded.preflight none).left _) fun ready => ?_
  have hready := hloaded.preflight (some ready)
  refine propagate_does (fun error _ => hready.left _) fun _ hok => ?_
  subst hok
  refine ask_does trivial fun _ => ?_
  have hstarted := hready.mutation_started
  refine await_does (hstarted.runtime (.establish_panu network) none).dropped fun established => ?_
  have hestablished := hstarted.runtime (.establish_panu network) (some established)
  refine propagate_does (fun error herror => ?_) fun link hlink => ?_
  · subst herror
    exact hestablished.failed rolledBack_nothing error
  · subst hlink
    have hattached : Attached _ network link ⟨[link], [], [], []⟩ :=
      { toHolding := hestablished
        preflight := mem_log_after (mem_log_after (List.mem_append_right _ (List.mem_singleton_self _)) _) _
        established := List.mem_append_right _ (List.mem_singleton_self _) }
    refine .seq (obtain_lease_does hplan hattached) (fun _ _ _ hleft => hleft) fun lease t _ hleased => ?_
    refine .seq (obtain_session_does hleased) (fun _ _ _ hleft => hleft) ?_
    rintro session t' _ ⟨hsession, hmem⟩
    exact commit_does hsession hmem

end Stages

/-- How a call ends. -/
def Post (pool : Ipv4AddressPool) (network : NetworkId) (result : Except Stop Unit) (own : Caller) : Prop :=
  own.phase ≠ .Claimed ∧ ∀ error, result = .error (.Failed error) → RolledBack pool network (tally own.log)

theorem join_network_does {κ : Type} {pool : Ipv4AddressPool} {k : κ} {network : NetworkId} :
    Doing pool k (.new network) (Post pool network)
      (TransactionalJoinNetworkOperations.join_network pool network) := by
  unfold TransactionalJoinNetworkOperations.join_network
  split_ifs with hzero
  · exact .ret ⟨nofun, fun _ _ => rolledBack_nothing⟩
  · refine ask_does rfl fun claimed => ?_
    cases claimed with
    | false => exact .ret ⟨nofun, fun _ _ => rolledBack_nothing⟩
    | true =>
      have hclaimed : Untouched ((Caller.new network).after ⟨.claim, true⟩) network :=
        ⟨rfl, rfl, rfl, rfl, by simp [Caller.after, Caller.new]⟩
      refine .attempt (join_claimed_does hclaimed) fun result t _ hleft => ?_
      refine ask_does ⟨hleft.phase, hleft.settled⟩ fun _ => .ret ⟨nofun, fun error herror => ?_⟩
      have htally : tally (t.after ⟨.drop_guard, ()⟩).log = tally t.log := tally_concat_inert rfl rfl rfl rfl
      rw [htally]
      exact hleft.rolled_back error herror

end blueroute_daemon.join_network
