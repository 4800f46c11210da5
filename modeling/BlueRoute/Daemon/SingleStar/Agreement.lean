import BlueRoute.Daemon.SingleStar.Calls

namespace blueroute_daemon.single_star

open blueroute blueroute_linux Interact SingleStarNetworkOperations

/-- The operations on a reached state: a host runs only for the network of the stored membership, and
exactly for it after a success; a failure changes nothing; candidate networks are new ones, of which at
most the one that is returned is stored; and a network that was left keeps its trusted peers. -/
structure HostAgreement (operations : SingleStarNetworkOperations) (s : StarState) : Prop where
  running : ∀ network, s.host = some network → current_network s.stored = .ok (some network)
  succeeded : ∀ call events value t, StarStep operations s ⟨call, events, .ok value⟩ t →
    ∀ network, t.host = some network ↔ current_network t.stored = .ok (some network)
  failed : ∀ call events error t, StarStep operations s ⟨call, events, .error error⟩ t → t.host = s.host ∧
    t.stored = s.stored
  candidates : ∀ name events result t, StarStep operations s ⟨.create_network name, events, result⟩ t →
    (started events).Nodup ∧ (started events).length ≤ 16 ∧
    ∀ network ∈ started events, s.stored.network network = none ∧
      (result ≠ .ok (some network) → t.stored.network network = none)
  left : ∀ events t network, StarStep operations s ⟨.leave_network, events, .ok none⟩ t →
    current_network s.stored = .ok (some network) →
    (∃ membership left, s.stored.network network = some membership ∧ t.stored.network network = some left ∧
      Behind membership left) ∧
    ∀ other, other ≠ network → t.stored.network other = s.stored.network other

/-- What a call ends with. -/
def Ended (s : StarState) (call : StarCall) (result : Result (Option NetworkId)) (t : StarState)
    (networks : List NetworkId) : Prop :=
  t.creating = false ∧
  match call with
  | .create_network _ => ∃ created, result = created.map some ∧ Created s created t.host t.stored networks
  | .leave_network => ∃ left, result = left.map (fun _ => none) ∧ Departed s left t.host t.stored
  | .reconcile_on_startup => ∃ done, result = done.map (fun _ => none) ∧ Reconciled s done t.host t.stored

section Steps

variable {self : SingleStarNetworkOperations} {s t : StarState} {label : StarLabel}

/-- A call whose value is replaced. -/
theorem map_does {α β : Type} {P : Result α → StarState → List StarEvent → Prop} {operation : StarAction α} {g : α → β}
    (h : Doing s P operation) :
    Doing s (fun result t events => ∃ original, result = original.map g ∧ P original t events)
      (operation >>= fun value => pure (g value)) := by
  refine .seq h (fun error t events hP => ⟨.error error, rfl, hP⟩) fun value t before hP => .ret ?_
  rw [List.append_nil]
  exact ⟨.ok value, rfl, hP⟩

theorem StarStep.ended (h : Agreed s) (hstep : StarStep self s label t) :
    Ended s label.call label.result t (started label.events) := by
  obtain ⟨call, events, result⟩ := label
  have hdoes : Doing s (fun result t events => Ended s call result t (started events)) (call.program self) := by
    cases call with
    | create_network name =>
      refine (map_does (create_network_does self name h)).mono ?_
      rintro result t events ⟨created, rfl, hidle, hcreated⟩
      exact ⟨hidle, created, rfl, hcreated⟩
    | leave_network =>
      refine (map_does (leave_network_does self h)).mono ?_
      rintro result t events ⟨left, rfl, hidle, hleft⟩
      exact ⟨hidle, left, rfl, hleft⟩
    | reconcile_on_startup =>
      refine (map_does (reconcile_on_startup_does self h)).mono ?_
      rintro result t events ⟨done, rfl, hidle, hdone⟩
      exact ⟨hidle, done, rfl, hdone⟩
  have hended : Ended s call result t (started (events ++ [])) := (hdoes.exec hstep).2
  rwa [List.append_nil] at hended

variable {call : StarCall} {networks : List NetworkId}

theorem Ended.failed {error : CoreError} (h : Ended s call (.error error) t networks) :
    t.host = s.host ∧ t.stored = s.stored := by
  obtain ⟨-, h⟩ := h
  cases call with
  | create_network name =>
    obtain ⟨created | created, hresult, hcreated⟩ := h
    · exact hcreated.failed created rfl
    · cases hresult
  | leave_network =>
    obtain ⟨left | left, hresult, hleft⟩ := h
    · exact hleft.failed left rfl
    · cases hresult
  | reconcile_on_startup =>
    obtain ⟨done | done, hresult, hdone⟩ := h
    · exact ⟨hdone.failed done rfl, hdone.stored⟩
    · cases hresult

/-- Where no network is current, no host runs. -/
theorem agree_none (hhost : t.host = none) (hcurrent : current_network t.stored = .ok none) (network : NetworkId) :
    t.host = some network ↔ current_network t.stored = .ok (some network) := by
  rw [hhost, hcurrent]
  simp

theorem agree_some {current : NetworkId} (hhost : t.host = some current)
    (hcurrent : current_network t.stored = .ok (some current)) (network : NetworkId) :
    t.host = some network ↔ current_network t.stored = .ok (some network) := by
  rw [hhost, hcurrent]
  simp

theorem Ended.succeeded {value : Option NetworkId} (hagreed : Agreed s) (h : Ended s call (.ok value) t networks)
    (network : NetworkId) : t.host = some network ↔ current_network t.stored = .ok (some network) := by
  obtain ⟨-, h⟩ := h
  cases call with
  | create_network name =>
    obtain ⟨created | created, hresult, hcreated⟩ := h
    · cases hresult
    · obtain ⟨hhost, hcurrent, membership, rfl, hstate, hstored⟩ := hcreated.joined created rfl
      exact agree_some hhost (hstored ▸ current_network_of_joined hcurrent hstate) network
  | leave_network =>
    obtain ⟨left | ⟨⟩, hresult, hleft⟩ := h
    · cases hresult
    · obtain ⟨hcurrent, hhost, hstored⟩ | ⟨left, membership, behind, hcurrent, hfound, hbehind, hhost, hstored⟩ :=
        hleft.left rfl
      · exact agree_none (hhost.trans (hagreed.host_of_current_none hcurrent)) (hstored ▸ hcurrent) network
      · have hid : behind.network_id = left := hbehind.network_id.trans (s.stored.keyed left membership hfound)
        refine agree_none hhost ?_ network
        rw [hstored]
        exact current_network_of_left (hid ▸ hcurrent) (by simp [hbehind.state])
  | reconcile_on_startup =>
    obtain ⟨done | ⟨⟩, hresult, hdone⟩ := h
    · cases hresult
    · obtain ⟨hcurrent, hhost⟩ | ⟨current, hcurrent, hhost⟩ := hdone.running rfl
      · exact agree_none (hhost.trans (hagreed.host_of_current_none hcurrent)) (hdone.stored ▸ hcurrent) network
      · exact agree_some hhost (hdone.stored ▸ hcurrent) network

theorem Agreed.step (h : Agreed s) (hstep : StarStep self s label t) : Agreed t := by
  obtain ⟨call, events, result⟩ := label
  have hended := hstep.ended h
  refine ⟨?_, hended.1⟩
  cases result with
  | error error =>
    obtain ⟨hhost, hstored⟩ := hended.failed
    rw [hhost, hstored]
    exact h.running
  | ok value => exact fun network => (hended.succeeded h network).mp

end Steps

/-- Calls of the operations one after the other, from a state in which a host runs for no other network
than that of the stored membership. -/
theorem host_agrees_with_membership {self : SingleStarNetworkOperations} {init s : StarState} {labels : List StarLabel}
    (hinit : Agreed init) (hrun : Runs.Run (StarStep self) init labels s) : HostAgreement self s := by
  have hagreed : Agreed s := hrun.invariant Agreed (fun _ _ _ h hstep => h.step hstep) hinit
  refine ⟨hagreed.running, ?_, ?_, ?_, ?_⟩
  · intro call events value t hstep
    exact (hstep.ended hagreed).succeeded hagreed
  · intro call events error t hstep
    exact (hstep.ended hagreed).failed
  · intro name events result t hstep
    obtain ⟨-, created, hresult, hcreated⟩ := hstep.ended hagreed
    refine ⟨hcreated.fresh.nodup, hcreated.bounded, fun network hmem => ?_⟩
    have hunknown := hcreated.fresh.unknown network hmem
    refine ⟨hunknown, fun hother => ?_⟩
    cases created with
    | error error =>
      rw [(hcreated.failed error rfl).2]
      exact hunknown
    | ok joined =>
      obtain ⟨-, -, membership, rfl, -, hstored⟩ := hcreated.joined joined rfl
      rw [hstored, MembershipRegistry.network_remember_network, if_neg, hunknown]
      rintro rfl
      exact hother hresult
  · intro events t network hstep hcurrent
    obtain ⟨-, left | ⟨⟩, hresult, hleft⟩ := hstep.ended hagreed
    · cases hresult
    · obtain ⟨hnone, -⟩ | ⟨left, membership, behind, hleft, hfound, hbehind, -, hstored⟩ := hleft.left rfl
      · cases hnone.symm.trans hcurrent
      · cases hcurrent.symm.trans hleft
        have hid : behind.network_id = network := hbehind.network_id.trans (s.stored.keyed network membership hfound)
        rw [hstored]
        refine ⟨⟨membership, behind, hfound, ?_, hbehind⟩, fun other hother => ?_⟩
        · rw [MembershipRegistry.network_remember_network, if_pos hid]
        · rw [MembershipRegistry.network_remember_network, if_neg (hid ▸ hother.symm)]

namespace sample

def operations : SingleStarNetworkOperations :=
  { config := .default, capabilities := { nap := some ⟨true, .Discovered⟩ } }

def name : DisplayName := .lab

def stopped : StarState :=
  { host := none, stored := .default, creating := false, save_failed := false }

def claimed : StarState := { stopped with creating := true }

def running : StarState := { claimed with host := some network }

def saved : StarState :=
  { running with
    stored := MembershipRegistry.default.remember_network { NetworkMembership.new network name with state := .Member } }

theorem start_candidate_returns :
    Returns star_world claimed (operations.start_candidate .default MAX_ADDRESS_CONFLICT_RETRIES ∅ none)
      ⟨network, bridge, address⟩ running := by
  have hbridge : bridge_name network = .ok bridge := by decide
  have haddress : local_star_address network operations.config = .ok address := by decide
  have hgenerate : star_world claimed .generate (.ok network) claimed := rfl
  have hstart : star_world claimed (.start_host network bridge address) (.ok ()) running := rfl
  have hunique : Returns star_world claimed (unique_network_id .default ∅) network claimed :=
    .bind (.perform (ι := star_interface) .generate (.ok network) hgenerate) ⟨[], .stop⟩
  refine .bind hunique (.bind (.lift hbridge) (.bind (.lift haddress) ?_))
  exact .bind (.perform (ι := star_interface) (.start_host network bridge address) (.ok ()) hstart) ⟨[], .stop⟩

theorem transition_returns {α : Type} {s t : StarState} {operation : StarAction α} {value : α}
    (hidle : s.creating = false)
    (h : Returns star_world { s with creating := true, save_failed := false } operation value t) :
    Returns star_world s (transition operation) value { t with creating := false } := by
  obtain ⟨events, hexec⟩ := h
  have hclaim : star_world s .claim true { s with creating := true, save_failed := false } := ⟨by rw [hidle]; rfl, rfl⟩
  have hdrop : star_world t .drop_guard () { t with creating := false } := rfl
  refine .bind (.perform (ι := star_interface) .claim true hclaim) ?_
  exact ⟨_, Exec.bind (Exec.bind hexec .stop) (.step hdrop .stop)⟩

theorem create_returns : Returns star_world stopped (operations.create_network name) network
    { saved with creating := false } := by
  have hload : star_world claimed .load (.ok .default) claimed := ⟨rfl, fun _ h => (Except.ok.inj h).symm⟩
  have hsave : star_world running (.save saved.stored) (.ok ()) saved := rfl
  have hcurrent : current_network .default = .ok none := rfl
  refine transition_returns rfl (.bind (.lift (a := ()) rfl) ?_)
  refine .bind (.perform (ι := star_interface) .load (.ok .default) hload) ?_
  refine .bind (.lift rfl) (.bind (.lift hcurrent) ?_)
  refine .bind start_candidate_returns ?_
  refine .bind (.lift (a := .Joining) rfl) (.bind (.lift (a := .Member) rfl) ?_)
  exact .bind (.perform (ι := star_interface) (.save saved.stored) (.ok ()) hsave) ⟨[], .stop⟩

end sample

open sample

/-- A network is created on a node that has none, after which a host runs for it. -/
theorem host_agrees_with_membership_sample :
    ∃ (events : List StarEvent) (t : StarState), Agreed stopped ∧
      StarStep operations stopped ⟨.create_network name, events, .ok (some network)⟩ t ∧
      t.host = some network ∧ current_network t.stored = .ok (some network) := by
  have hagreed : Agreed stopped := ⟨nofun, rfl⟩
  obtain ⟨events, hexec⟩ := create_returns
  have hstep : StarStep operations stopped
      ⟨.create_network name, events ++ [], .ok (some network)⟩ { saved with creating := false } :=
    Exec.bind hexec .stop
  refine ⟨_, _, hagreed, hstep, rfl, ?_⟩
  exact ((host_agrees_with_membership hagreed .nil).succeeded _ _ _ _ hstep network).mp rfl

end blueroute_daemon.single_star
