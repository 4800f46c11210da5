import BlueRoute.Daemon.RegisteredTransport.Guards

namespace blueroute_daemon.registered_transport

open blueroute_protocol.session control_tls Interact ControlSessionRegistry

/-- All connections, and the registry that they share. -/
abbrev Transports (κ : Type) := Pool κ interface Owner SharedRegistry Operation Outcome

abbrev TransportLabel (κ : Type) := Label κ interface Owner SharedRegistry Operation Outcome

namespace Transports

variable {κ : Type}

def get (pool : Transports κ) (key : PeerSessionKey) : Option SessionEntry :=
  pool.shared.registry.get key

/-- Connections that no one owns yet, and an empty registry. -/
structure Initial (pool : Transports κ) : Prop where
  idle : ∀ k, pool.running k = none
  fresh : ∀ k, (pool.own k).phase = .Fresh
  registry : pool.shared.registry = .new

/-- Every open socket is that of a registered owner, and every entry is active. -/
structure Registered (connection : κ → Connection) (pool : Transports κ) : Prop where
  owned : ∀ k, (pool.own k).Open → pool.get (connection k).key = some ⟨(connection k).session_id, .Active⟩
  active : ∀ key entry, pool.get key = some entry → entry.phase = .Active

end Transports

section Ownership

variable {κ : Type} [DecidableEq κ] {connection : κ → Connection} {pool next : Transports κ} {label : TransportLabel κ}

omit [DecidableEq κ] in
/-- A registration is recorded where no entry is active, and makes an owner; every other answer changes
nothing. -/
theorem world_activate {c : Connection} {before after : Owner × SharedRegistry}
    {answer : Except SessionAdmissionError SessionRegistration}
    (h : world c before .activate_registration answer after) :
    after = before ∨
      ((∀ entry, before.2.registry.get c.key = some entry → entry.phase ≠ .Active) ∧
        after = ({ before.1 with phase := .Owned },
          { before.2 with registry := before.2.registry.record c.key c.session_id })) := by
  rw [world] at h
  split at h
  · exact .inl h.2
  · obtain ⟨hanswer, hafter⟩ := h
    have hcases := before.2.registry.activate_after_authentication_cases c.key c.session_id
    generalize before.2.registry.activate_after_authentication c.key c.session_id = activation at hcases hanswer hafter
    subst hanswer
    cases hcases with
    | new _ hfree _ => exact .inr ⟨by simp [hfree], hafter⟩
    | recovered _ hget hphase =>
      refine .inr ⟨?_, hafter⟩
      rintro entry hentry
      obtain rfl := Option.some.inj (hget.symm.trans hentry)
      exact hphase
    | already_active hget | rejected error => exact .inl hafter

/-- What a step can do to the registry: record a connection where no entry is active, or remove that of a
connection whose socket is closed. -/
inductive RegistryChange (connection : κ → Connection) (pool : Transports κ) (label : TransportLabel κ)
    (registry : ControlSessionRegistry) : Prop where
  | none (hsame : registry = pool.shared.registry)
  | recorded (k : κ) (hvacant : ∀ entry, pool.get (connection k).key = some entry → entry.phase ≠ .Active)
      (hregistry : registry = pool.shared.registry.record (connection k).key (connection k).session_id)
  | removed (k : κ) (event : OwnerEvent) (hlabel : label = .request k event) (hclosed : (pool.own k).terminal = true)
      (hregistry : registry =
        (pool.shared.registry.remove_if_current (connection k).key (connection k).session_id).2)

/-- The requests that a step makes are guarded. -/
def GuardedStep (pool : Transports κ) (label : TransportLabel κ) : Prop :=
  ∀ k event, label = .request k event → Guard (pool.own k) event.request

theorem registry_change (hguard : GuardedStep pool label) (hstep : (tasks connection).Step pool label next) :
    RegistryChange connection pool label next.shared.registry := by
  obtain hsame | ⟨k, r, answer, hlabel, hworld⟩ | ⟨-, -, hdrift⟩ := hstep.shared
  · exact .none (by rw [hsame])
  · have hrequest := hguard k _ hlabel
    change world (connection k) _ r answer _ at hworld
    cases r with
    | activate_registration =>
      obtain hsame | ⟨hvacant, hafter⟩ := world_activate hworld
      · exact .none (congrArg SharedRegistry.registry (Prod.mk.inj hsame).2)
      · exact .recorded k hvacant (congrArg SharedRegistry.registry (Prod.mk.inj hafter).2)
    | remove_if_current =>
      exact .removed k _ hlabel hrequest (congrArg SharedRegistry.registry (Prod.mk.inj hworld).2)
    | close => exact .none (congrArg SharedRegistry.registry (Prod.mk.inj hworld).2)
    | _ => exact .none (congrArg SharedRegistry.registry (Prod.mk.inj (world_of_observes rfl hworld)).2)
  · exact .none hdrift.1

omit [DecidableEq κ] in
theorem finish_open {owner : Owner} {operation : Operation} {outcome : Outcome}
    (h : ((tasks connection).finish owner operation outcome).Open) : owner.Open := by
  simp only [tasks] at h
  split at h
  · cases h.1
  · cases h.1
  · exact h

omit [DecidableEq κ] in
theorem finish_terminal {owner : Owner} {operation : Operation} {outcome : Outcome} (h : owner.terminal = true) :
    ((tasks connection).finish owner operation outcome).terminal = true := by
  simp only [tasks]
  split
  · rfl
  · exact h
  · exact h

/-- What a step can do to a connection: it becomes an owner with its registration, or it is closed. -/
theorem owner_change (hstep : (tasks connection).Step pool label next) (k : κ) :
    ((next.own k).Open → (pool.own k).Open ∨
      next.get (connection k).key = some ⟨(connection k).session_id, .Active⟩) ∧
    ((pool.own k).terminal = true → (next.own k).terminal = true) := by
  obtain ⟨hown, -⟩ | ⟨operation, -, -, hown, -⟩ | ⟨operation, r, program, history, answer, -, hworld, -, -⟩ |
    ⟨operation, history, result, -, -, hown, -⟩ := hstep.task k
  · rw [hown]
    exact ⟨.inl, id⟩
  · rw [hown]
    exact ⟨.inl, id⟩
  · change world (connection k) _ r answer _ at hworld
    cases r with
    | activate_registration =>
      obtain hsame | ⟨-, hafter⟩ := world_activate hworld
      · rw [(Prod.mk.inj hsame).1]
        exact ⟨.inl, id⟩
      · obtain ⟨hown, hshared⟩ := Prod.mk.inj hafter
        refine ⟨fun _ => .inr ?_, fun hclosed => by rw [hown]; exact hclosed⟩
        rw [Transports.get, hshared]
        exact (get_record _).trans (if_pos rfl)
    | remove_if_current =>
      rw [(Prod.mk.inj hworld).1]
      exact ⟨.inl, id⟩
    | close =>
      rw [(Prod.mk.inj hworld).1]
      exact ⟨fun hopen => (nomatch hopen.2), fun _ => rfl⟩
    | _ =>
      rw [(Prod.mk.inj (world_of_observes rfl hworld)).1]
      exact ⟨.inl, id⟩
  · rw [hown]
    exact ⟨fun hopen => .inl (finish_open hopen), finish_terminal⟩

namespace Transports

omit [DecidableEq κ] in
theorem registered_of_initial (h : pool.Initial) : pool.Registered connection := by
  refine ⟨fun k hopen => ?_, fun key entry hentry => ?_⟩
  · have hphase := (h.fresh k).symm.trans hopen.1
    cases hphase
  · rw [get, h.registry, get_new] at hentry
    cases hentry

/-- An entry stays as it is unless its own connection removes it, whose socket is closed then. -/
theorem Registered.entry_kept (h : pool.Registered connection)
    (hids : Function.Injective fun k => (connection k).session_id) (hguard : GuardedStep pool label)
    (hstep : (tasks connection).Step pool label next) {k : κ} {entry : SessionEntry}
    (hentry : pool.get (connection k).key = some entry) (hid : entry.session_id = (connection k).session_id) :
    next.get (connection k).key = some entry ∨
      (pool.own k).terminal = true ∧ ∃ event, label = .request k event := by
  rw [get]
  cases registry_change hguard hstep with
  | none hsame =>
    rw [hsame]
    exact .inl hentry
  | recorded j hvacant hregistry =>
    rw [hregistry, get_record, if_neg]
    · exact .inl hentry
    · intro hkey
      rw [hkey] at hentry
      exact hvacant entry hentry (h.active _ _ hentry)
  | removed j event hlabel hclosed hregistry =>
    rw [hregistry, get_remove_if_current]
    split_ifs with hremoved
    · obtain ⟨hkey, hcurrent⟩ := hremoved
      rw [← hkey, show pool.shared.registry.get _ = _ from hentry, Option.any_some, decide_eq_true_iff] at hcurrent
      obtain rfl := hids (hid.symm.trans hcurrent)
      exact .inr ⟨hclosed, event, hlabel⟩
    · exact .inl hentry

theorem Registered.step (h : pool.Registered connection)
    (hids : Function.Injective fun k => (connection k).session_id) (hguard : GuardedStep pool label)
    (hstep : (tasks connection).Step pool label next) : next.Registered connection := by
  refine ⟨fun k hopen => ?_, fun key entry hentry => ?_⟩
  · obtain hbefore | hrecorded := (owner_change hstep k).1 hopen
    · obtain hkept | ⟨hclosed, -⟩ := h.entry_kept hids hguard hstep (h.owned k hbefore) rfl
      · exact hkept
      · have hterminal := hbefore.2
        rw [hclosed] at hterminal
        cases hterminal
    · exact hrecorded
  · rw [get] at hentry
    cases registry_change hguard hstep with
    | none hsame =>
      rw [hsame] at hentry
      exact h.active key entry hentry
    | recorded j hvacant hregistry =>
      rw [hregistry, get_record] at hentry
      split_ifs at hentry with hkey
      · obtain rfl := Option.some.inj hentry
        rfl
      · exact h.active key entry hentry
    | removed j event hlabel hclosed hregistry =>
      rw [hregistry, get_remove_if_current] at hentry
      split_ifs at hentry with hremoved
      exact h.active key entry hentry

end Transports

/-- Owners of control sessions that share one registry, in any interleaving of their operations. An open
socket is that of the one registered owner for its peer. A registration disappears only after the
socket of its own connection is closed. Frames and heartbeats pass only while the connection's own
generation is active before and after the use of the socket, and a closed connection does not use its
socket again. -/
theorem registered_sessions_owned (hids : Function.Injective fun k => (connection k).session_id)
    {init : Transports κ} {labels : List (TransportLabel κ)} (hinit : init.Initial)
    (hrun : Runs.Run (tasks connection).Step init labels pool) :
    (∀ k, (pool.own k).Open → pool.get (connection k).key = some ⟨(connection k).session_id, .Active⟩) ∧
    (∀ j k, (pool.own j).Open → (pool.own k).Open → (connection j).key = (connection k).key → j = k) ∧
    ∀ (label : TransportLabel κ) (next : Transports κ), (tasks connection).Step pool label next →
      (∀ k entry, pool.get (connection k).key = some entry → entry.session_id = (connection k).session_id →
        (next.get (connection k).key ≠ some entry → (pool.own k).terminal = true) ∧
        ∀ j event, label = .request j event → j ≠ k → next.get (connection k).key = some entry) ∧
      (∀ k now_ms max_wait history frames,
        label = .finish k (.receive now_ms max_wait) history (.received (.ok (.Frames frames))) →
          Bracketed (connection k) UsesSocket history) ∧
      (∀ k deadline history, label = .finish k (.heartbeat deadline) history (.sent (.ok ())) →
        Bracketed (connection k) UsesSocket history) ∧
      (∀ k event, label = .request k event → event.request.is_io = true → (pool.own k).Open) ∧
      ∀ k, (pool.own k).terminal = true → (next.own k).terminal = true := by
  obtain ⟨hsafe, hregistered⟩ := Tasks.invariant_of_run tasks_correct (Transports.Registered connection)
    (fun _ _ _ h hguard hstep => h.step hids hguard hstep) hinit.idle (Transports.registered_of_initial hinit) hrun
  refine ⟨hregistered.owned, ?_, fun label next hstep => ⟨?_, ?_, ?_, ?_, fun k => (owner_change hstep k).2⟩⟩
  · intro j k hj hk hkey
    have hentries := (hregistered.owned j hj).symm.trans (hkey ▸ hregistered.owned k hk)
    exact hids (congrArg SessionEntry.session_id (Option.some.inj hentries))
  · intro k entry hentry hid
    have hguard : GuardedStep pool label := by
      rintro j event rfl
      exact hsafe.guarded hstep
    have hkept := hregistered.entry_kept hids hguard hstep hentry hid
    refine ⟨fun hgone => (hkept.resolve_left hgone).1, fun j event hlabel hne => hkept.resolve_right ?_⟩
    rintro ⟨-, other, hother⟩
    rw [hlabel] at hother
    exact hne (by injection hother)
  · rintro k now_ms max_wait history frames rfl
    exact hsafe.finished hstep (by simp)
  · rintro k deadline history rfl
    exact hsafe.finished hstep
  · rintro k event rfl hio
    exact (hsafe.guarded hstep).of_io hio

end Ownership

namespace sample

def connection (k : Bool) : Connection :=
  { key := { network := .filled 1, peer := .filled 2 }, session_id := Vector.replicate 16 (if k then 3 else 4) }

def init : Transports Bool :=
  { own := fun _ => ⟨.Fresh, false⟩, running := fun _ => none, shared := ⟨.new, false⟩ }

def registry : ControlSessionRegistry :=
  new.record (connection true).key (connection true).session_id

theorem admit_exec : ∃ events, Exec (world (connection true)) (⟨.Fresh, false⟩, ⟨.new, false⟩)
    (Operation.admit_.program (connection true)) events (⟨.Owned, false⟩, ⟨registry, false⟩)
    (.ret (.admitted (.ok ()))) := by
  have hactivate : world (connection true) (⟨.Fresh, false⟩, ⟨.new, false⟩) .activate_registration (.ok .New)
      (⟨.Owned, false⟩, ⟨registry, false⟩) := ⟨rfl, rfl⟩
  exact ⟨_, .step hactivate .stop⟩

theorem heartbeat_exec : ∃ events, Exec (world (connection true)) (⟨.Owned, false⟩, ⟨registry, false⟩)
    ((Operation.heartbeat 5).program (connection true)) events (⟨.Owned, false⟩, ⟨registry, false⟩)
    (.ret (.sent (.ok ()))) := by
  have hactive : world (connection true) (⟨.Owned, false⟩, ⟨registry, false⟩) .registration_is_active true
      (⟨.Owned, false⟩, ⟨registry, false⟩) := ⟨rfl, rfl⟩
  have hterminal : world (connection true) (⟨.Owned, false⟩, ⟨registry, false⟩) .is_terminal false
      (⟨.Owned, false⟩, ⟨registry, false⟩) := ⟨rfl, rfl⟩
  have happroved : world (connection true) (⟨.Owned, false⟩, ⟨registry, false⟩) .require_approved (.ok ())
      (⟨.Owned, false⟩, ⟨registry, false⟩) := rfl
  have hwrite : world (connection true) (⟨.Owned, false⟩, ⟨registry, false⟩) (.write_heartbeat 5) true
      (⟨.Owned, false⟩, ⟨registry, false⟩) := rfl
  exact ⟨_, .step hactive (.step hterminal (.step hterminal (.step happroved (.step hwrite (.step hactive
    (.step hterminal .stop))))))⟩

end sample

/-- A connection is admitted and sends a heartbeat, next to another one for the same peer. -/
theorem registered_sessions_owned_sample :
    ∃ (pool : Transports Bool) (labels : List (TransportLabel Bool)) (history : List OwnerEvent),
      Function.Injective (fun k => (sample.connection k).session_id) ∧ sample.init.Initial ∧
      Runs.Run (tasks sample.connection).Step sample.init
        (labels ++ [.finish true (.heartbeat 5) history (.sent (.ok ()))]) pool ∧
      (pool.own true).Open ∧
      pool.get (sample.connection true).key = some ⟨(sample.connection true).session_id, .Active⟩ ∧
      Bracketed (sample.connection true) UsesSocket history := by
  have hids : Function.Injective fun k => (sample.connection k).session_id := by decide
  have hinit : sample.init.Initial := ⟨fun _ => rfl, fun _ => rfl, rfl⟩
  have hfresh : (tasks sample.connection).may_start (sample.init.own true) .admit_ := rfl
  obtain ⟨events, hadmit⟩ := sample.admit_exec
  obtain ⟨first, admitted, hfirst, hown, hidle, hshared⟩ := Tasks.run_operation (hinit.idle true) hfresh hadmit
  have howner : admitted.own true = ⟨.Owned, false⟩ := by
    rw [hown, Function.update_self]
    rfl
  obtain ⟨history, hheartbeat⟩ := sample.heartbeat_exec
  rw [← howner, ← hshared] at hheartbeat
  have howned : (tasks sample.connection).may_start (admitted.own true) (.heartbeat 5) := by
    rw [howner]
    rfl
  obtain ⟨second, last, hsecond, hown', -, -⟩ := Tasks.run_operation (by rw [hidle]; rfl) howned hheartbeat
  have hrun := Runs.Run.append_iff.mpr ⟨admitted, hfirst, hsecond⟩
  have hopen : (last.own true).Open := by
    rw [hown', Function.update_self, howner]
    exact ⟨rfl, rfl⟩
  refine ⟨last, _, history, hids, hinit, by rw [List.append_assoc]; exact hrun, hopen,
    (registered_sessions_owned hids hinit hrun).1 true hopen, ?_⟩
  rw [← List.append_assoc] at hrun
  obtain ⟨before, hbefore, hfinish⟩ := Runs.Run.append_iff.mp hrun
  cases hfinish with
  | cons hstep _ =>
    obtain ⟨-, -, hsteps⟩ := registered_sessions_owned hids hinit hbefore
    exact (hsteps _ _ hstep).2.2.1 true 5 history rfl

end blueroute_daemon.registered_transport
