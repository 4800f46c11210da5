import BlueRoute.Daemon.RegisteredTransport

namespace blueroute_daemon.registered_transport

open blueroute_protocol.session control_tls Interact RegisteredControlSession ActiveControlSession

/-- A connection is registered before it is owned, gives up its registration only when its socket is
closed, and uses an open socket only. -/
def Guard (owner : Owner) : Request → Prop
  | .activate_registration => owner.phase = .Fresh
  | .remove_if_current => owner.terminal = true
  | request => request.is_io = true → owner.Open

theorem Guard.of_io {owner : Owner} {request : Request} (h : Guard owner request) (hio : request.is_io = true) :
    owner.Open := by
  cases request with
  | activate_registration | remove_if_current => cases hio
  | _ => exact h hio

abbrev OwnerEvent := Event interface (Owner × SharedRegistry)

/-- A look at the registry that finds the connection's own generation active. -/
def ActiveAt (connection : Connection) (event : OwnerEvent) : Prop :=
  event.request = .registration_is_active ∧
    event.before.2.registry.get connection.key = some ⟨connection.session_id, .Active⟩

/-- Requests that do not use the socket. -/
def Quiet (events : List OwnerEvent) : Prop := ∀ event ∈ events, event.request.is_io = false

theorem Quiet.concat {events : List OwnerEvent} {event : OwnerEvent} (h : Quiet events)
    (hevent : event.request.is_io = false) : Quiet (events ++ [event]) := by
  intro other hother
  rw [List.mem_append, List.mem_singleton] at hother
  obtain hother | rfl := hother
  · exact h other hother
  · exact hevent

/-- Requests of which one has used the socket. -/
def UsesSocket (events : List OwnerEvent) : Prop := ∃ event ∈ events, event.request.is_io = true

theorem UsesSocket.cons {events : List OwnerEvent} {event : OwnerEvent} (h : UsesSocket events) :
    UsesSocket (event :: events) := by
  obtain ⟨other, hother, hio⟩ := h
  exact ⟨other, List.mem_cons_of_mem _ hother, hio⟩

theorem world_of_observes {c : Connection} {before after : Owner × SharedRegistry} {r : Request} {answer : r.Answer}
    (hobserves : r.observes = true) (h : world c before r answer after) : after = before := by
  cases r with
  | activate_registration | remove_if_current | close => cases hobserves
  | registration_is_active | is_terminal => exact h.2
  | _ => exact h

theorem registration_is_active_eq_true_iff {registry : ControlSessionRegistry} {key : PeerSessionKey}
    {session_id : SessionId} :
    registration_is_active registry key session_id = true ↔ registry.get key = some ⟨session_id, .Active⟩ := by
  rw [registration_is_active]
  cases registry.get key with
  | none => simp
  | some entry =>
    obtain ⟨id, phase⟩ := entry
    simp

/-- A check of the registration that has succeeded. -/
def Checked (connection : Connection) (events : List OwnerEvent) : Prop :=
  ∃ check closing, events = check :: closing ∧ ActiveAt connection check ∧ Quiet closing

/-- The registration was active before and after some requests, and the socket was used between the
two checks only. -/
def Bracketed (connection : Connection) (P : List OwnerEvent → Prop) (history : List OwnerEvent) : Prop :=
  ∃ opening middle closing, history = opening ++ (middle ++ closing) ∧ Checked connection opening ∧ P middle ∧
    Checked connection closing

section Does

variable {κ : Type} {connection : κ → Connection} {k : κ} {own : Owner}

theorem close_with_does {α : Type} {Q : Except ControlSessionError α → Owner → List OwnerEvent → Prop}
    {error : ControlSessionError} (h : ∀ t events, Q (.error error) t events) :
    (tasks connection).Does Guard k own Q (close_with error : SessionAction α) :=
  .ask (by intro h; cases h) fun _ _ _ _ _ => .ret (h _ _)

theorem close_and_retire_does : (tasks connection).Does Guard k own (fun _ _ _ => True) close_and_retire := by
  refine Tasks.Does.ask (by intro h; cases h) ?_
  rintro shared _ own' shared' hclose
  obtain ⟨rfl, rfl⟩ := Prod.mk.inj hclose
  exact Tasks.Does.ask rfl fun _ _ _ _ _ => .ret trivial

theorem refuse_does {Q : Except ControlSessionError Unit → Owner → List OwnerEvent → Prop}
    (h : ∀ error t events, Q (.error error) t events) :
    (tasks connection).Does Guard k own Q refuse := by
  refine .seq close_and_retire_does (fun error t events _ => h error t events) fun _ t before _ => .ret ?_
  exact h _ t _

theorem ensure_current_registration_does :
    (tasks connection).Does Guard k own
      (fun result t events => result = .ok () → t = own ∧ Checked (connection k) events)
      ensure_current_registration := by
  refine Tasks.Does.perform (by intro h; cases h) ?_
  rintro shared answer own' shared' ⟨hanswer, hsame⟩
  obtain ⟨rfl, rfl⟩ := Prod.mk.inj hsame
  split
  · rename_i hactive
    rw [hanswer, Bool.and_eq_true, registration_is_active_eq_true_iff] at hactive
    exact .ret fun _ => ⟨rfl, _, [], rfl, ⟨rfl, hactive.2⟩, by simp [Quiet]⟩
  · exact refuse_does (by simp)

theorem ensure_active_registration_does :
    (tasks connection).Does Guard k own
      (fun result t events => result = .ok () → t = own ∧ own.terminal = false ∧ Checked (connection k) events)
      ensure_active_registration := by
  refine .seq ensure_current_registration_does (by simp) ?_
  rintro _ t before hchecked
  obtain ⟨rfl, check, closing, rfl, hactive, hquiet⟩ := hchecked rfl
  refine Tasks.Does.perform (by intro h; cases h) ?_
  rintro shared answer own' shared' ⟨hanswer, hsame⟩
  obtain ⟨rfl, rfl⟩ := Prod.mk.inj hsame
  split
  · exact refuse_does (by simp)
  · rename_i hterminal
    rw [Bool.not_eq_true] at hterminal
    exact .ret fun _ => ⟨rfl, hanswer.symm.trans hterminal, check, _, rfl, hactive, hquiet.concat rfl⟩

/-- An operation of an open session between the two checks. -/
theorem guarded_does {α : Type} {operation : SessionAction α} {ends : α → Bool} {recheck : SessionAction Unit}
    {P : List OwnerEvent → Prop} (howned : own.phase = .Owned)
    (hoperation : own.Open → (tasks connection).Does Guard k own
      (fun result _ events => ∀ value, result = .ok value → ends value = false → P events) operation)
    (hrecheck : ∀ t, (tasks connection).Does Guard k t
      (fun result _ events => result = .ok () → Checked (connection k) events) recheck) :
    (tasks connection).Does Guard k own
      (fun result _ events => ∀ value, result = .ok value → ends value = false → Bracketed (connection k) P events)
      (guarded operation ends recheck) := by
  refine .seq ensure_active_registration_does (by simp) ?_
  rintro _ t opening hchecked
  obtain ⟨rfl, hopen, hopening⟩ := hchecked rfl
  refine .attempt (hoperation ⟨howned, hopen⟩) ?_
  rintro (error | value) t middle hmiddle
  · exact .seq close_and_retire_does (by simp) fun _ _ _ _ => .ret (by simp)
  · change Tasks.Does _ _ _ _ _ (if ends value = true then _ else _ : SessionAction α)
    split
    · rename_i hends
      refine .seq close_and_retire_does (by simp) fun _ _ _ _ => .ret ?_
      rintro _ ⟨⟩ hcontinues
      exact absurd (hends.symm.trans hcontinues) (by decide)
    · refine .seq (hrecheck t) (by simp) fun _ _ closing hclosing => .ret ?_
      rintro _ ⟨⟩ hcontinues
      refine ⟨opening, middle, closing, ?_, hopening, hmiddle value rfl hcontinues, hclosing rfl⟩
      rw [List.append_nil]

theorem perform_does {α : Type} {Q : Except ControlSessionError α → Owner → List OwnerEvent → Prop} {r : Request}
    {f : r.Answer → SessionAction α} (hguard : Guard own r) (hobserves : r.observes = true)
    (h : ∀ event answer, event.request = r →
      (tasks connection).Does Guard k own (fun result t events => Q result t (event :: events)) (f answer)) :
    (tasks connection).Does Guard k own Q (.perform (ι := interface) r >>= f : SessionAction α) := by
  refine Tasks.Does.perform hguard ?_
  intro shared answer own' shared' hstep
  obtain ⟨rfl, rfl⟩ := Prod.mk.inj (world_of_observes hobserves hstep)
  exact h _ answer rfl

theorem authorize_outbound_does :
    (tasks connection).Does Guard k own (fun result t _ => result = .ok () → t = own)
      authorize_outbound := by
  refine perform_does (by intro h; cases h) rfl ?_
  intro _ terminal _
  split
  · exact .ret (by simp)
  · refine perform_does (by intro h; cases h) rfl ?_
    rintro _ (error | _) _
    · exact close_with_does (by simp)
    · exact .ret fun _ => rfl

theorem send_heartbeat_until_does (hopen : own.Open) (deadline : Nat) :
    (tasks connection).Does Guard k own (fun result _ events => result = .ok () → UsesSocket events)
      (ActiveControlSession.send_heartbeat_until deadline) := by
  refine .seq authorize_outbound_does (by simp) ?_
  rintro _ t before hsame
  obtain rfl := hsame rfl
  refine perform_does (fun _ => hopen) rfl ?_
  intro event written hevent
  split
  · exact .ret fun _ => ⟨event, by simp, by rw [hevent]; rfl⟩
  · exact close_with_does (by simp)

theorem send_goodbye_until_does (hopen : own.Open) (deadline : Nat) :
    (tasks connection).Does Guard k own (fun _ _ _ => True) (ActiveControlSession.send_goodbye_until deadline) := by
  refine .seq authorize_outbound_does (by simp) ?_
  rintro _ t before hsame
  obtain rfl := hsame rfl
  refine perform_does (fun _ => hopen) rfl ?_
  intro _ written _
  split
  · refine perform_does (fun _ => hopen) rfl ?_
    intro _ notified _
    split
    · exact .ret trivial
    · exact close_with_does fun _ _ => trivial
  · exact close_with_does fun _ _ => trivial

theorem expire_does (expires_ms : Nat) :
    (tasks connection).Does Guard k own (fun _ _ _ => True) (expire expires_ms) :=
  perform_does (by intro h; cases h) rfl fun _ _ _ => close_with_does fun _ _ => trivial

theorem handle_read_does (read_result : Except IoError (List UInt8)) (observed_now_ms : Nat) :
    (tasks connection).Does Guard k own (fun _ _ _ => True)
      (handle_read read_result observed_now_ms) := by
  unfold handle_read
  split
  · refine Tasks.Does.ask (by intro h; cases h) fun _ _ _ _ _ => perform_does (by intro h; cases h) rfl ?_
    rintro _ (error | _) _
    · exact .ret trivial
    · exact .ret trivial
  · refine perform_does (by intro h; cases h) rfl ?_
    rintro _ (error | frames) _
    · exact close_with_does fun _ _ => trivial
    · exact .ret trivial
  · split
    · refine perform_does (by intro h; cases h) rfl ?_
      rintro _ (error | frames) _
      · exact close_with_does fun _ _ => trivial
      · exact .ret trivial
    · refine Tasks.Does.ask (by intro h; cases h) fun _ _ _ _ _ => perform_does (by intro h; cases h) rfl ?_
      exact fun _ _ _ => .ret trivial

theorem read_within_does (hopen : own.Open) (now_ms expires_ms idle_remaining timeout : Nat) :
    (tasks connection).Does Guard k own (fun _ _ events => UsesSocket events)
      (read_within now_ms expires_ms idle_remaining timeout) := by
  refine perform_does (by intro h; cases h) rfl fun started read_started _ => ?_
  refine perform_does (fun _ => hopen) rfl fun event read_result hevent => ?_
  have hused : ∀ events, UsesSocket (started :: event :: events) := fun events =>
    ⟨event, by simp, by rw [hevent]; rfl⟩
  refine perform_does (by intro h; cases h) rfl fun _ read_finished _ => ?_
  split
  · exact (expire_does _).mono fun _ _ _ _ => hused _
  · split
    · exact (expire_does _).mono fun _ _ _ _ => hused _
    · exact (handle_read_does _ _).mono fun _ _ _ _ => hused _

theorem receive_next_with_budget_at_does (hopen : own.Open) (now_ms max_wait : Nat) :
    (tasks connection).Does Guard k own (fun result _ events => ∀ read, result = .ok read → UsesSocket events)
      (ActiveControlSession.receive_next_with_budget_at now_ms max_wait) := by
  refine perform_does (by intro h; cases h) rfl fun _ terminal _ => ?_
  split
  · exact .ret (by simp)
  · refine perform_does (by intro h; cases h) rfl fun _ expires_ms _ => ?_
    split
    · exact perform_does (by intro h; cases h) rfl fun _ _ _ => close_with_does (by simp)
    · refine perform_does (by intro h; cases h) rfl ?_
      rintro _ (error | _) _
      · exact close_with_does (by simp)
      · change Tasks.Does _ _ _ _ _ (if _ = 0 then _ else _ : SessionAction _)
        split
        · exact close_with_does (by simp)
        · refine perform_does (fun _ => hopen) rfl ?_
          rintro _ (error | _) _
          · exact close_with_does (by simp)
          · exact (read_within_does hopen _ _ _ _).mono fun _ _ _ hused _ _ => hused.cons.cons.cons.cons

theorem admit_does (hfresh : own.phase = .Fresh) :
    (tasks connection).Does Guard k own (fun _ _ _ => True) admit_ := by
  refine Tasks.Does.perform hfresh fun _ answer _ _ _ => ?_
  obtain error | registration := answer
  · exact .ret trivial
  · cases registration with
    | New | AlreadyActive | Recovered => exact .ret trivial

theorem cancel_if_current_does (session_id expected : SessionId) :
    (tasks connection).Does Guard k own (fun _ _ _ => True)
      (cancel_if_current session_id expected) := by
  unfold cancel_if_current
  split
  · exact .ret trivial
  · exact .seq close_and_retire_does (by simp) fun _ _ _ _ => .ret trivial

theorem cancel_if_current_for_peer_does (current expected : Connection) :
    (tasks connection).Does Guard k own (fun _ _ _ => True)
      (cancel_if_current_for_peer current expected) := by
  unfold cancel_if_current_for_peer
  split
  · exact .ret trivial
  · exact cancel_if_current_does _ _

/-- The recheck after an operation. -/
theorem recheck_does (t : Owner) :
    (tasks connection).Does Guard k t (fun result _ events => result = .ok () → Checked (connection k) events)
      ensure_active_registration :=
  ensure_active_registration_does.mono fun _ _ _ h hresult => (h hresult).2.2

end Does

/-- What an operation that has returned must have done. -/
def Post (connection : Connection) : Operation → Outcome → List OwnerEvent → Prop
  | .receive .., .received (.ok read), history => read ≠ .Closed → Bracketed connection UsesSocket history
  | .heartbeat _, .sent (.ok ()), history => Bracketed connection UsesSocket history
  | _, _, _ => True

variable {κ : Type} {connection : κ → Connection}

theorem tasks_correct :
    (tasks connection).Correct Guard fun k operation outcome _ events =>
      Post (connection k) operation outcome events := by
  refine Tasks.correct_of_does ?_
  intro k operation own hmay
  cases operation with
  | admit_ => exact .bind (admit_does hmay) fun _ _ _ _ => .ret trivial
  | receive now_ms max_wait =>
    refine .bind (guarded_does hmay (P := UsesSocket)
      (fun hopen => (receive_next_with_budget_at_does hopen now_ms max_wait).mono ?_) recheck_does) ?_
    · exact fun result _ events hused value hvalue _ => hused value hvalue
    · rintro (error | read) t events hbracketed
      · exact .ret trivial
      · refine .ret fun hopen => ?_
        rw [List.append_nil]
        exact hbracketed read rfl (decide_eq_false hopen)
  | heartbeat deadline =>
    refine .bind (guarded_does hmay (P := UsesSocket)
      (fun hopen => (send_heartbeat_until_does hopen deadline).mono ?_) recheck_does) ?_
    · exact fun result _ events hused value hvalue _ => hused hvalue
    · rintro (error | _) t events hbracketed
      · exact .ret trivial
      · refine .ret ?_
        rw [List.append_nil]
        exact hbracketed () rfl rfl
  | goodbye deadline =>
    refine .bind (guarded_does hmay (P := fun _ => True)
      (fun hopen => (send_goodbye_until_does hopen deadline).mono fun _ _ _ _ _ _ _ => trivial) fun t =>
        ensure_current_registration_does.mono fun _ _ _ h hresult => (h hresult).2) fun _ _ _ _ => .ret trivial
  | revalidate =>
    exact .bind (guarded_does hmay (P := fun _ => True)
      (fun hopen => authorize_outbound_does.mono fun _ _ _ _ _ _ _ => trivial) recheck_does) fun _ _ _ _ => .ret trivial
  | cancel => exact .bind close_and_retire_does fun _ _ _ _ => .ret trivial
  | cancel_if_current expected => exact .bind (cancel_if_current_does _ _) fun _ _ _ _ => .ret trivial
  | cancel_if_current_for_peer expected => exact .bind (cancel_if_current_for_peer_does _ _) fun _ _ _ _ => .ret trivial
  | drop => exact .bind close_and_retire_does fun _ _ _ _ => .ret trivial

end blueroute_daemon.registered_transport
