import BlueRoute.Daemon.ControlListener

namespace blueroute_daemon.control_listener

open blueroute Interact single_star outbound_control registered_transport ObservedControlListener

abbrev ListenerEvent := Event interface State

/-- An observation that was not the listener's own is followed by its retirement. -/
def State.Sound (s : State) : Prop := s.drifted = true → s.retired = true

theorem State.Sound.steady {s : State} (h : s.Sound) (hlive : s.retired = false) : s.drifted = false := by
  by_contra hdrifted
  have hretired := h (by simpa using hdrifted)
  rw [hlive] at hretired
  cases hretired

theorem State.sound_of_steady {s : State} (hdrifted : s.drifted = false) : s.Sound := by
  intro h
  rw [hdrifted] at h
  cases h

/-- What holds whenever a future can be dropped, and when the listener looks outside. -/
def Guard (supervising : Bool) (s : State) (r : Request) : Prop :=
  (r.awaits = true → s.Sound ∧ (supervising = true → s.sessions = [])) ∧ (r.is_outside = true → s.retired = false)

/-- A listener that may look outside and wait for it. -/
structure Ready (supervising : Bool) (s : State) : Prop where
  retired : s.retired = false
  drifted : s.drifted = false
  sessions : supervising = true → s.sessions = []

theorem Ready.guard {supervising : Bool} {s : State} (h : Ready supervising s) (r : Request) :
    Guard supervising s r :=
  ⟨fun _ => ⟨State.sound_of_steady h.drifted, h.sessions⟩, fun _ => h.retired⟩

/-- Requests that neither wait nor look outside are always guarded. -/
theorem guard_of_inner {supervising : Bool} {s : State} {r : Request} (hawaits : r.awaits = false)
    (houtside : r.is_outside = false) : Guard supervising s r := by
  refine ⟨fun h => ?_, fun h => ?_⟩
  · rw [hawaits] at h
    cases h
  · rw [houtside] at h
    cases h

/-- What a part of a call does, whatever is answered. -/
abbrev Doing {α : Type} (self : ObservedControlListener) (supervising : Bool) (s : State)
    (Q : α → State → List ListenerEvent → Prop) (p : Prog interface α) : Prop :=
  Does (World.recorder (ι := interface) (world self)) (Guard supervising) s Q p

section Marks

/-- A completed observation of the listener's own network and endpoint. -/
def Agrees (self : ObservedControlListener) (event : ListenerEvent) : Prop :=
  event.request = .observed (.ok self.own)

def Accepts (socket : Socket) (event : ListenerEvent) : Prop :=
  ∃ s t, event = ⟨s, .accept, .socket socket, t⟩

/-- The handshake on a socket that has ended with an admitted session. -/
def Registers (socket : Socket) (session : Connection) (event : ListenerEvent) : Prop :=
  ∃ s network t, event = ⟨s, .accept_registered socket network, .ok session, t⟩

def Approves (session : Connection) (event : ListenerEvent) : Prop :=
  ∃ s t, event = ⟨s, .revalidate_approval session, true, t⟩

/-- An approval check and its answer. -/
def approval : ListenerEvent → Option (Connection × Bool)
  | ⟨_, .revalidate_approval session, answer, _⟩ => some (session, answer)
  | _ => none

/-- The approval checks among the events, in their order. -/
def approvals (events : List ListenerEvent) : List (Connection × Bool) := events.filterMap approval

theorem approvals_append (events later : List ListenerEvent) :
    approvals (events ++ later) = approvals events ++ approvals later :=
  List.filterMap_append ..

theorem approvals_cons (event : ListenerEvent) (events : List ListenerEvent) :
    approvals (event :: events) = (approval event).toList ++ approvals events := by
  rw [approvals, List.filterMap_cons]
  cases approval event with
  | none | some check => rfl

end Marks

section Specs

variable {α : Type} {self : ObservedControlListener} {supervising : Bool} {s : State}

variable {Q : Result α → State → List ListenerEvent → Prop}

theorem ask_does {r : Request} {f : r.Answer → ListenerAction α} (hguard : Guard supervising s r)
    (h : ∀ answer t, world self s r answer t →
      Doing self supervising t (fun result u events => Q result u (⟨s, r, answer, t⟩ :: events)) (f answer)) :
    Doing self supervising s Q (ask r >>= f : ListenerAction α) := by
  refine .perform (ι := interface) hguard ?_
  rintro answer e t ⟨hworld, rfl⟩
  exact h answer t hworld

theorem lift_does {β : Type} {Q : Result β → State → List ListenerEvent → Prop} {result : Result α}
    {f : α → ListenerAction β} (herror : ∀ error, result = .error error → Q (.error error) s [])
    (h : ∀ value, result = .ok value → Doing self supervising s Q (f value)) :
    Doing self supervising s Q (Action.lift result >>= f : ListenerAction β) := by
  cases result with
  | error error => exact herror error rfl
  | ok value => exact h value rfl

variable {fault : CoreError} {t : State} {answer : Result Snapshot}

theorem retire_does {f : Unit → ListenerAction α} (h : ∀ event, Doing self supervising { s with retired := true }
      (fun result u events => Q result u (event :: events)) (f ())) :
    Doing self supervising s Q (ask .retire >>= f : ListenerAction α) := by
  refine ask_does (guard_of_inner rfl rfl) ?_
  rintro _ t rfl
  exact h _

theorem retire_with_does (h : ∀ events, Q (.error fault) { s with retired := true } events) :
    Doing self supervising s Q (retire_with fault : ListenerAction α) :=
  retire_does fun _ => h _

variable {session : Connection}

theorem refuse_does (h : ∀ events, Q (.error fault) s events) :
    Doing self supervising s Q (refuse session fault : ListenerAction α) := by
  refine ask_does (guard_of_inner rfl rfl) ?_
  rintro _ t rfl
  exact h _

theorem shutdown_does {socket : Socket} (h : ∀ events, Q (.error fault) s events) :
    Doing self supervising s Q (do ask (.shutdown socket); .fail fault : ListenerAction α) := by
  refine ask_does (guard_of_inner rfl rfl) ?_
  rintro _ t rfl
  exact h _

/-- An observer that leaves the listener and its sessions alone. -/
def Quiet (self : ObservedControlListener) (supervising : Bool) (observe : ListenerAction Snapshot) : Prop :=
  ∀ s, Ready supervising s → Doing self supervising s (fun _ t events => t = s ∧ approvals events = []) observe

theorem callback_quiet (awaited : Bool) : Quiet self supervising (callback awaited) := by
  intro s hready
  refine ask_does (hready.guard _) ?_
  rintro answer t rfl
  exact ⟨rfl, rfl⟩

theorem load_current_network_does (hready : Ready supervising s) :
    Doing self supervising s (fun _ t events => t = s ∧ approvals events = []) load_current_network := by
  refine ask_does (hready.guard _) ?_
  rintro answer t rfl
  exact lift_does (fun _ _ => ⟨rfl, rfl⟩) fun registry _ => ⟨rfl, rfl⟩

theorem observe_durable_quiet (network : NetworkId) :
    Quiet self supervising (observe_durable_owned_endpoint network) := by
  intro s hready
  refine .seq (load_current_network_does hready) (fun _ _ _ hsame => hsame) ?_
  rintro before t first ⟨rfl, hfirst⟩
  split
  · exact ⟨rfl, by rwa [List.append_nil]⟩
  · refine ask_does (hready.guard _) ?_
    rintro answer t rfl
    have hasked : approvals (first ++ [⟨t, .observed_owned_control_endpoint, answer, t⟩]) = [] := by
      rw [approvals_append, hfirst]
      rfl
    refine lift_does (fun _ _ => ⟨rfl, hasked⟩) fun endpoint _ => ?_
    refine .seq (load_current_network_does hready) ?_ ?_
    · rintro error u second ⟨rfl, hsecond⟩
      exact ⟨rfl, by rw [← List.singleton_append, ← List.append_assoc, approvals_append, hasked, hsecond]; rfl⟩
    rintro after u second ⟨rfl, hsecond⟩
    have hall : approvals (first ++ ⟨u, .observed_owned_control_endpoint, answer, u⟩ :: (second ++ [])) = [] := by
      rw [List.append_nil, ← List.singleton_append, ← List.append_assoc, approvals_append, hasked, hsecond]
      rfl
    split
    · exact ⟨rfl, hall⟩
    · exact ⟨rfl, hall⟩

/-- The state after an observation that has been completed with this answer. -/
structure Sees (listener : ObservedControlListener) (s t : State) (answer : Result Snapshot) : Prop where
  retired : t.retired = false
  sessions : t.sessions = s.sessions
  drifted : t.drifted = true → answer ≠ .ok listener.own

theorem Sees.ready (h : Sees self s t answer) (hagrees : answer = .ok self.own) :
    t.retired = false ∧ t.drifted = false := by
  refine ⟨h.retired, ?_⟩
  by_contra hdrifted
  exact h.drifted (by simpa using hdrifted) hagrees

/-- An action that completes an observation. -/
def Observer (self : ObservedControlListener) (supervising : Bool)
    (observe : ListenerAction (Result Snapshot)) : Prop :=
  ∀ s, Ready supervising s → Doing self supervising s
    (fun result t events => ∃ answer, result = .ok answer ∧ Sees self s t answer ∧ approvals events = [] ∧
      (answer = .ok self.own → InOrder [Agrees self] events)) observe

/-- What follows a completed observation. -/
theorem Observer.seq {observe : ListenerAction (Result Snapshot)} {f : Result Snapshot → ListenerAction α}
    {Q : Result α → State → List ListenerEvent → Prop} (hobserve : Observer self supervising observe)
    (hready : Ready supervising s)
    (h : ∀ answer t observing, Sees self s t answer → approvals observing = [] →
      (answer = .ok self.own → InOrder [Agrees self] observing) →
      Doing self supervising t (fun result u events => Q result u (observing ++ events)) (f answer)) :
    Doing self supervising s Q (observe >>= f : ListenerAction α) := by
  refine .seq (hobserve s hready) ?_ ?_
  · rintro error t events ⟨answer, hanswer, _⟩
    cases hanswer
  · rintro answer t observing ⟨_, hanswer, hsees, hquiet, hmarked⟩
    cases hanswer
    exact h answer t observing hsees hquiet hmarked

theorem observation_observer {observe : ListenerAction Snapshot} (h : Quiet self supervising observe) :
    Observer self supervising (observation observe) := by
  intro s hready
  refine .attempt (h s hready) ?_
  rintro answer t before ⟨rfl, hbefore⟩
  refine ask_does (guard_of_inner rfl rfl) ?_
  rintro _ u rfl
  refine ⟨answer, rfl, ⟨hready.retired, rfl, ?_⟩, ?_, ?_⟩
  · simp [hready.drifted]
  · rw [approvals_append, hbefore]
    rfl
  · rintro rfl
    exact .append .nil (.cons rfl .nil)

/-- What a call that hands out sockets does. Candidates come from a live listener, with these marks. -/
structure Hands (marks : Socket → List (ListenerEvent → Prop)) (s : State) (result : Result (Option Socket)) (t : State)
    (events : List ListenerEvent) : Prop where
  sound : t.Sound
  sessions : t.sessions = s.sessions
  live : ∀ value, result = .ok value → s.retired = false ∧ t.retired = false ∧ t.drifted = false
  marked : ∀ socket, result = .ok (some socket) → InOrder (marks socket) events

theorem Hands.error {marks : Socket → List (ListenerEvent → Prop)} {events : List ListenerEvent}
    (hretired : t.retired = true) (hsessions : t.sessions = s.sessions) : Hands marks s (.error fault) t events :=
  ⟨fun _ => hretired, hsessions, nofun, nofun⟩

/-- A check that only a live listener passes. -/
abbrev Gates (self : ObservedControlListener) (supervising : Bool) (s : State) (gate : ListenerAction Unit) : Prop :=
  Doing self supervising s (fun result t events => t.sessions = s.sessions ∧
    match result with
    | .ok _ => t = s ∧ s.retired = false ∧ ∃ event, events = [event]
    | .error _ => t.retired = true) gate

theorem Gates.seq {gate : ListenerAction Unit} {f : Unit → ListenerAction α} (h : Gates self supervising s gate)
    (hrefused : ∀ t error events, t.retired = true → t.sessions = s.sessions → Q (.error error) t events)
    (hlive : s.retired = false → ∀ event,
      Doing self supervising s (fun result u events => Q result u (event :: events)) (f ())) :
    Doing self supervising s Q (gate >>= f : ListenerAction α) := by
  refine .seq h ?_ ?_
  · rintro error t events ⟨hsessions, hretired⟩
    exact hrefused t error events hretired hsessions
  · rintro _ t _ ⟨-, rfl, hopen, event, rfl⟩
    exact hlive hopen event

theorem require_live_gates : Gates self supervising s require_live := by
  refine ask_does (guard_of_inner rfl rfl) ?_
  rintro answer t ⟨rfl, rfl⟩
  split
  · rename_i hretired
    exact ⟨rfl, hretired⟩
  · rename_i hlive
    exact ⟨rfl, rfl, by simpa using hlive, _, rfl⟩

theorem accept_if_current_does {observed : Snapshot}
    (hfits : s.retired = false → s.drifted = true → observed ≠ self.own) :
    Doing self supervising s
      (fun result t events => Hands (fun socket => [Accepts socket]) s result t events ∧
        ∀ value, result = .ok value → observed = self.own ∧ t = s)
      (self.accept_if_current observed) := by
  refine require_live_gates.seq (fun t error events hretired hsame => ⟨.error hretired hsame, nofun⟩) ?_
  intro hlive event
  split
  · exact retire_with_does fun events => ⟨.error rfl rfl, nofun⟩
  rename_i hagrees
  have hagrees : observed = self.own := not_not.mp hagrees
  have hdrifted : s.drifted = false := by
    by_contra hdrifted
    exact hfits hlive (by simpa using hdrifted) hagrees
  have hsound := State.sound_of_steady hdrifted
  refine ask_does ⟨nofun, fun _ => hlive⟩ ?_
  rintro accepted t rfl
  cases accepted with
  | socket socket =>
    refine ask_does (guard_of_inner rfl rfl) ?_
    rintro prepared t rfl
    cases prepared with
    | ok value =>
      refine ⟨⟨hsound, rfl, fun _ _ => ⟨hlive, hlive, hdrifted⟩, ?_⟩, fun _ _ => ⟨hagrees, rfl⟩⟩
      intro other hother
      cases hother
      exact (InOrder.cons ⟨_, _, rfl⟩ InOrder.nil).skip
    | error error => exact ⟨⟨hsound, rfl, nofun, nofun⟩, nofun⟩
  | would_block => exact ⟨⟨hsound, rfl, fun _ _ => ⟨hlive, hlive, hdrifted⟩, nofun⟩, fun _ _ => ⟨hagrees, rfl⟩⟩
  | failed error => exact retire_with_does fun events => ⟨.error rfl rfl, nofun⟩

theorem finish_accepted_observation_does {socket : Socket} (hsees : Sees self s t answer)
    (hlive : s.retired = false) :
    Doing self supervising t
      (fun result u events => Hands (fun _ => []) s result u events ∧
        ∀ value, result = .ok value → value = some socket ∧ answer = .ok self.own)
      (self.finish_accepted_observation socket answer) := by
  cases answer with
  | error error =>
    exact retire_does fun _ => shutdown_does fun _ => ⟨.error rfl hsees.sessions, nofun⟩
  | ok observed =>
    unfold finish_accepted_observation
    dsimp only
    split
    · rename_i hagrees
      obtain ⟨hopen, hdrifted⟩ := hsees.ready (by rw [hagrees])
      refine ⟨⟨State.sound_of_steady hdrifted, hsees.sessions, fun _ _ => ⟨hlive, hopen, hdrifted⟩,
        fun _ _ => .nil⟩, ?_⟩
      intro value hvalue
      cases hvalue
      exact ⟨rfl, by rw [hagrees]⟩
    · exact retire_does fun _ => shutdown_does fun _ => ⟨.error rfl hsees.sessions, nofun⟩

theorem accept_with_revalidation_does {observed : Snapshot} {reobserve : ListenerAction (Result Snapshot)}
    (hfits : s.retired = false → s.drifted = true → observed ≠ self.own)
    (hsessions : supervising = true → s.sessions = []) (hobserve : Observer self supervising reobserve) :
    Doing self supervising s
      (fun result t events => Hands (fun socket => [Accepts socket, Agrees self]) s result t events ∧
        ∀ socket, result = .ok (some socket) → observed = self.own)
      (self.accept_with_revalidation observed reobserve) := by
  refine .seq (accept_if_current_does hfits) ?_ ?_
  · rintro error t events ⟨hhands, _⟩
    exact ⟨⟨hhands.sound, hhands.sessions, nofun, nofun⟩, nofun⟩
  rintro accepted t accepting ⟨hhands, hown⟩
  obtain ⟨hagrees, rfl⟩ := hown accepted rfl
  obtain ⟨hlive, _, hdrifted⟩ := hhands.live accepted rfl
  cases accepted with
  | none => exact ⟨⟨hhands.sound, rfl, fun _ _ => ⟨hlive, hlive, hdrifted⟩, nofun⟩, nofun⟩
  | some socket =>
    refine hobserve.seq ⟨hlive, hdrifted, hsessions⟩ ?_
    intro answer u observing hsees _ hmarked
    refine (finish_accepted_observation_does hsees hlive).mono ?_
    rintro result v closing ⟨hfinal, hfinished⟩
    refine ⟨⟨hfinal.sound, hfinal.sessions, hfinal.live, ?_⟩, fun _ _ => hagrees⟩
    intro other hother
    obtain ⟨hsame, hown⟩ := hfinished _ hother
    cases hsame
    exact (hhands.marked socket rfl).append ((hmarked hown).append .nil)

variable {observe : ListenerAction (Result Snapshot)}

theorem poll_with_observations_does (hsound : s.Sound) (hsessions : supervising = true → s.sessions = [])
    (hobserve : Observer self supervising observe) :
    Doing self supervising s (Hands (fun socket => [Agrees self, Accepts socket, Agrees self]) s)
      (self.poll_with_observations observe) := by
  refine require_live_gates.seq (fun t error events hretired hsame => .error hretired hsame) ?_
  intro hlive event
  have hdrifted := hsound.steady hlive
  refine hobserve.seq ⟨hlive, hdrifted, hsessions⟩ ?_
  intro answer t observing hsees _ hmarked
  cases answer with
  | error error => exact retire_with_does fun events => .error rfl hsees.sessions
  | ok observed =>
    have hfits : t.retired = false → t.drifted = true → observed ≠ self.own := fun _ h heq =>
      hsees.drifted h (by rw [heq])
    refine (accept_with_revalidation_does hfits (by rwa [hsees.sessions]) hobserve).mono ?_
    rintro result u accepting ⟨hhands, hown⟩
    refine ⟨hhands.sound, hhands.sessions.trans hsees.sessions, ?_, ?_⟩
    · intro value hvalue
      obtain ⟨_, hopen, hsteady⟩ := hhands.live value hvalue
      exact ⟨hlive, hopen, hsteady⟩
    · intro socket hsocket
      have hagrees := hown socket hsocket
      exact ((hmarked (by rw [hagrees])).append (hhands.marked socket hsocket)).skip

/-- What a call that hands out a session does. -/
structure Releases (marks : List (ListenerEvent → Prop)) (session : Connection) (s : State) (result : Result Connection)
    (t : State) (events : List ListenerEvent) : Prop where
  sound : t.Sound
  sessions : t.sessions = s.sessions
  live : ∀ value, result = .ok value → value = session ∧ s.retired = false ∧ t.retired = false
  marked : ∀ value, result = .ok value → InOrder marks events

theorem Releases.error {marks : List (ListenerEvent → Prop)} {events : List ListenerEvent} (hsound : t.Sound)
    (hsessions : t.sessions = s.sessions) : Releases marks session s (.error fault) t events :=
  ⟨hsound, hsessions, nofun, nofun⟩

theorem require_session_network_gates : Gates self supervising s (self.require_session_network session) := by
  refine ask_does (guard_of_inner rfl rfl) ?_
  rintro answer t ⟨rfl, rfl⟩
  split
  · rename_i hretired
    exact refuse_does fun events => ⟨rfl, hretired⟩
  · rename_i hopen
    split
    · exact retire_does fun _ => refuse_does fun events => ⟨rfl, rfl⟩
    · exact ⟨rfl, rfl, by simpa using hopen, _, rfl⟩

/-- What becomes of a session once the observation for it has been answered. -/
theorem release_observed_does (hsees : Sees self s t answer) (hlive : s.retired = false) :
    Doing self supervising t
      (fun result u events => Releases [Approves session] session s result u events ∧
        ∀ value, result = .ok value → answer = .ok self.own)
      (self.release_observed session answer) := by
  cases answer with
  | error error =>
    exact retire_does fun _ => refuse_does fun events => ⟨.error (fun _ => rfl) hsees.sessions, nofun⟩
  | ok observed =>
    unfold release_observed
    dsimp only
    split
    · rename_i hagrees
      obtain ⟨hopen, hdrifted⟩ := hsees.ready (by rw [hagrees])
      have hsound := State.sound_of_steady hdrifted
      refine ask_does (guard_of_inner rfl rfl) ?_
      rintro approved u rfl
      split
      · rename_i happroved
        subst happroved
        refine ⟨⟨hsound, hsees.sessions, ?_, fun _ _ => .cons ⟨_, _, rfl⟩ .nil⟩, fun _ _ => by rw [hagrees]⟩
        intro value hvalue
        cases hvalue
        exact ⟨rfl, hlive, hopen⟩
      · exact refuse_does fun events => ⟨.error hsound hsees.sessions, nofun⟩
    · exact retire_does fun _ => refuse_does fun events => ⟨.error (fun _ => rfl) hsees.sessions, nofun⟩

theorem release_registered_if_current_does (hsound : s.Sound) (hsessions : supervising = true → s.sessions = [])
    (hobserve : Observer self supervising observe) :
    Doing self supervising s (Releases [Agrees self, Approves session] session s)
      (self.release_registered_if_current session observe) := by
  refine require_session_network_gates.seq (fun t error events hretired hsame => .error (fun _ => hretired) hsame) ?_
  intro hlive event
  have hdrifted := hsound.steady hlive
  refine hobserve.seq ⟨hlive, hdrifted, hsessions⟩ ?_
  intro answer t observing hsees _ hmarked
  refine (release_observed_does hsees hlive).mono ?_
  rintro result u closing ⟨hreleases, hown⟩
  refine ⟨hreleases.sound, hreleases.sessions, hreleases.live, ?_⟩
  intro value hvalue
  exact ((hmarked (hown value hvalue)).append (hreleases.marked value hvalue)).skip

theorem release_registered_if_current_async_does (hsound : s.Sound) (hsessions : supervising = true → s.sessions = [])
    (hobserve : Observer self supervising observe) :
    Doing self supervising s (Releases [Agrees self, Approves session] session s)
      (self.release_registered_if_current_async session observe) := by
  refine require_session_network_gates.seq (fun t error events hretired hsame => .error (fun _ => hretired) hsame) ?_
  intro hlive event
  have hdrifted := hsound.steady hlive
  refine hobserve.seq ⟨hlive, hdrifted, hsessions⟩ ?_
  intro answer t observing hsees _ hmarked
  refine require_session_network_gates.seq (fun u error events hretired hsame =>
    .error (fun _ => hretired) (hsame.trans hsees.sessions)) ?_
  intro _ again
  refine (release_observed_does hsees hlive).mono ?_
  rintro result u closing ⟨hreleases, hown⟩
  refine ⟨hreleases.sound, hreleases.sessions, hreleases.live, ?_⟩
  intro value hvalue
  exact ((hmarked (hown value hvalue)).append (hreleases.marked value hvalue).skip).skip

/-- What a call that accepts a peer and hands out its session does. -/
structure Admits (listener : ObservedControlListener) (s : State) (result : Result (Option Connection)) (t : State)
    (events : List ListenerEvent) : Prop where
  sound : t.Sound
  sessions : t.sessions = s.sessions
  live : ∀ value, result = .ok value → s.retired = false
  marked : ∀ session, result = .ok (some session) → ∃ socket,
    InOrder [Agrees listener, Accepts socket, Agrees listener, Registers socket session, Agrees listener,
      Approves session] events

theorem poll_registered_does {setup_network : NetworkId} (hsound : s.Sound)
    (hsessions : supervising = true → s.sessions = []) :
    Doing self supervising s (Admits self s)
      (self.poll_registered_from_durable_network_operations setup_network) := by
  have hobserve : Observer self supervising (observation (observe_durable_owned_endpoint self.network)) :=
    observation_observer (observe_durable_quiet _)
  unfold poll_registered_from_durable_network_operations
  split
  · exact retire_with_does fun events => ⟨fun _ => rfl, rfl, nofun, nofun⟩
  refine .seq (poll_with_observations_does hsound hsessions hobserve) ?_ ?_
  · exact fun error t events hhands => ⟨hhands.sound, hhands.sessions, nofun, nofun⟩
  intro accepted t accepting hhands
  obtain ⟨hlive, hopen, _⟩ := hhands.live accepted rfl
  cases accepted with
  | none => exact ⟨hhands.sound, hhands.sessions, fun _ _ => hlive, nofun⟩
  | some socket =>
    refine ask_does ⟨nofun, fun _ => hopen⟩ ?_
    rintro registered u rfl
    cases registered with
    | error error => exact ⟨hhands.sound, hhands.sessions, nofun, nofun⟩
    | ok session =>
      have hkept : supervising = true → u.sessions = [] := by rwa [hhands.sessions]
      refine .seq (release_registered_if_current_async_does hhands.sound hkept hobserve) ?_ ?_
      · exact fun error v events hreleases =>
          ⟨hreleases.sound, hreleases.sessions.trans hhands.sessions, nofun, nofun⟩
      intro checked v releasing hreleases
      obtain ⟨rfl, _⟩ := hreleases.live checked rfl
      refine ⟨hreleases.sound, hreleases.sessions.trans hhands.sessions, fun _ _ => hlive, ?_⟩
      intro other hother
      cases hother
      refine ⟨socket, ?_⟩
      rw [List.append_nil]
      exact (hhands.marked socket rfl).append (.cons ⟨_, _, _, rfl⟩ (hreleases.marked _ rfl))

/-- The sessions that are kept are those of the network that passed their check. -/
def Retains (self : ObservedControlListener) (sessions kept : List Connection) (events : List ListenerEvent) : Prop :=
  (approvals events).map Prod.fst = sessions.filter (fun session => session.key.network = self.network) ∧
    kept = ((approvals events).filter Prod.snd).map Prod.fst

theorem retain_approved_does (sessions : List Connection) :
    Doing self supervising s
      (fun result t events => t = s ∧ ∃ kept, result = .ok kept ∧ Retains self sessions kept events)
      (self.retain_approved sessions) := by
  induction sessions generalizing s with
  | nil => exact ⟨rfl, [], rfl, rfl, rfl⟩
  | cons session rest ih =>
    unfold retain_approved
    split
    · rename_i hother
      refine ask_does (guard_of_inner rfl rfl) ?_
      rintro _ t rfl
      refine ih.mono ?_
      rintro result u events ⟨rfl, kept, rfl, hchecked, hkept⟩
      refine ⟨rfl, kept, rfl, ?_, hkept⟩
      rw [List.filter_cons_of_neg (by simpa using hother)]
      exact hchecked
    · rename_i hnetwork
      have hnetwork : session.key.network = self.network := not_not.mp hnetwork
      refine ask_does (guard_of_inner rfl rfl) ?_
      rintro approved t rfl
      split
      · rename_i happroved
        subst happroved
        refine .seq ih ?_ ?_
        · rintro error u events ⟨_, kept, hresult, _⟩
          cases hresult
        rintro kept u events ⟨rfl, _, hresult, hchecked, hkept⟩
        cases hresult
        refine ⟨rfl, _, rfl, ?_, ?_⟩
        · rw [List.append_nil, approvals_cons, List.filter_cons_of_pos (by simpa using hnetwork), List.map_append,
            hchecked]
          rfl
        · rw [List.append_nil, approvals_cons, List.filter_append, List.map_append, ← hkept]
          rfl
      · rename_i hdenied
        have hdenied : approved = false := by simpa using hdenied
        subst hdenied
        refine ask_does (guard_of_inner rfl rfl) ?_
        rintro _ u rfl
        refine ih.mono ?_
        rintro result v events ⟨rfl, kept, rfl, hchecked, hkept⟩
        refine ⟨rfl, kept, rfl, ?_, ?_⟩
        · rw [approvals_cons, approvals_cons, List.filter_cons_of_pos (by simpa using hnetwork), List.map_append,
            List.map_append, hchecked]
          rfl
        · rw [approvals_cons, approvals_cons, List.filter_append, List.filter_append, List.map_append, List.map_append,
            ← hkept]
          rfl

theorem drop_all_does (sessions : List Connection) (h : ∀ events, Q (.error fault) s events) :
    Doing self supervising s Q (do drop_all sessions; .fail fault : ListenerAction α) := by
  induction sessions generalizing Q with
  | nil => exact h _
  | cons session rest ih =>
    refine ask_does (guard_of_inner rfl rfl) ?_
    rintro _ t rfl
    exact ih fun _ => h _

/-- What a supervision does: it keeps what it has checked, or nothing. -/
structure Supervises (listener : ObservedControlListener) (s : State) (result : Result Nat) (t : State)
    (events : List ListenerEvent) : Prop where
  sound : t.Sound
  live : ∀ active, result = .ok active → s.retired = false
  kept : ∀ active, result = .ok active → active = t.sessions.length ∧ Retains listener s.sessions t.sessions events
  none : ∀ error, result = .error error → t.sessions = []

theorem supervise_does (hsound : s.Sound) :
    Doing self true s (Supervises self s) self.supervise_registered_from_durable_network_operations := by
  have hobserve : Observer self true (observation (observe_durable_owned_endpoint self.network)) :=
    observation_observer (observe_durable_quiet _)
  refine ask_does (guard_of_inner rfl rfl) ?_
  rintro owned t ⟨rfl, rfl⟩
  refine ask_does ⟨fun _ => ⟨hsound, fun _ => rfl⟩, nofun⟩ ?_
  rintro _ t rfl
  refine ask_does (guard_of_inner rfl rfl) ?_
  rintro answer t ⟨rfl, rfl⟩
  have hfailed {u : State} {error : CoreError} {events : List ListenerEvent} (hdead : u.retired = true)
      (hnone : u.sessions = []) : Supervises self s (.error error) u events :=
    ⟨fun _ => hdead, nofun, nofun, fun _ _ => hnone⟩
  split
  · rename_i hretired
    exact drop_all_does _ fun _ => hfailed hretired rfl
  rename_i hopen
  have hlive : s.retired = false := by simpa using hopen
  have hdrifted := hsound.steady hlive
  refine hobserve.seq ⟨hlive, hdrifted, fun _ => rfl⟩ ?_
  intro answer t observing hsees hquiet _
  cases answer with
  | error error =>
    exact retire_does fun _ => drop_all_does _ fun _ => hfailed rfl hsees.sessions
  | ok observed =>
    dsimp only
    split
    · rename_i hagrees
      obtain ⟨_, hsteady⟩ := hsees.ready (by rw [hagrees])
      refine .seq (retain_approved_does _) ?_ ?_
      · rintro error u events ⟨_, kept, hresult, _⟩
        cases hresult
      rintro kept u retaining ⟨rfl, _, hresult, hchecked, hkept⟩
      cases hresult
      refine ask_does (guard_of_inner rfl rfl) ?_
      rintro _ v rfl
      refine ⟨State.sound_of_steady hsteady, fun _ _ => hlive, ?_, nofun⟩
      intro active hactive
      cases hactive
      refine ⟨rfl, ?_⟩
      simp only [Retains, approvals_cons, approvals_append, hquiet]
      simpa [approval, approvals] using And.intro hchecked hkept
    · exact retire_does fun _ => drop_all_does _ fun _ => hfailed rfl hsees.sessions

end Specs

end blueroute_daemon.control_listener
