import BlueRoute.Daemon.ControlListener.Gates

open Runs

namespace blueroute_daemon.control_listener

open blueroute Interact single_star outbound_control registered_transport

def Call.supervises : Call → Bool
  | supervise_registered_from_durable_network_operations => true
  | _ => false

def Outcome.Succeeds : Outcome → Prop
  | candidate result => ∃ value, result = .ok value
  | session result => ∃ value, result = .ok value
  | active result => ∃ value, result = .ok value

/-- What every call has done when it returns. -/
structure Post (listener : ObservedControlListener) (call : Call) (s : State) (outcome : Outcome) (t : State)
    (events : List ListenerEvent) : Prop where
  sound : t.Sound
  live : outcome.Succeeds → s.retired = false
  candidate : ∀ socket, outcome = .candidate (.ok (some socket)) →
    InOrder [Agrees listener, Accepts socket, Agrees listener] events
  released : ∀ session, outcome = .session (.ok (some session)) → InOrder [Agrees listener, Approves session] events
  registered : ∀ session network, outcome = .session (.ok (some session)) →
    call = .poll_registered_from_durable_network_operations network → ∃ socket,
      InOrder [Agrees listener, Accepts socket, Agrees listener, Registers socket session, Agrees listener,
        Approves session] events
  supervised : call.supervises = true →
    (∃ active, outcome = .active (.ok active) ∧ active = t.sessions.length ∧
      Retains listener s.sessions t.sessions events) ∨
      t.sessions = []

section Calls

variable {self : ObservedControlListener} {s : State}

/-- A call that hands out sockets. -/
theorem candidate_does {call : Call} {action : ListenerAction (Option Socket)} (hcall : call.supervises = false)
    (h : Doing self false s (Hands (fun socket => [Agrees self, Accepts socket, Agrees self]) s) action) :
    Doing self false s (Post self call s) (Prog.bind action fun result => .ret (.candidate result)) := by
  refine .bind h ?_
  intro result t events hhands
  refine ⟨hhands.sound, ?_, ?_, nofun, nofun, ?_⟩
  · rintro ⟨value, hvalue⟩
    exact (hhands.live value hvalue).1
  · intro socket hsocket
    cases hsocket
    rw [List.append_nil]
    exact hhands.marked socket rfl
  · rw [hcall]
    nofun

/-- A call that hands out a session that it was given. -/
theorem release_does {call : Call} {session : Connection} {action : ListenerAction Connection}
    (hcall : call.supervises = false) (hkind : ∀ network,
      call ≠ .poll_registered_from_durable_network_operations network)
    (h : Doing self false s (Releases [Agrees self, Approves session] session s) action) :
    Doing self false s (Post self call s) (Prog.bind action fun result => .ret (.session (result.map some))) := by
  refine .bind h ?_
  intro result t events hreleases
  cases result with
  | error error => exact ⟨hreleases.sound, nofun, nofun, nofun, nofun, by rw [hcall]; nofun⟩
  | ok value =>
    obtain ⟨rfl, hlive, _⟩ := hreleases.live value rfl
    refine ⟨hreleases.sound, fun _ => hlive, nofun, ?_, ?_, by rw [hcall]; nofun⟩
    · intro other hother
      cases hother
      rw [List.append_nil]
      exact hreleases.marked value rfl
    · exact fun _ network _ hpoll => absurd hpoll (hkind network)

theorem accept_observed_does {observed : Snapshot} (hsound : s.Sound) :
    Doing self false s (Hands (fun socket => [Agrees self, Accepts socket, Agrees self]) s)
      (self.accept_observed observed) := by
  refine ask_does (guard_of_inner rfl rfl) ?_
  rintro _ t rfl
  refine .mono (accept_with_revalidation_does ?_ (fun h => nomatch h)
    (observation_observer (callback_quiet false))) ?_
  · intro hlive hdrifted heq
    rw [heq] at hdrifted
    simp [hsound.steady hlive] at hdrifted
  rintro result u events ⟨hhands, hown⟩
  refine ⟨hhands.sound, hhands.sessions, hhands.live, ?_⟩
  intro socket hsocket
  have hagrees := hown socket hsocket
  exact .cons (by rw [hagrees]; rfl) (hhands.marked socket hsocket)

theorem Call.does (call : Call) (hsound : s.Sound) :
    Doing self call.supervises s (Post self call s) (call.program self) := by
  cases call with
  | accept_with_revalidation observed => exact candidate_does rfl (accept_observed_does hsound)
  | poll_with_fresh_observations =>
    exact candidate_does rfl
      (poll_with_observations_does hsound nofun (observation_observer (callback_quiet false)))
  | poll_with_async_observations =>
    exact candidate_does rfl
      (poll_with_observations_does hsound nofun (observation_observer (callback_quiet true)))
  | poll_from_durable_network_operations =>
    exact candidate_does rfl
      (poll_with_observations_does hsound nofun (observation_observer (observe_durable_quiet _)))
  | release_registered_if_current session =>
    exact release_does rfl nofun
      (release_registered_if_current_does hsound nofun (observation_observer (callback_quiet false)))
  | release_registered_if_current_async session =>
    exact release_does rfl nofun
      (release_registered_if_current_async_does hsound nofun (observation_observer (callback_quiet true)))
  | release_registered_from_durable_network_operations session =>
    exact release_does rfl nofun
      (release_registered_if_current_async_does hsound nofun (observation_observer (observe_durable_quiet _)))
  | poll_registered_from_durable_network_operations network =>
    refine .bind (poll_registered_does hsound nofun) ?_
    intro result t events hadmits
    refine ⟨hadmits.sound, ?_, nofun, ?_, ?_, nofun⟩
    · rintro ⟨value, hvalue⟩
      exact hadmits.live value hvalue
    · intro session hsession
      cases hsession
      rw [List.append_nil]
      obtain ⟨socket, hmarked⟩ := hadmits.marked session rfl
      exact hmarked.drop 4
    · intro session _ hsession _
      cases hsession
      rw [List.append_nil]
      exact hadmits.marked session rfl
  | supervise_registered_from_durable_network_operations =>
    refine .bind (supervise_does hsound) ?_
    intro result t events hsupervises
    refine ⟨hsupervises.sound, ?_, nofun, nofun, nofun, fun _ => ?_⟩
    · rintro ⟨value, hvalue⟩
      exact hsupervises.live value hvalue
    · rw [List.append_nil]
      cases result with
      | error error => exact .inr (hsupervises.none error rfl)
      | ok active =>
        obtain ⟨hactive, hkept⟩ := hsupervises.kept active rfl
        exact .inl ⟨active, rfl, hactive, hkept⟩

end Calls

section Runs

variable {self : ObservedControlListener} {supervising : Bool} {s t : State} {events : List ListenerEvent}

theorem world_retired {r : Request} {answer : r.Answer} (h : world self s r answer t) (hretired : s.retired = true) :
    t.retired = true := by
  cases r with
  | retire => exact h ▸ rfl
  | is_retired | take_sessions => exact h.2 ▸ hretired
  | _ => exact h ▸ hretired

theorem world_drifted {r : Request} {answer : r.Answer} (h : world self s r answer t) (hdrifted : s.drifted = true) :
    t.drifted = true := by
  cases r with
  | observed answer =>
    rw [world] at h
    rw [h, hdrifted]
    rfl
  | is_retired | take_sessions => exact h.2 ▸ hdrifted
  | _ => exact h ▸ hdrifted

/-- The requests of a call, each guarded and in the state before it. -/
abbrev Guarded (self : ObservedControlListener) (supervising : Bool) (s : State) (event : ListenerEvent) (t : State) :
    Prop :=
  World.Shows (ι := interface) (world self) s event t ∧ Guard supervising s event.request

theorem run_retired (h : Run (Guarded self supervising) s events t) (hretired : s.retired = true) :
    t.retired = true ∧ ∀ event ∈ events, event.request.is_outside = false := by
  induction h with
  | nil => exact ⟨hretired, by simp⟩
  | @cons s u t event events hstep _ ih =>
    obtain ⟨⟨_, _, hworld⟩, _, houtside⟩ := hstep
    obtain ⟨hlast, hrest⟩ := ih (world_retired hworld hretired)
    refine ⟨hlast, ?_⟩
    intro other hother
    obtain rfl | hother := List.mem_cons.mp hother
    · by_contra hout
      have hlive := houtside (by simpa using hout)
      rw [hretired] at hlive
      cases hlive
    · exact hrest other hother

theorem run_drifted (h : Run (Guarded self supervising) s events t) (hdrifted : s.drifted = true) :
    t.drifted = true :=
  h.invariant (fun s => s.drifted = true) (fun _ _ _ hinv hstep => world_drifted hstep.1.2.2 hinv) hdrifted

/-- An observation of something else is not forgotten. -/
theorem run_observed (h : Run (Guarded self supervising) s events t) {event : ListenerEvent} (hevent : event ∈ events)
    {answer : Result Snapshot} (hobserved : event.request = .observed answer) (hother : answer ≠ .ok self.own) :
    t.drifted = true := by
  induction h with
  | nil => cases hevent
  | @cons s u t first events hstep hrest ih =>
    obtain rfl | hlater := List.mem_cons.mp hevent
    · refine run_drifted hrest ?_
      obtain ⟨⟨_, _, hworld⟩, _⟩ := hstep
      obtain ⟨before, request, got, after⟩ := event
      dsimp only at hobserved hworld
      subst hobserved
      rw [world] at hworld
      rw [hworld]
      simp [hother]
    · exact ih hlater

end Runs

/-- What holds of every call on a listener that has come this far. -/
structure Gated (listener : ObservedControlListener) (state : State) : Prop where
  candidate : ∀ call events socket next,
    Step listener state (.call call events (some (.candidate (.ok (some socket))))) next →
      InOrder [Agrees listener, Accepts socket, Agrees listener] events
  released : ∀ call events session next,
    Step listener state (.call call events (some (.session (.ok (some session))))) next →
      InOrder [Agrees listener, Approves session] events
  registered : ∀ network events session next,
    Step listener state (.call (.poll_registered_from_durable_network_operations network) events
        (some (.session (.ok (some session))))) next →
      ∃ socket, InOrder [Agrees listener, Accepts socket, Agrees listener, Registers socket session, Agrees listener,
        Approves session] events
  drifted : ∀ call events outcome next event answer, Step listener state (.call call events outcome) next →
    event ∈ events → event.request = .observed answer → answer ≠ .ok listener.own → next.retired = true
  retired : state.retired = true → ∀ labels final, Run (Step listener) state labels final → final.retired = true ∧
    ∀ call events outcome, .call call events outcome ∈ labels →
      (∀ event ∈ events, event.request.is_outside = false) ∧ ∀ returned, outcome = some returned → ¬ returned.Succeeds
  supervised : ∀ events outcome next,
    Step listener state (.call .supervise_registered_from_durable_network_operations events outcome) next →
      (∃ active, outcome = some (.active (.ok active)) ∧ active = next.sessions.length ∧
        Retains listener state.sessions next.sessions events) ∨ next.sessions = []

section Steps

variable {self : ObservedControlListener} {state next : State} {call : Call} {events : List ListenerEvent}

/-- A call on a sound listener: its requests are guarded, it leaves a sound listener wherever it ends,
and if it returns it has done its part. -/
theorem call_cases {outcome : Option Outcome} (hsound : state.Sound)
    (hstep : Step self state (.call call events outcome) next) :
    Run (Guarded self call.supervises) state events next ∧ next.Sound ∧
      ((∃ returned, outcome = some returned ∧ Post self call state returned next events) ∨
        outcome = none ∧ (call.supervises = true → next.sessions = [])) := by
  cases hstep with
  | returned hexec =>
    obtain ⟨hrun, hpost⟩ := (call.does hsound).exec hexec
    have hpost : Post self call state _ next (events ++ []) := hpost
    rw [List.append_nil] at hpost
    exact ⟨hrun, hpost.sound, .inl ⟨_, rfl, hpost⟩⟩
  | dropped hawaits hexec =>
    obtain ⟨hrun, ⟨hguard, _⟩, _⟩ := (call.does hsound).exec hexec
    obtain ⟨hsteady, hnone⟩ := hguard hawaits
    exact ⟨hrun, hsteady, .inr ⟨rfl, hnone⟩⟩

theorem returned_post {outcome : Outcome} (hsound : state.Sound)
    (hstep : Step self state (.call call events (some outcome)) next) : Post self call state outcome next events := by
  obtain ⟨_, _, ⟨returned, hreturned, hpost⟩ | ⟨hnone, _⟩⟩ := call_cases hsound hstep
  · cases hreturned
    exact hpost
  · cases hnone

theorem Step.sound {label : Label} (h : Step self state label next) (hsound : state.Sound) : next.Sound := by
  cases label with
  | call call events outcome => exact (call_cases hsound h).2.1
  | keep sessions =>
    cases h
    exact hsound

/-- A call on a retired listener looks at nothing outside and fails. -/
theorem retired_call {outcome : Option Outcome} (hretired : state.retired = true)
    (hstep : Step self state (.call call events outcome) next) :
    next.retired = true ∧ (∀ event ∈ events, event.request.is_outside = false) ∧
      ∀ returned, outcome = some returned → ¬ returned.Succeeds := by
  obtain ⟨hrun, _, hended⟩ := call_cases (fun _ => hretired) hstep
  obtain ⟨hlast, hinside⟩ := run_retired hrun hretired
  refine ⟨hlast, hinside, ?_⟩
  rintro returned rfl hsucceeds
  obtain ⟨_, hreturned, hpost⟩ | ⟨hnone, _⟩ := hended
  · cases hreturned
    have hlive := hpost.live hsucceeds
    rw [hretired] at hlive
    cases hlive
  · cases hnone

theorem retired_run {labels : List Label} (h : Run (Step self) state labels next) (hretired : state.retired = true) :
    next.retired = true ∧ ∀ call events outcome, .call call events outcome ∈ labels →
      (∀ event ∈ events, event.request.is_outside = false) ∧ ∀ returned, outcome = some returned →
        ¬ returned.Succeeds := by
  induction h with
  | nil => exact ⟨hretired, by simp⟩
  | @cons s t u label labels hstep _ ih =>
    cases label with
    | keep sessions =>
      cases hstep
      obtain ⟨hlast, hrest⟩ := ih hretired
      exact ⟨hlast, fun call events outcome hin => hrest call events outcome (by simpa using hin)⟩
    | call first firstEvents firstOutcome =>
      obtain ⟨hnext, hinside, hfailed⟩ := retired_call hretired hstep
      obtain ⟨hlast, hrest⟩ := ih hnext
      refine ⟨hlast, ?_⟩
      intro call events outcome hin
      obtain heq | hlater := List.mem_cons.mp hin
      · cases heq
        exact ⟨hinside, hfailed⟩
      · exact hrest call events outcome hlater

end Steps

/-- Any calls on a listener, whatever is answered and wherever their futures are dropped. -/
theorem listener_gated {self : ObservedControlListener} {sessions : List Connection} {labels : List Label}
    {state : State} (h : Run (Step self) ⟨false, false, sessions⟩ labels state) : Gated self state := by
  have hsound : state.Sound :=
    h.invariant State.Sound (fun _ _ _ hinv hstep => hstep.sound hinv) (State.sound_of_steady rfl)
  refine ⟨?_, ?_, ?_, ?_, ?_, ?_⟩
  · intro call events socket next hstep
    exact (returned_post hsound hstep).candidate socket rfl
  · intro call events session next hstep
    exact (returned_post hsound hstep).released session rfl
  · intro network events session next hstep
    exact (returned_post hsound hstep).registered session network rfl rfl
  · intro call events outcome next event answer hstep hevent hobserved hother
    obtain ⟨hrun, hsteady, _⟩ := call_cases hsound hstep
    exact hsteady (run_observed hrun hevent hobserved hother)
  · exact fun hretired labels final hrun => retired_run hrun hretired
  · intro events outcome next hstep
    obtain ⟨_, _, ⟨returned, rfl, hpost⟩ | ⟨_, hnone⟩⟩ := call_cases hsound hstep
    · obtain ⟨active, rfl, hactive, hkept⟩ | hnone := hpost.supervised rfl
      · exact .inl ⟨active, rfl, hactive, hkept⟩
      · exact .inr hnone
    · exact .inr (hnone rfl)

def sample_listener : ObservedControlListener :=
  { network := .filled 9, endpoint := { ip := .new 10 201 97 1, port := 46071 } }

def sample_state : State := ⟨false, false, []⟩

/-- A poll that accepts a candidate between two observations, and one that finds the network gone. -/
theorem listener_gated_sample :
    ∃ first second state, Run (Step sample_listener) sample_state
        [.call .poll_with_fresh_observations first (some (.candidate (.ok (some 4)))),
          .call .poll_with_async_observations second
            (some (.candidate (.error (.new
              .InvalidState "NAP control listener lost its observed network ownership"))))]
        state ∧ state.retired = true ∧ Gated sample_listener state := by
  have hpoll : ∃ events, Exec (ι := interface) (world sample_listener) sample_state
      (Call.poll_with_fresh_observations.program sample_listener) events sample_state
      (.ret (.candidate (.ok (some 4)))) := by
    have hlive : world sample_listener sample_state .is_retired false sample_state := ⟨rfl, rfl⟩
    have hobserve : world sample_listener sample_state (.observe false) (.ok sample_listener.own) sample_state := rfl
    have hobserved : world sample_listener sample_state (.observed (.ok sample_listener.own)) () sample_state := rfl
    have haccept : world sample_listener sample_state .accept (.socket 4) sample_state := rfl
    have hset : world sample_listener sample_state (.set_blocking 4) (.ok ()) sample_state := rfl
    exact ⟨_, .step hlive (.step hobserve (.step hobserved (.step hlive (.step haccept (.step hset
      (.step hobserve (.step hobserved .stop)))))))⟩
  have hlost : ∃ events, Exec (ι := interface) (world sample_listener) sample_state
      (Call.poll_with_async_observations.program sample_listener) events ⟨true, true, []⟩
      (.ret (.candidate (.error (.new .InvalidState "NAP control listener lost its observed network ownership")))) := by
    have hlive : world sample_listener sample_state .is_retired false sample_state := ⟨rfl, rfl⟩
    have hobserve : world sample_listener sample_state (.observe true) (.ok (none, none)) sample_state := rfl
    have hobserved : world sample_listener sample_state (.observed (.ok (none, none))) () ⟨false, true, []⟩ := rfl
    have hagain : world sample_listener ⟨false, true, []⟩ .is_retired false ⟨false, true, []⟩ := ⟨rfl, rfl⟩
    have hretire : world sample_listener ⟨false, true, []⟩ .retire () ⟨true, true, []⟩ := rfl
    exact ⟨_, .step hlive (.step hobserve (.step hobserved (.step hagain (.step hretire .stop))))⟩
  obtain ⟨first, hfirst⟩ := hpoll
  obtain ⟨second, hsecond⟩ := hlost
  have hrun := Run.cons (Step.returned hfirst) (.cons (Step.returned hsecond) .nil)
  exact ⟨first, second, _, hrun, rfl, listener_gated hrun⟩

end blueroute_daemon.control_listener
