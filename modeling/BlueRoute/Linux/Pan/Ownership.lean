import BlueRoute.Linux.Pan.System

namespace blueroute_linux.pan

open blueroute Runs

/-! What a call has put behind the lock, and what each of its steps does there. -/

def StartPhase.held : StartPhase → Option NapRegistration
  | Registering registration => some registration
  | Proxied registration => some registration
  | Registered registration => some registration
  | RollingBack registration _ => some registration
  | Clearing registration _ => some registration
  | _ => none

def StopPhase.held : StopPhase → Option NapRegistration
  | Stopping registration => some registration
  | Proxied registration => some registration
  | Clearing registration => some registration
  | Restoring registration _ => some registration
  | _ => none

namespace Call

/-- The registration that a call in flight has inserted or moved to `Stopping`. -/
def held : Call → Option NapRegistration
  | Start _ _ phase => phase.held
  | Stop _ phase => phase.held

/-- The entry that a call in flight left behind the lock. -/
def claim : Call → Option NapLifecycleState
  | Start _ _ phase => phase.held.map .Registering
  | Stop _ phase => phase.held.map .Stopping

/-- The BlueZ owner that a call has observed. -/
def observed : Call → Option (Option String)
  | Start _ _ (.Observed registration) => some (some registration.bluez_owner)
  | Stop _ (.Observed owner) => some owner
  | call => call.held.map fun registration => some registration.bluez_owner

/-- The registration that a start has found active or has activated itself. -/
def committed : Call → Option NapRegistration
  | Start _ _ (.Committed registration) => some registration
  | Start _ _ (.Completed registration _) => some registration
  | _ => none

theorem claim_eq_some {call : Call} {entry : NapLifecycleState} (h : call.claim = some entry) :
    call.held = some entry.registration ∧ ∀ registration, entry ≠ .Active registration := by
  cases call with
  | Start adapter bridge phase | Stop adapter phase =>
    obtain ⟨registration, hheld, rfl⟩ := Option.map_eq_some_iff.mp h
    exact ⟨hheld, fun _ => by simp⟩

end Call

/-- What a step of a call does to the entry of its adapter. -/
inductive Effect (control : NapControl) (call : Call) (action : Action) : Call → NapControl → Prop where
  | quiet {after : Call} (hclaim : after.claim = call.claim) : Effect control call action after control
  | inserted {after : Call} {control' : NapControl} {requested : NapRegistration}
      (hbegin : ∃ outcome, action = .begin_registration outcome)
      (hobserved : call.observed = some (some requested.bluez_owner))
      (hforeign : ∀ entry, control.states call.adapter = some entry →
        entry.registration.bluez_owner ≠ requested.bluez_owner)
      (hafter : after.claim = some (.Registering requested))
      (hentry : EntryBecomes control control' call.adapter (some (.Registering requested))) :
      Effect control call action after control'
  | taken {after : Call} {control' : NapControl} {registration : NapRegistration}
      (hbegin : action = .begin_stop (.ok (some registration)))
      (hactive : control.states call.adapter = some (.Active registration))
      (hafter : after.claim = some (.Stopping registration))
      (hentry : EntryBecomes control control' call.adapter (some (.Stopping registration))) :
      Effect control call action after control'
  | discarded {after : Call} {control' : NapControl} {stale : NapRegistration} {observed : Option String}
      (hbegin : ∃ outcome, action = .begin_stop outcome)
      (hobserved : call.observed = some observed) (hforeign : observed ≠ some stale.bluez_owner)
      (hactive : control.states call.adapter = some (.Active stale)) (hafter : after.claim = none)
      (hentry : EntryBecomes control control' call.adapter none) : Effect control call action after control'
  | released {after : Call} {control' : NapControl} {claim : NapLifecycleState}
      {entry : Option NapLifecycleState} (hclaim : call.claim = some claim) (hafter : after.claim = none)
      (hentry : EntryBecomes control control' call.adapter entry) : Effect control call action after control'

def Action.commits : Action → Option NapRegistration
  | begin_registration (.ok (some registration)) => some registration
  | activate registration (.ok _) => some registration
  | _ => none

/-- A step of a call, which commits a registration only when it finds or makes it active. -/
structure Moves (control : NapControl) (call : Call) (action : Action) (after : Call) (control' : NapControl) :
    Prop where
  effect : Effect control call action after control'
  commits : ∀ registration, after.committed = some registration → call.committed = some registration ∨
    action.commits = some registration ∧ control'.states call.adapter = some (.Active registration)

variable {control control' : NapControl} {owner : Option String} {action : Action}

theorem start_nap_moves {adapter : AdapterHandle} {bridge : NetworkInterfaceHandle} {phase after : StartPhase}
    (h : start_nap owner control adapter bridge phase action = some (after, control')) :
    Moves control (.Start adapter bridge phase) action (.Start adapter bridge after) control' := by
  unfold start_nap at h
  split at h
  case h_2 =>
    split at h
    · cases h
    · split at h
      all_goals
        cases h
        exact ⟨.quiet rfl, nofun⟩
  case h_3 registration outcome =>
    have hspec := begin_nap_registration_spec control adapter registration
    generalize begin_nap_registration control adapter registration = begun at h hspec
    obtain ⟨result, begun_control⟩ := begun
    dsimp only at h hspec
    split at h
    · cases h
    · next houtcome =>
      obtain rfl := not_not.mp houtcome
      cases hspec with
      | refused error =>
        cases h
        exact ⟨.quiet rfl, nofun⟩
      | found hentry =>
        cases h
        refine ⟨.quiet rfl, ?_⟩
        rintro _ ⟨⟩
        exact .inr ⟨rfl, hentry⟩
      | inserted hforeign hafter =>
        cases h
        exact ⟨.inserted ⟨_, rfl⟩ rfl hforeign rfl hafter, nofun⟩
  case h_8 registration requested outcome =>
    have hspec := activate_nap_registration_spec control adapter registration
    generalize activate_nap_registration control adapter registration = activated at h hspec
    obtain ⟨result, activated_control⟩ := activated
    dsimp only at h hspec
    split at h
    · cases h
    · next houtcome =>
      obtain ⟨hsame, hresult⟩ := not_or.mp houtcome
      obtain rfl := not_not.mp hsame
      obtain rfl := not_not.mp hresult
      cases hspec with
      | refused error =>
        cases h
        exact ⟨.quiet rfl, nofun⟩
      | activated hentry hafter =>
        cases h
        refine ⟨.released rfl rfl hafter, ?_⟩
        rintro _ ⟨⟩
        exact .inr ⟨rfl, hafter.self⟩
  case h_10 =>
    cases h
    exact ⟨.released rfl rfl rfl, nofun⟩
  case h_11 =>
    cases h
    exact ⟨.quiet rfl, fun _ => .inl⟩
  case h_13 => cases h
  all_goals
    cases h
    exact ⟨.quiet rfl, nofun⟩

theorem stop_nap_moves {adapter : AdapterHandle} {phase after : StopPhase}
    (h : stop_nap owner control adapter phase action = some (after, control')) :
    Moves control (.Stop adapter phase) action (.Stop adapter after) control' := by
  refine ⟨?_, nofun⟩
  unfold stop_nap at h
  split at h
  case h_2 =>
    split at h
    · cases h
    · cases h
      exact .quiet rfl
  case h_3 observed outcome =>
    have hspec := begin_nap_stop_spec control adapter observed
    generalize begin_nap_stop control adapter observed = begun at h hspec
    obtain ⟨result, begun_control⟩ := begun
    dsimp only at h hspec
    split at h
    · cases h
    · next houtcome =>
      obtain rfl := not_not.mp houtcome
      cases hspec with
      | refused error | absent =>
        cases h
        exact .quiet rfl
      | discarded hentry hforeign hafter =>
        cases h
        exact .discarded ⟨_, rfl⟩ rfl hforeign hentry rfl hafter
      | taken hentry howner hafter =>
        cases h
        exact .taken rfl hentry rfl hafter
  case h_9 | h_10 =>
    cases h
    exact .released rfl rfl rfl
  case h_11 => cases h
  all_goals
    cases h
    exact .quiet rfl

theorem Call.advance_moves {call after : Call} (h : call.advance owner control action = some (after, control')) :
    after.adapter = call.adapter ∧ Moves control call action after control' := by
  cases call with
  | Start adapter bridge phase =>
    obtain ⟨⟨after_phase, _⟩, hstart, hafter⟩ := Option.map_eq_some_iff.mp h
    cases hafter
    exact ⟨rfl, start_nap_moves hstart⟩
  | Stop adapter phase =>
    obtain ⟨⟨after_phase, _⟩, hstop, hafter⟩ := Option.map_eq_some_iff.mp h
    cases hafter
    exact ⟨rfl, stop_nap_moves hstop⟩

end blueroute_linux.pan
