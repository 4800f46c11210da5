import BlueRoute.Linux.Pan.Ownership

namespace blueroute_linux.pan

open blueroute Runs pan.System

namespace Event

/-- The start that finds or makes its registration active with this event. -/
def commits : Event → Option (Nat × AdapterHandle × NapRegistration)
  | step id adapter action => action.commits.map fun registration => (id, adapter, registration)
  | _ => none

/-- The registration that a stop takes with this event. -/
def takes : Event → Option (AdapterHandle × NapRegistration)
  | step _ adapter (.begin_stop (.ok (some registration))) => some (adapter, registration)
  | _ => none

def is_restart : Event → Bool
  | restart _ => true
  | _ => false

def call : Event → Option Nat
  | step id _ _ => some id
  | _ => none

end Event

variable {s t : System} {event : Event}

/-- The three kinds of steps of a backend. -/
inductive Transition (s : System) : Event → System → Prop where
  | restart (owner : Option String) : Transition s (.restart owner) { s with owner }
  | invoke {id : Nat} {call : Call} (hunused : s.calls id = none) (hfresh : call.is_fresh = true) :
      Transition s (.invoke id call) (s.set_call id call s.control)
  | step {id : Nat} {call after : Call} {action : Action} {control : NapControl}
      (hcall : s.calls id = some call) (hadvance : call.advance s.owner s.control action = some (after, control)) :
      Transition s (.step id call.adapter action) (s.set_call id after control)

theorem System.Step.transition (h : s.Step event t) : Transition s event t := by
  cases event with
  | restart owner =>
    cases h
    exact .restart owner
  | invoke id call =>
    simp only [Step, next, Option.ite_none_right_eq_some, Option.some.injEq] at h
    obtain ⟨⟨hunused, hfresh⟩, rfl⟩ := h
    exact .invoke hunused hfresh
  | step id adapter action =>
    unfold Step next at h
    dsimp only at h
    split at h
    · cases h
    · next call hcall =>
      split at h
      · cases h
      · next hadapter =>
        obtain rfl := not_not.mp hadapter
        obtain ⟨⟨after, control⟩, hadvance, rfl⟩ := Option.map_eq_some_iff.mp h
        exact .step hcall hadvance

/-- Every call in flight finds its entry as it left it, and is alone on its adapter. -/
structure Held (s : System) : Prop where
  entry : ∀ {id : Nat} {call : Call} {claim : NapLifecycleState}, s.calls id = some call →
    call.claim = some claim → s.control.states call.adapter = some claim
  unique : ∀ {id other : Nat} {call other_call : Call} {claim other_claim : NapLifecycleState},
    s.calls id = some call → s.calls other = some other_call → call.adapter = other_call.adapter →
    call.claim = some claim → other_call.claim = some other_claim → id = other

theorem held_init (owner : Option String) : Held (init owner) where
  entry h := nomatch h
  unique h := nomatch h

/-- A call that meets an entry of another BlueZ owner than the one it has observed. -/
def MeetsForeign (s : System) (id : Nat) (adapter : AdapterHandle) (entry : NapLifecycleState) : Prop :=
  s.control.states adapter = some entry ∧
    ∃ call observed, s.calls id = some call ∧ call.observed = some observed ∧
      observed ≠ some entry.registration.bluez_owner

/-- No call sets an entry of another owner aside that is in flight, or whose owner is the BlueZ
service of the moment. -/
def Orderly (s : System) : Event → Prop
  | .step id adapter (.begin_registration _) => ∀ entry, MeetsForeign s id adapter entry →
      (∃ registration, entry = .Active registration) ∧ s.owner ≠ some entry.registration.bluez_owner
  | .step id adapter (.begin_stop _) => ∀ registration, MeetsForeign s id adapter (.Active registration) →
      s.owner ≠ some registration.bluez_owner
  | _ => True

/-- Only the entry of its own registration, or one of another owner than it has observed, is
removed or replaced by a call. -/
def RespectsOwnership (s : System) (event : Event) (t : System) : Prop :=
  ∀ adapter entry, s.control.states adapter = some entry → t.control.states adapter ≠ some entry →
    ∃ id call after, event.call = some id ∧ s.calls id = some call ∧ t.calls id = some after ∧
      (call.held = some entry.registration ∨ after.held = some entry.registration ∨
        ∃ observed, call.observed = some observed ∧ observed ≠ some entry.registration.bluez_owner)

section Ownership

variable {control control' : NapControl} {action : Action} {call after : Call} {adapter : AdapterHandle} {id : Nat}
  {registration : NapRegistration} {owner : Option String}

/-- The entry of a call's adapter, once it has changed, was its own or a foreign one. -/
theorem Effect.respects (h : Effect control call action after control')
    (hheld : ∀ claim, call.claim = some claim → control.states call.adapter = some claim)
    {entry : NapLifecycleState} (hbefore : control.states adapter = some entry)
    (hafter : control'.states adapter ≠ some entry) :
    call.held = some entry.registration ∨ after.held = some entry.registration ∨
      ∃ observed, call.observed = some observed ∧ observed ≠ some entry.registration.bluez_owner := by
  have hadapter {changed : Option NapLifecycleState}
      (hentry : EntryBecomes control control' call.adapter changed) : adapter = call.adapter := by
    by_contra hne
    exact hafter ((hentry.other hne).trans hbefore)
  cases h with
  | quiet hclaim => exact absurd hbefore hafter
  | inserted hbegin hobserved hforeign hclaim hentry =>
    obtain rfl := hadapter hentry
    exact .inr (.inr ⟨_, hobserved, fun h => hforeign entry hbefore (Option.some.inj h).symm⟩)
  | taken hbegin hactive hclaim hentry =>
    obtain rfl := hadapter hentry
    obtain rfl := Option.some.inj (hbefore.symm.trans hactive)
    exact .inr (.inl (Call.claim_eq_some hclaim).1)
  | discarded hbegin hobserved hforeign hactive hclaim hentry =>
    obtain rfl := hadapter hentry
    obtain rfl := Option.some.inj (hbefore.symm.trans hactive)
    exact .inr (.inr ⟨_, hobserved, hforeign⟩)
  | released hclaim _ hentry =>
    obtain rfl := hadapter hentry
    obtain rfl := Option.some.inj (hbefore.symm.trans (hheld _ hclaim))
    exact .inl (Call.claim_eq_some hclaim).1

theorem Held.respectsOwnership (hheld : Held s) (hstep : s.Step event t) : RespectsOwnership s event t := by
  intro adapter entry hbefore hafter
  cases hstep.transition with
  | restart owner | invoke hunused hfresh => exact absurd hbefore hafter
  | @step id call after action control hcall hadvance =>
    refine ⟨id, call, after, rfl, hcall, Function.update_self .., ?_⟩
    exact (Call.advance_moves hadvance).2.effect.respects (fun claim => hheld.entry hcall) hbefore hafter

/-- An orderly step changes an entry only where no other call is in flight. -/
theorem Held.other_claim_eq_none (hheld : Held s) {other : Nat} {other_call : Call} (hcall : s.calls id = some call)
    (hadvance : call.advance s.owner s.control action = some (after, control))
    (horderly : Orderly s (.step id call.adapter action)) (hother : s.calls other = some other_call)
    (hne : other ≠ id) (hadapter : other_call.adapter = call.adapter) :
    control = s.control ∧ after.claim = call.claim ∨ other_call.claim = none := by
  cases hclaim : other_call.claim with
  | none => exact .inr rfl
  | some claim =>
    have hpresent : s.control.states call.adapter = some claim := hadapter ▸ hheld.entry hother hclaim
    have hinactive := (Call.claim_eq_some hclaim).2
    cases (Call.advance_moves hadvance).2.effect with
    | quiet hsame => exact .inl ⟨rfl, hsame⟩
    | inserted hbegin hobserved hforeign hafter hentry =>
      obtain ⟨outcome, rfl⟩ := hbegin
      have hmeets : MeetsForeign s id call.adapter claim :=
        ⟨hpresent, call, _, hcall, hobserved, fun h => hforeign claim hpresent (Option.some.inj h).symm⟩
      obtain ⟨registration, hactive⟩ := (horderly claim hmeets).1
      exact absurd hactive (hinactive registration)
    | taken hbegin hactive hafter hentry =>
      exact absurd (Option.some.inj (hpresent.symm.trans hactive)) (hinactive _)
    | discarded hbegin hobserved hforeign hactive hafter hentry =>
      exact absurd (Option.some.inj (hpresent.symm.trans hactive)) (hinactive _)
    | released hown hafter hentry => exact absurd (hheld.unique hother hcall hadapter hclaim hown) hne

/-- After a step a call in flight finds its entry as it left it. -/
theorem Effect.claim_entry {claim : NapLifecycleState} (h : Effect control call action after control')
    (hheld : ∀ claim, call.claim = some claim → control.states call.adapter = some claim)
    (hclaim : after.claim = some claim) : control'.states call.adapter = some claim := by
  cases h with
  | quiet hsame => exact hheld claim (hsame ▸ hclaim)
  | inserted hbegin hobserved hforeign hafter hentry | taken hbegin hactive hafter hentry =>
    exact hentry.self.trans (hafter.symm.trans hclaim)
  | discarded hbegin hobserved hforeign hactive hafter hentry | released hown hafter hentry =>
    exact absurd (hafter.symm.trans hclaim) (by simp)

/-- Where a step leaves the entry of an adapter as it was. -/
theorem Effect.states_of_ne (h : Effect control call action after control') (hne : adapter ≠ call.adapter) :
    control'.states adapter = control.states adapter := by
  cases h with
  | quiet hsame => rfl
  | inserted hbegin hobserved hforeign hafter hentry | taken hbegin hactive hafter hentry
  | discarded hbegin hobserved hforeign hactive hafter hentry | released hown hafter hentry => exact hentry.other hne

theorem Call.claim_of_is_fresh (h : call.is_fresh = true) : call.claim = none ∧ call.committed = none := by
  cases call with
  | Start adapter bridge phase | Stop adapter phase =>
    obtain rfl : phase = .Called := by simpa [Call.is_fresh] using h
    exact ⟨rfl, rfl⟩

theorem System.calls_set_call {other : Nat} (h : (s.set_call id after control).calls other = some call) :
    other = id ∧ call = after ∨ other ≠ id ∧ s.calls other = some call := by
  change Function.update s.calls id (some after) other = some call at h
  by_cases hid : other = id
  · subst hid
    rw [Function.update_self] at h
    exact .inl ⟨rfl, (Option.some.inj h).symm⟩
  · rw [Function.update_of_ne hid] at h
    exact .inr ⟨hid, h⟩

/-- A call moves on: its own entry is as it left it, and the other calls in flight keep theirs on
other adapters. -/
theorem Held.set_call (hheld : Held s)
    (hown : ∀ claim, after.claim = some claim → control.states after.adapter = some claim)
    (hothers : ∀ other call claim, other ≠ id → s.calls other = some call → call.claim = some claim →
      control.states call.adapter = some claim ∧ (call.adapter = after.adapter → after.claim = none)) :
    Held (s.set_call id after control) := by
  constructor
  · intro other call claim hcall hclaim
    obtain ⟨rfl, rfl⟩ | ⟨hne, hcall_old⟩ := calls_set_call hcall
    · exact hown claim hclaim
    · exact (hothers other call claim hne hcall_old hclaim).1
  · intro left right left_call right_call left_claim right_claim hleft hright hadapter hleft_claim hright_claim
    obtain ⟨rfl, rfl⟩ | ⟨hleft_ne, hleft_old⟩ := calls_set_call hleft
    · obtain ⟨rfl, -⟩ | ⟨hright_ne, hright_old⟩ := calls_set_call hright
      · rfl
      · have hnone := (hothers right right_call right_claim hright_ne hright_old hright_claim).2 hadapter.symm
        exact absurd (hnone.symm.trans hleft_claim) (by simp)
    · obtain ⟨rfl, rfl⟩ | ⟨-, hright_old⟩ := calls_set_call hright
      · have hnone := (hothers left left_call left_claim hleft_ne hleft_old hleft_claim).2 hadapter
        exact absurd (hnone.symm.trans hright_claim) (by simp)
      · exact hheld.unique hleft_old hright_old hadapter hleft_claim hright_claim

theorem Held.step (hheld : Held s) (hstep : s.Step event t) (horderly : Orderly s event) : Held t := by
  cases hstep.transition with
  | restart owner => exact ⟨hheld.entry, hheld.unique⟩
  | @invoke id call hunused hfresh =>
    have hnone := (Call.claim_of_is_fresh hfresh).1
    refine hheld.set_call (fun claim hclaim => absurd (hnone.symm.trans hclaim) (by simp)) ?_
    intro other call claim _ hcall hclaim
    exact ⟨hheld.entry hcall hclaim, fun _ => hnone⟩
  | @step id call after action control hcall hadvance =>
    obtain ⟨hadapter, heffect, -⟩ := Call.advance_moves hadvance
    refine hheld.set_call (fun claim hclaim => ?_) ?_
    · rw [hadapter]
      exact heffect.claim_entry (fun claim => hheld.entry hcall) hclaim
    · intro other other_call claim hne hother hclaim
      by_cases hsame : other_call.adapter = call.adapter
      · obtain ⟨rfl, hunchanged⟩ | hnone :=
          hheld.other_claim_eq_none hcall hadvance horderly hother hne hsame
        · refine ⟨hheld.entry hother hclaim, fun _ => ?_⟩
          rw [hunchanged, Option.eq_none_iff_forall_ne_some]
          intro own hown
          exact hne (hheld.unique hother hcall hsame hclaim hown)
        · exact absurd (hnone.symm.trans hclaim) (by simp)
      · refine ⟨?_, fun h => absurd (h.trans hadapter) hsame⟩
        rw [heffect.states_of_ne hsame]
        exact hheld.entry hother hclaim

/-- The steps of orderly runs. -/
def OrderlyStep (s : System) (event : Event) (t : System) : Prop := s.Step event t ∧ Orderly s event

/-- An active registration with the BlueZ service of the moment stays active, unless BlueZ restarts
or a stop takes it. -/
theorem active_step (hheld : Held s) (hactive : s.control.states adapter = some (.Active registration))
    (howner : s.owner = some registration.bluez_owner) (hstep : OrderlyStep s event t)
    (hrestart : event.is_restart = false) (htakes : event.takes ≠ some (adapter, registration)) :
    t.control.states adapter = some (.Active registration) ∧ t.owner = s.owner := by
  obtain ⟨hstep, horderly⟩ := hstep
  cases hstep.transition with
  | restart owner => cases hrestart
  | invoke hunused hfresh => exact ⟨hactive, rfl⟩
  | @step id call after action control hcall hadvance =>
    refine ⟨?_, rfl⟩
    have heffect := (Call.advance_moves hadvance).2.effect
    by_cases hadapter : adapter = call.adapter
    · subst hadapter
      cases heffect with
      | quiet hsame => exact hactive
      | inserted hbegin hobserved hforeign hafter hentry =>
        obtain ⟨outcome, rfl⟩ := hbegin
        have hmeets : MeetsForeign s id call.adapter (.Active registration) :=
          ⟨hactive, call, _, hcall, hobserved, fun h => hforeign _ hactive (Option.some.inj h).symm⟩
        exact absurd howner (horderly _ hmeets).2
      | taken hbegin htaken hafter hentry =>
        subst hbegin
        cases Option.some.inj (hactive.symm.trans htaken)
        exact absurd rfl htakes
      | discarded hbegin hobserved hforeign hstale hafter hentry =>
        obtain ⟨outcome, rfl⟩ := hbegin
        cases Option.some.inj (hactive.symm.trans hstale)
        exact absurd howner (horderly registration ⟨hactive, call, _, hcall, hobserved, hforeign⟩)
      | released hclaim hafter hentry =>
        have hown := Option.some.inj (hactive.symm.trans (hheld.entry hcall hclaim))
        exact absurd hown.symm ((Call.claim_eq_some hclaim).2 registration)
    · exact (heffect.states_of_ne hadapter).trans hactive

/-- A start has committed at some point of the history, and an orderly run has led on from there. -/
def CommittedSince (history : List Event) (s : System) (id : Nat) (adapter : AdapterHandle)
    (registration : NapRegistration) : Prop :=
  ∃ before event suffix middle, history = before ++ event :: suffix ∧
    event.commits = some (id, adapter, registration) ∧ Held middle ∧
    middle.control.states adapter = some (.Active registration) ∧ Run OrderlyStep middle suffix s

theorem CommittedSince.step {history : List Event} (h : CommittedSince history s id adapter registration)
    (hstep : OrderlyStep s event t) : CommittedSince (history ++ [event]) t id adapter registration := by
  obtain ⟨before, commit, suffix, middle, rfl, hcommit, hheld, hactive, hrun⟩ := h
  refine ⟨before, commit, suffix ++ [event], middle, by simp, hcommit, hheld, hactive, ?_⟩
  exact Run.append_iff.mpr ⟨s, hrun, .cons hstep .nil⟩

/-- A run keeps the entries of the calls in flight, and every committed start goes back to its
commit. -/
theorem held_and_committed {history : List Event} (hrun : Run OrderlyStep (init owner) history s) :
    Held s ∧ ∀ id call registration, s.calls id = some call → call.committed = some registration →
      CommittedSince history s id call.adapter registration := by
  refine Run.history (fun history s => Held s ∧ ∀ id call registration, s.calls id = some call →
    call.committed = some registration → CommittedSince history s id call.adapter registration) ?_ ?_ hrun
  · exact ⟨held_init owner, fun _ _ _ h => nomatch h⟩
  · rintro history s event t ⟨hheld, hcommitted⟩ hstep
    have hheld_after := hheld.step hstep.1 hstep.2
    refine ⟨hheld_after, fun id call registration hcall hcommit => ?_⟩
    cases hstep.1.transition with
    | restart owner => exact (hcommitted id call registration hcall hcommit).step hstep
    | invoke hunused hfresh =>
      obtain ⟨rfl, rfl⟩ | ⟨-, hcall_old⟩ := calls_set_call hcall
      · exact absurd ((Call.claim_of_is_fresh hfresh).2.symm.trans hcommit) (by simp)
      · exact (hcommitted id call registration hcall_old hcommit).step hstep
    | @step moved moved_call after action control hmoved hadvance =>
      obtain ⟨rfl, rfl⟩ | ⟨-, hcall_old⟩ := calls_set_call hcall
      · obtain ⟨hadapter, hmoves⟩ := Call.advance_moves hadvance
        obtain hearlier | ⟨hnow, hactive⟩ := hmoves.commits registration hcommit
        · rw [hadapter]
          exact (hcommitted id moved_call registration hmoved hearlier).step hstep
        · rw [hadapter]
          exact ⟨history, _, [], _, rfl, by simp [Event.commits, hnow], hheld_after, hactive, .nil⟩
      · exact (hcommitted id call registration hcall_old hcommit).step hstep

theorem owner_of_run {events : List Event} (hrun : Run OrderlyStep s events t)
    (hrestart : ∀ event ∈ events, event.is_restart = false) : t.owner = s.owner := by
  refine Run.invariant_of_forall (fun u => u.owner = s.owner) ?_ hrun hrestart rfl
  intro u event v hevent howner hstep
  cases hstep.1.transition with
  | restart owner => cases hevent
  | invoke hunused hfresh | step hcall hadvance => exact howner

theorem active_of_run {events : List Event} (hrun : Run OrderlyStep s events t) (hheld : Held s)
    (hactive : s.control.states adapter = some (.Active registration))
    (howner : s.owner = some registration.bluez_owner) (hrestart : ∀ event ∈ events, event.is_restart = false)
    (htakes : ∀ event ∈ events, event.takes ≠ some (adapter, registration)) :
    t.control.states adapter = some (.Active registration) := by
  have hinv := Run.invariant_of_forall
    (fun u => Held u ∧ u.control.states adapter = some (.Active registration) ∧
      u.owner = some registration.bluez_owner)
    (P := fun event => event.is_restart = false ∧ event.takes ≠ some (adapter, registration))
    (fun u event v hevent hu hstep => ?_) hrun (fun event h => ⟨hrestart event h, htakes event h⟩)
    ⟨hheld, hactive, howner⟩
  · exact hinv.2.1
  · obtain ⟨hheld, hactive, howner⟩ := hu
    obtain ⟨hafter, hsame⟩ := active_step hheld hactive howner hstep hevent.1 hevent.2
    exact ⟨hheld.step hstep.1 hstep.2, hafter, hsame.trans howner⟩

/-- NAP lifecycle ownership, in every run in which no call sets aside an entry of another owner that
is in flight or whose owner is the BlueZ service of the moment. Every step respects ownership, and
a registration that a completed start has returned is active as long as BlueZ has not restarted
since the start committed it and no stop has taken it. -/
theorem nap_ownership_of_orderly (owner : Option String) (history : List Event) (s : System)
    (hrun : Run OrderlyStep (init owner) history s) :
    (∀ event t, OrderlyStep s event t → RespectsOwnership s event t) ∧
      ∀ id adapter bridge registration attachment,
        s.calls id = some (.Start adapter bridge (.Completed registration attachment)) →
        ∃ before event suffix, history = before ++ event :: suffix ∧
          event.commits = some (id, adapter, registration) ∧
          (s.owner = some registration.bluez_owner → (∀ later ∈ suffix, later.is_restart = false) →
            (∀ later ∈ suffix, later.takes ≠ some (adapter, registration)) →
            s.control.states adapter = some (.Active registration)) := by
  obtain ⟨hheld, hcommitted⟩ := held_and_committed hrun
  refine ⟨fun event t hstep => hheld.respectsOwnership hstep.1, ?_⟩
  intro id adapter bridge registration attachment hcall
  obtain ⟨before, event, suffix, middle, hhistory, hcommit, hmiddle, hactive, hsuffix⟩ :=
    hcommitted id _ registration hcall rfl
  refine ⟨before, event, suffix, hhistory, hcommit, fun howner hrestart htakes => ?_⟩
  exact active_of_run hsuffix hmiddle hactive ((owner_of_run hsuffix hrestart).symm.trans howner) hrestart htakes

end Ownership

namespace sample

def adapter : AdapterHandle := { as_str := "/org/bluez/hci0", not_blank := by decide }

theorem bridge_not_blank : net.is_blank "brb-61616161" = false := by
  decide

def bridge : NetworkInterfaceHandle := { as_str := "brb-61616161", not_blank := bridge_not_blank }

def registration (bluez_owner : String) : NapRegistration := { bridge, bluez_owner }

def attachment : PanAttachment := { role := .Nap, interface := bridge, peer := none }

/-- A start that has got as far as its entry behind the lock. -/
def begins (id : Nat) (bluez_owner : String) : List Event :=
  [.invoke id (.Start adapter bridge .Called),
    .step id adapter (.observe_owner (.ok (some bluez_owner))),
    .step id adapter (.begin_registration (.ok none))]

/-- BlueZ registers its NAP. -/
def registers (id : Nat) : List Event :=
  [.step id adapter (.proxy (.ok ())), .step id adapter (.register (.ok ()))]

def activates (id : Nat) (bluez_owner : String) : Event :=
  .step id adapter (.activate (registration bluez_owner) (.ok ()))

end sample

section Samples

open sample

/-- A start that runs to its end, and after a restart of BlueZ another, which replaces the entry of the first. -/
theorem nap_ownership_of_orderly_sample :
    let starts (id : Nat) (bluez_owner : String) := begins id bluez_owner ++ registers id ++
      [activates id bluez_owner, .step id adapter (.finish (.ok ()))]
    ∃ s : System, s.calls 0 = some (.Start adapter bridge (.Completed (registration ":1.5") attachment)) ∧
      s.calls 1 = some (.Start adapter bridge (.Completed (registration ":1.9") attachment)) ∧
      ((∀ event t, OrderlyStep s event t → RespectsOwnership s event t) ∧
        ∀ id adapter' bridge' registration' attachment',
          s.calls id = some (.Start adapter' bridge' (.Completed registration' attachment')) →
          ∃ before event suffix,
            starts 0 ":1.5" ++ .restart (some ":1.9") :: starts 1 ":1.9" = before ++ event :: suffix ∧
            event.commits = some (id, adapter', registration') ∧
            (s.owner = some registration'.bluez_owner → (∀ later ∈ suffix, later.is_restart = false) →
              (∀ later ∈ suffix, later.takes ≠ some (adapter', registration')) →
              s.control.states adapter' = some (.Active registration'))) := by
  refine ⟨?_, ?_, ?_, nap_ownership_of_orderly (some ":1.5") _ _ ?run⟩
  case run =>
    iterate 2 refine .cons ⟨rfl, trivial⟩ ?_
    refine .cons ⟨rfl, fun entry hmeets => nomatch hmeets.1⟩ ?_
    iterate 7 refine .cons ⟨rfl, trivial⟩ ?_
    refine .cons ⟨rfl, fun entry hmeets => ?_⟩ ?_
    · cases hmeets.1
      exact ⟨⟨_, rfl⟩, by decide⟩
    iterate 4 refine .cons ⟨rfl, trivial⟩ ?_
    exact .nil
  · rfl
  · rfl

/-- A start whose BlueZ has gone removes the registration of another. The second start has completed
with the BlueZ service that is still there, no stop was ever called, and nothing is left of its
entry once the first start has cleaned up after its failure. -/
theorem start_nap_clears_registration_of_another :
    let before := begins 0 ":1.5" ++ [.restart (some ":1.9")] ++ begins 1 ":1.9" ++ registers 1
    let suffix := [.step 1 adapter (.finish (.ok ())), .step 0 adapter (.proxy (.ok ())),
      .step 0 adapter (.register (.error (CoreError.new .PanFailure "no reply"))), .step 0 adapter .clear]
    (activates 1 ":1.9").commits = some (1, adapter, registration ":1.9") ∧
      (∀ later ∈ suffix, later.is_restart = false) ∧
      (∀ later ∈ suffix, later.takes ≠ some (adapter, registration ":1.9")) ∧
      ∃ s : System, Run Step (init (some ":1.5")) (before ++ activates 1 ":1.9" :: suffix) s ∧
        s.calls 1 = some (.Start adapter bridge (.Completed (registration ":1.9") attachment)) ∧
        s.owner = some ":1.9" ∧ s.control.states adapter = none := by
  refine ⟨rfl, by decide, by decide, ?_, ?run, ?_, ?_, ?_⟩
  case run =>
    iterate 14 refine .cons rfl ?_
    exact .nil
  · rfl
  · rfl
  · rfl

end Samples

end blueroute_linux.pan
