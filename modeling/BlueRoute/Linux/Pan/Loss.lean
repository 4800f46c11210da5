import BlueRoute.Base.Runs
import BlueRoute.Linux.Pan.Subscription

open Runs

namespace blueroute_linux.pan.BluezPanuSubscription

open blueroute Fallible BluezPanuSubscription.System

def Phase.subscription : Phase → Option BluezPanuSubscription
  | .Subscribing | .Refused => none
  | .Idle subscription | .Waiting subscription | .Rereading subscription => some subscription

/-- The answer of a step that returns. -/
def Event.answer : Event → Option (Result (Option PanuEvent))
  | .Change _ | .Signal _ | .Snapshot _ => none
  | .Call answer | .Take answer | .End answer | .Reread _ answer => answer

def Event.is_lost (event : Event) : Bool :=
  match event.answer with
  | some (.ok (some (.Lost _))) => true
  | _ => false

/-- A step of a call, and not of BlueZ. -/
def Event.of_call : Event → Bool
  | .Change _ | .Signal _ | .Snapshot _ => false
  | .Call _ | .Take _ | .End _ | .Reread .. => true

/-- A look at the link that did not fail and shows another state than the attachment. -/
def Event.Differs (attachment : PanAttachment) (peer : PeerHandle) : Event → Prop
  | .Snapshot reads | .Reread reads _ =>
    ∃ observed, current_panu_attachment reads peer = .ok observed ∧ observed ≠ some attachment
  | _ => False

/-- An item that makes the call look at the link. -/
def Triggers (peer : PeerHandle) : Except BusError Message → Prop
  | .error _ => False
  | .ok message => panu_loss_trigger message peer = .ok true

instance (peer : PeerHandle) : DecidablePred (Triggers peer) := fun item =>
  match item with
  | .error _ => inferInstanceAs (Decidable False)
  | .ok message => inferInstanceAs (Decidable (panu_loss_trigger message peer = .ok true))

/-- No signal of a change is filtered out. -/
theorem Announces.triggers {peer : PeerHandle} {item : Except BusError Message} (h : Announces peer item) :
    Triggers peer item := by
  cases h with
  | @changed _ _ changed invalidated hinterface hmember hpath hbody hproperty hnamed =>
    have haffects : properties_change_can_affect_panu_state "org.bluez.Network1" changed invalidated = true := by
      obtain rfl | rfl := hproperty <;> obtain hnamed | hnamed := hnamed <;>
        simp [properties_change_can_affect_panu_state, NETWORK_INTERFACE, CONNECTED_PROPERTY,
          INTERFACE_PROPERTY, hnamed]
    rw [Triggers, panu_loss_trigger, hinterface, hmember, hpath, hbody]
    simp [Except.mapError, OBJECT_MANAGER_INTERFACE, PROPERTIES_INTERFACE, PROPERTIES_CHANGED, haffects]
  | removed hinterface hmember hbody hnamed =>
    rw [Triggers, panu_loss_trigger, hinterface, hmember, hbody]
    simp [Except.mapError, OBJECT_MANAGER_INTERFACE, INTERFACES_REMOVED, NETWORK_INTERFACE]
    exact ⟨_, hnamed, .inl rfl⟩

/-- A change of the link will still be signalled, or has been and the call did not get to it. -/
def System.ToCome (peer : PeerHandle) (s : System) : Prop :=
  0 < s.unsignalled ∨ ∃ item ∈ s.stream, Triggers peer item

section Effects

variable {attachment : PanAttachment} {peer : PeerHandle} {has_peer : attachment.peer = some peer} {s t : System}
  {event : Event}

/-- Everything that a step can do. -/
inductive Effect (attachment : PanAttachment) (peer : PeerHandle) (has_peer : attachment.peer = some peer)
    (s : System) :
    Event → System → Prop where
  | changed (link : Option NetworkInterfaceHandle) :
      Effect attachment peer has_peer s (.Change link) { s with link, unsignalled := s.unsignalled + 1 }
  | signalled (item : Except BusError Message) {unsignalled : Nat}
      (hcount : unsignalled = s.unsignalled ∨ Announces peer item ∧ unsignalled + 1 = s.unsignalled) :
      Effect attachment peer has_peer s (.Signal item) { s with unsignalled, stream := s.stream ++ [item] }
  | refused {reads : PanuReads} (hphase : s.phase = .Subscribing) :
      Effect attachment peer has_peer s (.Snapshot reads) { s with phase := .Refused }
  | subscribed {reads : PanuReads} {observed : Option PanAttachment} (hphase : s.phase = .Subscribing)
      (hreads : current_panu_attachment reads peer = .ok observed) :
      Effect attachment peer has_peer s (.Snapshot reads)
        { s with phase := .Idle (new attachment peer has_peer observed) }
  | past {sub : BluezPanuSubscription} (hphase : s.phase = .Idle sub) (hfinished : sub.finished = true) :
      Effect attachment peer has_peer s (.Call (some (.ok none))) s
  | overdue {sub : BluezPanuSubscription} (hphase : s.phase = .Idle sub) (hopen : sub.finished = false)
      (hpending : sub.pending_loss = true) :
      Effect attachment peer has_peer s (.Call (some sub.lost))
        { s with phase := .Idle { sub with pending_loss := false, finished := true } }
  | began {sub : BluezPanuSubscription} (hphase : s.phase = .Idle sub) (hopen : sub.finished = false)
      (hcalm : sub.pending_loss = false) :
      Effect attachment peer has_peer s (.Call none) { s with phase := .Waiting sub }
  | broken {sub : BluezPanuSubscription} {item : Except BusError Message} {rest : List (Except BusError Message)}
      {error : CoreError} (hphase : s.phase = .Waiting sub) (hstream : s.stream = item :: rest)
      (hitem : ¬ Triggers sub.peer item) :
      Effect attachment peer has_peer s (.Take (some (.error error))) { s with stream := rest, phase := .Idle sub }
  | skipped {sub : BluezPanuSubscription} {item : Except BusError Message} {rest : List (Except BusError Message)}
      (hphase : s.phase = .Waiting sub) (hstream : s.stream = item :: rest) (hitem : ¬ Triggers sub.peer item) :
      Effect attachment peer has_peer s (.Take none) { s with stream := rest, phase := .Waiting sub }
  | triggered {sub : BluezPanuSubscription} {item : Except BusError Message} {rest : List (Except BusError Message)}
      (hphase : s.phase = .Waiting sub) (hstream : s.stream = item :: rest) (hitem : Triggers sub.peer item) :
      Effect attachment peer has_peer s (.Take none) { s with stream := rest, phase := .Rereading sub }
  | ended {sub : BluezPanuSubscription} (hphase : s.phase = .Waiting sub) (hstream : s.stream = []) :
      Effect attachment peer has_peer s (.End (some (.ok none))) { s with phase := .Idle sub }
  | unread {sub : BluezPanuSubscription} {reads : PanuReads} {error : CoreError} (hphase : s.phase = .Rereading sub)
      (hreads : current_panu_attachment reads peer = .error error) :
      Effect attachment peer has_peer s (.Reread reads (some (.error error))) { s with phase := .Idle sub }
  | same {sub : BluezPanuSubscription} {reads : PanuReads} (hphase : s.phase = .Rereading sub)
      (hreads : current_panu_attachment reads peer = .ok (some sub.attachment)) :
      Effect attachment peer has_peer s (.Reread reads none) { s with phase := .Waiting sub }
  | lost {sub : BluezPanuSubscription} {reads : PanuReads} {observed : Option PanAttachment}
      (hphase : s.phase = .Rereading sub) (hreads : current_panu_attachment reads peer = .ok observed)
      (hdiffers : observed ≠ some sub.attachment) :
      Effect attachment peer has_peer s (.Reread reads (some sub.lost))
        { s with phase := .Idle { sub with finished := true } }

variable {sub : BluezPanuSubscription}

theorem begin_call_effect (hphase : s.phase = .Idle sub) :
    Effect attachment peer has_peer s (.Call (Next.answer sub.begin_call.1))
      { s with phase := Next.phase sub.begin_call.2 sub.begin_call.1 } := by
  unfold begin_call
  split
  · rename_i hfinished
    have heffect : Effect attachment peer has_peer s (.Call (some (.ok none))) s := .past hphase hfinished
    obtain ⟨link, unsignalled, stream, phase⟩ := s
    cases hphase
    exact heffect
  split
  · rename_i hopen hpending
    exact .overdue hphase (by simpa using hopen) hpending
  · rename_i hopen hcalm
    exact .began hphase (by simpa using hopen) (by simpa using hcalm)

theorem on_item_effect {item : Except BusError Message} {rest : List (Except BusError Message)}
    (hphase : s.phase = .Waiting sub) (hstream : s.stream = item :: rest) :
    Effect attachment peer has_peer s (.Take (Next.answer (sub.on_item (some item))))
      { s with stream := rest, phase := Next.phase sub (sub.on_item (some item)) } := by
  cases item with
  | error error => exact .broken hphase hstream id
  | ok message =>
    unfold on_item
    dsimp only
    split
    · rename_i herror
      exact .broken hphase hstream fun htrigger => by cases herror.symm.trans htrigger
    · rename_i hfalse
      exact .skipped hphase hstream fun htrigger => by cases hfalse.symm.trans htrigger
    · rename_i htrue
      exact .triggered hphase hstream htrue

theorem on_reread_effect (hphase : s.phase = .Rereading sub) (reads : PanuReads) :
    Effect attachment peer has_peer s (.Reread reads
      (Next.answer (sub.on_reread (current_panu_attachment reads peer)).1))
      { s with
        phase := Next.phase (sub.on_reread (current_panu_attachment reads peer)).2
          (sub.on_reread (current_panu_attachment reads peer)).1 } := by
  cases hreads : current_panu_attachment reads peer with
  | error error => exact .unread hphase hreads
  | ok observed =>
    unfold on_reread
    dsimp only
    split
    · rename_i hsame
      exact .same hphase (hreads.trans (by rw [of_decide_eq_true hsame]))
    · rename_i hdiffers
      exact .lost hphase hreads (by simpa [observed_panu_is_same] using hdiffers)

theorem Step.effect (h : Step attachment peer has_peer s event t) : Effect attachment peer has_peer s event t := by
  cases event with
  | Change link =>
    obtain rfl := h
    exact .changed link
  | Signal item =>
    obtain ⟨unsignalled, hcount, rfl⟩ := h
    exact .signalled item hcount
  | Snapshot reads =>
    obtain ⟨hphase, rfl⟩ := h
    cases hreads : current_panu_attachment reads peer with
    | error error => exact .refused hphase
    | ok observed => exact .subscribed hphase hreads
  | Call answer =>
    obtain ⟨sub, hphase, rfl, rfl⟩ := h
    exact begin_call_effect hphase
  | Take answer =>
    obtain ⟨sub, item, rest, hphase, hstream, rfl, rfl⟩ := h
    exact on_item_effect hphase hstream
  | End answer =>
    obtain ⟨sub, hphase, hstream, rfl, rfl⟩ := h
    exact .ended hphase hstream
  | Reread reads answer =>
    obtain ⟨sub, hphase, rfl, rfl⟩ := h
    exact on_reread_effect hphase reads

/-- The subscription belongs to the attachment, and a call that goes on has no loss to report. -/
structure Sane (attachment : PanAttachment) (peer : PeerHandle) (s : System) : Prop where
  own : ∀ sub, s.phase.subscription = some sub → sub.attachment = attachment ∧ sub.peer = peer
  waiting : ∀ sub, s.phase = .Waiting sub → sub.finished = false ∧ sub.pending_loss = false
  rereading : ∀ sub, s.phase = .Rereading sub → sub.finished = false ∧ sub.pending_loss = false

theorem sane_subscribing (link : Option NetworkInterfaceHandle) : Sane attachment peer (subscribing link) :=
  ⟨nofun, nofun, nofun⟩

theorem Sane.step (h : Sane attachment peer s) (heffect : Effect attachment peer has_peer s event t) :
    Sane attachment peer t := by
  -- between its steps a call keeps its subscription
  have hidle {u : System} {sub : BluezPanuSubscription} (hphase : u.phase = .Idle sub)
      (hsub : sub.attachment = attachment ∧ sub.peer = peer) : Sane attachment peer u := by
    refine ⟨?_, ?_, ?_⟩ <;> intro found hfound <;> rw [hphase] at hfound <;> cases hfound
    exact hsub
  have hwaiting {u : System} {sub : BluezPanuSubscription} (hphase : u.phase = .Waiting sub)
      (hsub : sub.attachment = attachment ∧ sub.peer = peer)
      (hcalm : sub.finished = false ∧ sub.pending_loss = false) : Sane attachment peer u := by
    refine ⟨?_, ?_, ?_⟩ <;> intro found hfound <;> rw [hphase] at hfound <;> cases hfound
    · exact hsub
    · exact hcalm
  have hown {sub : BluezPanuSubscription} (hphase : s.phase.subscription = some sub) := h.own sub hphase
  cases heffect with
  | changed link | signalled item => exact ⟨h.own, h.waiting, h.rereading⟩
  | refused => exact ⟨nofun, nofun, nofun⟩
  | subscribed => exact hidle rfl ⟨rfl, rfl⟩
  | past => exact h
  | @overdue sub hphase => exact hidle rfl (h.own sub (by rw [hphase]; rfl))
  | began hphase hopen hcalm => exact hwaiting rfl (hown (by rw [hphase]; rfl)) ⟨hopen, hcalm⟩
  | skipped hphase => exact hwaiting rfl (hown (by rw [hphase]; rfl)) (h.waiting _ hphase)
  | same hphase => exact hwaiting rfl (hown (by rw [hphase]; rfl)) (h.rereading _ hphase)
  | triggered hphase =>
    refine ⟨fun found hfound => ?_, nofun, fun found hfound => ?_⟩
    · cases hfound
      exact hown (by rw [hphase]; rfl)
    · cases hfound
      exact h.waiting _ hphase
  | broken hphase | ended hphase | unread hphase => exact hidle rfl (hown (by rw [hphase]; rfl))
  | @lost sub _ _ hphase => exact hidle rfl (h.own sub (by rw [hphase]; rfl))

/-- Whether the loss has been reported. -/
def System.finished (s : System) : Bool := s.phase.subscription.any (·.finished)

theorem Effect.finished (heffect : Effect attachment peer has_peer s event t) (hsane : Sane attachment peer s) :
    (event.is_lost = true ∧ s.finished = false ∧ t.finished = true) ∨
      (event.is_lost = false ∧ t.finished = s.finished) := by
  cases heffect with
  | changed link | signalled item => exact .inr ⟨rfl, rfl⟩
  | refused hphase => exact .inr ⟨rfl, by simp [System.finished, hphase, Phase.subscription]⟩
  | subscribed hphase => exact .inr ⟨rfl, by simp [System.finished, hphase, Phase.subscription, new]⟩
  | past => exact .inr ⟨rfl, rfl⟩
  | overdue hphase hopen =>
    exact .inl ⟨rfl, by simp [System.finished, hphase, Phase.subscription, hopen], rfl⟩
  | began hphase | broken hphase | skipped hphase | triggered hphase | ended hphase | unread hphase
  | same hphase => exact .inr ⟨rfl, by simp [System.finished, hphase, Phase.subscription]⟩
  | lost hphase =>
    exact .inl ⟨rfl, by simp [System.finished, hphase, Phase.subscription, (hsane.rereading _ hphase).1], rfl⟩

/-- The loss is reported at most once. -/
theorem lost_at_most_once {link : Option NetworkInterfaceHandle} {events : List Event}
    (h : Run (Step attachment peer has_peer) (subscribing link) events s) :
    events.countP Event.is_lost ≤ 1 := by
  refine (h.countP_le_one (Sane attachment peer) System.finished true ?_ ?_ ?_ (sane_subscribing link)).1
  · exact fun _ _ _ hsane hstep => hsane.step hstep.effect
  · intro s event t hsane hstep
    obtain ⟨-, hbefore, -⟩ | ⟨-, hsame⟩ := hstep.effect.finished hsane
    · rw [hbefore]
      exact Bool.false_le _
    · rw [hsame]
  · intro s event t hsane hstep hlost
    obtain ⟨-, hbefore, hafter⟩ | ⟨hnot, -⟩ := hstep.effect.finished hsane
    · rw [hbefore, hafter]
      exact ⟨rfl, le_refl _⟩
    · rw [hlost] at hnot
      cases hnot

/-- What the log says about a loss that is to be reported, or was. -/
structure Recorded (attachment : PanAttachment) (peer : PeerHandle) (events : List Event) (s : System) : Prop where
  sane : Sane attachment peer s
  pending : ∀ sub, s.phase.subscription = some sub → sub.pending_loss = true →
    ∃ event ∈ events, event.Differs attachment peer
  reported : (∃ event ∈ events, event.is_lost = true) → ∃ event ∈ events, event.Differs attachment peer
  finished : s.finished = true → ∃ event ∈ events, event.is_lost = true

theorem Effect.pending (heffect : Effect attachment peer has_peer s event t) (hsane : Sane attachment peer s)
    (hsub : t.phase.subscription = some sub) (hpending : sub.pending_loss = true) :
    event.Differs attachment peer ∨ s.phase.subscription = some sub := by
  cases heffect with
  | changed link | signalled item => exact .inr hsub
  | refused => cases hsub
  | @subscribed _ observed _ hreads =>
    cases hsub
    exact .inl ⟨_, hreads, by simpa [new, observed_panu_is_same] using hpending⟩
  | past => exact .inr hsub
  | overdue =>
    cases hsub
    cases hpending
  | began hphase | broken hphase | skipped hphase | triggered hphase | ended hphase | unread hphase
  | same hphase => exact .inr (by rw [hphase]; exact hsub)
  | lost hphase =>
    cases hsub
    rw [(hsane.rereading _ hphase).2] at hpending
    cases hpending

theorem Effect.reported (heffect : Effect attachment peer has_peer s event t) (hsane : Sane attachment peer s)
    (hlost : event.is_lost = true) :
    event.Differs attachment peer ∨ ∃ sub, s.phase.subscription = some sub ∧ sub.pending_loss = true := by
  cases heffect with
  | overdue hphase _ hpending => exact .inr ⟨_, by rw [hphase]; rfl, hpending⟩
  | lost hphase hreads hdiffers =>
    rw [(hsane.own _ (by rw [hphase]; rfl)).1] at hdiffers
    exact .inl ⟨_, hreads, hdiffers⟩
  | _ => cases hlost

theorem Recorded.step {events : List Event} (h : Recorded attachment peer events s)
    (heffect : Effect attachment peer has_peer s event t) : Recorded attachment peer (events ++ [event]) t := by
  have hkeep : (∃ old ∈ events, Event.Differs attachment peer old) →
      ∃ old ∈ events ++ [event], Event.Differs attachment peer old := fun ⟨old, hold, hdiffers⟩ =>
    ⟨old, List.mem_append_left _ hold, hdiffers⟩
  have hlast : event ∈ events ++ [event] := List.mem_append_right _ (List.mem_singleton_self _)
  refine ⟨h.sane.step heffect, fun sub hsub hpending => ?_, ?_, fun hfinished => ?_⟩
  · obtain hnow | hbefore := heffect.pending h.sane hsub hpending
    · exact ⟨event, hlast, hnow⟩
    · exact hkeep (h.pending sub hbefore hpending)
  · rintro ⟨old, hold, hlost⟩
    obtain hbefore | hnow := List.mem_append.mp hold
    · exact hkeep (h.reported ⟨old, hbefore, hlost⟩)
    · obtain rfl := List.mem_singleton.mp hnow
      obtain hdiffers | ⟨sub, hsub, hpending⟩ := heffect.reported h.sane hlost
      · exact ⟨_, hlast, hdiffers⟩
      · exact hkeep (h.pending sub hsub hpending)
  · obtain ⟨hlost, -⟩ | ⟨-, hsame⟩ := heffect.finished h.sane
    · exact ⟨event, hlast, hlost⟩
    · obtain ⟨old, hold, hlost⟩ := h.finished (hsame ▸ hfinished)
      exact ⟨old, List.mem_append_left _ hold, hlost⟩

theorem recorded_subscribing (link : Option NetworkInterfaceHandle) :
    Recorded attachment peer [] (subscribing link) := by
  refine ⟨sane_subscribing link, fun _ hsub => ?_, fun ⟨_, hin, _⟩ => ?_, fun hfinished => ?_⟩
  · cases hsub
  · exact absurd hin List.not_mem_nil
  · cases hfinished

theorem recorded_of_run {link : Option NetworkInterfaceHandle} {events : List Event}
    (h : Run (Step attachment peer has_peer) (subscribing link) events s) : Recorded attachment peer events s :=
  h.history (Recorded attachment peer) (recorded_subscribing link)
    fun _ _ _ _ hrecorded hstep => hrecorded.step hstep.effect

end Effects

section Liveness

variable (attachment : PanAttachment) (peer : PeerHandle) (has_peer : attachment.peer = some peer)

/-- A look that does not fail shows the link, unless the link changed during the look. -/
def Truthful (s : System) : Event → Prop
  | .Snapshot reads | .Reread reads _ => ∀ observed, current_panu_attachment reads peer = .ok observed →
    observed = shown peer s.link ∨ s.ToCome peer
  | _ => True

/-- A look that fails after the link was lost leaves the signal of another change to come. -/
def Harmless (s : System) : Event → Prop
  | .Reread reads _ => ∀ error, current_panu_attachment reads peer = .error error →
    shown peer s.link = some attachment ∨ s.ToCome peer
  | _ => True

def SoundStep (s : System) (event : Event) (t : System) : Prop :=
  Step attachment peer has_peer s event t ∧ Truthful peer s event ∧ Harmless attachment peer s event

/-- The link stays different from the attachment, and looks at it succeed. -/
def Steady (s : System) : Event → Prop
  | .Change link => shown peer link ≠ some attachment
  | .Reread reads _ => current_panu_attachment reads peer = .ok (shown peer s.link)
  | _ => True

def SteadyStep (s : System) (event : Event) (t : System) : Prop :=
  Step attachment peer has_peer s event t ∧ Steady attachment peer s event

/-- The loss of the link is known, about to be seen, or going to be signalled. -/
def Owed (s : System) : Prop :=
  ∀ sub, s.phase.subscription = some sub → shown peer s.link ≠ some attachment →
    sub.finished = true ∨ sub.pending_loss = true ∨ s.phase = .Rereading sub ∨ s.ToCome peer

variable {attachment peer has_peer} {s t : System} {event : Event}

variable {item : Except BusError Message}

/-- The signal of a change is still there after another item was taken. -/
theorem trigger_in_rest {rest : List (Except BusError Message)} (hstream : s.stream = item :: rest)
    (hitem : ¬ Triggers peer item) (htrigger : ∃ found ∈ s.stream, Triggers peer found) :
    ∃ found ∈ rest, Triggers peer found := by
  obtain ⟨found, hfound, hit⟩ := htrigger
  rw [hstream] at hfound
  obtain rfl | hrest := List.mem_cons.mp hfound
  · exact absurd hit hitem
  · exact ⟨found, hrest, hit⟩

theorem Owed.step (h : Owed attachment peer s) (hsane : Sane attachment peer s)
    (hstep : SoundStep attachment peer has_peer s event t) : Owed attachment peer t := by
  obtain ⟨hstep, htruthful, hharmless⟩ := hstep
  have hcome {item : Except BusError Message} {rest : List (Except BusError Message)} {sub : BluezPanuSubscription}
      {phase : Phase} (hphase : s.phase = .Waiting sub) (hstream : s.stream = item :: rest)
      (hitem : ¬ Triggers sub.peer item) (hdiffers : shown peer s.link ≠ some attachment) :
      ToCome peer { s with stream := rest, phase } := by
    obtain ⟨hopen, hcalm⟩ := hsane.waiting sub hphase
    rw [(hsane.own sub (by rw [hphase]; rfl)).2] at hitem
    obtain hfinished | hpending | hreread | hcome := h sub (by rw [hphase]; rfl) hdiffers
    · rw [hopen] at hfinished
      cases hfinished
    · rw [hcalm] at hpending
      cases hpending
    · rw [hphase] at hreread
      cases hreread
    · exact hcome.imp id (trigger_in_rest hstream hitem)
  cases hstep.effect with
  | changed link => exact fun _ _ _ => .inr (.inr (.inr (.inl (Nat.succ_pos _))))
  | signalled item hcount =>
    intro sub hsub hdiffers
    refine (h sub hsub hdiffers).imp_right (Or.imp_right (Or.imp_right ?_))
    rintro (hpositive | ⟨found, hfound, htrigger⟩)
    · obtain rfl | ⟨hitem, -⟩ := hcount
      · exact .inl hpositive
      · exact .inr ⟨item, List.mem_append_right _ (List.mem_singleton_self _), hitem.triggers⟩
    · exact .inr ⟨found, List.mem_append_left _ hfound, htrigger⟩
  | refused => exact nofun
  | @subscribed _ observed _ hreads =>
    intro sub hsub hdiffers
    cases hsub
    obtain rfl | hcome := htruthful _ hreads
    · exact .inr (.inl (by simpa [new, observed_panu_is_same] using hdiffers))
    · exact .inr (.inr (.inr hcome))
  | past => exact h
  | overdue =>
    intro sub hsub _
    cases hsub
    exact .inl rfl
  | began hphase | ended hphase =>
    intro sub hsub hdiffers
    obtain hfinished | hpending | hreread | hcome := h sub (by rw [hphase]; exact hsub) hdiffers
    · exact .inl hfinished
    · exact .inr (.inl hpending)
    · rw [hphase] at hreread
      cases hreread
    · exact .inr (.inr (.inr hcome))
  | broken hphase hstream hitem | skipped hphase hstream hitem =>
    exact fun _ _ hdiffers => .inr (.inr (.inr (hcome hphase hstream hitem hdiffers)))
  | triggered =>
    intro sub hsub _
    cases hsub
    exact .inr (.inr (.inl rfl))
  | unread hphase hreads =>
    intro sub _ hdiffers
    exact .inr (.inr (.inr ((hharmless _ hreads).resolve_left hdiffers)))
  | same hphase hreads =>
    intro sub _ hdiffers
    rw [(hsane.own _ (by rw [hphase]; rfl)).1] at hreads
    exact .inr (.inr (.inr ((htruthful _ hreads).resolve_left hdiffers.symm)))
  | lost =>
    intro sub hsub _
    cases hsub
    exact .inl rfl

/-- A lost link that the subscription will report without any further signal. -/
structure Owing (attachment : PanAttachment) (peer : PeerHandle) (s : System) : Prop where
  sane : Sane attachment peer s
  differs : shown peer s.link ≠ some attachment
  due : ∃ sub, s.phase.subscription = some sub ∧ sub.finished = false ∧
    (sub.pending_loss = true ∨ s.phase = .Rereading sub ∨ ∃ item ∈ s.stream, Triggers peer item)

/-- The number of items before the first signal of a change. -/
def System.before_trigger (peer : PeerHandle) (s : System) : Nat :=
  s.stream.findIdx fun item => Triggers peer item

/-- At most this many steps are left until the loss is reported. -/
def System.rank (peer : PeerHandle) (s : System) : Nat :=
  match s.phase with
  | .Subscribing | .Refused => 0
  | .Idle sub => if sub.pending_loss then 1 else 2 * s.before_trigger peer + 3
  | .Waiting _ => 2 * s.before_trigger peer + 2
  | .Rereading _ => 1

theorem rank_le (s : System) : s.rank peer ≤ 2 * s.stream.length + 3 := by
  have hle : s.before_trigger peer ≤ s.stream.length := List.findIdx_le_length
  unfold rank
  split
  · omega
  · omega
  · split <;> omega
  · omega
  · omega

theorem before_trigger_cons {rest : List (Except BusError Message)} (hstream : s.stream = item :: rest)
    (hitem : ¬ Triggers peer item) : s.before_trigger peer = rest.findIdx (fun item => Triggers peer item) + 1 := by
  rw [before_trigger, hstream, List.findIdx_cons, decide_eq_false hitem]
  rfl

theorem before_trigger_append {unsignalled : Nat} (htrigger : ∃ found ∈ s.stream, Triggers peer found) :
    before_trigger peer { s with unsignalled, stream := s.stream ++ [item] } = s.before_trigger peer := by
  have hlt : s.stream.findIdx (fun item => Triggers peer item) < s.stream.length := by
    obtain ⟨found, hfound, hit⟩ := htrigger
    exact List.findIdx_lt_length_of_exists ⟨found, hfound, decide_eq_true hit⟩
  rw [before_trigger, List.findIdx_append, if_pos hlt]
  rfl

/-- Unless the subscription was told of the loss or reads again, the signal of the loss is still there. -/
theorem Owing.signalled (h : Owing attachment peer s) {sub : BluezPanuSubscription}
    (hsub : s.phase.subscription = some sub) (hcalm : ¬ sub.pending_loss = true) (hphase : s.phase ≠ .Rereading sub) :
    ∃ item ∈ s.stream, Triggers peer item := by
  obtain ⟨due, hdue, -, hwhy⟩ := h.due
  obtain rfl := Option.some.inj (hsub.symm.trans hdue)
  exact (hwhy.resolve_left hcalm).resolve_left hphase

/-- A call that waits has not seen the signal that is there for it. -/
theorem Owing.waiting (h : Owing attachment peer s) {sub : BluezPanuSubscription} (hphase : s.phase = .Waiting sub) :
    sub.pending_loss = false ∧ sub.peer = peer ∧ ∃ item ∈ s.stream, Triggers peer item := by
  have hsub : s.phase.subscription = some sub := by rw [hphase]; rfl
  have hcalm := (h.sane.waiting sub hphase).2
  exact ⟨hcalm, (h.sane.own sub hsub).2, h.signalled hsub (by simp [hcalm]) (by simp [hphase])⟩

/-- An item at the end of the stream does not put off the report. -/
theorem Owing.rank_append (h : Owing attachment peer s) (unsignalled : Nat) :
    rank peer { s with unsignalled, stream := s.stream ++ [item] } = s.rank peer := by
  unfold rank
  dsimp only
  split
  · rfl
  · rfl
  · rename_i sub hphase
    split
    · rfl
    · rename_i hcalm
      rw [before_trigger_append (h.signalled (by rw [hphase]; rfl) hcalm (by simp [hphase]))]
  · rename_i sub hphase
    rw [before_trigger_append (h.waiting hphase).2.2]
  · rfl

/-- While the link stays different, every step of a call that does not report the loss comes closer to it. -/
theorem Owing.step (h : Owing attachment peer s) (hstep : SteadyStep attachment peer has_peer s event t)
    (hsilent : event.is_lost = false) :
    Owing attachment peer t ∧ t.rank peer + event.of_call.toNat ≤ s.rank peer := by
  obtain ⟨hstep, hsteady⟩ := hstep
  have hsane := h.sane.step hstep.effect
  obtain ⟨due, hdue, hopen, hwhy⟩ := h.due
  cases hstep.effect with
  | changed link => exact ⟨⟨hsane, hsteady, due, hdue, hopen, hwhy⟩, le_refl _⟩
  | signalled item =>
    have hwhy' : due.pending_loss = true ∨ s.phase = .Rereading due ∨
      ∃ found ∈ s.stream ++ [item], Triggers peer found :=
      hwhy.imp_right (Or.imp_right fun ⟨found, hfound, hit⟩ => ⟨found, List.mem_append_left _ hfound, hit⟩)
    exact ⟨⟨hsane, h.differs, due, hdue, hopen, hwhy'⟩, (h.rank_append _).le⟩
  | refused hphase | subscribed hphase =>
    rw [hphase] at hdue
    cases hdue
  | past hphase hfinished =>
    rw [hphase] at hdue
    cases hdue
    rw [hopen] at hfinished
    cases hfinished
  | overdue => cases hsilent
  | began hphase _ hcalm =>
    have htrigger := h.signalled (by rw [hphase]; rfl) (by simp [hcalm]) (by simp [hphase])
    rw [hphase] at hdue
    cases hdue
    refine ⟨⟨hsane, h.differs, _, rfl, hopen, .inr (.inr htrigger)⟩, ?_⟩
    simp only [rank, hphase, hcalm, Bool.false_eq_true, if_false, Event.of_call, Bool.toNat_true]
    exact le_refl _
  | broken hphase hstream hitem | skipped hphase hstream hitem =>
    obtain ⟨hcalm, hpeer, htrigger⟩ := h.waiting hphase
    rw [hpeer] at hitem
    rw [hphase] at hdue
    cases hdue
    refine ⟨⟨hsane, h.differs, _, rfl, hopen, .inr (.inr (trigger_in_rest hstream hitem htrigger))⟩, ?_⟩
    simp only [rank, hphase, hcalm, Bool.false_eq_true, if_false, before_trigger_cons hstream hitem, Event.of_call,
      Bool.toNat_true]
    dsimp only [before_trigger]
    omega
  | triggered hphase =>
    rw [hphase] at hdue
    cases hdue
    refine ⟨⟨hsane, h.differs, _, rfl, hopen, .inr (.inl rfl)⟩, ?_⟩
    simp only [rank, hphase, Event.of_call, Bool.toNat_true]
    omega
  | ended hphase hstream =>
    obtain ⟨-, -, found, hfound, -⟩ := h.waiting hphase
    rw [hstream] at hfound
    cases hfound
  | unread hphase hreads => cases hreads.symm.trans hsteady
  | same hphase hreads =>
    rw [(h.sane.own _ (by rw [hphase]; rfl)).1] at hreads
    exact absurd (Except.ok.inj (hsteady.symm.trans hreads)) h.differs
  | lost => cases hsilent

/-- The answers of a BlueZ that works. -/
def answers (link : Option NetworkInterfaceHandle) : PanuReads where
  proxy := .ok ()
  connected := .ok link.isSome
  interface := .ok (link.elim "" (·.as_str))
  local_address := .ok ""
  kernel_interfaces := fun _ => .ok (link.elim ∅ fun interface => {interface.as_str})

theorem current_panu_attachment_answers (link : Option NetworkInterfaceHandle) :
    current_panu_attachment (answers link) peer = .ok (shown peer link) := by
  cases link with
  | none => rfl
  | some interface =>
    have hnew : Handle.new .NetworkInterfaceHandle interface.as_str = .ok interface := Handle.new_eq_ok_iff.mpr rfl
    simp [current_panu_attachment, answers, connected_attachment, select_panu_interface_name, panu_attachment,
      interface.not_blank, hnew, shown, bind, Except.bind, Except.map, Except.mapError, pure, Except.pure]

/-- A call on an owing subscription does not get stuck. -/
theorem Owing.enabled (h : Owing attachment peer s) (has_peer : attachment.peer = some peer) :
    ∃ event t, SteadyStep attachment peer has_peer s event t ∧ event.of_call = true := by
  obtain ⟨due, hdue, -⟩ := h.due
  cases hphase : s.phase with
  | Subscribing | Refused =>
    rw [hphase] at hdue
    cases hdue
  | Idle sub => exact ⟨.Call _, _, ⟨⟨sub, hphase, rfl, rfl⟩, trivial⟩, rfl⟩
  | Waiting sub =>
    obtain ⟨-, -, found, hfound, -⟩ := h.waiting hphase
    obtain ⟨item, rest, hstream⟩ := List.exists_cons_of_ne_nil (List.ne_nil_of_mem hfound)
    exact ⟨.Take _, _, ⟨⟨sub, item, rest, hphase, hstream, rfl, rfl⟩, trivial⟩, rfl⟩
  | Rereading sub =>
    exact ⟨.Reread (answers s.link) _, _, ⟨⟨sub, hphase, rfl, rfl⟩, current_panu_attachment_answers s.link⟩, rfl⟩

theorem Owing.run (h : Owing attachment peer s) {later : List Event}
    (hrun : Run (SteadyStep attachment peer has_peer) s later t) (hsilent : ∀ event ∈ later, event.is_lost = false) :
    Owing attachment peer t ∧ t.rank peer + later.countP Event.of_call ≤ s.rank peer := by
  induction hrun with
  | nil => exact ⟨h, le_refl _⟩
  | @cons _ _ _ event later hstep _ ih =>
    obtain ⟨hnext, hcloser⟩ := h.step hstep (hsilent event List.mem_cons_self)
    obtain ⟨hlast, hrest⟩ := ih hnext fun other hother => hsilent other (List.mem_cons_of_mem _ hother)
    refine ⟨hlast, ?_⟩
    rw [List.countP_cons]
    cases hcall : event.of_call with
    | false => simpa [hcall] using hrest.trans ((Nat.le_add_right _ _).trans hcloser)
    | true =>
      rw [hcall] at hcloser
      simp only [if_true]
      simp only [Bool.toNat_true] at hcloser
      omega

theorem owing_of_run {link : Option NetworkInterfaceHandle} {events : List Event}
    (h : Run (SoundStep attachment peer has_peer) (subscribing link) events s)
    (hsub : s.phase.subscription.isSome) (hsilent : ∀ event ∈ events, event.is_lost = false)
    (hdiffers : shown peer s.link ≠ some attachment) (hsignalled : s.unsignalled = 0) : Owing attachment peer s := by
  have hrecorded := recorded_of_run (h.mono fun _ _ _ hstep => hstep.1)
  have howed : Sane attachment peer s ∧ Owed attachment peer s :=
    h.invariant (fun s => Sane attachment peer s ∧ Owed attachment peer s)
      (fun _ _ _ hinv hstep => ⟨hinv.1.step hstep.1.effect, hinv.2.step hinv.1 hstep⟩)
      ⟨sane_subscribing link, fun sub hsub => by cases hsub⟩
  obtain ⟨sub, hsub⟩ := Option.isSome_iff_exists.mp hsub
  have hopen : sub.finished = false := by
    by_contra hfinished
    obtain ⟨event, hevent, hlost⟩ := hrecorded.finished (by
      rw [System.finished, hsub]
      exact Bool.of_not_eq_false hfinished)
    rw [hsilent event hevent] at hlost
    cases hlost
  refine ⟨hrecorded.sane, hdiffers, sub, hsub, hopen, ?_⟩
  obtain hfinished | hpending | hreread | hunsignalled | htrigger := howed.2 sub hsub hdiffers
  · rw [hopen] at hfinished
    cases hfinished
  · exact .inl hpending
  · exact .inr (.inl hreread)
  · rw [hsignalled] at hunsignalled
    cases hunsignalled
  · exact .inr (.inr htrigger)

end Liveness

theorem exists_peer {attachment : PanAttachment} (h : validate_panu_attachment attachment = .ok ()) :
    ∃ peer, attachment.peer = some peer := by
  simp only [validate_panu_attachment, bind_eq_ok_iff, reject_if_eq_ok] at h
  obtain ⟨_, -, hpeer⟩ := h
  exact Option.ne_none_iff_exists'.mp hpeer

/-- The loss of a link is reported at most once and only if it was seen. If no look at a lost link failed
after the last signal was taken, then a call needs no further signal: it reports the loss within a
bounded number of steps. -/
theorem panu_loss_reported {attachment : PanAttachment} (hvalid : validate_panu_attachment attachment = .ok ()) :
    ∃ (peer : PeerHandle) (has_peer : attachment.peer = some peer), ∀ link,
      (∀ events s, Run (Step attachment peer has_peer) (subscribing link) events s →
        events.countP Event.is_lost ≤ 1 ∧
        ((∃ event ∈ events, event.is_lost = true) → ∃ event ∈ events, event.Differs attachment peer)) ∧
      ∀ events s, Run (SoundStep attachment peer has_peer) (subscribing link) events s →
        s.phase.subscription.isSome → (∀ event ∈ events, event.is_lost = false) →
        shown peer s.link ≠ some attachment → s.unsignalled = 0 →
        ∀ later t, Run (SteadyStep attachment peer has_peer) s later t → (∀ event ∈ later, event.is_lost = false) →
          later.countP Event.of_call ≤ 2 * s.stream.length + 3 ∧
          ∃ event u, SteadyStep attachment peer has_peer t event u ∧ event.of_call = true := by
  obtain ⟨peer, has_peer⟩ := exists_peer hvalid
  refine ⟨peer, has_peer, fun link => ⟨fun events s hrun => ?_, ?_⟩⟩
  · exact ⟨lost_at_most_once hrun, (recorded_of_run hrun).reported⟩
  · intro events s hrun hsub hsilent hdiffers hsignalled later t hlater hquiet
    have howing := owing_of_run hrun hsub hsilent hdiffers hsignalled
    obtain ⟨hlast, hrank⟩ := howing.run hlater hquiet
    exact ⟨((Nat.le_add_left _ _).trans hrank).trans (rank_le s), hlast.enabled has_peer⟩

section Sample

def sample_peer : PeerHandle := ⟨"/org/bluez/hci0/dev_00_11_22_33_44_55", by decide⟩

def sample_interface : NetworkInterfaceHandle := ⟨"bnep0", is_blank_bnep0⟩

def sample_attachment : PanAttachment :=
  { role := .Panu, interface := sample_interface, peer := some sample_peer }

/-- The signal that the link was lost. -/
def sample_signal : Except BusError Message :=
  .ok
    { interface := some PROPERTIES_INTERFACE
      member := some PROPERTIES_CHANGED
      path := some sample_peer.as_str
      removed := .error ⟨none, "type mismatch"⟩
      changed := .ok (NETWORK_INTERFACE, [CONNECTED_PROPERTY], []) }

def sample_subscription : BluezPanuSubscription :=
  new sample_attachment sample_peer rfl (some sample_attachment)

/-- The link is lost while nobody is in a call. -/
def sample_events : List Event :=
  [.Snapshot (answers (some sample_interface)), .Change none, .Signal sample_signal]

def sample_lost : System :=
  { link := none, unsignalled := 0, stream := [sample_signal], phase := .Idle sample_subscription }

/-- The signal is taken. -/
def sample_stalled : System := { sample_lost with stream := [] }

theorem sample_announced : Announces sample_peer sample_signal :=
  .changed rfl rfl rfl rfl (.inl rfl) (.inl (List.mem_singleton_self _))

theorem sample_run :
    Run (SoundStep sample_attachment sample_peer rfl) (subscribing (some sample_interface)) sample_events
      sample_lost := by
  have hsnapshot : SoundStep sample_attachment sample_peer rfl (subscribing (some sample_interface))
      (.Snapshot (answers (some sample_interface)))
      { subscribing (some sample_interface) with phase := .Idle sample_subscription } := by
    refine ⟨⟨rfl, ?_⟩, fun observed hobserved => .inl ?_, trivial⟩
    · rw [current_panu_attachment_answers]
      rfl
    · rw [current_panu_attachment_answers] at hobserved
      exact (Except.ok.inj hobserved).symm
  have hsignal : SoundStep sample_attachment sample_peer rfl { sample_stalled with unsignalled := 1 }
      (.Signal sample_signal) sample_lost := ⟨⟨0, .inr ⟨sample_announced, rfl⟩, rfl⟩, trivial, trivial⟩
  exact .cons hsnapshot (.cons ⟨rfl, trivial, trivial⟩ (.cons hsignal .nil))

theorem sample_call : Step sample_attachment sample_peer rfl sample_lost (.Call none)
    { sample_lost with phase := .Waiting sample_subscription } :=
  ⟨sample_subscription, rfl, rfl, rfl⟩

theorem sample_take : Step sample_attachment sample_peer rfl { sample_lost with phase := .Waiting sample_subscription }
    (.Take none) { sample_stalled with phase := .Rereading sample_subscription } :=
  ⟨sample_subscription, sample_signal, [], rfl, rfl, rfl, rfl⟩

/-- A lost link and its signal: a call reports the loss, and no five steps of calls go by without that. -/
theorem panu_loss_reported_sample :
    ∃ (peer : PeerHandle) (has_peer : sample_attachment.peer = some peer),
      (∃ t, Run (SteadyStep sample_attachment peer has_peer) sample_lost
        [.Call none, .Take none, .Reread (answers none) (some (.ok (some (.Lost sample_attachment))))] t) ∧
      ∀ later t, Run (SteadyStep sample_attachment peer has_peer) sample_lost later t →
        (∀ event ∈ later, event.is_lost = false) → later.countP Event.of_call ≤ 5 := by
  obtain ⟨peer, has_peer, hreported⟩ := @panu_loss_reported sample_attachment rfl
  obtain rfl : sample_peer = peer := Option.some.inj has_peer
  have hsilent : ∀ event ∈ sample_events, event.is_lost = false := by decide
  have hdiffers : shown sample_peer sample_lost.link ≠ some sample_attachment := by decide
  have hreread : SteadyStep sample_attachment sample_peer has_peer
      { sample_stalled with phase := .Rereading sample_subscription }
        (.Reread (answers none) (some sample_subscription.lost))
      { sample_stalled with phase := .Idle { sample_subscription with finished := true } } :=
    ⟨⟨sample_subscription, rfl, rfl, rfl⟩, rfl⟩
  refine ⟨sample_peer, has_peer, ⟨_, .cons ⟨sample_call, trivial⟩
    (.cons ⟨sample_take, trivial⟩ (.cons hreread .nil))⟩, ?_⟩
  intro later t hlater hquiet
  exact ((hreported (some sample_interface)).2 sample_events sample_lost sample_run rfl hsilent hdiffers rfl later t
    hlater hquiet).1

/-- The look at the link fails. -/
def sample_failure : PanuReads :=
  { answers none with connected := .error ⟨some "org.freedesktop.DBus.Error.NoReply", "no reply"⟩ }

def sample_error : CoreError :=
  property_error CONNECTED_PROPERTY ⟨some "org.freedesktop.DBus.Error.NoReply", "no reply"⟩

def sample_failed_look : Event := .Reread sample_failure (some (.error sample_error))

theorem sample_failure_error : current_panu_attachment sample_failure sample_peer = .error sample_error := by
  decide

/-- A call waits for a signal, or there is none, and no loss is known. -/
def Stalled (s : System) : Prop :=
  s.stream = [] ∧ ∃ sub, (s.phase = .Idle sub ∨ s.phase = .Waiting sub) ∧ sub.finished = false ∧
    sub.pending_loss = false

theorem Stalled.step {attachment : PanAttachment} {peer : PeerHandle} {has_peer : attachment.peer = some peer}
    {s t : System} {event : Event} (h : Stalled s) (hstep : Step attachment peer has_peer s event t)
    (hcall : event.of_call = true) : Stalled t ∧ event.is_lost = false := by
  obtain ⟨hstream, sub, hphase, hopen, hcalm⟩ := h
  have hnot_rereading {other : BluezPanuSubscription} (hother : s.phase = .Rereading other) : False := by
    rw [hother] at hphase
    obtain hphase | hphase := hphase <;> cases hphase
  have hsame {other : BluezPanuSubscription} (hother : s.phase = .Idle other ∨ s.phase = .Waiting other) :
      other = sub := by
    obtain hother | hother := hother <;> rw [hother] at hphase <;> obtain hphase | hphase := hphase <;>
      cases hphase <;> rfl
  cases hstep.effect with
  | changed | signalled | refused | subscribed => cases hcall
  | past => exact ⟨⟨hstream, sub, hphase, hopen, hcalm⟩, rfl⟩
  | overdue hidle _ hpending =>
    rw [hsame (.inl hidle), hcalm] at hpending
    cases hpending
  | began hidle =>
    obtain rfl := hsame (.inl hidle)
    exact ⟨⟨hstream, _, .inr rfl, hopen, hcalm⟩, rfl⟩
  | broken _ htaken | skipped _ htaken | triggered _ htaken =>
    rw [hstream] at htaken
    cases htaken
  | ended hwaiting =>
    obtain rfl := hsame (.inr hwaiting)
    exact ⟨⟨hstream, _, .inl rfl, hopen, hcalm⟩, rfl⟩
  | unread hrereading | same hrereading | lost hrereading => exact (hnot_rereading hrereading).elim

/-- The only signal of a loss is taken, the look at the link fails, and the call returns its error. After
that no call reports the loss without a further change of the link. -/
theorem failed_look_swallows_loss :
    ∃ events, Run (fun s event t => Step sample_attachment sample_peer rfl s event t ∧ Truthful sample_peer s event)
        (subscribing (some sample_interface)) events sample_stalled ∧
      (∀ event ∈ events, event.is_lost = false) ∧ shown sample_peer sample_stalled.link ≠ some sample_attachment ∧
      ∀ later t, Run (fun s event t => Step sample_attachment sample_peer rfl s event t ∧ event.of_call = true)
        sample_stalled later t → ∀ event ∈ later, event.is_lost = false := by
  have hfail : Step sample_attachment sample_peer rfl { sample_stalled with phase := .Rereading sample_subscription }
      sample_failed_look sample_stalled := by
    refine ⟨sample_subscription, rfl, ?_, ?_⟩
    · rw [sample_failure_error]
      rfl
    · rw [sample_failure_error]
      rfl
  have htruthful : Truthful sample_peer { sample_stalled with phase := .Rereading sample_subscription }
      sample_failed_look := by
    intro observed hobserved
    rw [sample_failure_error] at hobserved
    cases hobserved
  refine ⟨sample_events ++ [.Call none, .Take none, sample_failed_look], ?_, ?_, ?_, ?_⟩
  · refine Run.append_iff.mpr ⟨sample_lost, sample_run.mono fun _ _ _ hstep => ⟨hstep.1, hstep.2.1⟩, ?_⟩
    exact .cons ⟨sample_call, trivial⟩ (.cons ⟨sample_take, trivial⟩ (.cons ⟨hfail, htruthful⟩ .nil))
  · decide
  · decide
  · intro later t hrun
    refine hrun.forall_mem Stalled (fun _ _ _ hstalled hstep => (hstalled.step hstep.1 hstep.2).1)
      (fun _ _ _ hstalled hstep => (hstalled.step hstep.1 hstep.2).2) ?_
    exact ⟨rfl, sample_subscription, .inl rfl, rfl, rfl⟩

end Sample

end blueroute_linux.pan.BluezPanuSubscription
