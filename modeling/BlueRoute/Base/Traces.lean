import BlueRoute.Base.Interact

/-! What a program does, told by the requests that it makes. -/

namespace Interact

variable {ι : Interface} {σ E ε α β : Type}

/-- How a world answers a request and changes with it, and what is written down about it. -/
abbrev Recorder (ι : Interface) (σ E : Type) :=
  σ → (request : ι.Request) → ι.Answer request → E → σ → Prop

/-- Whatever is answered, a program makes guarded requests only, and when it is done its result, the
state and what was written down about its requests are related. -/
def Does (R : Recorder ι σ E) (Guard : σ → ι.Request → Prop) (s : σ) (Q : α → σ → List E → Prop)
    (p : Prog ι α) : Prop :=
  match p with
  | .ret value => Q value s []
  | .ask request next =>
    Guard s request ∧ ∀ answer e t, R s request answer e t →
      Does R Guard t (fun value u events => Q value u (e :: events)) (next answer)

section Does

variable {R : Recorder ι σ E} {Guard : σ → ι.Request → Prop} {s : σ}

theorem Does.ret {Q : α → σ → List E → Prop} {value : α} (h : Q value s []) : Does R Guard s Q (.ret value) :=
  h

theorem Does.ask {Q : α → σ → List E → Prop} {r : ι.Request} {next : ι.Answer r → Prog ι α} (hguard : Guard s r)
    (h : ∀ answer e t, R s r answer e t → Does R Guard t (fun value u events => Q value u (e :: events))
      (next answer)) :
    Does R Guard s Q (.ask r next) :=
  ⟨hguard, h⟩

theorem Does.mono {M Q : α → σ → List E → Prop} {p : Prog ι α} (h : Does R Guard s M p)
    (hweaker : ∀ value t events, M value t events → Q value t events) : Does R Guard s Q p := by
  induction p generalizing s M Q with
  | ret value => exact hweaker value s [] h
  | ask request next ih =>
    obtain ⟨hguard, hnext⟩ := h
    exact ⟨hguard, fun answer e t hstep => ih answer (hnext answer e t hstep) fun value u events => hweaker value u _⟩

theorem Does.bind {M : α → σ → List E → Prop} {Q : β → σ → List E → Prop} {p : Prog ι α} {f : α → Prog ι β}
    (h : Does R Guard s M p)
    (hnext : ∀ value t before, M value t before →
      Does R Guard t (fun result u events => Q result u (before ++ events)) (f value)) :
    Does R Guard s Q (p.bind f) := by
  induction p generalizing s M Q with
  | ret value => exact hnext value s [] h
  | ask request next ih =>
    obtain ⟨hguard, hrest⟩ := h
    refine ⟨hguard, fun answer e t hstep => ih answer (hrest answer e t hstep) ?_⟩
    exact fun value u before hM => hnext value u (e :: before) hM

/-- An action followed by another, which is reached only when the first succeeds. -/
theorem Does.seq {M : Except ε α → σ → List E → Prop} {Q : Except ε β → σ → List E → Prop} {action : Action ι ε α}
    {f : α → Action ι ε β} (h : Does R Guard s M action)
    (herror : ∀ error t events, M (.error error) t events → Q (.error error) t events)
    (hnext : ∀ value t before, M (.ok value) t before →
      Does R Guard t (fun result u events => Q result u (before ++ events)) (f value)) :
    Does R Guard s Q (action >>= f : Action ι ε β) := by
  refine Does.bind h ?_
  rintro (error | value) t before hM
  · exact Does.ret (by rw [List.append_nil]; exact herror error t before hM)
  · exact hnext value t before hM

/-- An action whose result is looked at, whatever it is. -/
theorem Does.attempt {ε' : Type} {M : Except ε α → σ → List E → Prop} {Q : Except ε' β → σ → List E → Prop}
    {action : Action ι ε α} {f : Except ε α → Action ι ε' β} (h : Does R Guard s M action)
    (hnext : ∀ result t before, M result t before →
      Does R Guard t (fun result u events => Q result u (before ++ events)) (f result)) :
    Does R Guard s Q (action.attempt >>= f : Action ι ε' β) := by
  have hattempt : Does R Guard s (fun result t before => ∃ value, result = .ok value ∧ M value t before)
      (action.attempt : Action ι ε' (Except ε α)) := by
    refine Does.bind h fun value t before hM => Does.ret ?_
    rw [List.append_nil]
    exact ⟨value, rfl, hM⟩
  refine Does.seq hattempt (fun error t events hM => nomatch hM.choose_spec.1) ?_
  rintro value t before ⟨result, hresult, hM⟩
  obtain rfl := Except.ok.inj hresult
  exact hnext value t before hM

theorem Does.perform {Q : Except ε β → σ → List E → Prop} {r : ι.Request} {f : ι.Answer r → Action ι ε β}
    (hguard : Guard s r)
    (h : ∀ answer e t, R s r answer e t → Does R Guard t (fun result u events => Q result u (e :: events)) (f answer)) :
    Does R Guard s Q (Action.perform r >>= f : Action ι ε β) :=
  ⟨hguard, h⟩

end Does

/-- A world that writes down every request with its answer and the states around it. -/
def World.recorder (W : World ι σ) : Recorder ι σ (Event ι σ) := fun s request answer e t =>
  W s request answer t ∧ e = ⟨s, request, answer, t⟩

/-- Wherever a program is cut off, its requests were guarded, and the rest of it does the rest. -/
theorem Does.exec {W : World ι σ} {Guard : σ → ι.Request → Prop} {Q : α → σ → List (Event ι σ) → Prop} {s t : σ}
    {p left : Prog ι α} {events : List (Event ι σ)} (h : Does W.recorder Guard s Q p)
    (hexec : Exec W s p events t left) :
    Runs.Run (fun s event t => W.Shows s event t ∧ Guard s event.request) s events t ∧
      Does W.recorder Guard t (fun value u later => Q value u (events ++ later)) left := by
  induction hexec generalizing Q with
  | stop => exact ⟨.nil, h⟩
  | step hstep _ ih =>
    obtain ⟨hguard, hnext⟩ := h
    obtain ⟨hrun, hleft⟩ := ih (hnext _ _ _ ⟨hstep, rfl⟩)
    exact ⟨.cons ⟨⟨rfl, rfl, hstep⟩, hguard⟩ hrun, hleft⟩

/-- Among the events there is one for each of the predicates, in this order. -/
def InOrder (marks : List (E → Prop)) (events : List E) : Prop :=
  ∃ chosen, chosen.Sublist events ∧ List.Forall₂ (fun mark e => mark e) marks chosen

section InOrder

variable {marks marks' : List (E → Prop)} {events events' : List E}

theorem InOrder.nil : InOrder [] events := ⟨[], List.nil_sublist _, .nil⟩

theorem InOrder.cons {mark : E → Prop} {e : E} (hmark : mark e) (h : InOrder marks events) :
    InOrder (mark :: marks) (e :: events) := by
  obtain ⟨chosen, hchosen, hmarks⟩ := h
  exact ⟨e :: chosen, hchosen.cons_cons e, .cons hmark hmarks⟩

theorem InOrder.append (h : InOrder marks events) (h' : InOrder marks' events') :
    InOrder (marks ++ marks') (events ++ events') := by
  obtain ⟨chosen, hchosen, hmarks⟩ := h
  obtain ⟨chosen', hchosen', hmarks'⟩ := h'
  exact ⟨chosen ++ chosen', hchosen.append hchosen', List.rel_append hmarks hmarks'⟩

theorem InOrder.drop (h : InOrder marks events) (n : Nat) : InOrder (marks.drop n) events := by
  obtain ⟨chosen, hchosen, hmarks⟩ := h
  exact ⟨chosen.drop n, (List.drop_sublist n chosen).trans hchosen, List.forall₂_drop n hmarks⟩

theorem InOrder.skip {e : E} (h : InOrder marks events) : InOrder marks (e :: events) := by
  obtain ⟨chosen, hchosen, hmarks⟩ := h
  exact ⟨chosen, hchosen.cons e, hmarks⟩

end InOrder

end Interact
