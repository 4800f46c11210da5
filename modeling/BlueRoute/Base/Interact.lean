import BlueRoute.Base.Runs

/-! Programs that ask an outside world for answers, request by request, and that may be cut off
between any two of their requests. -/

namespace Interact

/-- The requests that a program can make, each with the type of its answers. -/
structure Interface where
  Request : Type
  Answer : Request → Type

/-- A program is a value, or a request and what it does with each answer. -/
inductive Prog (ι : Interface) (α : Type) : Type where
  | ret (value : α)
  | ask (request : ι.Request) (next : ι.Answer request → Prog ι α)

variable {ι : Interface} {σ ε α β : Type}

def Prog.bind : Prog ι α → (α → Prog ι β) → Prog ι β
  | .ret value, f => f value
  | .ask request next, f => .ask request fun answer => (next answer).bind f

/-- A program that may return early with an error. -/
def Action (ι : Interface) (ε α : Type) : Type := Prog ι (Except ε α)

namespace Action

instance : Monad (Action ι ε) where
  pure value := .ret (.ok value)
  bind action f := .bind action fun
    | .ok value => f value
    | .error e => .ret (.error e)

/-- A computation of the program itself, which may fail. -/
def lift (result : Except ε α) : Action ι ε α := .ret result

def fail (error : ε) : Action ι ε α := .ret (.error error)

/-- An action whose failure is looked at and not passed on. -/
def attempt {ε' : Type} (action : Action ι ε α) : Action ι ε' (Except ε α) :=
  .bind action fun result => .ret (.ok result)

/-- A request whose answer is a value. -/
def perform (request : ι.Request) : Action ι ε (ι.Answer request) :=
  .ask request fun answer => .ret (.ok answer)

end Action

/-- How a world answers a request, and changes with it. -/
abbrev World (ι : Interface) (σ : Type) := σ → (request : ι.Request) → ι.Answer request → σ → Prop

/-- A request with its answer, and the states of the world around it. -/
structure Event (ι : Interface) (σ : Type) where
  before : σ
  request : ι.Request
  answer : ι.Answer request
  after : σ

/-- An event that a world can show. -/
def World.Shows (W : World ι σ) (s : σ) (event : Event ι σ) (t : σ) : Prop :=
  event.before = s ∧ event.after = t ∧ W s event.request event.answer t

/-- The executions of a program up to any of its requests: what was asked, and what is left. -/
inductive Exec (W : World ι σ) : σ → Prog ι α → List (Event ι σ) → σ → Prog ι α → Prop where
  | stop {s : σ} {p : Prog ι α} : Exec W s p [] s p
  | step {s t u : σ} {request : ι.Request} {next : ι.Answer request → Prog ι α} {answer : ι.Answer request}
      {events : List (Event ι σ)} {left : Prog ι α} (hstep : W s request answer t)
      (hrest : Exec W t (next answer) events u left) :
      Exec W s (.ask request next) (⟨s, request, answer, t⟩ :: events) u left

/-- Whatever is answered, a program makes only guarded requests and ends in a postcondition. -/
def Safe (W : World ι σ) (Guard : σ → ι.Request → Prop) (Post : α → σ → Prop) : Prog ι α → σ → Prop
  | .ret value, s => Post value s
  | .ask request next, s => Guard s request ∧ ∀ answer t, W s request answer t → Safe W Guard Post (next answer) t

section Safe

variable {W : World ι σ} {Guard : σ → ι.Request → Prop} {s t : σ}

variable {p : Prog ι α} {Post : α → σ → Prop} {action : Action ι ε α} {f : α → Action ι ε β}

theorem Safe.bind_iff {Post : β → σ → Prop} {f : α → Prog ι β} :
    Safe W Guard Post (p.bind f) s ↔ Safe W Guard (fun value t => Safe W Guard Post (f value) t) p s := by
  induction p generalizing s with
  | ret value => rfl
  | ask request next ih => simp only [Prog.bind, Safe, ih]

theorem Safe.mono {Weaker : α → σ → Prop} (h : Safe W Guard Post p s)
    (hweaker : ∀ value t, Post value t → Weaker value t) : Safe W Guard Weaker p s := by
  induction p generalizing s with
  | ret value => exact hweaker value s h
  | ask request next ih =>
    obtain ⟨hguard, hnext⟩ := h
    exact ⟨hguard, fun answer t hstep => ih answer (hnext answer t hstep)⟩

/-- Wherever a safe program is cut off, its requests were guarded and the rest of it is safe. -/
theorem Safe.exec {left : Prog ι α} {events : List (Event ι σ)} (h : Safe W Guard Post p s)
    (hexec : Exec W s p events t left) :
    Runs.Run (fun s event t => W.Shows s event t ∧ Guard s event.request) s events t ∧
      Safe W Guard Post left t := by
  induction hexec with
  | stop => exact ⟨.nil, h⟩
  | step hstep _ ih =>
    obtain ⟨hguard, hnext⟩ := h
    obtain ⟨hrun, hleft⟩ := ih (hnext _ _ hstep)
    exact ⟨.cons ⟨⟨rfl, rfl, hstep⟩, hguard⟩ hrun, hleft⟩

/-- A program that is safe where an invariant holds of all states: if guarded requests keep the
invariant, it holds wherever the program is cut off. -/
theorem Safe.exec_of_invariant {Inv : σ → Prop} {left : Prog ι α} {events : List (Event ι σ)}
    (hkeep : ∀ s request answer t, Inv s → Guard s request → W s request answer t → Inv t) (hinv : Inv s)
    (h : Safe (fun s request answer t => W s request answer t ∧ Inv s ∧ Inv t) Guard Post p s)
    (hexec : Exec W s p events t left) :
    Runs.Run (fun s event t => (W.Shows s event t ∧ Guard s event.request) ∧ Inv s) s events t ∧ Inv t ∧
      Safe (fun s request answer t => W s request answer t ∧ Inv s ∧ Inv t) Guard Post left t := by
  induction hexec with
  | stop => exact ⟨.nil, hinv, h⟩
  | step hstep _ ih =>
    obtain ⟨hguard, hnext⟩ := h
    have hafter := hkeep _ _ _ _ hinv hguard hstep
    obtain ⟨hrun, hend, hleft⟩ := ih hafter (hnext _ _ ⟨hstep, hinv, hafter⟩)
    exact ⟨.cons ⟨⟨⟨rfl, rfl, hstep⟩, hguard⟩, hinv⟩ hrun, hend, hleft⟩

/-- An action followed by another, which is reached only when the first succeeds. -/
theorem Safe.seq {M : Except ε α → σ → Prop} {Post : Except ε β → σ → Prop} (h : Safe W Guard M action s)
    (herror : ∀ error t, M (.error error) t → Post (.error error) t)
    (hnext : ∀ value t, M (.ok value) t → Safe W Guard Post (f value) t) :
    Safe W Guard Post (action >>= f : Action ι ε β) s := by
  refine Safe.bind_iff.mpr (Safe.mono h fun result t hresult => ?_)
  cases result with
  | ok value => exact hnext value t hresult
  | error error => exact herror error t hresult

/-- An action whose result is looked at by the next. -/
theorem Safe.attempt_seq {ε' : Type} {M : Except ε α → σ → Prop} {Post : Except ε' β → σ → Prop}
    {f : Except ε α → Action ι ε' β} (h : Safe W Guard M action s)
    (hnext : ∀ result t, M result t → Safe W Guard Post (f result) t) :
    Safe W Guard Post (.attempt action >>= f : Action ι ε' β) s :=
  Safe.bind_iff.mpr (Safe.bind_iff.mpr (Safe.mono h hnext))

/-- Whatever is answered, an action makes only guarded requests, and when it succeeds it ends in a
postcondition. -/
def Ensures (W : World ι σ) (Guard : σ → ι.Request → Prop) (Post : α → σ → Prop) (action : Action ι ε α) (s : σ) :
    Prop :=
  Safe W Guard (fun result t => ∀ value, result = .ok value → Post value t) action s

/-- An action followed by another, which is reached only when the first succeeds. -/
theorem Ensures.seq {M : α → σ → Prop} {Post : β → σ → Prop} (h : Ensures W Guard M action s)
    (hnext : ∀ value t, M value t → Ensures W Guard Post (f value) t) : Ensures W Guard Post (action >>= f) s := by
  refine Safe.bind_iff.mpr (Safe.mono h fun result t hresult => ?_)
  cases result with
  | ok value => exact hnext value t (hresult value rfl)
  | error e => exact fun _ hvalue => nomatch hvalue

theorem Ensures.mono {Weaker : α → σ → Prop} (h : Ensures W Guard Post action s)
    (hweaker : ∀ value t, Post value t → Weaker value t) : Ensures W Guard Weaker action s :=
  Safe.mono h fun _ t hpost value hvalue => hweaker value t (hpost value hvalue)

theorem Ensures.pure {value : α} (h : Post value s) : Ensures W Guard Post (pure value : Action ι ε α) s := by
  intro other hother
  obtain rfl := Except.ok.inj hother
  exact h

/-- A computation of the program itself is done in the same state. -/
theorem Ensures.lift {result : Except ε α} (h : ∀ value, result = .ok value → Post value s) :
    Ensures W Guard Post (.lift result : Action ι ε α) s :=
  h

theorem Ensures.lift_seq {Post : β → σ → Prop} {result : Except ε α}
    (h : ∀ value, result = .ok value → Ensures W Guard Post (f value) s) :
    Ensures W Guard Post (.lift result >>= f) s := by
  refine .seq (M := fun value t => t = s ∧ result = .ok value) (fun value hvalue => ⟨rfl, hvalue⟩) ?_
  rintro value _ ⟨rfl, hvalue⟩
  exact h value hvalue

theorem Ensures.perform {r : ι.Request} {Post : ι.Answer r → σ → Prop} (hguard : Guard s r)
    (h : ∀ answer t, W s r answer t → Post answer t) :
    Ensures W Guard Post (.perform r : Action ι ε _) s := by
  refine ⟨hguard, fun answer t hstep value hvalue => ?_⟩
  obtain rfl := Except.ok.inj hvalue
  exact h answer t hstep

end Safe

/-- An execution that is continued where its first part has ended. -/
theorem Exec.bind {W : World ι σ} {s t u : σ} {p : Prog ι α} {f : α → Prog ι β} {left : Prog ι β} {value : α}
    {first second : List (Event ι σ)} (hfirst : Exec W s p first t (.ret value))
    (hsecond : Exec W t (f value) second u left) : Exec W s (p.bind f) (first ++ second) u left := by
  generalize hend : Prog.ret value = ended at hfirst
  induction hfirst with
  | stop =>
    subst hend
    exact hsecond
  | step hstep _ ih => exact .step hstep (ih hsecond hend)

/-- An execution whose events have a property is one of a world that shows no others. -/
theorem Exec.restrict {W : World ι σ} {P : Event ι σ → Prop} {s t : σ} {p left : Prog ι α} {events : List (Event ι σ)}
    (h : Exec W s p events t left) (hevents : ∀ event ∈ events, P event) :
    Exec (fun s request answer t => W s request answer t ∧ P ⟨s, request, answer, t⟩) s p events t left := by
  induction h with
  | stop => exact .stop
  | step hstep _ ih =>
    rw [List.forall_mem_cons] at hevents
    exact .step ⟨hstep, hevents.1⟩ (ih hevents.2)

/-- A program with all its requests answered by a function. -/
def Prog.run (serve : (s : σ) → (request : ι.Request) → ι.Answer request × σ) : Prog ι α → σ → α × σ
  | .ret value, s => (value, s)
  | .ask request next, s => (next (serve s request).1).run serve (serve s request).2

/-- Answers that a world can give make an execution to the end. -/
theorem Prog.exec_run {W : World ι σ} {serve : (s : σ) → (request : ι.Request) → ι.Answer request × σ}
    (hserve : ∀ s request, W s request (serve s request).1 (serve s request).2) (p : Prog ι α) (s : σ) :
    ∃ events, Exec W s p events (p.run serve s).2 (.ret (p.run serve s).1) := by
  induction p generalizing s with
  | ret value => exact ⟨[], .stop⟩
  | ask request next ih =>
    obtain ⟨events, hexec⟩ := ih (serve s request).1 (serve s request).2
    exact ⟨_, .step (hserve s request) hexec⟩

/-- An action can return the value. -/
def Returns (W : World ι σ) (s : σ) (action : Action ι ε α) (value : α) (t : σ) : Prop :=
  ∃ events, Exec W s action events t (.ret (.ok value))

section Returns

variable {W : World ι σ} {s t u : σ}

theorem Returns.bind {action : Action ι ε α} {f : α → Action ι ε β} {a : α} {last : β}
    (hfirst : Returns W s action a t) (hsecond : Returns W t (f a) last u) :
    Returns W s (action >>= f) last u := by
  obtain ⟨first, hfirst⟩ := hfirst
  obtain ⟨second, hsecond⟩ := hsecond
  exact ⟨first ++ second, Exec.bind hfirst hsecond⟩

/-- An execution that shows some events last, with an action before it. -/
theorem Returns.before {action : Action ι ε α} {f : α → Action ι ε β} {value : α} {left : Action ι ε β}
    {events : List (Event ι σ)} (hfirst : Returns W s action value t)
    (hsecond : ∃ earlier, Exec W t (f value) (earlier ++ events) u left) :
    ∃ earlier, Exec W s (action >>= f : Action ι ε β) (earlier ++ events) u left := by
  obtain ⟨first, hfirst⟩ := hfirst
  obtain ⟨earlier, hsecond⟩ := hsecond
  refine ⟨first ++ earlier, ?_⟩
  rw [List.append_assoc]
  exact Exec.bind hfirst hsecond

theorem Returns.lift {result : Except ε α} {a : α} (h : result = .ok a) :
    Returns W s (.lift result : Action ι ε α) a s :=
  ⟨[], h ▸ .stop⟩

theorem Returns.perform (request : ι.Request) (answer : ι.Answer request) (h : W s request answer t) :
    Returns W s (.perform request : Action ι ε _) answer t :=
  ⟨_, .step h .stop⟩

end Returns

end Interact
