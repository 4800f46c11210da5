import BlueRoute.Base.Traces

/-! Tasks that run side by side, each with a state of its own, over one state that they share. One
request at a time is answered, of any of the tasks. -/

namespace Interact

/-- What the tasks are made of: the programs of their operations, when a task may start one, what it
becomes when the operation has returned, and how the shared state may change by itself. -/
structure Tasks (κ : Type) (ι : Interface) (Λ ρ O α : Type) where
  world : κ → World ι (Λ × ρ)
  program : κ → O → Prog ι α
  may_start : Λ → O → Prop
  finish : Λ → O → α → Λ
  drift : ρ → ρ → Prop

/-- An operation that has been started: what is left of its program, and the requests that it has
made, in the states that they were made in. -/
structure Running (ι : Interface) (Λ ρ O α : Type) where
  operation : O
  left : Prog ι α
  history : List (Event ι (Λ × ρ))

structure Pool (κ : Type) (ι : Interface) (Λ ρ O α : Type) where
  own : κ → Λ
  running : κ → Option (Running ι Λ ρ O α)
  shared : ρ

inductive Label (κ : Type) (ι : Interface) (Λ ρ O α : Type) where
  | start (k : κ) (operation : O)
  | request (k : κ) (event : Event ι (Λ × ρ))
  | finish (k : κ) (operation : O) (history : List (Event ι (Λ × ρ))) (result : α)
  | drift

variable {κ Λ ρ O α : Type} {ι : Interface}

namespace Tasks

variable [DecidableEq κ] (T : Tasks κ ι Λ ρ O α)

/-- One step of one of the tasks, or of the shared state. -/
inductive Step : Pool κ ι Λ ρ O α → Label κ ι Λ ρ O α → Pool κ ι Λ ρ O α → Prop where
  | start {pool : Pool κ ι Λ ρ O α} {k : κ} {operation : O} (hidle : pool.running k = none)
      (hmay : T.may_start (pool.own k) operation) :
      Step pool (.start k operation)
        { pool with running := Function.update pool.running k (some ⟨operation, T.program k operation, []⟩) }
  | request {pool : Pool κ ι Λ ρ O α} {k : κ} {operation : O} {r : ι.Request} {next : ι.Answer r → Prog ι α}
      {history : List (Event ι (Λ × ρ))} {answer : ι.Answer r} {own : Λ} {shared : ρ}
      (hrunning : pool.running k = some ⟨operation, .ask r next, history⟩)
      (hworld : T.world k (pool.own k, pool.shared) r answer (own, shared)) :
      Step pool (.request k ⟨(pool.own k, pool.shared), r, answer, (own, shared)⟩)
        { own := Function.update pool.own k own
          running := Function.update pool.running k
            (some ⟨operation, next answer, history ++ [⟨(pool.own k, pool.shared), r, answer, (own, shared)⟩]⟩)
          shared }
  | finish {pool : Pool κ ι Λ ρ O α} {k : κ} {operation : O} {result : α} {history : List (Event ι (Λ × ρ))}
      (hrunning : pool.running k = some ⟨operation, .ret result, history⟩) :
      Step pool (.finish k operation history result)
        { pool with
          own := Function.update pool.own k (T.finish (pool.own k) operation result)
          running := Function.update pool.running k none }
  | drift {pool : Pool κ ι Λ ρ O α} {shared : ρ} (hdrift : T.drift pool.shared shared) :
      Step pool .drift { pool with shared }

omit [DecidableEq κ] in
/-- The world as one task sees it, if the shared state may have changed between any two of its
requests. It keeps the requests that were made. -/
def alone (k : κ) : World ι (Λ × List (Event ι (Λ × ρ))) := fun s r answer t =>
  ∃ shared shared', T.world k (s.1, shared) r answer (t.1, shared') ∧
    t.2 = s.2 ++ [⟨(s.1, shared), r, answer, (t.1, shared')⟩]

/-- Every operation makes guarded requests only and ends in its postcondition, whatever the other
tasks do. -/
def Correct (Guard : Λ → ι.Request → Prop) (Post : κ → O → α → Λ → List (Event ι (Λ × ρ)) → Prop) : Prop :=
  ∀ k operation own, T.may_start own operation →
    Safe (T.alone k) (fun s r => Guard s.1 r) (fun result s => Post k operation result s.1 s.2)
      (T.program k operation) (own, [])

variable {T} {Guard : Λ → ι.Request → Prop} {Post : κ → O → α → Λ → List (Event ι (Λ × ρ)) → Prop}
  {init pool next : Pool κ ι Λ ρ O α} {labels : List (Label κ ι Λ ρ O α)}

variable {label : Label κ ι Λ ρ O α}

/-- What a step does to one task: nothing, or what the label says. -/
theorem Step.task (hstep : T.Step pool label next) (k : κ) :
    (next.own k = pool.own k ∧ next.running k = pool.running k) ∨
    (∃ operation, label = .start k operation ∧ T.may_start (pool.own k) operation ∧ next.own k = pool.own k ∧
      next.running k = some ⟨operation, T.program k operation, []⟩) ∨
    (∃ operation r program history answer,
      label = .request k ⟨(pool.own k, pool.shared), r, answer, (next.own k, next.shared)⟩ ∧
      T.world k (pool.own k, pool.shared) r answer (next.own k, next.shared) ∧
      pool.running k = some ⟨operation, .ask r program, history⟩ ∧
      next.running k = some ⟨operation, program answer,
        history ++ [⟨(pool.own k, pool.shared), r, answer, (next.own k, next.shared)⟩]⟩) ∨
    ∃ operation history result, label = .finish k operation history result ∧
      pool.running k = some ⟨operation, .ret result, history⟩ ∧
      next.own k = T.finish (pool.own k) operation result ∧ next.running k = none := by
  cases hstep with
  | @start j operation hidle hmay =>
    by_cases hk : k = j
    · subst hk
      exact .inr (.inl ⟨operation, rfl, hmay, rfl, Function.update_self ..⟩)
    · exact .inl ⟨rfl, Function.update_of_ne hk _ _⟩
  | @request j operation r program history answer own shared hrunning hworld =>
    by_cases hk : k = j
    · subst hk
      refine .inr (.inr (.inl ⟨operation, r, program, history, answer, ?_⟩))
      simp only [Function.update_self]
      exact ⟨trivial, hworld, hrunning, trivial⟩
    · exact .inl ⟨Function.update_of_ne hk _ _, Function.update_of_ne hk _ _⟩
  | @finish j operation result history hrunning =>
    by_cases hk : k = j
    · subst hk
      exact .inr (.inr (.inr ⟨operation, history, result, rfl, hrunning, Function.update_self ..,
        Function.update_self ..⟩))
    · exact .inl ⟨Function.update_of_ne hk _ _, Function.update_of_ne hk _ _⟩
  | drift hdrift => exact .inl ⟨rfl, rfl⟩

/-- What a step does to the shared state. -/
theorem Step.shared (hstep : T.Step pool label next) :
    next.shared = pool.shared ∨
    (∃ k r answer, label = .request k ⟨(pool.own k, pool.shared), r, answer, (next.own k, next.shared)⟩ ∧
      T.world k (pool.own k, pool.shared) r answer (next.own k, next.shared)) ∨
    (label = .drift ∧ next.own = pool.own ∧ T.drift pool.shared next.shared) := by
  cases hstep with
  | start _ _ => exact .inl rfl
  | @request j operation r program history answer own shared hrunning hworld =>
    refine .inr (.inl ⟨j, r, answer, ?_⟩)
    simp only [Function.update_self]
    exact ⟨trivial, hworld⟩
  | finish _ => exact .inl rfl
  | drift hdrift => exact .inr (.inr ⟨rfl, rfl, hdrift⟩)

/-- What is left of every operation that has been started is safe. -/
def AllSafe (T : Tasks κ ι Λ ρ O α) (Guard : Λ → ι.Request → Prop)
    (Post : κ → O → α → Λ → List (Event ι (Λ × ρ)) → Prop) (pool : Pool κ ι Λ ρ O α) : Prop :=
  ∀ k running, pool.running k = some running →
    Safe (T.alone k) (fun s r => Guard s.1 r) (fun result s => Post k running.operation result s.1 s.2)
      running.left (pool.own k, running.history)

theorem AllSafe.step (hcorrect : T.Correct Guard Post) (h : T.AllSafe Guard Post pool)
    (hstep : T.Step pool label next) : T.AllSafe Guard Post next := by
  intro k running hrunning
  obtain ⟨hown, hsame⟩ | ⟨operation, -, hmay, hown, hstart⟩ | ⟨operation, r, program, history, answer, -, hworld,
    hbefore, hafter⟩ | ⟨operation, history, result, -, -, -, hnone⟩ := hstep.task k
  · rw [hown]
    exact h k running (hsame.symm.trans hrunning)
  · obtain rfl := Option.some.inj (hstart.symm.trans hrunning)
    rw [hown]
    exact hcorrect k operation _ hmay
  · obtain rfl := Option.some.inj (hafter.symm.trans hrunning)
    exact (h k _ hbefore).2 answer _ ⟨_, _, hworld, rfl⟩
  · rw [hnone] at hrunning
    cases hrunning

variable {k : κ} {operation : O} {result : α}

/-- Every request that a task makes is guarded. -/
theorem AllSafe.guarded (h : T.AllSafe Guard Post pool) {event : Event ι (Λ × ρ)}
    (hstep : T.Step pool (.request k event) next) : Guard (pool.own k) event.request := by
  cases hstep with
  | request hrunning hworld => exact (h k _ hrunning).1

/-- Every operation that returns does so in its postcondition. -/
theorem AllSafe.finished (h : T.AllSafe Guard Post pool) {history : List (Event ι (Λ × ρ))}
    (hstep : T.Step pool (.finish k operation history result) next) :
    Post k operation result (pool.own k) history := by
  cases hstep with
  | finish hrunning => exact h k _ hrunning

/-- An invariant whose preservation may use that all requests are guarded. -/
theorem invariant_of_run (hcorrect : T.Correct Guard Post) (Inv : Pool κ ι Λ ρ O α → Prop)
    (hpreserve : ∀ pool label next, Inv pool →
      (∀ k event, label = .request k event → Guard (pool.own k) event.request) → T.Step pool label next → Inv next)
    (hidle : ∀ k, init.running k = none) (hinit : Inv init) (hrun : Runs.Run T.Step init labels pool) :
    T.AllSafe Guard Post pool ∧ Inv pool := by
  refine hrun.invariant (fun pool => T.AllSafe Guard Post pool ∧ Inv pool) ?_ ⟨?_, hinit⟩
  · rintro pool label next ⟨hsafe, hinv⟩ hstep
    refine ⟨hsafe.step hcorrect hstep, hpreserve pool label next hinv ?_ hstep⟩
    rintro k event rfl
    exact hsafe.guarded hstep
  · intro k running hrunning
    rw [hidle k] at hrunning
    cases hrunning

/-- A task that is not interrupted runs its operation to the end. -/
theorem run_of_exec {p left : Prog ι α} {s t : Λ × ρ} {P : Pool κ ι Λ ρ O α}
    {events history : List (Event ι (Λ × ρ))} (hexec : Exec (T.world k) s p events t left)
    (hleft : left = .ret result) (hs : s = (P.own k, P.shared))
    (hrunning : P.running k = some ⟨operation, p, history⟩) :
    ∃ labels last, Runs.Run T.Step P (labels ++ [.finish k operation (history ++ events) result]) last ∧
      last.own = Function.update P.own k (T.finish t.1 operation result) ∧
      last.running = Function.update P.running k none ∧ last.shared = t.2 := by
  induction hexec generalizing P history with
  | stop =>
    subst hleft hs
    rw [List.append_nil]
    exact ⟨[], _, .cons (.finish hrunning) .nil, rfl, rfl, rfl⟩
  | @step s u t r next answer events left hstep _ ih =>
    subst hs
    have hfirst := Step.request (T := T) hrunning hstep
    obtain ⟨labels, last, hrun, hown, hrunning', hshared⟩ := ih hleft
      (P := ⟨Function.update P.own k u.1, Function.update P.running k (some ⟨operation, next answer,
        history ++ [⟨(P.own k, P.shared), r, answer, u⟩]⟩), u.2⟩)
      (by simp) (Function.update_self ..)
    rw [List.append_assoc] at hrun
    refine ⟨_ :: labels, last, .cons hfirst hrun, ?_, ?_, hshared⟩
    · rw [hown, Function.update_idem]
    · rw [hrunning', Function.update_idem]

/-- The same from the start of the operation. -/
theorem run_operation {own : Λ} {shared : ρ} {events : List (Event ι (Λ × ρ))} (hidle : pool.running k = none)
    (hmay : T.may_start (pool.own k) operation)
    (hexec : Exec (T.world k) (pool.own k, pool.shared) (T.program k operation) events (own, shared) (.ret result)) :
    ∃ labels last, Runs.Run T.Step pool (labels ++ [.finish k operation events result]) last ∧
      last.own = Function.update pool.own k (T.finish own operation result) ∧ last.running = pool.running ∧
      last.shared = shared := by
  obtain ⟨labels, last, hrun, hown, hrunning, hshared⟩ := run_of_exec
    (P := { pool with running := Function.update pool.running k (some ⟨operation, T.program k operation, []⟩) })
    hexec rfl rfl (Function.update_self ..)
  refine ⟨_ :: labels, last, .cons (.start hidle hmay) hrun, hown, ?_, hshared⟩
  rw [hrunning, Function.update_idem, ← hidle, Function.update_eq_self]

section Does

variable {β ε : Type} {k : κ} {own : Λ}

omit [DecidableEq κ] in
/-- What is written down of the requests of one task, if the shared state may have changed between any
two of them. -/
def recorder (T : Tasks κ ι Λ ρ O α) (k : κ) : Recorder ι Λ (Event ι (Λ × ρ)) := fun own r answer e own' =>
  ∃ shared shared', T.world k (own, shared) r answer (own', shared') ∧ e = ⟨(own, shared), r, answer, (own', shared')⟩

omit [DecidableEq κ] in
/-- What a part of a program of one task does, whatever the other tasks do. -/
abbrev Does (T : Tasks κ ι Λ ρ O α) (Guard : Λ → ι.Request → Prop) (k : κ) (own : Λ)
    (Q : β → Λ → List (Event ι (Λ × ρ)) → Prop) (p : Prog ι β) : Prop :=
  Interact.Does (T.recorder k) Guard own Q p

omit [DecidableEq κ] in
theorem Does.ask {Q : β → Λ → List (Event ι (Λ × ρ)) → Prop} {r : ι.Request} {next : ι.Answer r → Prog ι β}
    (hguard : Guard own r)
    (h : ∀ shared answer own' shared', T.world k (own, shared) r answer (own', shared') →
      T.Does Guard k own' (fun result t events => Q result t (⟨(own, shared), r, answer, (own', shared')⟩ :: events))
        (next answer)) :
    T.Does Guard k own Q (.ask r next) := by
  refine Interact.Does.ask hguard ?_
  rintro answer e own' ⟨shared, shared', hworld, rfl⟩
  exact h shared answer own' shared' hworld

omit [DecidableEq κ] in
theorem Does.perform {Q : Except ε β → Λ → List (Event ι (Λ × ρ)) → Prop} {r : ι.Request}
    {f : ι.Answer r → Action ι ε β} (hguard : Guard own r)
    (h : ∀ shared answer own' shared', T.world k (own, shared) r answer (own', shared') →
      T.Does Guard k own' (fun result t events => Q result t (⟨(own, shared), r, answer, (own', shared')⟩ :: events))
        (f answer)) :
    T.Does Guard k own Q (Action.perform r >>= f : Action ι ε β) :=
  Does.ask hguard h

omit [DecidableEq κ] in
/-- What a program does after some requests is safe, whatever these were. -/
theorem Does.safe {Q : β → Λ → List (Event ι (Λ × ρ)) → Prop} {p : Prog ι β} (h : T.Does Guard k own Q p)
    (history : List (Event ι (Λ × ρ))) :
    Safe (T.alone k) (fun s r => Guard s.1 r)
      (fun result s => ∃ events, s.2 = history ++ events ∧ Q result s.1 events) p (own, history) := by
  induction p generalizing own Q history with
  | ret value => exact ⟨[], (List.append_nil _).symm, h⟩
  | ask request next ih =>
    obtain ⟨hguard, hnext⟩ := h
    refine ⟨hguard, ?_⟩
    rintro answer ⟨own', history'⟩ ⟨shared, shared', hworld, hhistory⟩
    dsimp only at hworld hhistory
    subst hhistory
    refine (ih answer (hnext answer _ own' ⟨shared, shared', hworld, rfl⟩) _).mono ?_
    rintro result ⟨t, _⟩ ⟨events, rfl, hQ⟩
    exact ⟨_, List.append_assoc .., hQ⟩

omit [DecidableEq κ] in
/-- The operations are correct if their programs do what the postconditions say. -/
theorem correct_of_does
    (h : ∀ k operation own, T.may_start own operation →
      T.Does Guard k own (fun result t events => Post k operation result t events) (T.program k operation)) :
    T.Correct Guard Post := by
  intro k operation own hmay
  refine ((h k operation own hmay).safe []).mono ?_
  rintro result ⟨t, _⟩ ⟨events, rfl, hpost⟩
  exact hpost

end Does

end Tasks

end Interact
