import BlueRoute.Base.Reconcile.Steps

/-! Application of a plan through a backend that may answer anything: every step is made on an
observation that is still what the earlier steps had to produce, and is then observed itself. -/

namespace Reconcile

/-- The backend: each call may answer anything and may change its hidden state in any way. -/
structure Operator (R ε σ : Type) where
  observe : σ → Except ε (List R) × σ
  replace : Option R → R → σ → Except ε Unit × σ
  remove : R → σ → Except ε Unit × σ

structure Report (R : Type) where
  applied : List (Change R)
  observed : List R
deriving DecidableEq

/-- The errors of an execution. -/
structure Failures (ε : Type) where
  stale : ε
  upsert_mismatch : ε
  remove_mismatch : ε

/-- A call that an execution makes, with the answer it got. -/
inductive Call (R ε : Type) where
  | Observe (answer : Except ε (List R))
  | Replace (previous : Option R) (replacement : R) (answer : Except ε Unit)
  | Remove (previous : R) (answer : Except ε Unit)

variable {R K ε σ : Type}

/-- The same backend with a log of the calls made to it. -/
def traced (operator : Operator R ε σ) : Operator R ε (σ × List (Call R ε)) where
  observe := fun (s, calls) =>
    let (answer, s) := operator.observe s
    (answer, s, calls ++ [.Observe answer])
  replace := fun previous replacement (s, calls) =>
    let (answer, s) := operator.replace previous replacement s
    (answer, s, calls ++ [.Replace previous replacement answer])
  remove := fun previous (s, calls) =>
    let (answer, s) := operator.remove previous s
    (answer, s, calls ++ [.Remove previous answer])

theorem observe_traced (operator : Operator R ε σ) (s : σ) (calls : List (Call R ε)) :
    (traced operator).observe (s, calls) =
      ((operator.observe s).1, (operator.observe s).2, calls ++ [.Observe (operator.observe s).1]) :=
  rfl

/-- The change that a call asks for. -/
def Call.change? : Call R ε → Option (Change R)
  | .Observe _ => none
  | .Replace _ replacement _ => some (.Upsert replacement)
  | .Remove previous _ => some (.Remove previous)

def changes (calls : List (Call R ε)) : List (Change R) := calls.filterMap Call.change?

/-- The tables that were observed, in order. -/
def observations (calls : List (Call R ε)) : List (List R) :=
  calls.filterMap fun
    | .Observe (.ok rows) => some rows
    | _ => none

section Snapshot

variable {O : Type} [LinearOrder O] {order : R → O}

/-- A table in the order in which tables are compared. -/
def snapshot (order : R → O) (rows : List R) : List R :=
  rows.insertionSort fun left right => order left ≤ order right

theorem snapshot_perm (rows : List R) : (snapshot order rows).Perm rows :=
  List.perm_insertionSort _ rows

end Snapshot

namespace Policy

variable [LinearOrder K] [DecidableEq R] {O : Type} [LinearOrder O] (P : Policy R K ε) (order : R → O)

/-- The owned row that an observation has under the key of a row. -/
def previous (observed : List R) (row : R) : Option R :=
  observed.find? fun other => P.owned other && P.key other = P.key row

def operate (operator : Operator R ε σ) (observed : List R) : Change R → σ → Except ε Unit × σ
  | .Upsert row => operator.replace (P.previous observed row) row
  | .Remove row => operator.remove row

/-- The snapshot that a step must produce. Removing a row keeps a snapshot sorted. -/
def expected (observed : List R) : Change R → List R
  | .Upsert row => snapshot order (P.apply observed (.Upsert row))
  | .Remove row => P.apply observed (.Remove row)

def mismatch (failures : Failures ε) : Change R → ε
  | .Upsert _ => failures.upsert_mismatch
  | .Remove _ => failures.remove_mismatch

/-- The loops over the upserts and then over the removals. -/
def execute_steps (failures : Failures ε) (operator : Operator R ε σ) :
    List (Change R) → List R → List (Change R) → σ → Except ε (Report R) × σ
  | [], observed, applied, s => (.ok { applied, observed }, s)
  | change :: rest, observed, applied, s =>
    match operator.observe s with
    | (.error e, s) => (.error e, s)
    | (.ok actual, s) =>
      if snapshot order actual ≠ observed then (.error failures.stale, s)
      else
        match P.operate operator observed change s with
        | (.error e, s) => (.error e, s)
        | (.ok (), s) =>
          match operator.observe s with
          | (.error e, s) => (.error e, s)
          | (.ok post, s) =>
            if snapshot order post ≠ P.expected order observed change then (.error (mismatch failures change), s)
            else execute_steps failures operator rest (snapshot order post) (applied ++ [change]) s

def execute (failures : Failures ε) (plan : List R → List R → Except ε (Plan R)) (desired : List R)
    (operator : Operator R ε σ) (s : σ) : Except ε (Report R) × σ :=
  match operator.observe s with
  | (.error e, s) => (.error e, s)
  | (.ok observed, s) =>
    match plan desired observed with
    | .error e => (.error e, s)
    | .ok p => P.execute_steps order failures operator p.steps (snapshot order observed) [] s

/-- The call that a step makes. -/
def call (observed : List R) : Change R → Except ε Unit → Call R ε
  | .Upsert row, answer => .Replace (P.previous observed row) row answer
  | .Remove row, answer => .Remove row answer

/-- Every way in which the loops can use their backend: a round that is refused by its observation,
a round that stops at or after its change, and a round that goes on. -/
inductive Execution (failures : Failures ε) : List R → List (Change R) → List (Change R) → List (Call R ε) →
    Except ε (Report R) → Prop where
  | finished {observed : List R} {applied : List (Change R)} :
      Execution failures observed [] applied [] (.ok { applied, observed })
  | refused {observed : List R} {change : Change R} {rest applied : List (Change R)}
      {seen : Except ε (List R)} {e : ε} :
      Execution failures observed (change :: rest) applied [.Observe seen] (.error e)
  | stopped {observed actual : List R} {change : Change R} {rest applied : List (Change R)}
      {answer : Except ε Unit} {tail : List (Call R ε)} {e : ε}
      (hactual : snapshot order actual = observed) (htail : changes tail = []) :
      Execution failures observed (change :: rest) applied
        (.Observe (.ok actual) :: P.call observed change answer :: tail) (.error e)
  | advance {observed actual post : List R} {change : Change R} {rest applied : List (Change R)}
      {calls : List (Call R ε)} {result : Except ε (Report R)}
      (hactual : snapshot order actual = observed) (hpost : snapshot order post = P.expected order observed change)
      (hrest : Execution failures (snapshot order post) rest (applied ++ [change]) calls result) :
      Execution failures observed (change :: rest) applied
        (.Observe (.ok actual) :: P.call observed change (.ok ()) :: .Observe (.ok post) :: calls) result

variable {P} {order} {failures : Failures ε} {operator : Operator R ε σ}

omit [DecidableEq R] in
theorem operate_traced (observed : List R) (change : Change R) (s : σ) (calls : List (Call R ε)) :
    P.operate (traced operator) observed change (s, calls) =
      ((P.operate operator observed change s).1, (P.operate operator observed change s).2,
        calls ++ [P.call observed change (P.operate operator observed change s).1]) := by
  cases change <;> rfl

/-- Keeping a log changes nothing, and the log of the loops is one of the executions listed above. -/
theorem execute_steps_traced (P : Policy R K ε) (order : R → O) (failures : Failures ε) (operator : Operator R ε σ)
    (steps : List (Change R)) :
    ∀ (observed : List R) (applied : List (Change R)) (s : σ) (calls : List (Call R ε)),
      ∃ result after made, P.execute_steps order failures operator steps observed applied s = (result, after) ∧
        P.execute_steps order failures (traced operator) steps observed applied (s, calls) =
          (result, after, calls ++ made) ∧
        P.Execution order failures observed steps applied made result := by
  induction steps with
  | nil =>
    intro observed applied s calls
    exact ⟨_, _, [], rfl, by simp [execute_steps], .finished⟩
  | cons change rest ih =>
    intro observed applied s calls
    unfold execute_steps
    rw [observe_traced]
    rcases hobserve : operator.observe s with ⟨e | actual, s₁⟩
    · exact ⟨_, _, _, rfl, rfl, .refused⟩
    by_cases hactual : snapshot order actual = observed
    · simp only [hactual, ne_eq, not_true, if_false]
      rw [operate_traced]
      rcases hoperate : P.operate operator observed change s₁ with ⟨e | _, s₂⟩
      · exact ⟨_, _, [.Observe (.ok actual), P.call observed change (.error e)], rfl, by simp, .stopped hactual rfl⟩
      dsimp only
      rw [observe_traced]
      rcases hpost : operator.observe s₂ with ⟨e | post, s₃⟩
      · refine ⟨_, _, [.Observe (.ok actual), P.call observed change (.ok ()), .Observe (.error e)], rfl, by simp, ?_⟩
        exact .stopped hactual rfl
      by_cases hexpected : snapshot order post = P.expected order observed change
      · simp only [hexpected, not_true, if_false]
        obtain ⟨result, after, made, hplain, htraced, hrest⟩ := ih (snapshot order post) (applied ++ [change]) s₃
          (calls ++ [.Observe (.ok actual)] ++ [P.call observed change (.ok ())] ++ [.Observe (.ok post)])
        rw [← hexpected]
        exact ⟨result, after, _, hplain, by simpa using htraced, .advance hactual hexpected hrest⟩
      · simp only [hexpected, not_false_iff, if_true]
        refine ⟨_, _, [.Observe (.ok actual), P.call observed change (.ok ()), .Observe (.ok post)], rfl, by simp, ?_⟩
        exact .stopped hactual rfl
    · simp only [ne_eq, hactual, not_false_iff, if_true]
      exact ⟨_, _, _, rfl, rfl, .refused⟩

end Policy

section Log

variable {change : Change R}

theorem changes_observe (answer : Except ε (List R)) (calls : List (Call R ε)) :
    changes (.Observe answer :: calls) = changes calls :=
  rfl

theorem changes_append_cons {call : Call R ε} (h : call.change? = some change) (before after : List (Call R ε)) :
    changes (before ++ call :: after) = changes before ++ change :: changes after := by
  rw [changes, List.filterMap_append, List.filterMap_cons_some h]
  rfl

@[simp]
theorem observations_observe (rows : List R) (calls : List (Call R ε)) :
    observations (.Observe (.ok rows) :: calls) = rows :: observations calls :=
  rfl

/-- A change in a log is that of its first round, or one of the later calls. -/
theorem round_split {seen : Except ε (List R)} {first call : Call R ε} {tail before after : List (Call R ε)}
    (hchange : call.change? = some change) (hcalls : .Observe seen :: first :: tail = before ++ call :: after) :
    (before = [.Observe seen] ∧ first = call ∧ tail = after) ∨
      ∃ later, before = .Observe seen :: first :: later ∧ tail = later ++ call :: after := by
  rcases before with _ | ⟨_, _ | ⟨_, later⟩⟩
  · obtain ⟨rfl, -⟩ := List.cons.inj hcalls
    cases hchange
  · simp only [List.cons_append, List.nil_append, List.cons.injEq] at hcalls
    obtain ⟨rfl, rfl, rfl⟩ := hcalls
    exact .inl ⟨rfl, rfl, rfl⟩
  · simp only [List.cons_append, List.cons.injEq] at hcalls
    obtain ⟨rfl, rfl, htail⟩ := hcalls
    exact .inr ⟨later, rfl, htail⟩

theorem observe_split {seen : Except ε (List R)} {call : Call R ε} {tail before after : List (Call R ε)}
    (hchange : call.change? = some change) (hcalls : .Observe seen :: tail = before ++ call :: after) :
    ∃ later, before = .Observe seen :: later ∧ tail = later ++ call :: after := by
  cases before with
  | nil =>
    obtain ⟨rfl, -⟩ := List.cons.inj hcalls
    cases hchange
  | cons _ later =>
    obtain ⟨rfl, htail⟩ := List.cons.inj hcalls
    exact ⟨later, rfl, htail⟩

/-- The changes before a change are the first steps of the plan. -/
theorem changes_eq_take {calls before after : List (Call R ε)} {call : Call R ε} {steps : List (Change R)}
    (hinorder : changes calls <+: steps) (hcalls : calls = before ++ call :: after)
    (hchange : call.change? = some change) : changes before = steps.take (changes before).length := by
  rw [hcalls, changes_append_cons hchange] at hinorder
  exact List.prefix_iff_eq_take.mp ((List.prefix_append _ _).trans hinorder)

end Log

namespace Policy

variable [LinearOrder K] [DecidableEq R] {O : Type} [LinearOrder O] {P : Policy R K ε} {order : R → O}
  {failures : Failures ε} {observed table desired : List R} {steps applied : List (Change R)}
  {calls before after : List (Call R ε)} {result : Except ε (Report R)} {call : Call R ε} {change : Change R}

omit [DecidableEq R] in
@[simp]
theorem change?_call (answer : Except ε Unit) : (P.call observed change answer).change? = some change := by
  cases change <;> rfl

omit [DecidableEq R] in
@[simp]
theorem changes_call (answer : Except ε Unit) :
    changes (P.call observed change answer :: calls) = change :: changes calls := by
  cases change <;> rfl

omit [DecidableEq R] in
@[simp]
theorem observations_call (answer : Except ε Unit) :
    observations (P.call observed change answer :: calls) = observations calls := by
  cases change <;> rfl

theorem Execution.changes_prefix (h : P.Execution order failures observed steps applied calls result) :
    changes calls <+: steps := by
  induction h with
  | finished => exact List.prefix_rfl
  | refused => exact List.nil_prefix
  | stopped _ htail => simp [changes_observe, htail]
  | advance _ _ _ ih => simpa [changes_observe] using ih

theorem apply_perm (h : observed.Perm table) : (P.apply observed change).Perm (P.apply table change) := by
  cases change with
  | Upsert row => exact (h.filter _).append_right [row]
  | Remove row => exact h.filter _

theorem expected_perm (h : observed.Perm table) : (P.expected order observed change).Perm (P.apply table change) := by
  cases change with
  | Upsert row => exact (snapshot_perm _).trans (apply_perm h)
  | Remove row =>
    change (P.apply observed (.Remove row)).Perm _
    exact apply_perm h

/-- Every change follows an observation of what the earlier changes had to produce, and is made on it. -/
theorem Execution.current (h : P.Execution order failures observed steps applied calls result)
    (hobserved : observed.Perm table) (hcalls : calls = before ++ call :: after)
    (hchange : call.change? = some change) :
    ∃ earlier actual answer, before = earlier ++ [.Observe (.ok actual)] ∧
      call = P.call (snapshot order actual) change answer ∧ actual.Perm (P.apply_all table (changes before)) := by
  induction h generalizing before table with
  | finished => simp at hcalls
  | refused =>
    obtain ⟨later, rfl, hlater⟩ := observe_split hchange hcalls
    simp at hlater
  | @stopped observed actual _ _ _ answer tail _ hactual htail =>
    obtain ⟨rfl, rfl, -⟩ | ⟨later, -, rfl⟩ := round_split hchange hcalls
    · rw [change?_call, Option.some.injEq] at hchange
      subst hchange
      exact ⟨[], actual, answer, rfl, by rw [hactual], (snapshot_perm actual).symm.trans (hactual ▸ hobserved)⟩
    · simp [changes_append_cons hchange] at htail
  | @advance observed actual post first _ _ _ _ hactual hpost _ ih =>
    obtain ⟨rfl, rfl, -⟩ | ⟨later, rfl, hlater⟩ := round_split hchange hcalls
    · rw [change?_call, Option.some.injEq] at hchange
      subst hchange
      exact ⟨[], actual, .ok (), rfl, by rw [hactual], (snapshot_perm actual).symm.trans (hactual ▸ hobserved)⟩
    · obtain ⟨inner, rfl, hinner⟩ := observe_split hchange hlater
      obtain ⟨earlier, seen, answer, rfl, hcall, hseen⟩ := ih (hpost ▸ expected_perm hobserved) hinner
      refine ⟨.Observe (.ok actual) :: P.call observed first (.ok ()) :: .Observe (.ok post) :: earlier, seen, answer,
        rfl, hcall, ?_⟩
      simpa [apply_all, changes_observe] using hseen

omit [DecidableEq R] in
theorem Valid.previous_eq_some (h : P.Valid desired table) (hobserved : observed.Perm table) {row found : R} :
    P.previous observed row = some found ↔ found ∈ table ∧ P.owned found = true ∧ P.key found = P.key row := by
  have hmem : ∀ other, other ∈ observed ↔ other ∈ table := fun other => hobserved.mem_iff
  constructor
  · intro hfound
    have hmatch := List.find?_some hfound
    rw [Bool.and_eq_true, decide_eq_true_eq] at hmatch
    exact ⟨(hmem found).mp (List.mem_of_find?_eq_some hfound), hmatch⟩
  · rintro ⟨hfound, howned, hkey⟩
    have hsome : (P.previous observed row).isSome := by
      refine List.find?_isSome.mpr ⟨found, (hmem found).mpr hfound, ?_⟩
      rw [Bool.and_eq_true, decide_eq_true_eq]
      exact ⟨howned, hkey⟩
    obtain ⟨other, hother⟩ := Option.isSome_iff_exists.mp hsome
    have hmatch := List.find?_some hother
    rw [Bool.and_eq_true, decide_eq_true_eq] at hmatch
    have hsame := (h.getElem?_existing.mpr ⟨(hmem other).mp (List.mem_of_find?_eq_some hother), hmatch⟩).symm.trans
      (h.getElem?_existing.mpr ⟨hfound, howned, hkey⟩)
    rw [hother, hsame]

/-- Loops that end normally have last observed what all the steps had to produce. -/
theorem Execution.last_observation {report : Report R} {last : List R}
    (h : P.Execution order failures observed steps applied calls (.ok report)) (hobserved : observed.Perm table)
    (hlast : last.Perm observed) :
    ((observations calls).getLast?.getD last).Perm (P.apply_all table steps) := by
  generalize hresult : Except.ok report = result at h
  induction h generalizing table last with
  | finished => exact hlast.trans hobserved
  | refused | stopped => cases hresult
  | @advance observed actual post change _ _ calls _ hactual hpost _ ih =>
    have hnext := ih (hpost ▸ expected_perm hobserved) (snapshot_perm post).symm hresult
    rw [observations_observe, observations_call, observations_observe, List.getLast?_cons, List.getLast?_cons]
    exact hnext

/-- What a backend may rely on, whatever it answers: the calls made to it for a plan from its first
observation. -/
structure Gated (P : Policy R K ε) (desired first : List R) (steps : List (Change R)) (calls : List (Call R ε))
    (result : Except ε (Report R)) : Prop where
  in_order : changes calls <+: steps
  current : ∀ before call after change, calls = before ++ call :: after → call.change? = some change →
    ∃ earlier actual, before = earlier ++ [.Observe (.ok actual)] ∧ actual.Perm (P.apply_all first (changes before))
  replaced : ∀ before actual previous replacement answer after,
    calls = before ++ .Observe (.ok actual) :: .Replace previous replacement answer :: after →
      ∀ row, previous = some row ↔ row ∈ actual ∧ P.owned row = true ∧ P.key row = P.key replacement
  finished : ∀ report, result = .ok report → ∃ last, (observations calls).getLast? = some last ∧
    (last.filter P.owned).Perm desired ∧
    (last.filter fun row => !P.owned row).Perm (first.filter fun row => !P.owned row)

/-- What an execution does with a backend: it does nothing where it cannot observe or plan. -/
def Supervised (P : Policy R K ε) (plan : List R → List R → Except ε (Plan R)) (desired : List R)
    (calls : List (Call R ε)) (result : Except ε (Report R)) : Prop :=
  (∃ e, calls = [.Observe (.error e)] ∧ result = .error e) ∨
    (∃ first e, calls = [.Observe (.ok first)] ∧ plan desired first = .error e ∧ result = .error e) ∨
    ∃ first p rest, calls = .Observe (.ok first) :: rest ∧ plan desired first = .ok p ∧
      P.Gated desired first p.steps calls result

theorem Execution.gated {first : List R} (hlawful : P.Lawful) (hvalid : P.Valid desired first)
    (h : P.Execution order failures (snapshot order first) (P.steps desired first) [] calls result) :
    P.Gated desired first (P.steps desired first) (.Observe (.ok first) :: calls) result := by
  have hsnapshot : (snapshot order first).Perm first := snapshot_perm first
  have hloop : ∀ {before call after change}, .Observe (.ok first) :: calls = before ++ call :: after →
      call.change? = some change → ∃ earlier actual answer, before = earlier ++ [.Observe (.ok actual)] ∧
        call = P.call (snapshot order actual) change answer ∧ actual.Perm (P.apply_all first (changes before)) := by
    intro before call after change hcalls hchange
    obtain ⟨later, rfl, hlater⟩ := observe_split hchange hcalls
    obtain ⟨earlier, actual, answer, rfl, hcall, hactual⟩ := h.current hsnapshot hlater hchange
    exact ⟨.Observe (.ok first) :: earlier, actual, answer, rfl, hcall, hactual⟩
  have hinorder : changes (.Observe (.ok first) :: calls) <+: P.steps desired first := h.changes_prefix
  refine ⟨hinorder, fun before call after change hcalls hchange => ?_, ?_, fun report hreport => ?_⟩
  · obtain ⟨earlier, actual, -, hbefore, -, hactual⟩ := hloop hcalls hchange
    exact ⟨earlier, actual, hbefore, hactual⟩
  · intro before actual previous replacement answer after hcalls row
    have hsplit : .Observe (.ok first) :: calls =
        (before ++ [.Observe (.ok actual)]) ++ .Replace previous replacement answer :: after := by
      simpa using hcalls
    obtain ⟨earlier, seen, given, hbefore, hcall, hactual⟩ := hloop hsplit rfl
    obtain ⟨-, hlast⟩ := List.append_inj' hbefore rfl
    cases hlast
    cases hcall
    have htake := changes_eq_take hinorder hsplit rfl
    rw [htake] at hactual
    rw [(hvalid.run hlawful _).1.previous_eq_some ((snapshot_perm actual).trans hactual), hactual.mem_iff]
  · subst hreport
    have hlast := h.last_observation hsnapshot hsnapshot.symm
    obtain ⟨hfinal, hsteps, hforeign⟩ := hvalid.run hlawful (P.steps desired first).length
    rw [List.take_length] at hfinal hsteps hforeign
    rw [List.drop_length] at hsteps
    refine ⟨_, List.getLast?_cons, (hlast.filter _).trans (hfinal.perm_of_steps_eq_nil hsteps), ?_⟩
    rw [← hforeign]
    exact hlast.filter _

/-- Whatever the backend answers, an execution only makes changes that its last observation allows.
The log does not change what it does. -/
theorem Lawful.supervised {σ : Type} (hlawful : P.Lawful) (failures : Failures ε) (desired : List R)
    (operator : Operator R ε σ) (s : σ) :
    ∃ result after calls, P.execute order failures P.plan desired operator s = (result, after) ∧
      P.execute order failures P.plan desired (traced operator) (s, []) = (result, after, calls) ∧
      P.Supervised P.plan desired calls result := by
  unfold execute
  rw [observe_traced]
  rcases hobserve : operator.observe s with ⟨e | first, s₁⟩
  · exact ⟨_, _, _, rfl, rfl, .inl ⟨e, rfl, rfl⟩⟩
  dsimp only
  rcases hplan : P.plan desired first with e | p
  · exact ⟨_, _, _, rfl, rfl, .inr (.inl ⟨first, e, rfl, hplan, rfl⟩)⟩
  · obtain ⟨hvalid, rfl⟩ := plan_eq_ok_iff.mp hplan
    obtain ⟨result, after, made, hplain, htraced, hexecution⟩ :=
      execute_steps_traced P order failures operator (P.steps desired first) (snapshot order first) [] s₁
        [.Observe (.ok first)]
    exact ⟨result, after, .Observe (.ok first) :: made, hplain, htraced,
      .inr (.inr ⟨first, _, made, rfl, hplan, hexecution.gated hlawful hvalid⟩)⟩

end Policy

end Reconcile
