import Mathlib

namespace Fallible

variable {ε α β : Type}

/-- An early return with an error when a check fails. -/
def reject_if (bad : Prop) [Decidable bad] (e : ε) : Except ε Unit :=
  if bad then .error e else .ok ()

variable {u : Unit} {a : α} {x : Except ε α} {f : α → Except ε β} {l : List α}

@[simp]
theorem reject_if_eq_ok {bad : Prop} [Decidable bad] {e : ε} : reject_if bad e = .ok u ↔ ¬ bad := by
  unfold reject_if
  split <;> simp_all

/-- A check that is made only under a condition. -/
def check_when (flag : Bool) (check : Except ε Unit) : Except ε Unit :=
  if flag then check else .ok ()

@[simp]
theorem check_when_eq_ok {flag : Bool} {check : Except ε Unit} :
    check_when flag check = .ok u ↔ (flag = true → check = .ok ()) := by
  cases flag <;> simp [check_when]

/-- The value of an option, or an early return with an error. -/
def ok_or (value : Option α) (e : ε) : Except ε α :=
  match value with
  | some a => .ok a
  | none => .error e

@[simp]
theorem ok_or_eq_ok {value : Option α} {e : ε} : ok_or value e = .ok a ↔ value = some a := by
  cases value <;> simp [ok_or]

@[simp]
theorem mapError_eq_ok {ε' : Type} {f : ε → ε'} : x.mapError f = .ok a ↔ x = .ok a := by
  cases x <;> simp [Except.mapError]

theorem toOption_eq_some_iff : x.toOption = some a ↔ x = .ok a := by
  cases x <;> simp [Except.toOption]

theorem toOption_eq_none_iff : x.toOption = none ↔ ∃ error, x = .error error := by
  cases x <;> simp [Except.toOption]

theorem bind_eq_ok_iff {b : β} : (x >>= f) = .ok b ↔ ∃ a, x = .ok a ∧ f a = .ok b := by
  cases x <;> simp [Bind.bind, Except.bind]

/-- A loop of checks that returns at the first failing one. -/
def check_each (check : α → Except ε Unit) : List α → Except ε Unit
  | [] => .ok ()
  | a :: rest => check a >>= fun _ => check_each check rest

theorem check_each_eq_ok_iff {check : α → Except ε Unit} :
    check_each check l = .ok u ↔ ∀ a ∈ l, check a = .ok () := by
  induction l with
  | nil => simp [check_each]
  | cons a rest ih =>
    rw [check_each, bind_eq_ok_iff]
    simp only [ih, List.mem_cons, forall_eq_or_imp]
    exact ⟨fun ⟨_, ha, hrest⟩ => ⟨ha, hrest⟩, fun ⟨ha, hrest⟩ => ⟨(), ha, hrest⟩⟩

/-- What a loop that maps a fallible call over a list returns: the results of the calls, none
of which has failed. -/
theorem mem_of_mapM_eq_ok {results : List β} (h : l.mapM f = .ok results) :
    (∀ a ∈ l, ∃ b ∈ results, f a = .ok b) ∧ ∀ b ∈ results, ∃ a ∈ l, f a = .ok b := by
  induction l generalizing results with
  | nil =>
    obtain rfl := Except.ok.inj h
    simp
  | cons a rest ih =>
    simp only [List.mapM_cons, bind_eq_ok_iff] at h
    obtain ⟨b, hb, bs, hbs, hresults⟩ := h
    obtain rfl := Except.ok.inj hresults
    obtain ⟨hforward, hbackward⟩ := ih hbs
    simp only [List.mem_cons, forall_eq_or_imp]
    refine ⟨⟨⟨b, .inl rfl, hb⟩, fun x hx => ?_⟩, ⟨a, .inl rfl, hb⟩, fun y hy => ?_⟩
    · obtain ⟨y, hy, hxy⟩ := hforward x hx
      exact ⟨y, .inr hy, hxy⟩
    · obtain ⟨x, hx, hxy⟩ := hbackward y hy
      exact ⟨x, .inr hx, hxy⟩

theorem mapM_eq_ok_map {g : α → β} (h : ∀ a ∈ l, f a = .ok (g a)) : l.mapM f = .ok (l.map g) := by
  induction l with
  | nil => rfl
  | cons a rest ih =>
    rw [List.mapM_cons, h a List.mem_cons_self, ih fun b hb => h b (List.mem_cons_of_mem _ hb)]
    rfl

/-- A fallible fold succeeds from one state to another through the state that
its first element leads to. -/
theorem foldlM_cons_eq_ok_iff {f : β → α → Except ε β} {rest : List α} {init final : β} :
    (a :: rest).foldlM f init = .ok final ↔
      ∃ middle, f init a = .ok middle ∧ rest.foldlM f middle = .ok final := by
  rw [List.foldlM_cons, bind_eq_ok_iff]

end Fallible
