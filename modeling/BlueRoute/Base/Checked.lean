import Mathlib

/-! Machine arithmetic that stops where it would overflow. -/

namespace Checked

/-- Why a computation stops: an operation overflows, which a checked one reports as an error, or
an error is returned. -/
inductive Fault (ε : Type) where
  | overflow (reported : Option ε)
  | error (error : ε)

variable {ε α β : Type} {w : Nat}

def shl (word : BitVec w) (amount : Nat) (reported : Option ε) : Except (Fault ε) (BitVec w) :=
  if amount < w then .ok (word <<< amount) else .error (.overflow reported)

def add (left right : BitVec w) (reported : Option ε) : Except (Fault ε) (BitVec w) :=
  if left.toNat + right.toNat < 2 ^ w then .ok (left + right) else .error (.overflow reported)

def sub (left right : Nat) : Except (Fault ε) Nat :=
  if right ≤ left then .ok (left - right) else .error (.overflow none)

/-- A computation that has no operation of that kind. -/
def lift (x : Except ε α) : Except (Fault ε) α := x.mapError .error

/-- Whether an error is returned. An overflow is not one. -/
def is_err : Except (Fault ε) α → Except (Fault ε) Bool
  | .ok _ => .ok false
  | .error (.error _) => .ok true
  | .error (.overflow reported) => .error (.overflow reported)

/-- No operation has overflowed. -/
def Calm (x : Except (Fault ε) α) : Prop := ∀ reported, x ≠ .error (.overflow reported)

theorem calm_ok (a : α) : Calm (.ok a : Except (Fault ε) α) := by
  intro reported h
  cases h

theorem calm_error (e : ε) : Calm (.error (.error e) : Except (Fault ε) α) := by
  intro reported h
  cases h

theorem calm_lift (x : Except ε α) : Calm (lift x) := by
  cases x with
  | error e => exact calm_error e
  | ok a => exact calm_ok a

variable {x : Except (Fault ε) α}

theorem Calm.ne_overflow {fault : Fault ε} (h : Calm x) (hx : x = .error fault) (reported : Option ε) :
    fault ≠ .overflow reported := by
  rintro rfl
  exact h reported hx

theorem Calm.bind {f : α → Except (Fault ε) β} (hx : Calm x) (hf : ∀ a, x = .ok a → Calm (f a)) : Calm (x >>= f) := by
  cases x with
  | error fault =>
    intro reported h
    exact hx reported (congrArg Except.error (Except.error.inj h))
  | ok a => exact hf a rfl

theorem Calm.of_ok {f : α → Except (Fault ε) β} {a : α} (hx : x = .ok a) (hf : Calm (f a)) : Calm (x >>= f) := by
  subst hx
  exact hf

theorem Calm.is_err_eq (h : Calm x) : (∃ a, x = .ok a ∧ is_err x = .ok false) ∨ is_err x = .ok true := by
  match x with
  | .ok a => exact .inl ⟨a, rfl, rfl⟩
  | .error (.error e) => exact .inr rfl
  | .error (.overflow reported) => exact absurd rfl (h reported)

theorem lift_bind (x : Except ε α) (f : α → Except ε β) : lift (x >>= f) = lift x >>= fun a => lift (f a) := by
  cases x <;> rfl

theorem lift_eq_ok_iff {x : Except ε α} {a : α} : lift x = .ok a ↔ x = .ok a := by
  cases x <;> simp [lift, Except.mapError]

theorem shl_eq_ok {word : BitVec w} {amount : Nat} {reported : Option ε} (hamount : amount < w) :
    shl word amount reported = .ok (word <<< amount) :=
  if_pos hamount

theorem add_eq_ok {left right : BitVec w} {reported : Option ε} (hfits : left.toNat + right.toNat < 2 ^ w) :
    add left right reported = .ok (left + right) :=
  if_pos hfits

theorem sub_eq_ok {left right : Nat} (hle : right ≤ left) :
    (sub left right : Except (Fault ε) Nat) = .ok (left - right) :=
  if_pos hle

end Checked
