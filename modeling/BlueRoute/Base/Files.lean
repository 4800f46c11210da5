import BlueRoute.Base.Interact

/-! Files with names and handles. Each operation is one step; it may fail without any effect, and a
write may stop after a part of its data. -/

namespace Files

open Interact

inductive Failure where
  | NotFound
  | AlreadyExists
  | Other (text : String)
deriving DecidableEq

/-- The message of the operating system. -/
def Failure.to_string : Failure → String
  | NotFound => "No such file or directory (os error 2)"
  | AlreadyExists => "File exists (os error 17)"
  | Other text => text

structure Metadata where
  is_file : Bool
  mode : Nat

inductive Request (π β : Type) where
  | inspect (path : π)
  | secure (path : π)
  | read (path : π)
  | make_parent (path : π)
  | create_new (path : π)
  | write (handle : Nat) (data : List β)
  | sync (handle : Nat)
  | remove (path : π)

variable {π β : Type}

def Request.Answer : Request π β → Type
  | inspect _ => Except Failure Metadata
  | read _ => Except Failure (List β)
  | create_new _ | write _ _ => Except Failure Nat
  | secure _ | make_parent _ | sync _ | remove _ => Except Failure Unit

/-- An operation that failed, and not because its file is there or is not. -/
def Request.Fails : (request : Request π β) → request.Answer → Prop
  | inspect _, answer | read _, answer | create_new _, answer | write _ _, answer | secure _, answer
  | make_parent _, answer | sync _, answer | remove _, answer => ∃ text, answer = .error (.Other text)

/-- The names of the files and what the files hold. A handle is the number of a file, whatever
becomes of its names. -/
structure Disk (π β : Type) where
  names : π → Option Nat
  data : Nat → List β
  next : Nat
  known : ∀ path file, names path = some file → file < next

namespace Disk

variable (disk : Disk π β) (path : π)

/-- What the file of a name holds. -/
def contents (path : π) : Option (List β) := (disk.names path).map disk.data

variable [DecidableEq π]

def create (path : π) : Disk π β where
  names := Function.update disk.names path (some disk.next)
  data := Function.update disk.data disk.next []
  next := disk.next + 1
  known := by
    intro other file hfile
    by_cases hsame : other = path
    · subst hsame
      rw [Function.update_self] at hfile
      cases hfile
      exact Nat.lt_succ_self _
    · rw [Function.update_of_ne hsame] at hfile
      exact Nat.lt_succ_of_lt (disk.known other file hfile)

omit [DecidableEq π] in
def append (handle : Nat) (data : List β) : Disk π β :=
  { disk with data := Function.update disk.data handle (disk.data handle ++ data) }

def unlink (path : π) : Disk π β where
  names := Function.update disk.names path none
  data := disk.data
  next := disk.next
  known := by
    intro other file hfile
    by_cases hsame : other = path
    · subst hsame
      rw [Function.update_self] at hfile
      cases hfile
    · rw [Function.update_of_ne hsame] at hfile
      exact disk.known other file hfile

theorem names_create : (disk.create path).names path = some disk.next := Function.update_self _ _ _

theorem data_create : (disk.create path).data disk.next = [] := Function.update_self _ _ _

@[simp]
theorem contents_create : (disk.create path).contents path = some [] := by
  simp [contents, create]

@[simp]
theorem contents_unlink : (disk.unlink path).contents path = none := by
  simp [contents, unlink]

omit [DecidableEq π] in
theorem contents_eq_none_iff {disk : Disk π β} {path : π} : disk.contents path = none ↔ disk.names path = none :=
  Option.map_eq_none_iff

omit [DecidableEq π] in
theorem contents_of_names {disk : Disk π β} {path : π} {file : Nat} (h : disk.names path = some file) :
    disk.contents path = some (disk.data file) := by
  rw [contents, h]
  rfl

omit [DecidableEq π] in
theorem contents_append {path : π} {handle : Nat} (data : List β) (h : disk.names path = some handle) :
    (disk.append handle data).contents path = some (disk.data handle ++ data) := by
  rw [contents_of_names (show (disk.append handle data).names path = some handle from h)]
  simp [append]

end Disk

section Serves

variable [DecidableEq π]

/-- How a disk answers, and what becomes of it. -/
def Serves (disk : Disk π β) : (request : Request π β) → request.Answer → Disk π β → Prop
  | .inspect path, answer, next => next = disk ∧
    match answer with
    | .ok metadata => disk.names path ≠ none ∧ metadata.is_file = true
    | .error .NotFound => disk.names path = none
    | .error .AlreadyExists => False
    | .error (.Other _) => True
  | .secure path, answer, next => next = disk ∧
    match answer with
    | .ok () => disk.names path ≠ none
    | .error .NotFound => disk.names path = none
    | .error .AlreadyExists => False
    | .error (.Other _) => True
  | .read path, answer, next => next = disk ∧
    match answer with
    | .ok data => disk.contents path = some data
    | .error .NotFound => disk.names path = none
    | .error .AlreadyExists => False
    | .error (.Other _) => True
  | .make_parent _, answer, next | .sync _, answer, next => next = disk ∧
    match answer with
    | .ok () | .error (.Other _) => True
    | .error _ => False
  | .create_new path, answer, next =>
    match answer with
    | .ok handle => disk.names path = none ∧ handle = disk.next ∧ next = disk.create path
    | .error .AlreadyExists => disk.names path ≠ none ∧ next = disk
    | .error .NotFound => False
    | .error (.Other _) => next = disk
  | .write handle data, answer, next =>
    match answer with
    | .ok count => 0 < count ∧ count ≤ data.length ∧ next = disk.append handle (data.take count)
    | .error (.Other _) => next = disk
    | .error _ => False
  | .remove path, answer, next =>
    match answer with
    | .ok () => disk.names path ≠ none ∧ next = disk.unlink path
    | .error .NotFound => disk.names path = none ∧ next = disk
    | .error .AlreadyExists => False
    | .error (.Other _) => next = disk

/-- The answers of a disk on which nothing goes wrong. -/
def serve [DecidableEq β] (disk : Disk π β) : (request : Request π β) → request.Answer × Disk π β
  | .inspect path =>
    match disk.names path with
    | some _ => (.ok ⟨true, 0o600⟩, disk)
    | none => (.error .NotFound, disk)
  | .secure path =>
    match disk.names path with
    | some _ => (.ok (), disk)
    | none => (.error .NotFound, disk)
  | .read path =>
    match disk.names path with
    | some file => (.ok (disk.data file), disk)
    | none => (.error .NotFound, disk)
  | .make_parent _ | .sync _ => (.ok (), disk)
  | .create_new path =>
    match disk.names path with
    | some _ => (.error .AlreadyExists, disk)
    | none => (.ok disk.next, disk.create path)
  | .write handle data =>
    if data = [] then (.error (.Other "write zero"), disk) else (.ok data.length, disk.append handle data)
  | .remove path =>
    match disk.names path with
    | some _ => (.ok (), disk.unlink path)
    | none => (.error .NotFound, disk)

theorem serves_serve [DecidableEq β] (disk : Disk π β) (request : Request π β) :
    Serves disk request (serve disk request).1 (serve disk request).2 := by
  cases request with
  | inspect path | secure path | create_new path | remove path =>
    cases hfile : disk.names path with
    | none => simp [serve, Serves, hfile]
    | some file => simp [serve, Serves, hfile]
  | read path =>
    cases hfile : disk.names path with
    | none => simp [serve, Serves, hfile]
    | some file => simp [serve, Serves, hfile, Disk.contents]
  | make_parent _ | sync _ => exact ⟨rfl, trivial⟩
  | write handle data =>
    by_cases hempty : data = []
    · simp [serve, Serves, hempty]
    · simp [serve, Serves, hempty, List.length_pos_iff]

end Serves

/-- `write_all`: parts of the data are written until nothing is left. A part is never empty, so the
length of the data is fuel enough. -/
def write_all {ι : Interface} (write : List β → Prog ι (Except Failure Nat)) :
    Nat → List β → Prog ι (Except Failure Unit)
  | 0, _ => .ret (.ok ())
  | _ + 1, [] => .ret (.ok ())
  | fuel + 1, byte :: rest =>
    (write (byte :: rest)).bind fun
      | .ok count => write_all write fuel ((byte :: rest).drop count)
      | .error failure => .ret (.error failure)

/-- What holds after a part of the data was written, or could not be. -/
def AfterPart {σ : Type} (Inv : List β → σ → Prop) (Failed : σ → Prop) (data : List β) : Except Failure Nat → σ → Prop
  | .ok count, t => 0 < count ∧ Inv (data.drop count) t
  | .error _, t => Failed t

/-- What holds when nothing is left, or a part could not be written. -/
def AfterAll {σ : Type} (Inv : List β → σ → Prop) (Failed : σ → Prop) : Except Failure Unit → σ → Prop
  | .ok _, t => Inv [] t
  | .error _, t => Failed t

theorem write_all_safe {ι : Interface} {σ : Type} {W : World ι σ} {Guard : σ → ι.Request → Prop}
    {write : List β → Prog ι (Except Failure Nat)} {Inv : List β → σ → Prop} {Failed : σ → Prop}
    (hwrite : ∀ data s, data ≠ [] → Inv data s → Safe W Guard (AfterPart Inv Failed data) (write data) s) :
    ∀ fuel data s, data.length ≤ fuel → Inv data s →
      Safe W Guard (AfterAll Inv Failed) (write_all write fuel data) s := by
  intro fuel
  induction fuel with
  | zero =>
    intro data s hfuel hinv
    obtain rfl : data = [] := List.length_eq_zero_iff.mp (by omega)
    exact hinv
  | succ fuel ih =>
    intro data s hfuel hinv
    cases data with
    | nil => exact hinv
    | cons byte rest =>
      refine Safe.bind_iff.mpr ((hwrite (byte :: rest) s (List.cons_ne_nil _ _) hinv).mono fun answer t hanswer => ?_)
      cases answer with
      | error failure => exact hanswer
      | ok count =>
        refine ih _ t ?_ hanswer.2
        have hpositive := hanswer.1
        rw [List.length_drop]
        rw [List.length_cons] at hfuel ⊢
        omega

end Files
