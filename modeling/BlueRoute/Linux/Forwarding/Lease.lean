import BlueRoute.Linux.Forwarding

open Fallible

namespace blueroute_linux.forwarding

open blueroute Interact Files Runs ForwardingLease

/-- Who changed the kernel control, and the lease that BlueRoute held then. -/
inductive Author where
  | External
  | BlueRoute (lease : Option ForwardingLease)
deriving DecidableEq

/-- The kernel control and the files. -/
structure Host where
  sysctl : Bool
  disk : Disk String Char
  /-- History: who made the last change of the control from 0 to 1. -/
  enabler : Option Author

namespace Host

def write (host : Host) (author : Author) (value : Bool) : Host :=
  { host with
    sysctl := value
    enabler := if host.sysctl = false ∧ value = true then some author else host.enabler }

/-- What the lease file says, if there is one that can be read. -/
def recorded (host : Host) (path : String) : Option ForwardingLease :=
  (host.disk.contents path).bind fun text => (parse (String.ofList text)).toOption

end Host

/-- How the host answers. Any operation may fail without an effect, and the kernel may accept a write
that does not change its control. -/
def world (path : String) : World interface Host := fun host request answer next =>
  match request, answer with
  | .read_sysctl, .ok text => next = host ∧ text = if host.sysctl then "1\n" else "0\n"
  | .read_sysctl, .error (.Other _) => next = host
  | .read_sysctl, .error _ => False
  | .write_sysctl value, .ok () => next = host.write (.BlueRoute (host.recorded path)) value ∨ next = host
  | .write_sysctl _, .error (.Other _) => next = host
  | .write_sysctl _, .error _ => False
  | .file request, answer => ∃ disk, Serves host.disk request answer disk ∧ next = { host with disk }

/-- An operation that failed, and not because its file is there or is not. -/
def Fails : (request : Request) → request.Answer → Host → Prop
  | .read_sysctl, answer, _ => ∃ text, answer = .error (.Other text)
  | .write_sysctl value, answer, next => (∃ text, answer = .error (.Other text)) ∨ next.sysctl ≠ value
  | .file request, answer, _ => request.Fails answer

inductive Operation where
  | enable
  | release
deriving DecidableEq

def Operation.program (controller : ForwardingController) : Operation → ForwardingAction Unit
  | enable => controller.enable
  | release => controller.release

/-- The control is on because BlueRoute turned it on under a lease that found it off. -/
def Owned (host : Host) : Prop :=
  host.sysctl = true ∧ host.enabler = some (.BlueRoute (some { baseline := false }))

/-- What a call may ask for. -/
def Guard (path : String) (operation : Operation) (host : Host) : Request → Prop
  | .read_sysctl => True
  | .write_sysctl value =>
    match operation with
    | .enable => value = true ∧ host.recorded path ≠ none
    | .release => value = false ∧ host.recorded path = some { baseline := false }
  | .file (.write handle data) => operation = .enable ∧ host.disk.names path = some handle ∧
    ∃ lease : ForwardingLease, host.disk.data handle ++ data = lease.serialize.toList
  | .file (.create_new target) => operation = .enable ∧ target = path
  | .file (.remove target) => target = path ∧ ¬ Owned host
  | .file _ => True

/-- The lease file is a part of a lease at least, and what BlueRoute owns is recorded. -/
structure Sound (path : String) (host : Host) : Prop where
  text : ∀ text, host.disk.contents path = some text → ∃ lease : ForwardingLease, text <+: lease.serialize.toList
  named : ∀ lease, host.enabler = some (.BlueRoute lease) → lease ≠ none
  owned : Owned host → host.recorded path = some { baseline := false }

section Text

/-- All but the last newline of a lease are needed to read it, and then it is read as it was written. -/
theorem parse_take (lease : ForwardingLease) (n : Nat) (hn : n ≤ 20) :
    (parse (String.ofList (lease.serialize.toList.take n))).toOption =
      if 19 ≤ n then some lease else none := by
  obtain ⟨baseline⟩ := lease
  revert n baseline
  decide +kernel

theorem length_serialize (lease : ForwardingLease) : lease.serialize.toList.length = 20 := by
  obtain ⟨baseline⟩ := lease
  revert baseline
  decide

/-- A longer part of a lease is read like a shorter one. -/
theorem parse_longer {lease found : ForwardingLease} {shorter longer : List Char}
    (hlonger : longer <+: lease.serialize.toList) (hshorter : shorter <+: longer)
    (h : (parse (String.ofList shorter)).toOption = some found) :
    (parse (String.ofList longer)).toOption = some found := by
  have hlength := length_serialize lease
  have hmore := hlonger.length_le
  have hless := hshorter.length_le
  rw [List.prefix_iff_eq_take.mp (hshorter.trans hlonger), parse_take _ _ (by omega)] at h
  rw [List.prefix_iff_eq_take.mp hlonger, parse_take _ _ (by omega)]
  split at h
  · rw [if_pos (by omega)]
    exact h
  · cases h

theorem parse_value_text (path : String) (value : Bool) :
    parse_value path (if value then "1\n" else "0\n") = .ok value := by
  cases value with
  | false | true => rfl

end Text

section Step

variable {path : String} {operation : Operation} {host next : Host}

/-- What a guarded file operation can do to the lease file. -/
inductive LeaseChange (path : String) (operation : Operation) (host next : Host) : Prop where
  | same (hcontents : next.disk.contents path = host.disk.contents path)
  | created (hoperation : operation = .enable) (hbefore : host.disk.contents path = none)
      (hcontents : next.disk.contents path = some [])
  | extended (hoperation : operation = .enable) (before after : List Char) (lease : ForwardingLease)
      (hbefore : host.disk.contents path = some before) (hcontents : next.disk.contents path = some after)
      (hlonger : before <+: after) (htext : after <+: lease.serialize.toList)
  | removed (howned : ¬ Owned host) (hcontents : next.disk.contents path = none)

theorem lease_change {request : Files.Request String Char} {answer : request.Answer} {disk : Disk String Char}
    (hguard : Guard path operation host (.file request)) (h : Serves host.disk request answer disk) :
    LeaseChange path operation host { host with disk } := by
  cases request with
  | inspect target | secure target | read target | make_parent target | sync handle =>
    rw [h.1]
    exact .same rfl
  | create_new target =>
    obtain ⟨hoperation, rfl⟩ := hguard
    rcases answer with (_ | _ | text) | handle
    · exact h.elim
    · rw [h.2]
      exact .same rfl
    · rw [show disk = host.disk from h]
      exact .same rfl
    · obtain ⟨hnone, -, rfl⟩ := h
      exact .created hoperation (Disk.contents_eq_none_iff.mpr hnone) (Disk.contents_create _ _)
  | write handle data =>
    obtain ⟨hoperation, hnames, lease, htext⟩ := hguard
    rcases answer with (_ | _ | text) | count
    · exact h.elim
    · exact h.elim
    · rw [show disk = host.disk from h]
      exact .same rfl
    · obtain ⟨-, -, rfl⟩ := h
      refine .extended hoperation _ _ lease (Disk.contents_of_names hnames) (Disk.contents_append _ _ hnames)
        (List.prefix_append _ _) ?_
      rw [← htext]
      exact (List.prefix_append_right_inj _).mpr <| List.take_prefix _ _
  | remove target =>
    obtain ⟨rfl, howned⟩ := hguard
    rcases answer with (_ | _ | text) | _
    · rw [h.2]
      exact .same rfl
    · exact h.elim
    · rw [show disk = host.disk from h]
      exact .same rfl
    · obtain ⟨-, rfl⟩ := h
      exact .removed howned (Disk.contents_unlink _ _)

theorem Host.recorded_congr (h : next.disk.contents path = host.disk.contents path) :
    next.recorded path = host.recorded path := by
  rw [Host.recorded, Host.recorded, h]

/-- A recorded baseline is kept as long as there is a lease file. -/
theorem LeaseChange.recorded (h : LeaseChange path operation host next) {lease : ForwardingLease}
    (hrecorded : host.recorded path = some lease) :
    next.recorded path = some lease ∨ next.disk.contents path = none := by
  cases h with
  | same hcontents => exact .inl ((Host.recorded_congr hcontents).trans hrecorded)
  | created _ hbefore _ =>
    rw [Host.recorded, hbefore] at hrecorded
    cases hrecorded
  | extended _ before after written hbefore hcontents hlonger htext =>
    rw [Host.recorded, hbefore] at hrecorded
    refine .inl ?_
    rw [Host.recorded, hcontents]
    exact parse_longer htext hlonger hrecorded
  | removed _ hcontents => exact .inr hcontents

theorem Sound.file (h : Sound path host) {disk : Disk String Char}
    (hchange : LeaseChange path operation host { host with disk }) : Sound path { host with disk } := by
  refine ⟨fun text htext => ?_, h.named, fun howned => ?_⟩
  · cases hchange with
    | same hcontents => exact h.text text (hcontents.symm.trans htext)
    | created _ _ hcontents =>
      obtain rfl := Option.some.inj (hcontents.symm.trans htext)
      exact ⟨{ baseline := false }, List.nil_prefix⟩
    | extended _ before after lease _ hcontents _ hinitial =>
      obtain rfl := Option.some.inj (hcontents.symm.trans htext)
      exact ⟨lease, hinitial⟩
    | removed _ hcontents =>
      rw [hcontents] at htext
      cases htext
  · have hbefore : Owned host := howned
    have hrecorded := h.owned hbefore
    obtain hkept | hgone := hchange.recorded hrecorded
    · exact hkept
    · cases hchange with
      | same hcontents => exact (Host.recorded_congr hcontents).trans hrecorded
      | created _ _ hcontents | extended _ _ _ _ _ hcontents _ _ =>
        rw [hcontents] at hgone
        cases hgone
      | removed hnot _ => exact absurd hbefore hnot

/-- Guarded requests keep the invariant. -/
theorem Sound.step (h : Sound path host) {request : Request} {answer : request.Answer}
    (hguard : Guard path operation host request) (hstep : world path host request answer next) : Sound path next := by
  cases request with
  | read_sysctl =>
    rcases answer with (_ | _ | text) | text
    · exact hstep.elim
    · exact hstep.elim
    · rw [show next = host from hstep]
      exact h
    · rw [hstep.1]
      exact h
  | write_sysctl value =>
    rcases answer with (_ | _ | text) | _
    · exact hstep.elim
    · exact hstep.elim
    · rw [show next = host from hstep]
      exact h
    · obtain rfl | rfl : next = host.write (.BlueRoute (host.recorded path)) value ∨ next = host := hstep
      swap
      · exact h
      cases operation with
      | enable =>
        obtain ⟨rfl, hrecorded⟩ := hguard
        cases hsysctl : host.sysctl with
        | false =>
          have henabler : (host.write (.BlueRoute (host.recorded path)) true).enabler =
              some (.BlueRoute (host.recorded path)) := by simp [Host.write, hsysctl]
          refine ⟨h.text, fun lease hlease => ?_, fun howned => ?_⟩
          · cases henabler.symm.trans hlease
            exact hrecorded
          · have hsame := henabler.symm.trans howned.2
            simp only [Option.some.injEq, Author.BlueRoute.injEq] at hsame
            exact hsame
        | true =>
          have henabler : (host.write (.BlueRoute (host.recorded path)) true).enabler = host.enabler := by
            simp [Host.write, hsysctl]
          exact ⟨h.text, fun lease hlease => h.named lease (henabler.symm.trans hlease),
            fun howned => h.owned ⟨hsysctl, henabler.symm.trans howned.2⟩⟩
      | release =>
        obtain ⟨rfl, -⟩ := hguard
        refine ⟨h.text, fun lease hlease => h.named lease ?_, fun howned => ?_⟩
        · simpa [Host.write] using hlease
        · cases howned.1
  | file request =>
    obtain ⟨disk, hserves, rfl⟩ := hstep
    exact h.file (lease_change hguard hserves)

end Step

section Calls

variable {path : String} {clean : Prop} {operation : Operation} {host : Host}

/-- The host, in which nothing fails if that is asked for. -/
abbrev host_world (path : String) (clean : Prop) : World interface Host := fun s request answer t =>
  world path s request answer t ∧ (clean → ¬ Fails request answer t)

/-- The host between sound states. -/
abbrev sound_world (path : String) (clean : Prop) : World interface Host := fun s request answer t =>
  host_world path clean s request answer t ∧ Sound path s ∧ Sound path t

theorem read_forwarding_value_safe (control : String) :
    Safe (sound_world path clean) (Guard path operation)
      (fun result t => t = host ∧ (∀ value, result = .ok value → value = host.sysctl) ∧ (clean → result.isOk))
      (read_forwarding_value control) host := by
  refine ⟨trivial, fun answer t hstep => ?_⟩
  obtain ⟨⟨hstep, hclean⟩, -⟩ := hstep
  rcases answer with (_ | _ | text) | text
  · exact hstep.elim
  · exact hstep.elim
  · exact ⟨hstep, nofun, fun h => absurd ⟨text, rfl⟩ (hclean h)⟩
  · obtain ⟨rfl, rfl⟩ := hstep
    have hvalue := parse_value_text control t.sysctl
    refine ⟨rfl, fun value hresult => (Except.ok.inj (hvalue.symm.trans hresult)).symm, fun _ => ?_⟩
    exact hvalue ▸ rfl

theorem write_forwarding_value_safe (control : String) {value : Bool} (hne : host.sysctl ≠ value)
    (hguard : Guard path operation host (.write_sysctl value)) :
    Safe (sound_world path clean) (Guard path operation)
      (fun result t => (result = .ok () ∧ t = host.write (.BlueRoute (host.recorded path)) value) ∨
        (¬ clean ∧ t = host)) (write_forwarding_value control value) host := by
  refine ⟨hguard, fun answer t hstep => ?_⟩
  obtain ⟨⟨hstep, hclean⟩, -⟩ := hstep
  rcases answer with (_ | _ | text) | _
  · exact hstep.elim
  · exact hstep.elim
  · exact .inr ⟨fun h => hclean h (.inl ⟨text, rfl⟩), hstep⟩
  · obtain hwritten | rfl : t = host.write (.BlueRoute (host.recorded path)) value ∨ t = host := hstep
    · exact .inl ⟨rfl, hwritten⟩
    · exact .inr ⟨fun h => hclean h (.inr hne), rfl⟩

theorem secure_lease_safe (mode : Nat) (hnames : host.disk.names path ≠ none) :
    Safe (sound_world path clean) (Guard path operation) (fun result t => t = host ∧ (clean → result.isOk))
      (secure_lease path mode) host := by
  unfold secure_lease
  split
  · exact ⟨rfl, fun _ => rfl⟩
  · refine ⟨trivial, fun answer t hstep => ?_⟩
    obtain ⟨⟨⟨disk, ⟨rfl, hserves⟩, rfl⟩, hclean⟩, -⟩ := hstep
    rcases answer with (_ | _ | text) | _
    · exact absurd hserves hnames
    · exact hserves.elim
    · exact ⟨rfl, fun h => absurd ⟨text, rfl⟩ (hclean h)⟩
    · exact ⟨rfl, fun _ => rfl⟩

/-- The lease as it is recorded. Only a file that is not a whole lease cannot be read on a host where
nothing fails. -/
theorem read_lease_safe :
    Safe (sound_world path clean) (Guard path operation)
      (fun result t => t = host ∧
        (∀ found, result = .ok found →
          found = host.recorded path ∧ (found = none → host.disk.contents path = none)) ∧
        (clean → (host.disk.contents path ≠ none → host.recorded path ≠ none) → result.isOk))
      (read_lease path) host := by
  refine ⟨trivial, fun answer t hstep => ?_⟩
  obtain ⟨⟨⟨disk, ⟨rfl, hserves⟩, rfl⟩, hclean⟩, -⟩ := hstep
  rcases answer with (_ | _ | text) | metadata
  · -- the lease is not there
    have hnone : host.disk.contents path = none := Disk.contents_eq_none_iff.mpr hserves
    refine ⟨rfl, fun found hfound => ?_, fun _ _ => rfl⟩
    obtain rfl := Except.ok.inj hfound
    exact ⟨by rw [Host.recorded, hnone]; rfl, fun _ => hnone⟩
  · exact hserves.elim
  · exact ⟨rfl, nofun, fun h => absurd ⟨text, rfl⟩ (hclean h)⟩
  · have hfile : metadata.is_file ≠ false := by simp [hserves.2]
    change Safe _ _ _ (read_existing path metadata) _
    rw [read_existing, if_neg hfile]
    refine .seq (secure_lease_safe _ hserves.1) ?_ ?_
    · rintro error t ⟨rfl, hok⟩
      exact ⟨rfl, nofun, fun h => absurd (hok h) Bool.false_ne_true⟩
    rintro _ t ⟨rfl, -⟩
    refine ⟨trivial, fun answer t hstep => ?_⟩
    obtain ⟨⟨⟨disk, ⟨rfl, hread⟩, rfl⟩, hclean⟩, -⟩ := hstep
    rcases answer with (_ | _ | text) | text
    · exact absurd hread hserves.1
    · exact hread.elim
    · exact ⟨rfl, nofun, fun h => absurd ⟨text, rfl⟩ (hclean h)⟩
    · have hrecorded : host.recorded path = (parse (String.ofList text)).toOption := by
        rw [Host.recorded, hread]
        rfl
      refine ⟨rfl, fun found hfound => ?_, fun _ hwhole => ?_⟩
      · cases hparse : parse (String.ofList text) with
        | error error =>
          rw [hparse] at hfound
          cases hfound
        | ok lease =>
          rw [hparse] at hfound hrecorded
          obtain rfl := Except.ok.inj hfound
          exact ⟨hrecorded.symm, nofun⟩
      · cases hparse : parse (String.ofList text) with
        | error error =>
          rw [hparse] at hrecorded
          exact absurd hrecorded (hwhole (by rw [hread]; exact Option.some_ne_none _))
        | ok lease => rfl

theorem remove_lease_safe (howned : ¬ Owned host) :
    Safe (sound_world path clean) (Guard path operation)
      (fun result t => t.sysctl = host.sysctl ∧ t.enabler = host.enabler ∧
        (result = .ok () → t.disk.contents path = none) ∧ (clean → result = .ok ())) (remove_lease path) host := by
  refine ⟨⟨rfl, howned⟩, fun answer t hstep => ?_⟩
  obtain ⟨⟨⟨disk, hserves, rfl⟩, hclean⟩, -⟩ := hstep
  rcases answer with (_ | _ | text) | _
  · obtain ⟨hnone, rfl⟩ := hserves
    exact ⟨rfl, rfl, fun _ => Disk.contents_eq_none_iff.mpr hnone, fun _ => rfl⟩
  · exact hserves.elim
  · exact ⟨rfl, rfl, nofun, fun h => absurd ⟨text, rfl⟩ (hclean h)⟩
  · obtain ⟨-, rfl⟩ := hserves
    exact ⟨rfl, rfl, fun _ => Disk.contents_unlink _ _, fun _ => rfl⟩

/-- The error of a call is kept whatever becomes of the lease. -/
theorem after_cleanup_safe {α : Type} (error : CoreError) (howned : ¬ Owned host) :
    Safe (sound_world path clean) (Guard path operation) (fun result _ => ∃ error, result = .error error)
      (after_cleanup path error : ForwardingAction α) host := by
  refine .attempt_seq (remove_lease_safe howned) fun result t _ => ?_
  cases result with
  | error cleanup_error | ok _ => exact ⟨_, rfl⟩

/-- The lease file that a call has just created, with a part of its text. -/
structure Filling (path : String) (handle : Nat) (lease : ForwardingLease) (host : Host) (rest : List Char) (t : Host) :
    Prop where
  sysctl : t.sysctl = host.sysctl
  enabler : t.enabler = host.enabler
  names : t.disk.names path = some handle
  text : t.disk.data handle ++ rest = lease.serialize.toList

/-- A lease that could not be written as a whole. -/
def Unfilled (path : String) (clean : Prop) (handle : Nat) (lease : ForwardingLease) (host t : Host) : Prop :=
  ¬ clean ∧ ∃ rest, Filling path handle lease host rest t

variable {lease : ForwardingLease}

theorem Filling.recorded {handle : Nat} {t : Host} (h : Filling path handle lease host [] t) :
    t.recorded path = some lease := by
  have htext := h.text
  rw [List.append_nil] at htext
  rw [Host.recorded, Disk.contents_of_names h.names, htext, Option.bind_some]
  have hwhole := parse_take lease 20 le_rfl
  rw [List.take_of_length_le (length_serialize lease).le] at hwhole
  exact hwhole

/-- One part of the text, as much as the disk takes of it. -/
theorem write_part_safe (handle : Nat) (lease : ForwardingLease) (data : List Char) (t : Host) (_ : data ≠ [])
    (h : Filling path handle lease host data t) :
    Safe (sound_world path clean) (Guard path .enable)
      (AfterPart (Filling path handle lease host) (Unfilled path clean handle lease host) data)
      (Prog.ask (ι := interface) (.file (.write handle data)) .ret) t := by
  refine ⟨⟨rfl, h.names, lease, h.text⟩, fun answer u hstep => ?_⟩
  obtain ⟨⟨⟨disk, hserves, rfl⟩, hclean⟩, -⟩ := hstep
  rcases answer with (_ | _ | text) | count
  · exact hserves.elim
  · exact hserves.elim
  · obtain rfl : disk = t.disk := hserves
    exact ⟨fun hc => hclean hc ⟨text, rfl⟩, data, h⟩
  · obtain ⟨hpositive, -, rfl⟩ := hserves
    refine ⟨hpositive, h.sysctl, h.enabler, h.names, ?_⟩
    simp only [Disk.append, Function.update_self, List.append_assoc, List.take_append_drop]
    exact h.text

variable {controller : ForwardingController}

theorem fill_lease_safe {handle : Nat} (hnames : host.disk.names path = some handle)
    (hempty : host.disk.data handle = []) :
    Safe (sound_world path clean) (Guard path .enable)
      (fun result t => (result = .ok () ∧ Filling path handle lease host [] t) ∨
        ((∃ error, result = .error error) ∧ Unfilled path clean handle lease host t))
      (controller.fill_lease handle lease) host := by
  have hstart : Filling path handle lease host lease.serialize.toList host :=
    ⟨rfl, rfl, hnames, by rw [hempty, List.nil_append]⟩
  have hwritten := write_all_safe (W := sound_world path clean) (write_part_safe handle lease) _ _ host le_rfl hstart
  refine .attempt_seq hwritten fun answer t hanswer => ?_
  cases answer with
  | error failure => exact .inr ⟨⟨_, rfl⟩, hanswer⟩
  | ok _ =>
    refine ⟨trivial, fun answer u hstep => ?_⟩
    obtain ⟨⟨⟨disk, ⟨rfl, hserves⟩, rfl⟩, hclean⟩, -⟩ := hstep
    rcases answer with (_ | _ | text) | _
    · exact hserves.elim
    · exact hserves.elim
    · exact .inr ⟨⟨_, rfl⟩, fun hc => hclean hc ⟨text, rfl⟩, [], hanswer⟩
    · exact .inl ⟨rfl, hanswer⟩

theorem Sound.not_owned (h : Sound path host) (hnone : host.disk.contents path = none) : ¬ Owned host := by
  intro howned
  have hrecorded := h.owned howned
  rw [Host.recorded, hnone] at hrecorded
  cases hrecorded

theorem create_lease_safe (hpath : controller.lease_path = path) (baseline : Bool) (hsound : Sound path host)
    (hnone : host.disk.contents path = none) :
    Safe (sound_world path clean) (Guard path .enable)
      (fun result t => (t.sysctl = host.sysctl ∧ result = .ok true ∧ t.recorded path = some { baseline }) ∨
        ((∃ error, result = .error error) ∧ (clean → t = host))) (controller.create_lease baseline) host := by
  subst hpath
  unfold ForwardingController.create_lease
  split
  · exact .inr ⟨⟨_, rfl⟩, fun _ => rfl⟩
  refine ⟨trivial, fun answer t hstep => ?_⟩
  obtain ⟨⟨⟨disk, ⟨rfl, hserves⟩, rfl⟩, hclean⟩, -⟩ := hstep
  rcases answer with (_ | _ | text) | _
  · exact hserves.elim
  · exact hserves.elim
  · exact .inr ⟨⟨_, rfl⟩, fun h => absurd ⟨text, rfl⟩ (hclean h)⟩
  clear hserves hclean
  refine ⟨⟨rfl, rfl⟩, fun answer t hstep => ?_⟩
  obtain ⟨⟨⟨disk, hserves, rfl⟩, hclean⟩, -⟩ := hstep
  rcases answer with (_ | _ | text) | handle
  · exact hserves.elim
  · -- no other call can have created it meanwhile
    exact absurd (Disk.contents_eq_none_iff.mp hnone) hserves.1
  · exact .inr ⟨⟨_, rfl⟩, fun h => absurd ⟨text, rfl⟩ (hclean h)⟩
  · obtain ⟨-, rfl, rfl⟩ := hserves
    have hnames := Disk.names_create host.disk controller.lease_path
    have hempty := Disk.data_create host.disk controller.lease_path
    refine .attempt_seq (fill_lease_safe hnames hempty) fun result t hresult => ?_
    obtain ⟨rfl, hfilling⟩ | ⟨⟨error, rfl⟩, hunclean, rest, hfilling⟩ := hresult
    · exact .inl ⟨hfilling.sysctl, rfl, hfilling.recorded⟩
    · have howned : ¬ Owned t := by
        rw [Owned, hfilling.sysctl, hfilling.enabler]
        exact hsound.not_owned hnone
      exact .mono (after_cleanup_safe error howned) fun _ _ herror => .inr ⟨herror, fun h => absurd h hunclean⟩

theorem confirm_enabled_safe (hpath : controller.lease_path = path) (created : Bool) :
    Safe (sound_world path clean) (Guard path operation) (fun _ t => clean → host.sysctl = true → t = host)
      (controller.confirm_enabled created) host := by
  subst hpath
  refine .seq (read_forwarding_value_safe _) (fun error t hread _ _ => hread.1) ?_
  rintro value t ⟨rfl, hvalue, -⟩
  obtain rfl := hvalue _ rfl
  split
  · exact fun _ _ => rfl
  rename_i hoff
  have howned : ¬ Owned t := fun h => hoff h.1
  have hnever : t.sysctl ≠ true := hoff
  cases created with
  | false => exact fun _ hon => absurd hon hnever
  | true =>
    exact .seq (remove_lease_safe howned) (fun _ _ _ _ hon => absurd hon hnever)
      (fun _ _ _ _ hon => absurd hon hnever)

/-- The control is turned on under a lease. -/
theorem turn_on_safe (hpath : controller.lease_path = path) (created : Bool) (hrecorded : host.recorded path ≠ none) :
    Safe (sound_world path clean) (Guard path .enable)
      (fun _ t => clean → t.recorded path = host.recorded path ∧ t.sysctl = true)
      (controller.turn_on host.sysctl created) host := by
  unfold ForwardingController.turn_on
  split
  · rename_i hon
    exact fun _ => ⟨rfl, hon⟩
  rename_i hoff
  have hguard : Guard path .enable host (.write_sysctl true) := ⟨rfl, hrecorded⟩
  refine .attempt_seq (write_forwarding_value_safe _ hoff hguard) fun result t hresult => ?_
  obtain ⟨rfl, rfl⟩ | ⟨hunclean, rfl⟩ := hresult
  · refine .mono (confirm_enabled_safe hpath created) fun _ u hsame hc => ?_
    obtain rfl := hsame hc rfl
    exact ⟨rfl, rfl⟩
  · cases result with
    | ok _ => exact .mono (confirm_enabled_safe hpath created) fun _ _ _ hc => absurd hc hunclean
    | error error =>
      have howned : ¬ Owned t := fun h => hoff h.1
      cases created with
      | false => exact fun hc => absurd hc hunclean
      | true =>
        subst hpath
        exact .mono (after_cleanup_safe error howned) fun _ _ _ hc => absurd hc hunclean

/-- What an enable call does on a host where nothing fails. -/
structure Enabled (path : String) (host t : Host) : Prop where
  absent : host.disk.contents path = none →
    t = host ∨ (t.recorded path = some { baseline := host.sysctl } ∧ t.sysctl = true)
  present : ∀ lease, host.recorded path = some lease → t.recorded path = some lease ∧ t.sysctl = true

theorem enable_safe (hpath : controller.lease_path = path) (hsound : Sound path host) :
    Safe (sound_world path clean) (Guard path .enable) (fun _ t => clean → Enabled path host t)
      controller.enable host := by
  refine .seq (read_forwarding_value_safe _) ?_ ?_
  · rintro error t ⟨rfl, -, hok⟩ hc
    exact absurd (hok hc) Bool.false_ne_true
  rintro current t ⟨rfl, hcurrent, -⟩
  obtain rfl := hcurrent _ rfl
  subst hpath
  refine .seq read_lease_safe ?_ ?_
  · rintro error t ⟨rfl, -, hok⟩ hc
    refine ⟨fun hnone => ?_, fun lease hlease => ?_⟩
    · exact absurd (hok hc fun hsome => absurd hnone hsome) Bool.false_ne_true
    · exact absurd (hok hc fun _ => by rw [hlease]; exact Option.some_ne_none _) Bool.false_ne_true
  rintro found t ⟨rfl, hfound, -⟩
  obtain ⟨rfl, hnone⟩ := hfound _ rfl
  cases hrecorded : t.recorded controller.lease_path with
  | some lease =>
    have hsome : t.recorded controller.lease_path ≠ none := by rw [hrecorded]; exact Option.some_ne_none _
    refine .mono (turn_on_safe rfl false hsome) fun _ u hdone hc => ⟨fun habsent => ?_, fun other hother => ?_⟩
    · rw [Host.recorded, habsent] at hrecorded
      cases hrecorded
    · exact ⟨(hdone hc).1.trans hother, (hdone hc).2⟩
  | none =>
    have habsent := hnone hrecorded
    have hnever : ∀ lease, t.recorded controller.lease_path ≠ some lease := by
      rw [hrecorded]
      exact fun _ => nofun
    refine .seq (create_lease_safe rfl t.sysctl hsound habsent) ?_ ?_
    · rintro error u (⟨-, himpossible, -⟩ | ⟨-, hsame⟩) hc
      · cases himpossible
      · exact ⟨fun _ => .inl (hsame hc), fun lease hlease => absurd hlease (hnever lease)⟩
    · rintro created u (⟨hsysctl, hcreated, hlease⟩ | ⟨⟨error, himpossible⟩, -⟩)
      · have hsome : u.recorded controller.lease_path ≠ none := by rw [hlease]; exact Option.some_ne_none _
        rw [← hsysctl]
        refine .mono (turn_on_safe rfl created hsome) fun _ v hdone hc => ?_
        refine ⟨fun _ => .inr ⟨?_, (hdone hc).2⟩, fun lease hlease => absurd hlease (hnever lease)⟩
        rw [(hdone hc).1, hlease]
      · cases himpossible

/-- A lease that found the control off turns it off. -/
theorem restore_safe (controller : ForwardingController) (hlease : host.recorded path = some lease) :
    Safe (sound_world path clean) (Guard path .release)
      (fun result t => (result = .ok () → t.disk = host.disk ∧ t.enabler = host.enabler ∧
        t.sysctl = (host.sysctl && lease.baseline)) ∧ (clean → result.isOk))
      (controller.restore lease host.sysctl) host := by
  obtain ⟨baseline⟩ := lease
  unfold ForwardingController.restore
  split
  · rename_i hon
    obtain ⟨hsysctl, rfl : baseline = false⟩ := hon
    have hne : host.sysctl ≠ false := by simp [hsysctl]
    refine .seq (write_forwarding_value_safe _ hne ⟨rfl, hlease⟩) ?_ ?_
    · rintro error t (⟨himpossible, -⟩ | ⟨hunclean, -⟩)
      · cases himpossible
      · exact ⟨nofun, fun hc => absurd hc hunclean⟩
    rintro _ t hwritten
    refine .seq (read_forwarding_value_safe _) ?_ ?_
    · rintro error u ⟨rfl, -, hok⟩
      exact ⟨nofun, hok⟩
    rintro value u ⟨rfl, hvalue, -⟩
    obtain rfl := hvalue _ rfl
    obtain ⟨-, rfl⟩ | ⟨hunclean, rfl⟩ := hwritten
    · refine ⟨fun _ => ⟨rfl, ?_, ?_⟩, fun _ => rfl⟩
      · simp [Host.write]
      · simp [Host.write]
    · rw [hsysctl]
      exact ⟨nofun, fun hc => absurd hc hunclean⟩
  · rename_i hoff
    refine ⟨fun _ => ⟨rfl, rfl, ?_⟩, fun _ => rfl⟩
    cases hsysctl : host.sysctl with
    | false => rfl
    | true =>
      cases baseline with
      | false => exact absurd ⟨hsysctl, rfl⟩ hoff
      | true => rfl

/-- What a release call leaves. -/
structure Released (path : String) (clean : Prop) (host : Host) (result : Result Unit) (t : Host) : Prop where
  gone : result = .ok () → t.disk.contents path = none
  restored : clean → ∀ lease, host.recorded path = some lease → t.sysctl = (host.sysctl && lease.baseline)
  untouched : host.disk.contents path = none → t = host

theorem release_safe (hpath : controller.lease_path = path) (hsound : Sound path host) :
    Safe (sound_world path clean) (Guard path .release) (fun result t => Released path clean host result t)
      controller.release host := by
  subst hpath
  refine .seq read_lease_safe ?_ ?_
  · rintro error t ⟨rfl, -, hok⟩
    refine ⟨nofun, fun hc lease hlease => ?_, fun _ => rfl⟩
    exact absurd (hok hc fun _ => by rw [hlease]; exact Option.some_ne_none _) Bool.false_ne_true
  rintro found t ⟨rfl, hfound, -⟩
  obtain ⟨rfl, hnone⟩ := hfound _ rfl
  cases hrecorded : t.recorded controller.lease_path with
  | none =>
    refine ⟨fun _ => hnone hrecorded, fun _ lease hlease => ?_, fun _ => rfl⟩
    cases hrecorded.symm.trans hlease
  | some lease =>
    have hpresent : t.disk.contents controller.lease_path ≠ none := by
      intro habsent
      rw [Host.recorded, habsent] at hrecorded
      cases hrecorded
    refine .seq (read_forwarding_value_safe _) ?_ ?_
    · rintro error u ⟨rfl, -, hok⟩
      exact ⟨nofun, fun hc => absurd (hok hc) Bool.false_ne_true, fun habsent => absurd habsent hpresent⟩
    rintro current u ⟨rfl, hcurrent, -⟩
    obtain rfl := hcurrent _ rfl
    refine .seq (restore_safe controller hrecorded) ?_ ?_
    · rintro error v ⟨-, hok⟩
      exact ⟨nofun, fun hc => absurd (hok hc) Bool.false_ne_true, fun habsent => absurd habsent hpresent⟩
    rintro _ v ⟨hrestored, -⟩
    obtain ⟨-, henabler, hsysctl⟩ := hrestored rfl
    have howned : ¬ Owned v := by
      rintro ⟨hon, howner⟩
      rw [hsysctl, Bool.and_eq_true] at hon
      have hfalse := hsound.owned ⟨hon.1, henabler ▸ howner⟩
      rw [hrecorded] at hfalse
      obtain rfl := Option.some.inj hfalse
      cases hon.2
    refine .mono (remove_lease_safe howned) fun result w hremoved => ?_
    refine ⟨hremoved.2.2.1, fun _ other hother => ?_, fun habsent => absurd habsent hpresent⟩
    obtain rfl := Option.some.inj (hrecorded.symm.trans hother)
    exact hremoved.1.trans hsysctl

end Calls

section Calling

/-- One call at a time by any controller, and writes of others between calls. -/
inductive Label where
  | external (value : Bool)
  | call (controller : ForwardingController) (operation : Operation) (events : List (Event interface Host))
      (result : Result Unit)

def Step (path : String) (host : Host) : Label → Host → Prop
  | .external value, next => next = host.write .External value
  | .call controller operation events result, next => controller.lease_path = path ∧
    Exec (world path) host (operation.program controller) events next (.ret result)

/-- No operation of a call fails. -/
def Clean (events : List (Event interface Host)) : Prop :=
  ∀ event ∈ events, ¬ Fails event.request event.answer event.after

variable {path : String} {init host next : Host}

/-- What a call leaves. -/
def Post (path : String) (clean : Prop) (host : Host) : Operation → Result Unit → Host → Prop
  | .enable, _, t => clean → Enabled path host t
  | .release, result, t => Released path clean host result t

variable {controller : ForwardingController}

theorem program_safe (hpath : controller.lease_path = path) (hsound : Sound path host) (clean : Prop)
    (operation : Operation) :
    Safe (sound_world path clean) (Guard path operation) (Post path clean host operation)
      (operation.program controller) host := by
  cases operation with
  | enable => exact enable_safe hpath hsound
  | release => exact release_safe hpath hsound

/-- A guarded request on a sound host, with what becomes of the host. -/
def Asks (path : String) (operation : Operation) (s : Host) (event : Event interface Host) (t : Host) : Prop :=
  World.Shows (world path) s event t ∧ Guard path operation s event.request

variable {events : List (Event interface Host)}

theorem exec_call {operation : Operation} {result : Result Unit} (hsound : Sound path host)
    (h : Step path host (.call controller operation events result) next) :
    Run (Asks path operation) host events next ∧ Sound path next ∧
      Post path (Clean events) host operation result next := by
  obtain ⟨hpath, hexec⟩ := h
  -- the events of a call are clean if all of them are
  have hrestricted := hexec.restrict (P := fun event => Clean events → ¬ Fails event.request event.answer event.after)
    fun event hin hclean => hclean event hin
  obtain ⟨hrun, hnext, hpost⟩ := Safe.exec_of_invariant
    (fun s request answer t hinv hguard hstep => hinv.step hguard hstep.1) hsound
    (program_safe hpath hsound (Clean events) operation) hrestricted
  refine ⟨.mono (fun s event t hstep => ?_) hrun, hnext, hpost⟩
  obtain ⟨⟨⟨hbefore, hafter, hstep, -⟩, hguard⟩, -⟩ := hstep
  exact ⟨⟨hbefore, hafter, hstep⟩, hguard⟩

section Asks

variable {operation : Operation} {s t : Host} {event : Event interface Host}

/-- A request of a call changes the control, or the lease file, or nothing. -/
inductive HostChange (path : String) (operation : Operation) (s t : Host) : Prop where
  | same (h : t = s)
  | file (h : LeaseChange path operation s t) (hsysctl : t.sysctl = s.sysctl)
  | enabled (hoperation : operation = .enable) (hdisk : t.disk = s.disk)
  | disabled (hlease : s.recorded path = some { baseline := false }) (hdisk : t.disk = s.disk)
    (hsysctl : t.sysctl = false)

theorem Asks.change (h : Asks path operation s event t) : HostChange path operation s t := by
  obtain ⟨⟨-, -, hstep⟩, hguard⟩ := h
  obtain ⟨_, request, answer, _⟩ := event
  cases request with
  | read_sysctl =>
    rcases answer with (_ | _ | text) | text
    · exact hstep.elim
    · exact hstep.elim
    · exact .same hstep
    · exact .same hstep.1
  | write_sysctl value =>
    rcases answer with (_ | _ | text) | _
    · exact hstep.elim
    · exact hstep.elim
    · exact .same hstep
    · obtain rfl | hsame : t = s.write (.BlueRoute (s.recorded path)) value ∨ t = s := hstep
      · cases operation with
        | enable => exact .enabled rfl rfl
        | release => exact .disabled hguard.2 rfl hguard.1
      · exact .same hsame
  | file request =>
    obtain ⟨disk, hserves, rfl⟩ := hstep
    exact .file (lease_change hguard hserves) rfl

theorem HostChange.recorded (h : HostChange path operation s t) {lease : ForwardingLease}
    (hrecorded : s.recorded path = some lease) : t.recorded path = some lease ∨ t.disk.contents path = none := by
  cases h with
  | same h => exact .inl (h ▸ hrecorded)
  | file hchange _ => exact hchange.recorded hrecorded
  | enabled _ hdisk | disabled _ hdisk _ =>
    refine .inl ?_
    rw [Host.recorded, hdisk]
    exact hrecorded

theorem HostChange.sysctl (h : HostChange path .release s t) (hoff : s.sysctl = false) : t.sysctl = false := by
  cases h with
  | same h => exact h ▸ hoff
  | file _ hsysctl => exact hsysctl.trans hoff
  | enabled hoperation _ => cases hoperation
  | disabled _ _ hsysctl => exact hsysctl

theorem HostChange.absent (h : HostChange path .release s t) (hnone : s.disk.contents path = none) :
    t.disk.contents path = none := by
  cases h with
  | same h => exact h ▸ hnone
  | file hchange _ =>
    cases hchange with
    | same hcontents => exact hcontents.trans hnone
    | created hoperation _ _ | extended hoperation _ _ _ _ _ _ _ => cases hoperation
    | removed _ hcontents => exact hcontents
  | enabled hoperation _ => cases hoperation
  | disabled _ hdisk _ => rw [hdisk, hnone]

theorem Asks.lease_of_write (h : Asks path .release s event t) {value : Bool}
    (hvalue : event.request = .write_sysctl value) : s.disk.contents path ≠ none := by
  have hguard := h.2
  rw [hvalue] at hguard
  have hlease : s.recorded path = some { baseline := false } := hguard.2
  intro hnone
  rw [Host.recorded, hnone] at hlease
  cases hlease

end Asks

/-- What holds of one call in a run. -/
structure Kept (path : String) (host : Host) (operation : Operation) (events : List (Event interface Host))
    (result : Result Unit) (next : Host) : Prop where
  /-- A recorded baseline is not altered while there is a lease. -/
  baseline : ∀ event ∈ events, ∀ lease, event.before.recorded path = some lease →
    event.after.recorded path = some lease ∨ event.after.disk.contents path = none
  lowers : operation = .release → (host.sysctl = false → next.sysctl = false) ∧
    ∀ event ∈ events, event.before.sysctl = false → event.after.sysctl = false
  touches : operation = .release → ∀ event ∈ events, ∀ value, event.request = .write_sysctl value →
    host.disk.contents path ≠ none ∧ event.before.disk.contents path ≠ none
  untouched : operation = .release → host.disk.contents path = none → next.sysctl = host.sysctl
  released : operation = .release → result = .ok () → next.disk.contents path = none ∧
    (next.sysctl = true → ∀ lease, next.enabler = some (.BlueRoute lease) → lease = some { baseline := true })

theorem kept {operation : Operation} {result : Result Unit} (hsound : Sound path host)
    (h : Step path host (.call controller operation events result) next) :
    Kept path host operation events result next := by
  obtain ⟨hrun, hnext, hpost⟩ := exec_call hsound h
  have hbaseline : ∀ event ∈ events, ∀ lease, event.before.recorded path = some lease →
      event.after.recorded path = some lease ∨ event.after.disk.contents path = none := by
    refine hrun.forall_mem (fun _ => True) (fun _ _ _ _ _ => trivial) (fun s event t _ hasks lease hlease => ?_) trivial
    obtain ⟨rfl, rfl, -⟩ := hasks.1
    exact hasks.change.recorded hlease
  cases operation with
  | enable => exact ⟨hbaseline, nofun, nofun, nofun, nofun⟩
  | release =>
    have hpost : Released path (Clean events) host result next := hpost
    refine ⟨hbaseline, fun _ => ⟨?_, ?_⟩, fun _ event hin value hvalue => ⟨fun habsent => ?_, ?_⟩, fun _ hnone => ?_,
      fun _ hok => ⟨hpost.gone hok, fun hon lease henabler => ?_⟩⟩
    · exact hrun.invariant (fun s => s.sysctl = false) fun s event t hoff hasks => hasks.change.sysctl hoff
    · refine hrun.forall_mem (fun _ => True) (fun _ _ _ _ _ => trivial) (fun s event t _ hasks hoff => ?_) trivial
      obtain ⟨rfl, rfl, -⟩ := hasks.1
      exact hasks.change.sysctl hoff
    · refine hrun.forall_mem (P := fun event => ∀ value, event.request ≠ .write_sysctl value)
        (fun s => s.disk.contents path = none) (fun s event t hnone hasks => hasks.change.absent hnone)
        (fun s event t hnone hasks value hvalue => hasks.lease_of_write hvalue hnone) habsent event hin value hvalue
    · refine hrun.forall_mem (P := fun event => ∀ value, event.request = .write_sysctl value →
        event.before.disk.contents path ≠ none) (fun _ => True) (fun _ _ _ _ _ => trivial)
        (fun s event t _ hasks value hvalue => ?_) trivial event hin value hvalue
      obtain ⟨rfl, -, -⟩ := hasks.1
      exact hasks.lease_of_write hvalue
    · rw [hpost.untouched hnone]
    · -- what BlueRoute turned on under a baseline of 0 would still be recorded
      have hunowned := hnext.not_owned (hpost.gone hok)
      match lease with
      | none => exact absurd rfl (hnext.named _ henabler)
      | some ⟨true⟩ => rfl
      | some ⟨false⟩ => exact absurd ⟨hon, henabler⟩ hunowned

/-- A host where BlueRoute has done nothing yet. -/
structure Fresh (path : String) (host : Host) : Prop where
  absent : host.disk.contents path = none
  enabler : host.enabler = none

theorem Fresh.sound (h : Fresh path host) : Sound path host where
  text := fun _ htext => nomatch h.absent.symm.trans htext
  named := fun _ henabler => nomatch h.enabler.symm.trans henabler
  owned := fun howned => nomatch h.enabler.symm.trans howned.2

theorem Sound.step_label (h : Sound path host) {label : Label} (hstep : Step path host label next) :
    Sound path next := by
  cases label with
  | call controller operation events result => exact (exec_call h hstep).2.1
  | external value =>
    obtain rfl : next = host.write .External value := hstep
    have henabler : ∀ lease, (host.write .External value).enabler = some (.BlueRoute lease) →
        host.enabler = some (.BlueRoute lease) ∧ (value = true → host.sysctl = true) := by
      intro lease hlease
      by_cases hturned : host.sysctl = false ∧ value = true
      · simp [Host.write, hturned] at hlease
      · refine ⟨by simpa [Host.write, hturned] using hlease, fun hvalue => ?_⟩
        exact Bool.eq_true_of_not_eq_false fun hoff => hturned ⟨hoff, hvalue⟩
    refine ⟨h.text, fun lease hlease => h.named lease (henabler lease hlease).1, fun howned => ?_⟩
    obtain ⟨hbefore, hon⟩ := henabler _ howned.2
    exact h.owned ⟨hon howned.1, hbefore⟩

/-- An enable call in which nothing fails. -/
def Label.CleanEnable : Label → Prop
  | .call _ .enable events _ => Clean events
  | _ => False

/-- Where clean enable calls have led from a host without a lease. -/
def Holding (path : String) (host t : Host) : Prop :=
  (t.disk.contents path = none ∧ t.sysctl = host.sysctl) ∨
    (t.recorded path = some { baseline := host.sysctl } ∧ t.sysctl = true)

theorem Holding.step {s : Host} {label : Label} (hlabel : label.CleanEnable) (hsound : Sound path s)
    (h : Holding path host s) (hstep : Step path s label next) : Holding path host next := by
  match label, hlabel with
  | .call controller .enable events result, hclean =>
    have henabled : Enabled path s next := (exec_call hsound hstep).2.2 hclean
    obtain ⟨hnone, hsysctl⟩ | ⟨hrecorded, -⟩ := h
    · obtain rfl | ⟨hrecorded, hon⟩ := henabled.absent hnone
      · exact .inl ⟨hnone, hsysctl⟩
      · exact .inr ⟨hsysctl ▸ hrecorded, hon⟩
    · exact .inr (henabled.present _ hrecorded)

/-- The control has its first value again after a release in which nothing fails. -/
theorem Holding.release {s : Host} {result : Result Unit} (h : Holding path host s) (hsound : Sound path s)
    (hclean : Clean events) (hstep : Step path s (.call controller .release events result) next) :
    next.sysctl = host.sysctl := by
  have hreleased : Released path (Clean events) s result next := (exec_call hsound hstep).2.2
  obtain ⟨hnone, hsysctl⟩ | ⟨hrecorded, hon⟩ := h
  · rw [hreleased.untouched hnone, hsysctl]
  · rw [hreleased.restored hclean _ hrecorded, hon, Bool.true_and]

/-- The lease over whole runs. In every state that a run reaches, each call keeps a recorded baseline
until its lease is removed, and a release only ever turns the control off, only under a lease, and leaves
no lease and no control that BlueRoute turned on from a baseline of 0. Without failures and writes of
others, a release restores the value from before the first enable. -/
theorem forwarding_lease_runs {labels : List Label} (hinit : Fresh path init)
    (hrun : Run (Step path) init labels host) :
    (∀ controller operation events result next,
      Step path host (.call controller operation events result) next → Kept path host operation events result next) ∧
    (host.disk.contents path = none → ∀ enables middle controller events result next,
      (∀ label ∈ enables, Label.CleanEnable label) → Run (Step path) host enables middle → Clean events →
      Step path middle (.call controller .release events result) next → next.sysctl = host.sysctl) := by
  have hsound : Sound path host :=
    hrun.invariant (Sound path) (fun _ _ _ hinv hstep => hinv.step_label hstep) hinit.sound
  refine ⟨fun _ _ _ _ _ hstep => kept hsound hstep, ?_⟩
  intro hnone enables middle controller events result next hlabels henables hclean hrelease
  have hholding := henables.invariant_of_forall (P := Label.CleanEnable) (fun s => Sound path s ∧ Holding path host s)
    (fun s label t hlabel hinv hstep => ⟨hinv.1.step_label hstep, hinv.2.step hlabel hinv.1 hstep⟩) hlabels
    ⟨hsound, .inl ⟨hnone, rfl⟩⟩
  exact hholding.2.release hholding.1 hclean hrelease

section Sample

/-- The answers of a host on which nothing fails. -/
def serve_host (path : String) (host : Host) : (request : Request) → request.Answer × Host
  | .read_sysctl => (.ok (if host.sysctl then "1\n" else "0\n"), host)
  | .write_sysctl value => (.ok (), host.write (.BlueRoute (host.recorded path)) value)
  | .file request => ((serve host.disk request).1, { host with disk := (serve host.disk request).2 })

theorem world_serve_host (path : String) (host : Host) (request : Request) :
    world path host request (serve_host path host request).1 (serve_host path host request).2 := by
  cases request with
  | read_sysctl => exact ⟨rfl, rfl⟩
  | write_sysctl value => exact .inl rfl
  | file request => exact ⟨_, serves_serve host.disk request, rfl⟩

def sample_controller : ForwardingController where
  sysctl_path := "/proc/sys/net/ipv4/ip_forward"
  lease_path := "/run/blueroute/ipv4-forwarding-v1.state"
  lease_parent := some "/run/blueroute"

def sample_host (sysctl : Bool) : Host where
  sysctl := sysctl
  disk := { names := fun _ => none, data := fun _ => [], next := 0, known := nofun }
  enabler := none

theorem sample_host_fresh (sysctl : Bool) : Fresh sample_controller.lease_path (sample_host sysctl) :=
  ⟨rfl, rfl⟩

/-- A call of the sample controller, as it goes when nothing fails. -/
def sample_call (operation : Operation) (host : Host) : Result Unit × Host :=
  (operation.program sample_controller).run (serve_host sample_controller.lease_path) host

theorem step_sample_call (operation : Operation) (host : Host) :
    ∃ events, Step sample_controller.lease_path host
      (.call sample_controller operation events (sample_call operation host).1) (sample_call operation host).2 := by
  obtain ⟨events, hexec⟩ := Prog.exec_run (world_serve_host sample_controller.lease_path)
    (operation.program sample_controller) host
  exact ⟨events, rfl, hexec⟩

theorem forwarding_lease_runs_sample :
    ∃ host events, (sample_call .enable (sample_host false)).2 = host ∧ host.sysctl = true ∧
      Kept sample_controller.lease_path host .release events (.ok ()) (sample_call .release host).2 := by
  obtain ⟨first, henable⟩ := step_sample_call .enable (sample_host false)
  obtain ⟨second, hrelease⟩ := step_sample_call .release (sample_call .enable (sample_host false)).2
  have hok : (sample_call .release (sample_call .enable (sample_host false)).2).1 = .ok () := by decide +kernel
  rw [hok] at hrelease
  refine ⟨_, second, rfl, by decide +kernel, ?_⟩
  exact (forwarding_lease_runs (sample_host_fresh false) (.cons henable .nil)).1 _ _ _ _ _ hrelease

/-- A baseline of 1 is kept when others turn the control off, so a release leaves on what a second
enable has turned on. -/
theorem release_leaves_enabled :
    ∃ labels host events next, Run (Step sample_controller.lease_path) (sample_host true) labels host ∧
      Step sample_controller.lease_path host (.call sample_controller .release events (.ok ())) next ∧
      next.sysctl = true ∧ ∃ lease, next.enabler = some (.BlueRoute lease) := by
  let started := (sample_call .enable (sample_host true)).2
  let turned_off := started.write .External false
  let turned_on := (sample_call .enable turned_off).2
  obtain ⟨first, henable⟩ := step_sample_call .enable (sample_host true)
  obtain ⟨second, hagain⟩ := step_sample_call .enable turned_off
  obtain ⟨third, hrelease⟩ := step_sample_call .release turned_on
  have hok : (sample_call .release turned_on).1 = .ok () := by decide +kernel
  rw [hok] at hrelease
  have hexternal : Step sample_controller.lease_path started (.external false) turned_off := rfl
  refine ⟨_, turned_on, third, (sample_call .release turned_on).2,
    .cons henable (.cons hexternal (.cons hagain .nil)), hrelease, by decide +kernel, some { baseline := true }, ?_⟩
  decide +kernel

end Sample

end Calling

end blueroute_linux.forwarding
