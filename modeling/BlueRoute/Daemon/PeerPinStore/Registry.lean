import BlueRoute.Base.Runs
import BlueRoute.Daemon.PeerPinStore

namespace blueroute_daemon.peer_pin_store

open blueroute blueroute_protocol.peer_pin Fallible Runs PeerKeyPins

inductive PinOperation where
  | enroll_verified (network : NetworkId) (node : NodeId) (pin : SpkiSha256)
  | revoke (network : NetworkId) (node : NodeId)
deriving DecidableEq

inductive PinOutcome where
  | enrolled (changed : Bool)
  | refused (error : PeerPinError)
  | revoked (removed : Bool)
deriving DecidableEq

/-- What a call returns and leaves behind. A refused enrolment returns before it touches the map. -/
def PinOperation.apply (pins : PeerKeyPins) : PinOperation → PinOutcome × PeerKeyPins
  | .enroll_verified network node pin =>
    match pins.enroll_verified network node pin with
    | .ok (changed, next) => (.enrolled changed, next)
    | .error error => (.refused error, pins)
  | .revoke network node => (.revoked (pins.revoke network node).1, (pins.revoke network node).2)

structure PinLabel where
  operation : PinOperation
  outcome : PinOutcome
deriving DecidableEq

def PinStep (pins : PeerKeyPins) (label : PinLabel) (next : PeerKeyPins) : Prop :=
  label.operation.apply pins = (label.outcome, next)

theorem pinStep_apply (pins : PeerKeyPins) (operation : PinOperation) :
    PinStep pins ⟨operation, (operation.apply pins).1⟩ (operation.apply pins).2 :=
  rfl

section Calls

variable {pins middle next : PeerKeyPins} {label : PinLabel} {labels : List PinLabel} {network : NetworkId}
  {node : NodeId} {pin : SpkiSha256}

/-- What a call can do to the registry. -/
inductive PinEffect (pins : PeerKeyPins) (label : PinLabel) (next : PeerKeyPins) : Prop where
  | same (h : next = pins)
  | enrolled (network : NetworkId) (node : NodeId) (pin : SpkiSha256)
      (hlabel : label = ⟨.enroll_verified network node pin, .enrolled true⟩) (hnone : pins.get network node = none)
      (hget : ∀ network' node', next.get network' node' =
        if network = network' ∧ node = node' then some pin else pins.get network' node')
  | revoked (network : NetworkId) (node : NodeId)
      (hlabel : label = ⟨.revoke network node, .revoked (pins.revoke network node).1⟩)
      (hget : ∀ network' node', next.get network' node' =
        if network = network' ∧ node = node' then none else pins.get network' node')

theorem PinStep.effect (h : PinStep pins label next) : PinEffect pins label next := by
  obtain ⟨operation, outcome⟩ := label
  cases operation with
  | revoke network node =>
    obtain ⟨rfl, rfl⟩ := Prod.mk.inj h
    exact .revoked network node rfl fun _ _ => get_revoke _ _
  | enroll_verified network node pin =>
    simp only [PinStep, PinOperation.apply] at h
    split at h
    · rename_i changed found henroll
      obtain ⟨rfl, rfl⟩ := Prod.mk.inj h
      cases changed with
      | true =>
        obtain ⟨hnonzero, hfree, hnone, rfl⟩ := enroll_verified_eq_ok_true henroll
        exact .enrolled network node pin rfl hnone fun _ _ => get_enroll _ _
      | false => exact .same (enroll_verified_eq_ok_false henroll)
    · exact .same (Prod.mk.inj h).2.symm

theorem PinStep.of_refused (h : PinStep pins label next) {error : PeerPinError}
    (hrefused : label.outcome = .refused error) :
    next = pins := by
  cases h.effect with
  | same heq => exact heq
  | enrolled _ _ _ hlabel _ _ | revoked _ _ hlabel _ =>
    rw [hlabel] at hrefused
    cases hrefused

/-- The key of a node is set where there was none, and taken away where there was one. -/
theorem PinStep.changed (h : PinStep pins label next) (hne : next.get network node ≠ pins.get network node) :
    (∃ pin, label = ⟨.enroll_verified network node pin, .enrolled true⟩ ∧ pins.get network node = none ∧
      next.get network node = some pin) ∨
    (label = ⟨.revoke network node, .revoked true⟩ ∧ next.get network node = none) := by
  cases h.effect with
  | same heq => exact absurd (heq ▸ rfl) hne
  | enrolled network' node' pin hlabel hnone hget =>
    have hnext := hget network node
    split at hnext
    · rename_i hkey
      obtain ⟨rfl, rfl⟩ := hkey
      exact .inl ⟨pin, hlabel, hnone, hnext⟩
    · exact absurd hnext hne
  | revoked network' node' hlabel hget =>
    have hnext := hget network node
    split at hnext
    · rename_i hkey
      obtain ⟨rfl, rfl⟩ := hkey
      obtain ⟨old, hold⟩ := Option.ne_none_iff_exists'.mp (hnext ▸ hne.symm)
      exact .inr ⟨by rw [hlabel, revoke_of_get hold], hnext⟩
    · exact absurd hnext hne

/-- A key that a node has at the end and had not at the start was enrolled on the way. -/
theorem exists_enrolled (hrun : Run PinStep pins labels next) (hbefore : pins.get network node ≠ some pin)
    (hafter : next.get network node = some pin) :
    ∃ first second, labels = first ++ ⟨.enroll_verified network node pin, .enrolled true⟩ :: second := by
  induction hrun with
  | nil => exact absurd hafter hbefore
  | @cons pins middle next label labels hstep hrest ih =>
    by_cases hmiddle : middle.get network node = some pin
    · obtain ⟨pin', rfl, -, hget⟩ | ⟨-, hget⟩ := hstep.changed (hmiddle.trans_ne hbefore.symm)
      · cases hmiddle.symm.trans hget
        exact ⟨[], labels, rfl⟩
      · cases hmiddle.symm.trans hget
    · obtain ⟨first, second, rfl⟩ := ih hmiddle hafter
      exact ⟨label :: first, second, rfl⟩

/-- The key of a node changes only by a revocation and an enrolment after it. -/
theorem exists_revoked {old : SpkiSha256} (hrun : Run PinStep pins labels next)
    (hold : pins.get network node = some old)
    (hnew : next.get network node = some pin) (hne : old ≠ pin) :
    ∃ first second third, labels = first ++ ⟨.revoke network node, .revoked true⟩ :: second ++
      ⟨.enroll_verified network node pin, .enrolled true⟩ :: third := by
  induction hrun with
  | nil => exact absurd (Option.some.inj (hold.symm.trans hnew)) hne
  | @cons pins middle next label labels hstep hrest ih =>
    by_cases hmiddle : middle.get network node = some old
    · obtain ⟨first, second, third, rfl⟩ := ih hmiddle hnew
      exact ⟨label :: first, second, third, rfl⟩
    · obtain ⟨_, -, hnone, -⟩ | ⟨rfl, hgone⟩ := hstep.changed (hold ▸ hmiddle)
      · cases hold.symm.trans hnone
      · obtain ⟨second, third, rfl⟩ := exists_enrolled hrest (hgone.trans_ne (Option.some_ne_none _).symm) hnew
        exact ⟨[], second, third, rfl⟩

end Calls

section Loading

variable {pins loaded : PeerKeyPins} {line : String} {lines : List String}

/-- A record is read only while there is room for it. -/
theorem len_of_parse_record (h : parse_record pins line = .ok loaded) : loaded.len ≤ MAX_RECORDS := by
  simp only [parse_record, bind_eq_ok_iff, reject_if_eq_ok, mapError_eq_ok, not_le, Prod.exists] at h
  obtain ⟨_, hroom, _, _, network, _, _, _, node, _, _, _, pin, _, _, _, added, next, henroll, _, hadded, hloaded⟩ := h
  obtain rfl := Except.ok.inj hloaded
  obtain rfl : added = true := by simpa using hadded
  obtain ⟨hnonzero, hfree, hnone, rfl⟩ := enroll_verified_eq_ok_true henroll
  have hsize : (pins.enroll network node pin hnonzero hfree).len = pins.len + 1 :=
    Ordered.size_insert_of_notMem pin (by simpa [Ordered.mem_iff_exists, PeerKeyPins.get] using hnone)
  omega

theorem len_of_foldlM (h : lines.foldlM parse_record pins = .ok loaded) (hroom : pins.len ≤ MAX_RECORDS) :
    loaded.len ≤ MAX_RECORDS := by
  induction lines generalizing pins with
  | nil =>
    obtain rfl := Except.ok.inj h
    exact hroom
  | cons line lines ih =>
    obtain ⟨middle, hline, hrest⟩ := foldlM_cons_eq_ok_iff.mp h
    exact ih hrest (len_of_parse_record hline)

theorem len_new : new.len ≤ MAX_RECORDS := by
  simp [len, new]

theorem len_of_load {contents : Option (List UInt8)} (h : load contents = .ok loaded) : loaded.len ≤ MAX_RECORDS := by
  cases contents with
  | none =>
    obtain rfl := Except.ok.inj h
    exact len_new
  | some contents =>
    simp only [load, parse, bind_eq_ok_iff] at h
    obtain ⟨_, _, _, _, _, _, hrecords⟩ := h
    exact len_of_foldlM hrecords len_new

/-- Pins that are not too many are saved, and what was saved is loaded again. -/
theorem exists_saved (h : pins.len ≤ MAX_RECORDS) :
    ∃ saved, render pins = .ok saved ∧ load (some saved) = .ok pins := by
  obtain ⟨saved, hsaved⟩ := exists_render h
  exact ⟨saved, hsaved, parse_render hsaved⟩

end Loading

/-- In every run of enrolments and revocations a key stands for at most one node of a network and was enrolled for
it, the key of a node changes only by a revocation and a new enrolment, and what is refused changes nothing. Pins
that are not too many are loaded as they were saved, and so is whatever was loaded from any file. -/
theorem peer_pins_run_and_file {labels : List PinLabel} {pins : PeerKeyPins} (hrun : Run PinStep .new labels pins) :
    (∀ network node other pin, pins.get network node = some pin → pins.get network other = some pin → node = other) ∧
    (∀ network node pin, pins.get network node = some pin →
      ∃ first second, labels = first ++ ⟨.enroll_verified network node pin, .enrolled true⟩ :: second) ∧
    (∀ before after middle network node old pin, labels = before ++ after → Run PinStep .new before middle →
      Run PinStep middle after pins → middle.get network node = some old → pins.get network node = some pin →
        old ≠ pin →
        ∃ first second third, after = first ++ ⟨.revoke network node, .revoked true⟩ :: second ++
          ⟨.enroll_verified network node pin, .enrolled true⟩ :: third) ∧
    (∀ label next error, PinStep pins label next → label.outcome = .refused error → next = pins) ∧
    (pins.len ≤ MAX_RECORDS → ∃ saved, render pins = .ok saved ∧ load (some saved) = .ok pins) ∧
    ∀ contents loaded, load contents = .ok loaded →
      loaded.len ≤ MAX_RECORDS ∧
      (∀ network node other pin, loaded.get network node = some pin → loaded.get network other = some pin →
        node = other) ∧
      ∃ saved, render loaded = .ok saved ∧ load (some saved) = .ok loaded := by
  refine ⟨pins.injective, ?_, ?_, fun label next error hstep => hstep.of_refused, exists_saved, ?_⟩
  · intro network node pin hget
    exact exists_enrolled hrun (by simp [PeerKeyPins.get, PeerKeyPins.new]) hget
  · rintro before after middle network node old pin - - hafter hold hnew hne
    exact exists_revoked hafter hold hnew hne
  · intro contents loaded hload
    have hroom := len_of_load hload
    exact ⟨hroom, loaded.injective, exists_saved hroom⟩

/-- A key that is enrolled, revoked and replaced by another. -/
theorem peer_pins_run_and_file_replaced :
    let key (byte : UInt8) (h : byte ≠ 0) : SpkiSha256 := ⟨Vector.replicate 32 byte, byte, by simp, h⟩
    ∃ labels pins, Run PinStep .new labels pins ∧ pins.get (.filled 1) (.filled 2) = some (key 4 (by decide)) ∧
      pins.len ≤ MAX_RECORDS ∧ ∃ saved, render pins = .ok saved ∧ load (some saved) = .ok pins := by
  intro key
  let enroll (byte : UInt8) (h : byte ≠ 0) : PinOperation := .enroll_verified (.filled 1) (.filled 2) (key byte h)
  let first := ((enroll 3 (by decide)).apply .new).2
  let second := ((PinOperation.revoke (.filled 1) (.filled 2)).apply first).2
  let third := ((enroll 4 (by decide)).apply second).2
  have hrun := Run.cons (pinStep_apply .new (enroll 3 (by decide)))
    (.cons (pinStep_apply first (.revoke (.filled 1) (.filled 2)))
      (.cons (pinStep_apply second (enroll 4 (by decide))) .nil))
  have hroom : third.len ≤ MAX_RECORDS := by decide +kernel
  exact ⟨_, third, hrun, by decide +kernel, hroom, (peer_pins_run_and_file hrun).2.2.2.2.1 hroom⟩

end blueroute_daemon.peer_pin_store
