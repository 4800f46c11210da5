import BlueRoute.Daemon.NapControl

namespace blueroute_daemon.nap_control_admission

open blueroute blueroute_protocol.session control_tls RegisteredNapControlOwner

/-- The calls after which an owner has no transport any more: those that end it and the operations
that fail. A cancellation is meant for the owner only if it names its session. -/
def Call.Ends (session : RegisteredControlSession) : Call → Prop
  | Receive result => result = .ok .Closed ∨ ∃ error, result = .error error
  | Heartbeat result => ∃ error, result = .error error
  | Revalidate result => ∃ error, result = .error error
  | Goodbye _ => True
  | TransportLoss => True
  | Cancel expected => expected = session.session_id
  | Drop => True
  | Activate _ => False
  | Detach .. => False

/-- A cancellation or a detach that carries identifiers of another owner. -/
def Call.Mistaken (session : RegisteredControlSession) : Call → Prop
  | Cancel expected => expected ≠ session.session_id
  | Detach network peer expected =>
    ¬ (network = session.key.network ∧ peer = session.key.peer ∧ expected = session.session_id)
  | _ => False

variable {call : Call}

theorem Call.Ends.congr {left right : RegisteredControlSession} (h : call.Ends left)
    (hid : left.session_id = right.session_id) : call.Ends right := by
  cases call with
  | Cancel expected => exact h.trans hid
  | _ => exact h

theorem Call.Mistaken.congr {left right : RegisteredControlSession} (h : call.Mistaken left)
    (hkey : left.key = right.key) (hid : left.session_id = right.session_id) : call.Mistaken right := by
  cases call with
  | Cancel expected => simpa only [Call.Mistaken, hid] using h
  | Detach network peer expected => simpa only [Call.Mistaken, hkey, hid] using h
  | _ => exact h

/-- Everything that a call can do to an owner and to the admission that its lease borrows. -/
inductive CallEffect (owner : RegisteredNapControlOwner) (admission : NetworkNapAdmission) :
    Call → Option RegisteredNapControlOwner → NetworkNapAdmission → Prop where
  | ignored {call : Call} (hcall : ¬ call.Ends owner.session) (hidle : ∀ revalidated, call = .Activate revalidated →
      owner.lease = none) : CallEffect owner admission call (some owner) admission
  | cancelled {call : Call} (hkept : owner.attached = true ∨ owner.lease = none) :
      CallEffect owner admission call (some { owner with session := owner.session.cancel }) admission
  | released {call : Call} {lease : AuthenticatedNapLease} (hidle : ∀ revalidated, call ≠ .Activate revalidated)
      (hlease : owner.lease = some lease) (hattached : owner.attached = false) :
      CallEffect owner admission call (some { owner with session := owner.session.cancel, lease := none })
        (lease.drop admission)
  | observed {revalidated : Except String Unit} {lease : AuthenticatedNapLease} {session : RegisteredControlSession}
      {after : NetworkNapAdmission} (hlease : owner.lease = some lease)
      (hsession : session = owner.session ∨ session = owner.session.cancel)
      (hafter : after = admission ∨ after = (admission.activate lease.ticket.ticket).2) :
      CallEffect owner admission (.Activate revalidated) (some { owner with session, attached := true }) after
  | detached {lease : AuthenticatedNapLease} (hlease : owner.lease = some lease) (hattached : owner.attached = true) :
      CallEffect owner admission
        (.Detach owner.session.key.network owner.session.key.peer owner.session.session_id)
        (some { session := owner.session.cancel, lease := none, attached := false }) (lease.drop admission)
  | abandoned (hkept : owner.attached = true ∨ owner.lease = none) : CallEffect owner admission .Drop none admission
  | dropped {lease : AuthenticatedNapLease} (hlease : owner.lease = some lease) (hattached : owner.attached = false) :
      CallEffect owner admission .Drop none (lease.drop admission)

@[simp]
theorem cancel_session_id (session : RegisteredControlSession) : session.cancel.session_id = session.session_id :=
  rfl

variable (owner : RegisteredNapControlOwner) (admission : NetworkNapAdmission) (network : NetworkId) (peer : NodeId)
  (expected : SessionId)

theorem on_transport_loss_effect (hidle : ∀ revalidated, call ≠ .Activate revalidated) :
    CallEffect owner admission call (some (owner.on_transport_loss admission).1)
      (owner.on_transport_loss admission).2 := by
  simp only [on_transport_loss, release_pending_on_transport_loss]
  split
  · rename_i hattached
    exact .cancelled (.inl hattached)
  · rename_i hattached
    cases hlease : owner.lease with
    | none =>
      have heffect : CallEffect owner admission call _ _ := .cancelled (.inr hlease)
      rwa [hlease] at heffect
    | some lease => exact .released hidle hlease (by simpa using hattached)

theorem after_operation_effect {lost : Bool} (hcall : lost = false → ¬ call.Ends owner.session)
    (hidle : ∀ revalidated, call ≠ .Activate revalidated) :
    CallEffect owner admission call (some (owner.after_operation admission lost).1)
      (owner.after_operation admission lost).2 := by
  cases lost with
  | true => exact on_transport_loss_effect owner admission hidle
  | false => exact .ignored (hcall rfl) fun revalidated heq => absurd heq (hidle revalidated)

theorem activate_effect (revalidated : Except String Unit) :
    CallEffect owner admission (.Activate revalidated)
      (some (owner.activate_after_observed_attachment admission revalidated).2.1)
      (owner.activate_after_observed_attachment admission revalidated).2.2 := by
  unfold activate_after_observed_attachment
  split
  · rename_i hlease
    exact .ignored id fun _ _ => hlease
  · rename_i lease hlease
    have hafter : (activate_authenticated_nap owner.session admission lease.ticket revalidated).2 = admission ∨
        (activate_authenticated_nap owner.session admission lease.ticket revalidated).2 =
          (admission.activate lease.ticket.ticket).2 := by
      unfold activate_authenticated_nap
      split
      · exact .inl rfl
      split
      · exact .inl rfl
      · exact .inr rfl
    dsimp only
    split
    · exact .observed hlease (.inl rfl) hafter
    · exact .observed hlease (.inr rfl) hafter
    · exact .observed hlease (.inr rfl) hafter

theorem cancel_if_current_effect :
    CallEffect owner admission (.Cancel expected) (some (owner.cancel_if_current admission expected).2.1)
      (owner.cancel_if_current admission expected).2.2 := by
  simp only [cancel_if_current, RegisteredControlSession.cancel_if_current]
  split
  · rename_i hother
    exact .ignored (fun hends => hother hends.symm) (by simp)
  · exact on_transport_loss_effect owner admission (by simp)

theorem detach_effect :
    CallEffect owner admission (.Detach network peer expected)
      (some (owner.confirm_observed_detach_if_current admission network peer expected).2.1)
      (owner.confirm_observed_detach_if_current admission network peer expected).2.2 := by
  have hidle : ∀ revalidated, Call.Detach network peer expected = .Activate revalidated → owner.lease = none := by
    simp
  simp only [confirm_observed_detach_if_current, RegisteredControlSession.cancel_if_current]
  split
  · exact .ignored id hidle
  rename_i hmatch
  split
  · exact .ignored id hidle
  rename_i hsession
  simp only [Bool.or_eq_true, decide_eq_true_eq, not_or, Bool.not_eq_false, ne_eq, not_not] at hmatch hsession
  obtain ⟨⟨⟨hattached, rfl⟩, rfl⟩, hlease⟩ := hmatch
  subst hsession
  cases howned : owner.lease with
  | none => simp [howned] at hlease
  | some lease =>
    have hsame : same_session owner.session.key.network owner.session.key.peer owner.session.session_id
        lease.ticket = true := by simpa [howned] using hlease
    simp only [retire_observed_detach_if_current, Option.any_some, hsame, hattached,
      cancel_session_id, Bool.true_eq_false, ne_eq, not_true_eq_false, decide_false, Bool.or_self, Bool.false_eq_true,
      if_false]
    exact .detached howned hattached

theorem drop_effect : CallEffect owner admission .Drop none (owner.drop admission) := by
  unfold drop preserve_attached_capacity_on_owner_drop
  cases hlease : owner.lease with
  | none =>
    rw [Option.map_none, ite_self]
    exact .abandoned (.inr hlease)
  | some lease =>
    split
    · rename_i hattached
      exact .abandoned (.inl hattached)
    · rename_i hattached
      exact .dropped hlease (by simpa using hattached)

theorem Call.effect (call : Call) :
    CallEffect owner admission call (call.run owner admission).2.1 (call.run owner admission).2.2 := by
  cases call with
  | Activate revalidated => exact activate_effect owner admission revalidated
  | Receive result | Heartbeat result | Revalidate result =>
    refine after_operation_effect owner admission ?_ (by simp)
    cases result <;> simp [Call.Ends, Except.toOption]
  | Goodbye result | TransportLoss => exact on_transport_loss_effect owner admission (by simp)
  | Cancel expected => exact cancel_if_current_effect owner admission expected
  | Detach network peer expected => exact detach_effect owner admission network peer expected
  | Drop => exact drop_effect owner admission

/-- A call that carries identifiers of another owner is refused and does nothing. -/
theorem Call.Mistaken.run_eq {owner : RegisteredNapControlOwner} (h : call.Mistaken owner.session)
    (admission : NetworkNapAdmission) : call.run owner admission = (.flag false, some owner, admission) := by
  cases call with
  | Cancel expected =>
    have hother : owner.session.session_id ≠ expected := fun heq => h heq.symm
    simp [Call.run, cancel_if_current, RegisteredControlSession.cancel_if_current, hother]
  | Detach network peer expected =>
    simp only [Call.run, confirm_observed_detach_if_current,
      RegisteredControlSession.cancel_if_current]
    split
    · rfl
    rename_i hmatch
    simp only [Bool.or_eq_true, decide_eq_true_eq, not_or, ne_eq, not_not] at hmatch
    obtain ⟨⟨⟨_, rfl⟩, rfl⟩, _⟩ := hmatch
    have hother : owner.session.session_id ≠ expected := fun heq => h ⟨rfl, rfl, heq.symm⟩
    simp [hother]
  | _ => exact h.elim

end blueroute_daemon.nap_control_admission
