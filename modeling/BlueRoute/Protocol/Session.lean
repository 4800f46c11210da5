import BlueRoute.Base.Ordered
import BlueRoute.Core.Id

namespace blueroute_protocol.session

open blueroute Fallible

def MAX_CONTROL_SESSIONS : Nat := 128

/-- Bounded in-process replay horizon for TLS-exported control-session ids. -/
def MAX_RECENT_SESSION_IDS : Nat := 4096

inductive DeadlineError where
  | Expired
  | ClockRegression
  | InvalidTransition
deriving DecidableEq

abbrev SessionId := Vector UInt8 16

structure PeerSessionKey where
  network : NetworkId
  peer : NodeId

namespace PeerSessionKey

/-- The derived Rust order compares the networks first. -/
def pair (self : PeerSessionKey) : NetworkId ×ₗ NodeId := toLex (self.network, self.peer)

theorem pair_injective : Function.Injective pair := by
  rintro ⟨network, peer⟩ ⟨network', peer'⟩ h
  cases toLex.injective h
  rfl

instance : LinearOrder PeerSessionKey :=
  LinearOrder.lift' pair pair_injective

/-- A zero logical identity is never a valid authenticated peer. -/
def is_valid (self : PeerSessionKey) : Bool := self.network ≠ .filled 0 && self.peer ≠ .filled 0

end PeerSessionKey

inductive SessionPhase where
  | Active
  | Lost
  | Reconnecting
deriving DecidableEq

structure SessionEntry where
  session_id : SessionId
  phase : SessionPhase
deriving DecidableEq

inductive SessionRegistration where
  | New
  | AlreadyActive
  | Recovered
deriving DecidableEq

inductive SessionRegistryError where
  | InvalidPeerIdentity
  | ZeroSessionId
  | DuplicateActiveSession
  | SessionLimitReached
  | ReusedSessionId
deriving DecidableEq

structure ControlSessionRegistry where
  sessions : Ordered.Map PeerSessionKey SessionEntry
  recent_session_ids : List SessionId
  seen_session_ids : Finset SessionId

namespace ControlSessionRegistry

def new : ControlSessionRegistry :=
  { sessions := ∅, recent_session_ids := [], seen_session_ids := ∅ }

def get (self : ControlSessionRegistry) (key : PeerSessionKey) : Option SessionEntry :=
  self.sessions[key]?

/-- The oldest id is forgotten when the history is full. -/
def remember_session_id (self : ControlSessionRegistry) (session_id : SessionId) : ControlSessionRegistry :=
  match self.recent_session_ids with
  | oldest :: rest =>
    if self.recent_session_ids.length = MAX_RECENT_SESSION_IDS then
      { self with
        recent_session_ids := rest ++ [session_id]
        seen_session_ids := insert session_id (self.seen_session_ids.erase oldest) }
    else
      { self with
        recent_session_ids := self.recent_session_ids ++ [session_id]
        seen_session_ids := insert session_id self.seen_session_ids }
  | [] => { self with recent_session_ids := [session_id], seen_session_ids := insert session_id self.seen_session_ids }

/-- An entry of the map, with the id remembered. -/
def record (self : ControlSessionRegistry) (key : PeerSessionKey) (session_id : SessionId) : ControlSessionRegistry :=
  { self with sessions := self.sessions.insert key { session_id, phase := .Active } }.remember_session_id session_id

def activate_after_authentication (self : ControlSessionRegistry) (key : PeerSessionKey) (session_id : SessionId) :
    Except SessionRegistryError SessionRegistration × ControlSessionRegistry :=
  if key.is_valid = false then (.error .InvalidPeerIdentity, self)
  else if session_id.toList.all (· == 0) = true then (.error .ZeroSessionId, self)
  else match self.sessions[key]? with
    | some existing =>
      -- an exact active registration is idempotent; a competing generation cannot replace it
      if existing.phase = .Active then
        (if existing.session_id = session_id then .ok .AlreadyActive else .error .DuplicateActiveSession, self)
      else if existing.session_id = session_id then (.error .DuplicateActiveSession, self)
      else if self.sessions.toList.any (fun other => other.1 ≠ key && other.2.session_id = session_id) = true then
        (.error .DuplicateActiveSession, self)
      else if session_id ∈ self.seen_session_ids then (.error .ReusedSessionId, self)
      else (.ok .Recovered, self.record key session_id)
    | none =>
      if self.sessions.toList.any (fun other => other.1 ≠ key && other.2.session_id = session_id) = true then
        (.error .DuplicateActiveSession, self)
      else if session_id ∈ self.seen_session_ids then (.error .ReusedSessionId, self)
      else if self.sessions.size ≥ MAX_CONTROL_SESSIONS then (.error .SessionLimitReached, self)
      else (.ok .New, self.record key session_id)

def mark_lost (self : ControlSessionRegistry) (key : PeerSessionKey) (session_id : SessionId) :
    Bool × ControlSessionRegistry :=
  match self.sessions[key]? with
  | none => (false, self)
  | some existing =>
    if existing.session_id ≠ session_id ∨ existing.phase = .Lost then (false, self)
    else (true, { self with sessions := self.sessions.insert key { existing with phase := .Lost } })

def mark_reconnecting (self : ControlSessionRegistry) (key : PeerSessionKey) (session_id : SessionId) :
    Bool × ControlSessionRegistry :=
  match self.sessions[key]? with
  | none => (false, self)
  | some existing =>
    if existing.session_id ≠ session_id ∨ existing.phase ≠ .Lost then (false, self)
    else (true, { self with sessions := self.sessions.insert key { existing with phase := .Reconnecting } })

/-- Session-scoped, idempotent cleanup. -/
def remove_if_current (self : ControlSessionRegistry) (key : PeerSessionKey) (session_id : SessionId) :
    Bool × ControlSessionRegistry :=
  if (self.sessions[key]?).any (fun existing => existing.session_id = session_id) = true then
    (true, { self with sessions := self.sessions.erase key })
  else (false, self)

variable {self : ControlSessionRegistry} {key : PeerSessionKey} {session_id : SessionId}

@[simp]
theorem get_new : new.get key = none := by
  simp [get, new]

@[simp]
theorem sessions_remember_session_id : (self.remember_session_id session_id).sessions = self.sessions := by
  unfold remember_session_id
  split
  · split <;> rfl
  · rfl

theorem get_record (other : PeerSessionKey) :
    (self.record key session_id).get other = if other = key then some ⟨session_id, .Active⟩ else self.get other := by
  rw [get, record, sessions_remember_session_id, Ordered.getElem?_insert_eq]
  simp only [eq_comm]
  rfl

/-- What an id must be to be recorded for a peer. -/
structure Admissible (registry : ControlSessionRegistry) (key : PeerSessionKey) (session_id : SessionId) : Prop where
  valid : key.is_valid = true
  nonzero : session_id.toList.all (· == 0) = false
  unshared : ∀ other entry, registry.get other = some entry → entry.session_id ≠ session_id
  unseen : session_id ∉ registry.seen_session_ids

/-- What an activation can do: put an active entry where none was active, or answer something else and
leave the registry as it is. -/
inductive Activation (self : ControlSessionRegistry) (key : PeerSessionKey) (session_id : SessionId) :
    Except SessionRegistryError SessionRegistration × ControlSessionRegistry → Prop where
  | new (hadmissible : self.Admissible key session_id) (hfree : self.get key = none)
      (hroom : self.sessions.size < MAX_CONTROL_SESSIONS) :
      Activation self key session_id (.ok .New, self.record key session_id)
  | recovered {existing : SessionEntry} (hadmissible : self.Admissible key session_id)
      (hget : self.get key = some existing) (hphase : existing.phase ≠ .Active) :
      Activation self key session_id (.ok .Recovered, self.record key session_id)
  | already_active (hget : self.get key = some ⟨session_id, .Active⟩) :
      Activation self key session_id (.ok .AlreadyActive, self)
  | rejected (error : SessionRegistryError) : Activation self key session_id (.error error, self)

/-- The scan of the other peers' entries, with the one of the peer itself. -/
theorem admissible_of_checks (hvalid : ¬ key.is_valid = false) (hzero : ¬ session_id.toList.all (· == 0) = true)
    (hown : ∀ entry, self.get key = some entry → entry.session_id ≠ session_id)
    (hothers : ¬ self.sessions.toList.any (fun other => other.1 ≠ key && other.2.session_id = session_id) = true)
    (hseen : session_id ∉ self.seen_session_ids) : self.Admissible key session_id where
  valid := by simpa using hvalid
  nonzero := by simpa only [Bool.not_eq_true] using hzero
  unshared := by
    intro other entry hentry hsame
    by_cases hother : other = key
    · exact hown entry (hother ▸ hentry) hsame
    · refine hothers (List.any_eq_true.mpr ⟨(other, entry), Ordered.mem_toList.mpr hentry, ?_⟩)
      simp [hother, hsame]
  unseen := hseen

theorem activate_after_authentication_cases (self : ControlSessionRegistry) (key : PeerSessionKey)
    (session_id : SessionId) :
    Activation self key session_id (self.activate_after_authentication key session_id) := by
  unfold activate_after_authentication
  cases hget : self.sessions[key]? with
  | some existing =>
    dsimp only
    split_ifs with hvalid hzero hactive hsame hsame hshared hseen
    · exact .rejected _
    · exact .rejected _
    · obtain ⟨id, phase⟩ := existing
      subst hactive hsame
      exact .already_active hget
    · exact .rejected _
    · exact .rejected _
    · exact .rejected _
    · exact .rejected _
    · refine .recovered (admissible_of_checks hvalid hzero (fun entry hentry => ?_) hshared hseen) hget hactive
      obtain rfl := Option.some.inj (hget.symm.trans hentry)
      exact hsame
  | none =>
    dsimp only
    split_ifs with hvalid hzero hshared hseen hfull
    · exact .rejected _
    · exact .rejected _
    · exact .rejected _
    · exact .rejected _
    · exact .rejected _
    · refine .new (admissible_of_checks hvalid hzero (fun entry hentry => ?_) hshared hseen) hget (not_le.mp hfull)
      cases hget.symm.trans hentry

theorem get_remove_if_current (self : ControlSessionRegistry) (key other : PeerSessionKey) (session_id : SessionId) :
    (self.remove_if_current key session_id).2.get other =
      if other = key ∧ (self.get key).any (fun existing => existing.session_id = session_id) = true then none
      else self.get other := by
  unfold remove_if_current
  split_ifs with hcurrent hboth hboth
  · rw [get, Ordered.getElem?_erase_eq, if_pos hboth.1.symm]
  · rw [get, Ordered.getElem?_erase_eq, if_neg fun h => hboth ⟨h.symm, hcurrent⟩, get]
  · exact absurd hboth.2 hcurrent
  · rfl

end ControlSessionRegistry

end blueroute_protocol.session
