import BlueRoute.Daemon.JoinNetwork.Transaction

namespace blueroute_daemon.join_network

open blueroute blueroute_linux Interact single_star

abbrev Joins (κ : Type) := Pool κ interface Caller Bool NetworkId (Except Stop Unit)

abbrev JoinLabel (κ : Type) := Label κ interface Caller Bool NetworkId (Except Stop Unit)

/-- No call has been made yet. -/
structure Joins.Initial {κ : Type} (joins : Joins κ) : Prop where
  fresh : ∀ k, (joins.own k).phase = .Fresh
  idle : ∀ k, joins.running k = none
  free : joins.shared = false

/-- The one call that has passed the claim holds the flag. -/
structure Joins.Exclusive {κ : Type} (joins : Joins κ) : Prop where
  flagged : ∀ k, (joins.own k).phase = .Claimed → joins.shared = true
  unique : ∀ j k, (joins.own j).phase = .Claimed → (joins.own k).phase = .Claimed → j = k

/-- What a request does to the phase of its call and to the flag. -/
theorem world_change {before after : Caller × Bool} {r : Request} {answer : r.Answer}
    (h : world before r answer after) :
    (before.2 = false ∧ after.1.phase = .Claimed ∧ after.2 = true) ∨
    (r = .drop_guard ∧ after.1.phase = .Done ∧ after.2 = (before.2 && before.1.may_have_live_resources)) ∨
    (after.1.phase = before.1.phase ∧ after.2 = before.2) := by
  obtain ⟨hown, hflag⟩ := h
  rw [hown]
  cases r with
  | claim =>
    obtain ⟨hclaimed, hset⟩ := hflag
    cases answer with
    | true => exact .inl ⟨by simpa using hclaimed.symm, rfl, hset⟩
    | false => exact .inr (.inr ⟨rfl, hset.trans (by simpa using hclaimed.symm)⟩)
  | drop_guard => exact .inr (.inl ⟨rfl, rfl, hflag⟩)
  | _ => exact .inr (.inr ⟨rfl, hflag⟩)

section Exclusion

variable {κ : Type} {pool : Ipv4AddressPool} {joins next : Joins κ} {label : JoinLabel κ}

theorem Joins.exclusive_of_initial (h : joins.Initial) : joins.Exclusive where
  flagged k hclaimed := by
    rw [h.fresh k] at hclaimed
    cases hclaimed
  unique j _ hclaimed := by
    rw [h.fresh j] at hclaimed
    cases hclaimed

/-- Calls that hold no guard they did not hold before keep the flag to its holder. -/
theorem Joins.Exclusive.of_phases (h : joins.Exclusive) (hshared : next.shared = joins.shared)
    (hphase : ∀ k, (next.own k).phase = .Claimed → (joins.own k).phase = .Claimed) : next.Exclusive where
  flagged k hclaimed := hshared.trans (h.flagged k (hphase k hclaimed))
  unique j k hj hk := h.unique j k (hphase j hj) (hphase k hk)

variable [DecidableEq κ]

/-- A call that is past the claim after one call has changed is that call, or was past it before. -/
theorem claimed_of_update {own : κ → Caller} {j k : κ} {changed : Caller}
    (h : (Function.update own j changed k).phase = .Claimed) :
    (k = j ∧ changed.phase = .Claimed) ∨ (k ≠ j ∧ (own k).phase = .Claimed) := by
  obtain rfl | hk := eq_or_ne k j
  · rw [Function.update_self] at h
    exact .inl ⟨rfl, h⟩
  · rw [Function.update_of_ne hk] at h
    exact .inr ⟨hk, h⟩

theorem Joins.Exclusive.step (h : joins.Exclusive)
    (hguard : ∀ k event, label = .request k event → Guard pool (joins.own k) event.request)
    (hstep : (tasks pool).Step joins label next) : next.Exclusive := by
  cases hstep with
  | start _ _ => exact h.of_phases rfl fun _ hclaimed => hclaimed
  | drift hdrift => exact hdrift.elim
  | @finish j network result history hrunning =>
    refine h.of_phases rfl fun k hclaimed => ?_
    obtain ⟨-, hdone⟩ | ⟨-, hbefore⟩ := claimed_of_update hclaimed
    · cases hdone
    · exact hbefore
  | @request j network r program history answer own shared hrunning hworld =>
    obtain ⟨hfree, -, hset⟩ | ⟨rfl, hdone, -⟩ | ⟨hphase, hshared⟩ := world_change hworld
    · -- nobody held the flag, so the call that has set it is the only one
      have honly : ∀ k, (Function.update joins.own j own k).phase = .Claimed → k = j := by
        intro k hclaimed
        obtain ⟨rfl, -⟩ | ⟨-, hbefore⟩ := claimed_of_update hclaimed
        · rfl
        · cases hfree.symm.trans (h.flagged k hbefore)
      exact ⟨fun _ _ => hset, fun i k hi hk => (honly i hi).trans (honly k hk).symm⟩
    · have hnone : ∀ k, (Function.update joins.own j own k).phase ≠ .Claimed := by
        intro k hclaimed
        obtain ⟨-, hown⟩ | ⟨hk, hbefore⟩ := claimed_of_update hclaimed
        · cases hdone.symm.trans hown
        · exact hk (h.unique k j hbefore (hguard j _ rfl).1)
      exact ⟨fun k hk => absurd hk (hnone k), fun i _ hi => absurd hi (hnone i)⟩
    · refine h.of_phases hshared fun k hclaimed => ?_
      obtain ⟨rfl, hown⟩ | ⟨-, hbefore⟩ := claimed_of_update hclaimed
      · exact hphase.symm.trans hown
      · exact hbefore

omit [DecidableEq κ] in
theorem tasks_correct :
    (tasks (κ := κ) pool).Correct (Guard pool) (fun _ network result own _ => Post pool network result own) := by
  refine Tasks.correct_of_does ?_
  rintro k network own rfl
  exact join_network_does

/-- Calls of `join_network` in any interleaving, each of which may be dropped at any of its awaits. A
membership is saved only by a call whose own steps have all succeeded, for the network itself. A call
that fails takes back what it was given, in reverse order, each thing once. At most one call is past
the claim, and the flag is cleared only by a call that has changed nothing, has saved its membership or
has undone everything. -/
theorem join_transactions {init : Joins κ} {labels : List (JoinLabel κ)} (hinit : init.Initial)
    (hrun : Runs.Run (tasks pool).Step init labels joins) :
    (∀ j k, (joins.own j).phase = .Claimed → (joins.own k).phase = .Claimed → j = k) ∧
    ∀ (label : JoinLabel κ) (next : Joins κ), (tasks pool).Step joins label next →
      (∀ k event registry, label = .request k event → event.request = .save registry →
        Committable pool (joins.own k).network (joins.own k).log registry) ∧
      (∀ k network history error, label = .finish k network history (.error (.Failed error)) →
        RolledBack pool network (tally (joins.own k).log)) ∧
      (joins.shared = true → next.shared = false →
        ∃ k event, label = .request k event ∧ event.request = .drop_guard ∧ Settled (joins.own k).log) := by
  obtain ⟨hsafe, hexclusive⟩ := Tasks.invariant_of_run tasks_correct Joins.Exclusive
    (fun _ _ _ h hguard hstep => h.step hguard hstep) hinit.idle (Joins.exclusive_of_initial hinit) hrun
  refine ⟨hexclusive.unique, fun label next hstep => ⟨?_, ?_, fun hset hclear => ?_⟩⟩
  · rintro k event registry rfl hsave
    have hguard := hsafe.guarded hstep
    rw [hsave] at hguard
    exact hguard
  · rintro k network history error rfl
    exact (hsafe.finished hstep).2 error rfl
  · obtain hsame | ⟨k, r, answer, rfl, hworld⟩ | ⟨-, -, hdrift⟩ := hstep.shared
    · rw [hsame, hset] at hclear
      cases hclear
    · obtain ⟨-, -, hflag⟩ | ⟨rfl, -, hflag⟩ | ⟨-, hflag⟩ := world_change hworld
      · cases hclear.symm.trans hflag
      · refine ⟨k, _, rfl, rfl, (hsafe.guarded hstep).2 ?_⟩
        simpa [hset] using hflag.symm.trans hclear
      · cases hclear.symm.trans (hflag.trans hset)
    · exact hdrift.elim

end Exclusion

namespace sample

open outbound_control.sample

def init : Joins Bool := { own := fun _ => .new network, running := fun _ => none, shared := false }

def error : CoreError := .new .AddressConflict "no address"

/-- A call that gets a link and no address for it. -/
def log : List Answered :=
  [⟨.load, .ok .default⟩, ⟨.runtime (.preflight network), some (.ok ())⟩, ⟨.mutation_started, ()⟩,
    ⟨.runtime (.establish_panu network), some (.ok link)⟩,
    ⟨.runtime (.configure_ip network link), some (.error error)⟩,
    ⟨.runtime (.disconnect_panu link), some (.ok ())⟩]

section Execs

variable {α β : Type} {own : Caller} {flag : Bool} {left : JoinAction β} {last : Caller × Bool}

/-- The rest of a call can be executed. -/
def Goes (own : Caller) (flag : Bool) (rest : JoinAction β) (last : Caller × Bool) (left : JoinAction β) : Prop :=
  ∃ events, Exec (ι := interface) world (own, flag) rest events last left

theorem ask_goes (r : Request) (answer : r.Answer) {f : r.Answer → JoinAction β}
    {next : Bool} (hflag : flag_after own flag ⟨r, answer⟩ next)
    (h : Goes (own.after ⟨r, answer⟩) next (f answer) last left) :
    Goes own flag (ask r >>= f) last left := by
  obtain ⟨events, hexec⟩ := h
  exact ⟨_, .step ⟨rfl, hflag⟩ hexec⟩

theorem await_goes (call : RuntimeCall) (result : Result call.Value) {f : Result call.Value → JoinAction β}
    (h : Goes (own.after ⟨.runtime call, some result⟩) flag (f result) last left) :
    Goes own flag (await call >>= f) last left := by
  obtain ⟨events, hexec⟩ := h
  exact ⟨_, .step (t := (own.after ⟨.runtime call, some result⟩, flag)) ⟨rfl, rfl⟩ hexec⟩

theorem propagate_goes {result : Result α} {value : α} {f : α → JoinAction β} (hresult : result = .ok value)
    (h : Goes own flag (f value) last left) : Goes own flag (propagate result >>= f) last left := by
  subst hresult
  exact h

theorem stops_goes {stop : Stop} {action : JoinAction α} {f : α → JoinAction β}
    (h : Goes own flag action last (.ret (.error stop))) : Goes own flag (action >>= f) last (.ret (.error stop)) := by
  obtain ⟨events, hexec⟩ := h
  exact ⟨_, Exec.bind hexec .stop⟩

theorem attempt_goes {ended : Caller × Bool} {result : Except Stop α} {action : JoinAction α}
    {f : Except Stop α → JoinAction β} (haction : Goes own flag action ended (.ret result))
    (h : Goes ended.1 ended.2 (f result) last left) : Goes own flag (action.attempt >>= f) last left := by
  obtain ⟨first, hfirst⟩ := haction
  obtain ⟨second, hsecond⟩ := h
  exact ⟨_, Exec.bind (Exec.bind hfirst .stop) hsecond⟩

end Execs

theorem join_claimed_goes {own : Caller} :
    Goes own true (join_claimed .default network) (log.foldl Caller.after own, true)
      (.ret (.error (.Failed error))) := by
  obtain ⟨plan, hplan⟩ : ∃ plan, Ipv4StarAddressPlan.for_network network .default = .ok plan := ⟨_, rfl⟩
  refine ask_goes .load (.ok .default) rfl ?_
  refine propagate_goes rfl (propagate_goes (by rfl : check_joinable network .default = .ok ())
    (propagate_goes hplan ?_))
  refine await_goes (.preflight network) (.ok ()) (propagate_goes rfl ?_)
  refine ask_goes .mutation_started () rfl ?_
  refine await_goes (.establish_panu network) (.ok link) (propagate_goes rfl ?_)
  refine stops_goes (await_goes (.configure_ip network link) (.error error) ?_)
  exact await_goes (.disconnect_panu link) (.ok ()) ⟨[], .stop⟩

theorem join_goes : Goes (.new network) false (TransactionalJoinNetworkOperations.join_network .default network)
    ((log.foldl Caller.after ((Caller.new network).after ⟨.claim, true⟩)).after ⟨.drop_guard, ()⟩, true)
    (.ret (.error (.Failed error))) := by
  rw [TransactionalJoinNetworkOperations.join_network, if_neg (by decide)]
  refine ask_goes .claim true ⟨rfl, rfl⟩ ?_
  exact attempt_goes join_claimed_goes (ask_goes .drop_guard () rfl ⟨[], .stop⟩)

end sample

/-- A call gets a link but no address, disconnects the link and leaves the flag set. -/
theorem join_transactions_sample :
    ∃ (joins : Joins Bool) (labels : List (JoinLabel Bool)) (history : List (Event interface (Caller × Bool))),
      sample.init.Initial ∧ Runs.Run (tasks .default).Step sample.init
        (labels ++ [.finish true outbound_control.sample.network history (.error (.Failed sample.error))]) joins ∧
      joins.shared = true ∧ (tally (joins.own true).log).links = [outbound_control.sample.link] ∧
      RolledBack .default outbound_control.sample.network (tally (joins.own true).log) := by
  have hinit : sample.init.Initial := ⟨fun _ => rfl, fun _ => rfl, rfl⟩
  obtain ⟨history, hexec⟩ := sample.join_goes
  have hstart : (tasks (κ := Bool) .default).may_start (sample.init.own true) outbound_control.sample.network := rfl
  obtain ⟨labels, last, hrun, hown, -, hshared⟩ := Tasks.run_operation (hinit.idle true) hstart hexec
  refine ⟨last, labels, history, hinit, hrun, hshared, ?_, ?_⟩
  · rw [hown, Function.update_self]
    rfl
  · obtain ⟨before, hbefore, hfinish⟩ := Runs.Run.append_iff.mp hrun
    cases hfinish with
    | cons hstep hnil =>
      cases hnil
      have hback := ((join_transactions hinit hbefore).2 _ _ hstep).2.1 true _ history sample.error rfl
      cases hstep
      simp only [Function.update_self]
      exact hback

end blueroute_daemon.join_network
