import BlueRoute.Core.TopologyRecovery.Settled

open Ordered Ranking

namespace blueroute.topology_recovery

open topology_executor topology_policy

/-- The incumbents are the hubs of a set. -/
def Seats (inputs : TopologyPolicyInputs) (seated : Finset NodeId) : Prop :=
  ∀ (id : NodeId) (candidate : TopologyCandidate), inputs.candidates[id]? = some candidate →
    (candidate.currently_hosting = true ↔ id ∈ seated)

variable {inputs : TopologyPolicyInputs}

variable {before stars : List NapAssignment}

/-- A run among incumbents picks by merit. -/
theorem settles_of_greedy {seated : Finset NodeId} (hseats : Seats inputs seated) (h : Greedy inputs before stars)
    (hseated : ∀ star ∈ stars, star.hub ∈ seated) : Settles inputs before stars := by
  induction h with
  | done => trivial
  | @pick before rest proposal hbest hrest ih =>
    obtain ⟨⟨candidate, capacity, hproposes⟩, hmax⟩ := best_proposes hbest
    have hclients : proposal.star.clients =
        (offered inputs (remaining inputs before) proposal.hub).map Prod.fst := by
      rw [offered_eq hproposes.found hproposes.ceiling, ← hproposes.clients]
      rfl
    refine ⟨?_, hclients, ?_, ih fun star hstar => hseated star (List.mem_cons_of_mem _ hstar)⟩
    · intro hnil
      exact hproposes.nonempty (List.map_eq_nil_iff.mp hnil)
    · intro other hother
      obtain ⟨first, after, found, room, later, _, rfl, hlater⟩ := Greedy.proposes_of_mem hrest hother
      have hout := hrest.hubs_nodup.2 later.star hother
      simp only [mem_hubs, List.mem_append, List.mem_singleton, not_exists, not_and] at hout
      have hfresh : later.hub ∉ hubs before := by
        intro hin
        obtain ⟨star, hstar, heq⟩ := mem_hubs.mp hin
        exact hout star (.inl hstar) heq
      have hsubset : remaining inputs (before ++ [proposal.star] ++ first) ⊆ remaining inputs before := by
        rw [List.append_assoc]
        exact remaining_append_subset inputs before _
      obtain ⟨wider, hhub, _, hwider⟩ := hlater.widen hsubset hfresh
      have hle := hmax wider found room hwider
      have hne : wider.score ≠ proposal.score := by
        rw [hwider.score, hproposes.score]
        intro heq
        simp only [EmbeddingLike.apply_eq_iff_eq, Prod.mk.injEq] at heq
        exact hout proposal.star (.inr rfl) ((standing_injective heq.2.2).symm.trans hhub)
      have hhosting : candidate.currently_hosting = found.currently_hosting := by
        rw [(hseats _ _ hproposes.found).mpr (hseated proposal.star List.mem_cons_self),
          (hseats _ _ hlater.found).mpr (hseated later.star (List.mem_cons_of_mem _ hother))]
      have hmerit := (score_lt_iff hproposes hwider hhosting).mp (lt_of_le_of_ne hle hne)
      rwa [hhub] at hmerit

/-- The stars of a settled observation have different hubs. -/
theorem Settles.hubs_nodup (h : Settles inputs before stars) : (stars.map NapAssignment.hub).Nodup := by
  induction stars generalizing before with
  | nil => exact List.nodup_nil
  | cons star rest ih =>
    obtain ⟨_, _, hrank, hrest⟩ := h
    rw [List.map_cons, List.nodup_cons]
    refine ⟨fun hin => ?_, ih hrest⟩
    obtain ⟨other, hother, heq⟩ := List.mem_map.mp hin
    exact absurd (hrank other hother) (heq ▸ lt_irrefl _)

/-- What a star of a settled observation takes at its turn. -/
theorem Settles.clients_of_mem (h : Settles inputs before stars) {star : NapAssignment} (hstar : star ∈ stars) :
    star.clients ≠ [] ∧ ∃ first, star.clients =
      (offered inputs (remaining inputs (before ++ first)) star.hub).map Prod.fst := by
  induction stars generalizing before with
  | nil => cases hstar
  | cons head rest ih =>
    obtain ⟨hnonempty, hclients, _, hrest⟩ := h
    obtain rfl | hstar := List.mem_cons.mp hstar
    · exact ⟨hnonempty, [], by rwa [List.append_nil]⟩
    · obtain ⟨hsome, first, htail⟩ := ih hrest hstar
      exact ⟨hsome, head :: first, by rw [htail, List.append_assoc, List.singleton_append]⟩

/-- Under different hubs, the clients of a star are read off the links. -/
theorem mem_clients_iff (hnodup : (stars.map NapAssignment.hub).Nodup) {star : NapAssignment} (hstar : star ∈ stars)
    (client : NodeId) : client ∈ star.clients ↔ { hub := star.hub, client } ∈ links { stars, unserved := ∅ } := by
  rw [mem_links]
  constructor
  · exact fun hclient => ⟨star, hstar, rfl, hclient⟩
  · rintro ⟨other, hother, hhub, hclient⟩
    rwa [← List.inj_on_of_nodup_map hnodup hother hstar hhub]

section

variable {left right : TopologyPolicyInputs} {first stars : List NapAssignment}

/-- An earlier selection and an order of its stars that is settled. -/
structure Revisits (left right : TopologyPolicyInputs) (first stars : List NapAssignment) : Prop where
  reseated : Reseated left right
  selected : Greedy left [] first
  seats : Seats right (hubs first)
  links_eq : links { stars := stars, unserved := ∅ } = links { stars := first, unserved := ∅ }
  settles : Settles right [] stars

variable {star : NapAssignment}

theorem Revisits.nonempty (h : Revisits left right first stars) (hstar : star ∈ first) : star.clients ≠ [] := by
  obtain ⟨_, _, _, _, proposal, _, rfl, hproposes⟩ := Greedy.proposes_of_mem h.selected hstar
  exact fun hnil => hproposes.nonempty (List.map_eq_nil_iff.mp hnil)

/-- Both lists have the same hubs, with the same clients. -/
theorem Revisits.partner (h : Revisits left right first stars) (hstar : star ∈ stars) :
    ∃ other ∈ first, other.hub = star.hub ∧ ∀ client, client ∈ star.clients ↔ client ∈ other.clients := by
  obtain ⟨client, hclient⟩ := List.exists_mem_of_ne_nil _ (h.settles.clients_of_mem hstar).1
  have hlink := (mem_clients_iff h.settles.hubs_nodup hstar client).mp hclient
  rw [h.links_eq] at hlink
  obtain ⟨other, hother, hhub, _⟩ := mem_links.mp hlink
  refine ⟨other, hother, hhub, fun client => ?_⟩
  rw [mem_clients_iff h.settles.hubs_nodup hstar, mem_clients_iff h.selected.hubs_nodup.1 hother, h.links_eq, hhub]

theorem Revisits.copartner (h : Revisits left right first stars) (hstar : star ∈ first) :
    ∃ other ∈ stars, other.hub = star.hub ∧ ∀ client, client ∈ star.clients ↔ client ∈ other.clients := by
  obtain ⟨client, hclient⟩ := List.exists_mem_of_ne_nil _ (h.nonempty hstar)
  have hlink := (mem_clients_iff h.selected.hubs_nodup.1 hstar client).mp hclient
  rw [← h.links_eq] at hlink
  obtain ⟨other, hother, hhub, _⟩ := mem_links.mp hlink
  refine ⟨other, hother, hhub, fun client => ?_⟩
  rw [mem_clients_iff h.settles.hubs_nodup hother, mem_clients_iff h.selected.hubs_nodup.1 hstar, h.links_eq, hhub]

theorem Revisits.hubs_eq (h : Revisits left right first stars) : hubs stars = hubs first := by
  ext node
  rw [mem_hubs, mem_hubs]
  constructor
  · rintro ⟨star, hstar, rfl⟩
    obtain ⟨other, hother, hhub, _⟩ := h.partner hstar
    exact ⟨other, hother, hhub⟩
  · rintro ⟨star, hstar, rfl⟩
    obtain ⟨other, hother, hhub, _⟩ := h.copartner hstar
    exact ⟨other, hother, hhub⟩

theorem Revisits.taken_eq (h : Revisits left right first stars) : taken stars = taken first := by
  ext node
  rw [mem_taken, mem_taken]
  constructor
  · rintro ⟨star, hstar, huse⟩
    obtain ⟨other, hother, hhub, hclients⟩ := h.partner hstar
    exact ⟨other, hother, by rwa [hhub, ← hclients]⟩
  · rintro ⟨star, hstar, huse⟩
    obtain ⟨other, hother, hhub, hclients⟩ := h.copartner hstar
    exact ⟨other, hother, by rwa [hhub, ← hclients]⟩

/-- Nothing is left to propose after the last star. -/
theorem Revisits.finished (h : Revisits left right first stars) :
    best right (remaining right stars) (hubs stars) = none := by
  rw [best_eq_none]
  intro proposal candidate capacity hproposes
  have hremaining : remaining right stars = remaining left first := by
    rw [h.reseated.remaining, remaining, remaining, h.taken_eq]
  obtain ⟨other, _, hother⟩ := h.reseated.symm.proposes hproposes
  rw [hremaining, h.hubs_eq] at hother
  exact best_eq_none.mp h.selected.done_at _ _ _ hother

/-- The candidate behind a hub of the earlier selection. -/
theorem Revisits.able (h : Revisits left right first stars) {hub : NodeId} (hhub : hub ∈ hubs first) :
    ∃ candidate capacity, right.candidates[hub]? = some candidate ∧
      candidate.capabilities.can_host_pan = some true ∧ candidate.capabilities.usable = some true ∧
      candidate.capabilities.ceiling = some capacity ∧ 0 < capacity ∧ candidate.currently_hosting = true := by
  obtain ⟨star, hstar, rfl⟩ := mem_hubs.mp hhub
  obtain ⟨_, _, _, capacity, proposal, _, rfl, hproposes⟩ := Greedy.proposes_of_mem h.selected hstar
  obtain ⟨candidate, _, hright⟩ := h.reseated.proposes hproposes
  exact ⟨candidate, capacity, hright.found, hright.can_host, hright.usable, hright.ceiling, hright.positive,
    (h.seats _ _ hright.found).mpr hhub⟩

theorem coverage_le_of_score_le {inputs : TopologyPolicyInputs} {unserved selected : Finset NodeId}
    {candidate found : TopologyCandidate} {capacity room : Nat} {proposal other : Proposal}
    (h : Proposes inputs unserved selected candidate capacity proposal)
    (hother : Proposes inputs unserved selected found room other) (hle : other.score ≤ proposal.score) :
    other.clients.length ≤ proposal.clients.length := by
  rw [h.score, hother.score, Prod.Lex.toLex_le_toLex] at hle
  obtain hlt | ⟨heq, _⟩ := hle
  · exact hlt.le
  · exact heq.le

theorem offered_nodup (inputs : TopologyPolicyInputs) (unserved : Finset NodeId) (hub : NodeId) :
    ((offered inputs unserved hub).map Prod.fst).Nodup := by
  unfold offered
  split
  · exact List.nodup_nil
  · exact offer_nodup _ _ _ _ _

theorem length_offered_mono (inputs : TopologyPolicyInputs) {narrow wide : Finset NodeId} (hsubset : narrow ⊆ wide)
    (hub : NodeId) : (offered inputs narrow hub).length ≤ (offered inputs wide hub).length := by
  unfold offered
  split
  · exact le_refl _
  · exact length_offer_mono inputs hsubset _ _ _

variable {before rest : List NapAssignment}

/-- A star that is still due covers no more than the one whose turn it is. -/
theorem Revisits.due_covered (h : Revisits left right first stars) {star due : NapAssignment}
    (hstars : stars = before ++ star :: rest) (hsettles : Settles right before (star :: rest))
    (hdue : due ∈ star :: rest) :
    due.clients.length ≤ (offered right (remaining right before) star.hub).length := by
  have hin : ∀ {other}, other ∈ star :: rest → other.hub ∈ hubs first := by
    intro other hother
    rw [← h.hubs_eq, mem_hubs]
    exact ⟨other, by rw [hstars]; exact List.mem_append_right _ hother, rfl⟩
  have hown : due.clients.length ≤ (offered right (remaining right before) due.hub).length := by
    obtain ⟨_, mid, hclients⟩ := hsettles.clients_of_mem hdue
    rw [hclients, List.length_map]
    exact length_offered_mono right (remaining_append_subset right before mid) _
  obtain rfl | hrest := List.mem_cons.mp hdue
  · exact hown
  · have hmerit := hsettles.2.2.1 due hrest
    obtain ⟨_, _, hfound, _, _, hceiling, _⟩ := h.able (hin hdue)
    obtain ⟨_, _, hfound', _, _, hceiling', _⟩ := h.able (hin List.mem_cons_self)
    rw [merit_eq hfound hceiling, merit_eq hfound' hceiling', WithBot.coe_lt_coe, Prod.Lex.toLex_lt_toLex] at hmerit
    rw [offered_eq hfound hceiling] at hown
    rw [offered_eq hfound' hceiling']
    obtain hlt | ⟨heq, _⟩ := hmerit
    · exact hown.trans hlt.le
    · exact hown.trans heq.le

/-- A hub that the earlier selection did not use does not cover more than the
star whose turn it is. -/
theorem Revisits.outsider_covered (h : Revisits left right first stars) (hstars : stars = before ++ star :: rest)
    (hsettles : Settles right before (star :: rest)) {candidate : TopologyCandidate} {capacity : Nat}
    {proposal : Proposal}
    (hproposes : Proposes right (remaining right before) (hubs before) candidate capacity proposal)
    (houtsider : proposal.hub ∉ hubs first) :
    proposal.clients.length ≤ (offered right (remaining right before) star.hub).length := by
  have hstar : star ∈ stars := by
    rw [hstars]
    exact List.mem_append_right _ List.mem_cons_self
  have hfresh : star.hub ∉ hubs before := by
    intro hin
    obtain ⟨other, hother, hhub⟩ := mem_hubs.mp hin
    have hnodup := h.settles.hubs_nodup
    rw [hstars, List.map_append, List.map_cons] at hnodup
    exact (List.disjoint_of_nodup_append hnodup) (List.mem_map.mpr ⟨other, hother, rfl⟩)
      (hhub ▸ List.mem_cons_self)
  -- the first star of the earlier selection that is still due
  obtain ⟨partner, hpartner, hhub, _⟩ := h.partner hstar
  cases hfind : first.find? fun other => decide (other.hub ∉ hubs before) with
  | none =>
    rw [List.find?_eq_none] at hfind
    exact absurd (decide_eq_true (hhub ▸ hfresh)) (hfind partner hpartner)
  | some lead =>
    obtain ⟨hlead, earlier, later, hsplit, hearlier⟩ := List.find?_eq_some_iff_append.mp hfind
    rw [decide_eq_true_eq] at hlead
    have hdone : ∀ other ∈ earlier, other.hub ∈ hubs before := by
      intro other hother
      simpa using hearlier other hother
    have hsubset : remaining right before ⊆ remaining left earlier := by
      rw [h.reseated.remaining]
      intro node hnode
      obtain ⟨hknown, hfree⟩ := mem_remaining.mp hnode
      refine mem_remaining.mpr ⟨hknown, fun htaken => hfree ?_⟩
      obtain ⟨other, hother, huse⟩ := mem_taken.mp htaken
      obtain ⟨same, hsame, hsameHub⟩ := mem_hubs.mp (hdone other hother)
      have hsameIn : same ∈ stars := hstars ▸ List.mem_append_left _ hsame
      obtain ⟨back, hback, hbackHub, hclients⟩ := h.partner hsameIn
      have hotherIn : other ∈ first := hsplit ▸ List.mem_append_left _ hother
      have heq := List.inj_on_of_nodup_map h.selected.hubs_nodup.1 hback hotherIn (hbackHub.trans hsameHub)
      exact mem_taken.mpr ⟨same, hsame, by rwa [hclients, heq, hsameHub]⟩
    have hselected := h.selected
    rw [hsplit] at hselected
    obtain ⟨leading, hbest, hleading, _⟩ := hselected.pick_at
    rw [List.nil_append] at hbest
    obtain ⟨⟨_, _, hleads⟩, hmax⟩ := best_proposes hbest
    have hnew : proposal.hub ∉ hubs earlier := by
      intro hin
      obtain ⟨other, hother, heq⟩ := mem_hubs.mp hin
      exact houtsider (mem_hubs.mpr ⟨other, hsplit ▸ List.mem_append_left _ hother, heq⟩)
    obtain ⟨other, _, hleft⟩ := h.reseated.symm.proposes hproposes
    obtain ⟨wider, _, hwide, hwider⟩ := hleft.widen hsubset hnew
    have hleadIn : lead ∈ first := hsplit ▸ List.mem_append_right _ List.mem_cons_self
    obtain ⟨due, hdue, hdueHub, hclients⟩ := h.copartner hleadIn
    have hdueRest : due ∈ star :: rest := by
      rw [hstars] at hdue
      refine (List.mem_append.mp hdue).resolve_left fun hin => hlead ?_
      exact mem_hubs.mpr ⟨due, hin, hdueHub⟩
    have hlength : lead.clients.length = due.clients.length := by
      refine ((List.perm_ext_iff_of_nodup ?_ ?_).mpr hclients).length_eq
      · exact (List.nodup_flatMap.mp h.selected.clients_nodup.1).1 lead hleadIn
      · obtain ⟨_, mid, hown⟩ := h.settles.clients_of_mem hdue
        rw [hown]
        exact offered_nodup _ _ _
    calc proposal.clients.length
        ≤ wider.clients.length := hwide
      _ ≤ leading.clients.length := coverage_le_of_score_le hleads hwider (hmax wider _ _ hwider)
      _ = due.clients.length := by rw [← hlength, ← hleading, Proposal.star, List.length_map]
      _ ≤ _ := h.due_covered hstars hsettles hdueRest

/-- The star whose turn it is wins the iteration. -/
theorem Revisits.picked (h : Revisits left right first stars) (hstars : stars = before ++ star :: rest)
    (hsettles : Settles right before (star :: rest)) :
    ∃ proposal, best right (remaining right before) (hubs before) = some proposal ∧ proposal.star = star := by
  have hnodup := h.settles.hubs_nodup
  rw [hstars, List.map_append, List.map_cons] at hnodup
  have hfresh : star.hub ∉ hubs before := by
    intro hin
    obtain ⟨other, hother, hhub⟩ := mem_hubs.mp hin
    exact (List.disjoint_of_nodup_append hnodup) (List.mem_map.mpr ⟨other, hother, rfl⟩) (hhub ▸ List.mem_cons_self)
  have hin : star.hub ∈ hubs first := by
    rw [← h.hubs_eq, mem_hubs]
    exact ⟨star, by rw [hstars]; exact List.mem_append_right _ List.mem_cons_self, rfl⟩
  obtain ⟨hnonempty, hclients, hrank, _⟩ := hsettles
  obtain ⟨candidate, capacity, hfound, hhost, husable, hceiling, hpositive, hhosting⟩ := h.able hin
  rw [offered_eq hfound hceiling] at hclients
  have hoffer : offer right (remaining right before) star.hub candidate capacity ≠ [] := by
    intro hnil
    rw [hnil] at hclients
    exact hnonempty hclients
  let proposal : Proposal :=
    { hub := star.hub
      clients := offer right (remaining right before) star.hub candidate capacity
      score := toLex ((offer right (remaining right before) star.hub candidate capacity).length,
        toLex (candidate.currently_hosting,
          standing star.hub candidate (offer right (remaining right before) star.hub candidate capacity))) }
  have hproposes : Proposes right (remaining right before) (hubs before) candidate capacity proposal :=
    ⟨hfound, hfresh, hhost, husable, hceiling, hpositive, rfl, hoffer, rfl⟩
  refine ⟨proposal, strongest_eq_of_lt (mem_proposals.mpr ⟨_, _, hproposes⟩) ?_, ?_⟩
  · intro other hother
    obtain ⟨found, room, hfoundOther⟩ := mem_proposals.mp hother
    by_cases hsame : other.hub = star.hub
    · left
      exact hfoundOther.eq_of_hub hproposes hsame
    right
    by_cases hinsider : other.hub ∈ hubs first
    · -- both are incumbents, so merit decides
      have hlater : ∃ due ∈ rest, due.hub = other.hub := by
        rw [← h.hubs_eq, mem_hubs, hstars] at hinsider
        obtain ⟨due, hdue, hhub⟩ := hinsider
        obtain hdone | hdue := List.mem_append.mp hdue
        · exact absurd (mem_hubs.mpr ⟨due, hdone, hhub⟩) hfoundOther.fresh
        · obtain rfl | hdue := List.mem_cons.mp hdue
          · exact absurd hhub.symm hsame
          · exact ⟨due, hdue, hhub⟩
      obtain ⟨due, hdue, hhub⟩ := hlater
      have hseated := (h.seats _ _ hfoundOther.found).mpr hinsider
      refine (score_lt_iff hproposes hfoundOther (hhosting.trans hseated.symm)).mpr ?_
      rw [← hhub]
      exact hrank due hdue
    · -- an outsider covers no more and is no incumbent
      have hcover := h.outsider_covered hstars ⟨hnonempty, by rwa [offered_eq hfound hceiling], hrank, ‹_›⟩
        hfoundOther hinsider
      rw [offered_eq hfound hceiling] at hcover
      have hout : found.currently_hosting = false := by
        rw [Bool.eq_false_iff, ne_eq, h.seats _ _ hfoundOther.found]
        exact hinsider
      rw [hfoundOther.score, hproposes.score, hout, hhosting, Prod.Lex.toLex_lt_toLex]
      obtain hlt | heq := hcover.lt_or_eq
      · exact .inl hlt
      · refine .inr ⟨heq, ?_⟩
        rw [Prod.Lex.toLex_lt_toLex]
        exact .inl Bool.false_lt_true
  · obtain ⟨hub, clients⟩ := star
    simp only [Proposal.star, proposal, NapAssignment.mk.injEq, true_and]
    exact hclients.symm

theorem Revisits.greedy_from (h : Revisits left right first stars) (rest : List NapAssignment) :
    ∀ before, stars = before ++ rest → Settles right before rest → Greedy right before rest := by
  induction rest with
  | nil =>
    intro before hstars _
    rw [List.append_nil] at hstars
    exact .done (hstars ▸ h.finished)
  | cons star rest ih =>
    intro before hstars hsettles
    obtain ⟨proposal, hbest, rfl⟩ := h.picked hstars hsettles
    refine .pick hbest (ih (before ++ [proposal.star]) ?_ hsettles.2.2.2)
    rw [hstars, List.append_assoc, List.singleton_append]

end

/-- Selecting again with the selected hubs as incumbents leads to the same
links exactly when the selected stars are settled. -/
theorem reselects_iff_settled {left right : TopologyPolicyInputs} {first again : List NapAssignment}
    (hsame : Reseated left right) (hfirst : Greedy left [] first) (hseats : Seats right (hubs first))
    (hagain : Greedy right [] again) :
    links { stars := again, unserved := ∅ } = links { stars := first, unserved := ∅ } ↔
      Settled right (links { stars := first, unserved := ∅ }) := by
  constructor
  · intro hlinks
    refine ⟨again, hlinks, settles_of_greedy hseats hagain ?_⟩
    intro star hstar
    obtain ⟨_, _, _, _, proposal, _, rfl, hproposes⟩ := Greedy.proposes_of_mem hagain hstar
    obtain ⟨client, hclient⟩ := List.exists_mem_of_ne_nil proposal.star.clients
      fun hnil => hproposes.nonempty (List.map_eq_nil_iff.mp hnil)
    have hlink := (mem_clients_iff hagain.hubs_nodup.1 hstar client).mp hclient
    rw [hlinks] at hlink
    obtain ⟨other, hother, hhub, _⟩ := mem_links.mp hlink
    exact mem_hubs.mpr ⟨other, hother, hhub⟩
  · rintro ⟨stars, hlinks, hsettles⟩
    have hrevisits : Revisits left right first stars := ⟨hsame, hfirst, hseats, hlinks, hsettles⟩
    rw [hagain.unique (hrevisits.greedy_from stars [] rfl hsettles)]
    exact hlinks

end blueroute.topology_recovery
