import BlueRoute.Core.Topology

namespace blueroute.TopologyGraph

open Ordered

/-- Links and segments refer to what is there and agree with each other. -/
structure Intact (graph : TopologyGraph) : Prop where
  endpoints : ∀ (id : LinkId) (link : PanLink), graph.links[id]? = some link →
    link.nap ∈ graph.nodes ∧ link.panu ∈ graph.nodes ∧ link.nap ≠ link.panu
  attached : ∀ (id : LinkId) (link : PanLink), graph.links[id]? = some link →
    ∃ segment, graph.segments[link.segment_id]? = some segment ∧ segment.nap = link.nap ∧ link.panu ∈ segment.members
  served : ∀ (id : SegmentId) (segment : PanSegment), graph.segments[id]? = some segment →
    segment.nap ∈ graph.nodes ∧ segment.nap ∈ segment.members

/-- A segment whose NAP is a member and that keeps the NAP and the members which the links of its id need. -/
def Accommodates (graph : TopologyGraph) (segment : PanSegment) : Prop :=
  segment.nap ∈ segment.members ∧ ∀ (id : LinkId) (link : PanLink), graph.links[id]? = some link →
    link.segment_id = segment.id → link.nap = segment.nap ∧ link.panu ∈ segment.members

/-- The calls that leave a graph intact. -/
def Admits (graph : TopologyGraph) : Mutation → Prop
  | .add_segment segment => segment.nap ∈ graph.nodes → graph.Accommodates segment
  | _ => True

variable {graph : TopologyGraph}

theorem Intact.add_node (h : graph.Intact) (id : NodeId) (capabilities : NodeCapabilities) :
    (graph.add_node id capabilities).2.Intact where
  endpoints := by
    intro link_id link hlink
    obtain ⟨hnap, hpanu, hne⟩ := h.endpoints link_id link hlink
    exact ⟨mem_insert_iff.mpr (.inr hnap), mem_insert_iff.mpr (.inr hpanu), hne⟩
  attached := h.attached
  served := by
    intro segment_id segment hsegment
    obtain ⟨hnap, hmember⟩ := h.served segment_id segment hsegment
    exact ⟨mem_insert_iff.mpr (.inr hnap), hmember⟩

theorem Intact.remove_node (h : graph.Intact) (id : NodeId) : (graph.remove_node id).2.Intact := by
  unfold TopologyGraph.remove_node
  cases hnode : graph.nodes[id]? with
  | none => exact h
  | some removed =>
    have hlinks (link_id : LinkId) (link : PanLink)
        (hlink : (graph.links.filter fun _ link => link.nap ≠ id && link.panu ≠ id)[link_id]? = some link) :
        graph.links[link_id]? = some link ∧ link.nap ≠ id ∧ link.panu ≠ id := by
      rw [Std.ExtTreeMap.getElem?_filter', Option.filter_eq_some_iff] at hlink
      simpa using hlink
    have hsegments (segment_id : SegmentId) :
        ((graph.segments.filter fun _ segment => segment.nap ≠ id).map
          fun _ segment => segment.remove_member id)[segment_id]? =
        ((graph.segments[segment_id]?).filter fun segment => segment.nap ≠ id).map (·.remove_member id) := by
      rw [Std.ExtTreeMap.getElem?_map, Std.ExtTreeMap.getElem?_filter']
    refine ⟨?_, ?_, ?_⟩
    · intro link_id link hlink
      obtain ⟨hbefore, hnap, hpanu⟩ := hlinks link_id link hlink
      obtain ⟨hnap', hpanu', hne⟩ := h.endpoints link_id link hbefore
      exact ⟨mem_erase_iff.mpr ⟨hnap, hnap'⟩, mem_erase_iff.mpr ⟨hpanu, hpanu'⟩, hne⟩
    · intro link_id link hlink
      obtain ⟨hbefore, hnap, hpanu⟩ := hlinks link_id link hlink
      obtain ⟨segment, hsegment, hsame, hmember⟩ := h.attached link_id link hbefore
      refine ⟨segment.remove_member id, ?_, hsame, Finset.mem_erase.mpr ⟨hpanu, hmember⟩⟩
      rw [hsegments, hsegment, Option.filter_some, if_pos (by simpa [hsame] using hnap)]
      rfl
    · intro segment_id segment hsegment
      rw [hsegments, Option.map_eq_some_iff] at hsegment
      obtain ⟨before, hbefore, rfl⟩ := hsegment
      obtain ⟨hbefore, hkept⟩ := Option.filter_eq_some_iff.mp hbefore
      obtain ⟨hnap, hmember⟩ := h.served segment_id before hbefore
      have hne : before.nap ≠ id := by simpa using hkept
      exact ⟨mem_erase_iff.mpr ⟨hne, hnap⟩, Finset.mem_erase.mpr ⟨hne, hmember⟩⟩

/-- A segment is stored even when its id is in use. -/
theorem Intact.add_segment_iff (h : graph.Intact) (segment : PanSegment) :
    (graph.add_segment segment).2.Intact ↔ (segment.nap ∈ graph.nodes → graph.Accommodates segment) := by
  unfold TopologyGraph.add_segment
  by_cases hnap : segment.nap ∈ graph.nodes
  · obtain ⟨capabilities, hnode⟩ := mem_iff_exists.mp hnap
    rw [hnode, if_neg (by simp)]
    constructor
    · intro hafter _
      refine ⟨(hafter.served segment.id segment ?_).2, fun id link hlink hsegment => ?_⟩
      · rw [getElem?_insert_eq, if_pos rfl]
      · obtain ⟨current, hcurrent, hsame, hmember⟩ := hafter.attached id link hlink
        rw [getElem?_insert_eq, if_pos hsegment.symm] at hcurrent
        obtain rfl := Option.some.inj hcurrent
        exact ⟨hsame.symm, hmember⟩
    · intro haccommodates
      obtain ⟨hserved, hlinks⟩ := haccommodates hnap
      refine ⟨h.endpoints, fun id link hlink => ?_, fun id other hother => ?_⟩
      · rw [getElem?_insert_eq]
        split_ifs with hsegment
        · obtain ⟨hsame, hmember⟩ := hlinks id link hlink hsegment.symm
          exact ⟨segment, rfl, hsame.symm, hmember⟩
        · exact h.attached id link hlink
      · rw [getElem?_insert_eq] at hother
        split_ifs at hother
        · obtain rfl := Option.some.inj hother
          exact ⟨hnap, hserved⟩
        · exact h.served id other hother
  · have hnode : graph.nodes[segment.nap]? = none := Std.ExtTreeMap.getElem?_eq_none hnap
    rw [hnode, Option.isNone_none, if_pos rfl]
    exact ⟨fun _ hmem => absurd hmem hnap, fun _ => h⟩

theorem Intact.add_link (h : graph.Intact) (link : PanLink) : (graph.add_link link).2.Intact := by
  unfold TopologyGraph.add_link
  by_cases hsame : link.nap = link.panu
  · rw [if_pos hsame]
    exact h
  rw [if_neg hsame]
  by_cases habsent : (graph.nodes[link.nap]?.isNone || graph.nodes[link.panu]?.isNone) = true
  · rw [if_pos habsent]
    exact h
  rw [if_neg habsent]
  cases hsegment : graph.segments[link.segment_id]? with
  | none => exact h
  | some segment =>
    dsimp only
    by_cases hnap : segment.nap ≠ link.nap
    · rw [if_pos hnap]
      exact h
    rw [if_neg hnap]
    -- the segment of the link has its PANU as one more member
    have hkept (segment_id : SegmentId) (current : PanSegment) (hcurrent : graph.segments[segment_id]? = some current) :
        ∃ after, (graph.segments.insert link.segment_id (segment.add_member link.panu))[segment_id]? = some after ∧
          after.nap = current.nap ∧ current.members ⊆ after.members := by
      rw [getElem?_insert_eq]
      split_ifs with hid
      · subst hid
        obtain rfl := Option.some.inj (hsegment.symm.trans hcurrent)
        exact ⟨_, rfl, rfl, Finset.subset_insert _ _⟩
      · exact ⟨current, hcurrent, rfl, subset_rfl⟩
    simp only [Bool.or_eq_true, Option.isNone_iff_eq_none, not_or] at habsent
    refine ⟨fun id other hother => ?_, fun id other hother => ?_, fun id other hother => ?_⟩
    · rw [getElem?_insert_eq] at hother
      split_ifs at hother
      · obtain rfl := Option.some.inj hother
        exact ⟨mem_iff_exists.mpr (Option.ne_none_iff_exists'.mp habsent.1),
          mem_iff_exists.mpr (Option.ne_none_iff_exists'.mp habsent.2), hsame⟩
      · exact h.endpoints id other hother
    · rw [getElem?_insert_eq] at hother
      split_ifs at hother
      · obtain rfl := Option.some.inj hother
        refine ⟨segment.add_member link.panu, ?_, not_not.mp hnap, Finset.mem_insert_self _ _⟩
        rw [getElem?_insert_eq, if_pos rfl]
      · obtain ⟨current, hcurrent, hcurrentNap, hmember⟩ := h.attached id other hother
        obtain ⟨after, hafter, hafterNap, hmembers⟩ := hkept other.segment_id current hcurrent
        exact ⟨after, hafter, hafterNap.trans hcurrentNap, hmembers hmember⟩
    · rw [getElem?_insert_eq] at hother
      split_ifs at hother
      · obtain rfl := Option.some.inj hother
        obtain ⟨hnode, hmember⟩ := h.served link.segment_id segment hsegment
        exact ⟨hnode, Finset.mem_insert_of_mem hmember⟩
      · exact h.served id other hother

theorem Intact.remove_link (h : graph.Intact) (id : LinkId) : (graph.remove_link id).2.Intact := by
  unfold TopologyGraph.remove_link
  cases hremoved : graph.links[id]? with
  | none => exact h
  | some removed =>
    obtain ⟨segment, hsegment, hnap, hmember⟩ := h.attached id removed hremoved
    have hlinks (other : LinkId) (link : PanLink) (hlink : (graph.links.erase id)[other]? = some link) :
        graph.links[other]? = some link := by
      rw [getElem?_erase_eq] at hlink
      split_ifs at hlink
      exact hlink
    dsimp only
    rw [hsegment]
    dsimp only
    split_ifs with hattached
    · exact ⟨fun other link hlink => h.endpoints other link (hlinks other link hlink),
        fun other link hlink => h.attached other link (hlinks other link hlink), h.served⟩
    · refine ⟨fun other link hlink => h.endpoints other link (hlinks other link hlink), ?_, ?_⟩
      · intro other link hlink
        obtain ⟨current, hcurrent, hcurrentNap, hpanu⟩ := h.attached other link (hlinks other link hlink)
        rw [getElem?_insert_eq]
        split_ifs with hid
        · rw [← hid] at hcurrent
          obtain rfl := Option.some.inj (hsegment.symm.trans hcurrent)
          refine ⟨_, rfl, hcurrentNap, Finset.mem_erase.mpr ⟨fun hsame => hattached ?_, hpanu⟩⟩
          refine List.any_eq_true.mpr ⟨(other, link), mem_toList.mpr hlink, ?_⟩
          simp [hid, hsame]
        · exact ⟨current, hcurrent, hcurrentNap, hpanu⟩
      · intro other current hcurrent
        rw [getElem?_insert_eq] at hcurrent
        split_ifs at hcurrent
        · obtain rfl := Option.some.inj hcurrent
          obtain ⟨hnode, hserved⟩ := h.served removed.segment_id segment hsegment
          refine ⟨hnode, Finset.mem_erase.mpr ⟨?_, hserved⟩⟩
          exact hnap ▸ (h.endpoints id removed hremoved).2.2
        · exact h.served other current hcurrent

theorem Intact.apply_iff (h : graph.Intact) (mutation : Mutation) :
    (graph.apply mutation).Intact ↔ graph.Admits mutation := by
  cases mutation with
  | add_node id capabilities => exact iff_of_true (h.add_node id capabilities) trivial
  | remove_node id => exact iff_of_true (h.remove_node id) trivial
  | add_segment segment => exact h.add_segment_iff segment
  | add_link link => exact iff_of_true (h.add_link link) trivial
  | remove_link id => exact iff_of_true (h.remove_link id) trivial

theorem intact_default : default.Intact where
  endpoints := by simp [default]
  attached := by simp [default]
  served := by simp [default]

theorem build_concat (mutations : List Mutation) (mutation : Mutation) :
    build (mutations ++ [mutation]) = (build mutations).apply mutation :=
  List.foldl_concat ..

/-- The graphs along a sequence of calls are all intact exactly if no call replaces a segment by one that
does not suit the links on it, or brings in a segment of which the NAP is no member. -/
theorem graphs_intact_iff (mutations : List Mutation) :
    (∀ earlier later, mutations = earlier ++ later → (build earlier).Intact) ↔
      ∀ earlier mutation later, mutations = earlier ++ mutation :: later → (build earlier).Admits mutation := by
  constructor
  · intro hintact earlier mutation later hsplit
    refine ((hintact earlier _ hsplit).apply_iff mutation).mp ?_
    rw [← build_concat]
    exact hintact (earlier ++ [mutation]) later (by simpa using hsplit)
  · intro hadmits earlier
    induction earlier using List.reverseRecOn with
    | nil => exact fun _ _ => intact_default
    | append_singleton earlier mutation ih =>
      intro later hsplit
      have hsplit' : mutations = earlier ++ mutation :: later := by simpa using hsplit
      rw [build_concat]
      exact ((ih _ hsplit').apply_iff mutation).mpr (hadmits earlier mutation later hsplit')

namespace sample

def link : PanLink :=
  { id := .filled 1, segment_id := .filled 2, nap := .filled 3, panu := .filled 4, state := .Active
    health := .Healthy, cost := 1 }

/-- A link, and then its segment once more with the other node as its NAP. -/
def replacing : List Mutation :=
  [.add_node (.filled 3) {}, .add_node (.filled 4) {}, .add_segment (.new (.filled 2) (.filled 3)), .add_link link,
    .add_segment (.new (.filled 2) (.filled 4))]

end sample

theorem add_segment_strands_link :
    (build sample.replacing).links[sample.link.id]? = some sample.link ∧
      (build sample.replacing).segments[sample.link.segment_id]? = some (.new (.filled 2) (.filled 4)) ∧
      ¬ (build sample.replacing).Intact := by
  have hlink : (build sample.replacing).links[sample.link.id]? = some sample.link := by decide
  have hsegment : (build sample.replacing).segments[sample.link.segment_id]? = some (.new (.filled 2) (.filled 4)) := by
    decide
  refine ⟨hlink, hsegment, fun hintact => ?_⟩
  obtain ⟨segment, hfound, hnap, -⟩ := hintact.attached sample.link.id sample.link hlink
  obtain rfl := Option.some.inj (hsegment.symm.trans hfound)
  exact absurd hnap (by decide)

end blueroute.TopologyGraph
