import BlueRoute.Base.Fallible
import BlueRoute.Base.Loop
import BlueRoute.Base.Ordered

/-! Breadth-first search for a path to one vertex, which is rebuilt from the predecessors as soon as
the vertex is discovered. -/

namespace BreadthFirst

variable {V : Type} [LinearOrder V]

/-- The vertices still to be expanded, how each vertex was discovered, and the discovered vertices. -/
structure State (V : Type) [LinearOrder V] where
  queue : List V
  previous : Ordered.Map V V
  visited : Finset V

/-- The predecessors from a vertex back to the start. The path comes in front of what is there. -/
def chase (previous : Ordered.Map V V) (start : V) : Nat → V → List V → Option (List V)
  | 0, _, _ => none
  | fuel + 1, cursor, path =>
    match previous[cursor]? with
    | none => none
    | some parent =>
      if parent = start then some (parent :: path) else chase previous start fuel parent (parent :: path)

namespace State

/-- A neighbour of the current vertex is discovered. The search ends with a path at the target. -/
def visit (start target current : V) (s : State V) (neighbor : V) : Except (List V) (State V) :=
  if neighbor ∈ s.visited then .ok s
  else
    let previous := s.previous.insert neighbor current
    let next : State V := { queue := s.queue ++ [neighbor], previous, visited := insert neighbor s.visited }
    if neighbor = target then
      match chase previous start previous.size target [target] with
      | some path => .error path
      | none => .ok next
    else .ok next

/-- One iteration: the oldest vertex is expanded, its neighbours in ascending order. -/
def body (neighbors : V → Finset V) (start target : V) (s : State V) : Except (List V) (Option (State V)) :=
  match s.queue with
  | [] => .ok none
  | current :: rest => do
    let next ← (Ordered.ascending (neighbors current)).foldlM (visit start target current) { s with queue := rest }
    pure (some next)

def init (start : V) : State V := { queue := [start], previous := ∅, visited := {start} }

end State

open State

/-- Walks with their length. -/
inductive Walk (neighbors : V → Finset V) (start : V) : Nat → V → Prop where
  | nil : Walk neighbors start 0 start
  | step {n : Nat} {u v : V} (hwalk : Walk neighbors start n u) (hedge : v ∈ neighbors u) :
      Walk neighbors start (n + 1) v

/-- The length of a shortest walk, for a vertex that has one. -/
noncomputable def distance (neighbors : V → Finset V) (start v : V) : Nat :=
  sInf {n | Walk neighbors start n v}

variable {neighbors : V → Finset V} {start target current v : V} {s t : State V}

variable {n : Nat}

omit [LinearOrder V] in
theorem distance_le (h : Walk neighbors start n v) : distance neighbors start v ≤ n := Nat.sInf_le h

omit [LinearOrder V] in
theorem walk_distance (h : Walk neighbors start n v) : Walk neighbors start (distance neighbors start v) v :=
  Nat.sInf_mem (s := {n | Walk neighbors start n v}) ⟨n, h⟩

omit [LinearOrder V] in
theorem distance_start : distance neighbors start start = 0 := Nat.le_zero.mp (distance_le .nil)

omit [LinearOrder V] in
theorem distance_eq_zero_iff (h : Walk neighbors start n v) : distance neighbors start v = 0 ↔ v = start := by
  constructor
  · intro hzero
    have hwalk := walk_distance h
    rw [hzero] at hwalk
    cases hwalk
    rfl
  · rintro rfl
    exact distance_start

omit [LinearOrder V] in
theorem distance_eq_one_iff (h : Walk neighbors start n v) (hne : v ≠ start) :
    distance neighbors start v = 1 ↔ v ∈ neighbors start := by
  constructor
  · intro hone
    have hwalk := walk_distance h
    rw [hone] at hwalk
    cases hwalk with
    | step hstart hedge =>
      cases hstart
      exact hedge
  · intro hedge
    have hle : distance neighbors start v ≤ 1 := distance_le (.step .nil hedge)
    have hpos := mt (distance_eq_zero_iff h).mp hne
    omega

/-- What holds of the discovered vertices. Each lies one step farther than the vertex it was
discovered from. -/
structure Discovering (neighbors : V → Finset V) (start : V) (s : State V) : Prop where
  started : start ∈ s.visited
  reached : ∀ v ∈ s.visited, ∃ n, Walk neighbors start n v
  queued : ∀ v ∈ s.queue, v ∈ s.visited
  sorted : s.queue.Pairwise fun u v => distance neighbors start u ≤ distance neighbors start v
  has_parent : ∀ v ∈ s.visited, v ≠ start → ∃ parent, s.previous[v]? = some parent
  parent : ∀ {v parent : V}, s.previous[v]? = some parent → parent ∈ s.visited ∧ v ∈ neighbors parent ∧
    distance neighbors start v = distance neighbors start parent + 1
  short : ∀ v ∈ s.visited, distance neighbors start v ≤ s.previous.size
  fresh : ∀ v, v ∉ s.visited → v ∉ s.previous

/-- Between two iterations, every discovered vertex is queued or has its neighbours discovered. -/
structure Exploring (neighbors : V → Finset V) (start target : V) (s : State V) : Prop
    extends Discovering neighbors start s where
  spread : ∀ u ∈ s.queue, ∀ v ∈ s.queue, distance neighbors start v ≤ distance neighbors start u + 1
  closed : ∀ v ∈ s.visited, v ∉ s.queue → neighbors v ⊆ s.visited
  hidden : target ∉ s.visited

/-- While the neighbours of a vertex are visited. -/
structure Expanding (neighbors : V → Finset V) (start target current : V) (s : State V) : Prop
    extends Discovering neighbors start s where
  current_visited : current ∈ s.visited
  ahead : ∀ v ∈ s.queue, distance neighbors start current ≤ distance neighbors start v ∧
    distance neighbors start v ≤ distance neighbors start current + 1
  closed : ∀ v ∈ s.visited, v ∉ s.queue → v ≠ current → neighbors v ⊆ s.visited
  hidden : target ∉ s.visited

/-- No vertex up to the distance of the current one is undiscovered. -/
theorem Expanding.near (h : Expanding neighbors start target current s) (hwalk : Walk neighbors start n v)
    (hn : n ≤ distance neighbors start current) : v ∈ s.visited := by
  induction hwalk with
  | nil => exact h.started
  | @step n u v hwalk hedge ih =>
    have hdistance := distance_le hwalk
    refine h.closed u (ih (by omega)) (fun hqueue => ?_) ?_ hedge
    · have := (h.ahead u hqueue).1
      omega
    · rintro rfl
      omega

theorem Expanding.distance_eq (h : Expanding neighbors start target current s) (hedge : v ∈ neighbors current)
    (hnew : v ∉ s.visited) : distance neighbors start v = distance neighbors start current + 1 := by
  obtain ⟨n, hwalk⟩ := h.reached current h.current_visited
  have hstep : Walk neighbors start (distance neighbors start current + 1) v := .step (walk_distance hwalk) hedge
  refine le_antisymm (distance_le hstep) ?_
  by_contra hless
  exact hnew (h.near (walk_distance hstep) (by omega))

/-- The search goes on with a newly discovered neighbour that is not its target. -/
theorem Expanding.discover (h : Expanding neighbors start target current s) (hedge : v ∈ neighbors current)
    (hnew : v ∉ s.visited) :
    Discovering neighbors start
      { queue := s.queue ++ [v], previous := s.previous.insert v current, visited := insert v s.visited } := by
  have hdistance := h.distance_eq hedge hnew
  have hsize : (s.previous.insert v current).size = s.previous.size + 1 :=
    Ordered.size_insert_of_notMem current (h.fresh v hnew)
  refine ⟨Finset.mem_insert_of_mem h.started, fun u hu => ?_, fun u hu => ?_, ?_, fun u hu hne => ?_,
    fun {u parent} hparent => ?_, fun u hu => ?_, fun u hu => ?_⟩
  · obtain rfl | hu := Finset.mem_insert.mp hu
    · obtain ⟨n, hwalk⟩ := h.reached current h.current_visited
      exact ⟨n + 1, .step hwalk hedge⟩
    · exact h.reached u hu
  · obtain hu | hu := List.mem_append.mp hu
    · exact Finset.mem_insert_of_mem (h.queued u hu)
    · exact Finset.mem_insert.mpr (.inl (List.mem_singleton.mp hu))
  · refine List.pairwise_append.mpr ⟨h.sorted, List.pairwise_singleton _ _, fun u hu w hw => ?_⟩
    obtain rfl := List.mem_singleton.mp hw
    rw [hdistance]
    exact (h.ahead u hu).2
  · dsimp only
    rw [Ordered.getElem?_insert_eq]
    split_ifs with huv
    · exact ⟨current, rfl⟩
    · exact h.has_parent u ((Finset.mem_insert.mp hu).resolve_left (Ne.symm huv)) hne
  · dsimp only at hparent
    rw [Ordered.getElem?_insert_eq] at hparent
    split_ifs at hparent with huv
    · obtain rfl := Option.some.inj hparent
      subst huv
      exact ⟨Finset.mem_insert_of_mem h.current_visited, hedge, hdistance⟩
    · obtain ⟨hmem, hrest⟩ := h.parent hparent
      exact ⟨Finset.mem_insert_of_mem hmem, hrest⟩
  · dsimp only
    rw [hsize]
    obtain rfl | hu := Finset.mem_insert.mp hu
    · rw [hdistance]
      exact Nat.succ_le_succ (h.short current h.current_visited)
    · exact (h.short u hu).trans (Nat.le_succ _)
  · intro hmem
    obtain rfl | hmem := Ordered.mem_insert_iff.mp hmem
    · exact hu (Finset.mem_insert_self _ _)
    · exact h.fresh u (fun hvisited => hu (Finset.mem_insert_of_mem hvisited)) hmem

theorem Expanding.grow (h : Expanding neighbors start target current s) (hedge : v ∈ neighbors current)
    (hnew : v ∉ s.visited) (htarget : v ≠ target) :
    Expanding neighbors start target current
      { queue := s.queue ++ [v], previous := s.previous.insert v current, visited := insert v s.visited } := by
  refine ⟨h.discover hedge hnew, Finset.mem_insert_of_mem h.current_visited, fun u hu => ?_,
    fun u hu hqueue hne => ?_, fun hmem => ?_⟩
  · obtain hu | hu := List.mem_append.mp hu
    · exact h.ahead u hu
    · obtain rfl := List.mem_singleton.mp hu
      rw [h.distance_eq hedge hnew]
      exact ⟨Nat.le_succ _, le_refl _⟩
  · rw [List.mem_append, not_or] at hqueue
    have hold : u ∈ s.visited :=
      (Finset.mem_insert.mp hu).resolve_left fun huv => hqueue.2 (List.mem_singleton.mpr huv)
    exact (h.closed u hold hqueue.1 hne).trans (Finset.subset_insert _ _)
  · obtain rfl | hmem := Finset.mem_insert.mp hmem
    · exact htarget rfl
    · exact h.hidden hmem

/-- The predecessors of a discovered vertex lead back to the start along a shortest walk. -/
theorem Discovering.chase_eq (h : Discovering neighbors start s) :
    ∀ (fuel : Nat) (v : V) (path : List V), v ∈ s.visited → v ≠ start → distance neighbors start v ≤ fuel →
      ∃ way, chase s.previous start fuel v path = some (way ++ path) ∧ (way ++ [v]).head? = some start ∧
        (way ++ [v]).IsChain (fun u w => w ∈ neighbors u) ∧
        (way ++ [v]).map (distance neighbors start) = List.range (distance neighbors start v + 1) := by
  intro fuel
  induction fuel with
  | zero =>
    intro v path hv hne hfuel
    obtain ⟨parent, hparent⟩ := h.has_parent v hv hne
    have := (h.parent hparent).2.2
    omega
  | succ fuel ih =>
    intro v path hv hne hfuel
    obtain ⟨parent, hparent⟩ := h.has_parent v hv hne
    obtain ⟨hmem, hedge, hdistance⟩ := h.parent hparent
    rw [chase, hparent]
    dsimp only
    split_ifs with hstart
    · subst hstart
      rw [distance_start] at hdistance
      refine ⟨[parent], rfl, rfl, List.isChain_pair.mpr hedge, ?_⟩
      rw [hdistance]
      simp [distance_start, hdistance, List.range_succ]
    · obtain ⟨way, hchase, hhead, hchain, hmap⟩ := ih parent (parent :: path) hmem hstart (by omega)
      refine ⟨way ++ [parent], ?_, ?_, ?_, ?_⟩
      · rw [hchase, List.append_assoc]
        rfl
      · rw [List.head?_append, hhead]
        rfl
      · rw [List.append_assoc]
        exact List.isChain_append_cons_cons.mpr ⟨hchain, hedge, List.isChain_singleton _⟩
      · rw [List.map_append, hmap, List.map_singleton, hdistance, ← List.range_succ]

/-- A shortest path to the target, along vertices of increasing distance. -/
structure Found (neighbors : V → Finset V) (start target : V) (path : List V) : Prop where
  reached : ∃ n, Walk neighbors start n target
  head : path.head? = some start
  last : path.getLast? = some target
  chain : path.IsChain fun u v => v ∈ neighbors u
  distances : path.map (distance neighbors start) = List.range (distance neighbors start target + 1)

/-- The three outcomes of a visit. -/
inductive Visit (neighbors : V → Finset V) (start target current : V) (s : State V) (v : V) :
    Except (List V) (State V) → Prop where
  | known (hknown : v ∈ s.visited) : Visit neighbors start target current s v (.ok s)
  | discovered (hnew : v ∉ s.visited) (htarget : v ≠ target) : Visit neighbors start target current s v
      (.ok { queue := s.queue ++ [v], previous := s.previous.insert v current, visited := insert v s.visited })
  | found {path : List V} (hfound : Found neighbors start target path) :
      Visit neighbors start target current s v (.error path)

theorem Expanding.visit (h : Expanding neighbors start target current s) (hedge : v ∈ neighbors current) :
    Visit neighbors start target current s v (s.visit start target current v) := by
  unfold State.visit
  split_ifs with hknown htarget
  · exact .known hknown
  · subst htarget
    have hne : v ≠ start := fun hstart => h.hidden (hstart ▸ h.started)
    have hafter := h.discover hedge hknown
    have hmem : v ∈ insert v s.visited := Finset.mem_insert_self _ _
    obtain ⟨way, hchase, hhead, hchain, hmap⟩ :=
      hafter.chase_eq (s.previous.insert v current).size v [v] hmem hne (hafter.short v hmem)
    dsimp only at hchase ⊢
    rw [hchase]
    exact .found ⟨hafter.reached v hmem, hhead, List.getLast?_concat, hchain, hmap⟩
  · exact .discovered hknown htarget

/-- A round over neighbours of the current vertex discovers all of them, or ends with a path. -/
theorem Expanding.round (l : List V) (hl : ∀ v ∈ l, v ∈ neighbors current)
    (h : Expanding neighbors start target current s) :
    (∃ path, l.foldlM (State.visit start target current) s = .error path ∧ Found neighbors start target path) ∨
      ∃ t, l.foldlM (State.visit start target current) s = .ok t ∧ Expanding neighbors start target current t ∧
        s.visited ⊆ t.visited ∧ (∀ v ∈ l, v ∈ t.visited) ∧
        t.queue.length + s.visited.card = s.queue.length + t.visited.card := by
  induction l generalizing s with
  | nil => exact .inr ⟨s, rfl, h, subset_rfl, by simp, rfl⟩
  | cons v rest ih =>
    obtain ⟨hv, hrest⟩ := List.forall_mem_cons.mp hl
    rw [List.foldlM_cons]
    have hvisit := h.visit hv
    generalize s.visit start target current v = result at hvisit
    cases hvisit with
    | found hfound => exact .inl ⟨_, rfl, hfound⟩
    | known hknown =>
      obtain ⟨path, hpath, hfound⟩ | ⟨t, ht, hexpanding, hsubset, hall, hcard⟩ := ih hrest h
      · exact .inl ⟨path, hpath, hfound⟩
      · exact .inr ⟨t, ht, hexpanding, hsubset, List.forall_mem_cons.mpr ⟨hsubset hknown, hall⟩, hcard⟩
    | discovered hnew htarget =>
      obtain ⟨path, hpath, hfound⟩ | ⟨t, ht, hexpanding, hsubset, hall, hcard⟩ := ih hrest (h.grow hv hnew htarget)
      · exact .inl ⟨path, hpath, hfound⟩
      · refine .inr ⟨t, ht, hexpanding, (Finset.subset_insert _ _).trans hsubset, ?_, ?_⟩
        · exact List.forall_mem_cons.mpr ⟨hsubset (Finset.mem_insert_self _ _), hall⟩
        · dsimp only at hcard
          rw [Finset.card_insert_of_notMem hnew, List.length_append, List.length_singleton] at hcard
          omega

theorem exploring_init (hne : start ≠ target) : Exploring neighbors start target (init start) where
  started := Finset.mem_singleton_self _
  reached := by
    intro v hv
    obtain rfl := Finset.mem_singleton.mp hv
    exact ⟨0, .nil⟩
  queued := fun v hv => Finset.mem_singleton.mpr (List.mem_singleton.mp hv)
  sorted := List.pairwise_singleton _ _
  has_parent := fun v hv habsurd => absurd (Finset.mem_singleton.mp hv) habsurd
  parent := by
    intro v parent hparent
    simp [init] at hparent
  short := by
    intro v hv
    obtain rfl := Finset.mem_singleton.mp hv
    rw [distance_start]
    exact Nat.zero_le _
  fresh := by simp [init]
  spread := by
    intro u hu v hv
    obtain rfl := List.mem_singleton.mp hu
    obtain rfl := List.mem_singleton.mp hv
    exact Nat.le_succ _
  closed := fun v hv habsurd => absurd (List.mem_singleton.mpr (Finset.mem_singleton.mp hv)) habsurd
  hidden := fun hmem => hne (Finset.mem_singleton.mp hmem).symm

/-- Popping the oldest vertex opens its expansion. -/
theorem Exploring.pop (h : Exploring neighbors start target s) {rest : List V} (hqueue : s.queue = current :: rest) :
    Expanding neighbors start target current { s with queue := rest } := by
  have hmem {v : V} (hv : v ∈ rest) : v ∈ s.queue := hqueue ▸ List.mem_cons_of_mem _ hv
  have hcurrent : current ∈ s.queue := hqueue ▸ List.mem_cons_self
  have hsorted := List.pairwise_cons.mp (hqueue ▸ h.sorted)
  refine ⟨⟨h.started, h.reached, fun v hv => h.queued v (hmem hv), hsorted.2, h.has_parent, h.parent, h.short, h.fresh⟩,
    h.queued current hcurrent, fun v hv => ?_, fun v hv hnot hne => ?_, h.hidden⟩
  · exact ⟨hsorted.1 v hv, h.spread current hcurrent v (hmem hv)⟩
  · refine h.closed v hv fun hmem => ?_
    rw [hqueue] at hmem
    exact (List.mem_cons.mp hmem).elim hne hnot

/-- An iteration on a queue that is not empty. -/
theorem Exploring.body_cases (h : Exploring neighbors start target s) {rest : List V}
    (hqueue : s.queue = current :: rest) :
    (∃ path, s.body neighbors start target = .error path ∧ Found neighbors start target path) ∨
      ∃ t, s.body neighbors start target = .ok (some t) ∧ Exploring neighbors start target t ∧
        t.queue.length + s.visited.card + 1 = s.queue.length + t.visited.card := by
  unfold State.body
  rw [hqueue]
  dsimp only
  obtain ⟨path, hpath, hfound⟩ | ⟨t, ht, hexpanding, hsubset, hall, hcard⟩ :=
    (h.pop hqueue).round (Ordered.ascending (neighbors current)) fun v hv => Ordered.mem_ascending.mp hv
  · rw [hpath]
    exact .inl ⟨path, rfl, hfound⟩
  · rw [ht]
    refine .inr ⟨t, rfl, ⟨hexpanding.toDiscovering, fun u hu v hv => ?_, fun v hv hnot => ?_, hexpanding.hidden⟩, ?_⟩
    · exact (hexpanding.ahead v hv).2.trans (Nat.succ_le_succ (hexpanding.ahead u hu).1)
    · by_cases hcurrent : v = current
      · subst hcurrent
        exact fun w hw => hall w (Ordered.mem_ascending.mpr hw)
      · exact hexpanding.closed v hv hnot hcurrent
    · rw [List.length_cons]
      dsimp only at hcard
      omega

theorem Exploring.iterate (h : Exploring neighbors start target s)
    (hbody : s.body neighbors start target = .ok (some t)) :
    Exploring neighbors start target t ∧ t.queue.length + s.visited.card + 1 = s.queue.length + t.visited.card := by
  cases hqueue : s.queue with
  | nil =>
    rw [State.body, hqueue] at hbody
    cases hbody
  | cons current rest =>
    obtain ⟨path, hpath, -⟩ | ⟨next, hnext, hexploring, hcard⟩ := h.body_cases hqueue
    · rw [hbody] at hpath
      cases hpath
    · rw [hbody] at hnext
      obtain rfl := Option.some.inj (Except.ok.inj hnext)
      exact ⟨hexploring, hqueue ▸ hcard⟩

omit [LinearOrder V] in
theorem walk_mem {vertices : Finset V} (hstart : start ∈ vertices) (hneighbors : ∀ v, neighbors v ⊆ vertices)
    (h : Walk neighbors start n v) : v ∈ vertices := by
  cases h with
  | nil => exact hstart
  | step _ hedge => exact hneighbors _ hedge

/-- Enough fuel for a search: every vertex is expanded once. -/
theorem search_exits {vertices : Finset V} {fuel : Nat} (hne : start ≠ target) (hstart : start ∈ vertices)
    (hneighbors : ∀ v, neighbors v ⊆ vertices) (hfuel : vertices.card < fuel) :
    Loop.Exits (body neighbors start target) (init start)
      (Loop.run (body neighbors start target) fuel (init start)) := by
  have hbound {s : State V} (h : Exploring neighbors start target s) : s.visited.card ≤ vertices.card := by
    refine Finset.card_le_card fun v hv => ?_
    obtain ⟨n, hwalk⟩ := h.reached v hv
    exact walk_mem hstart hneighbors hwalk
  refine Loop.run_exits (Exploring neighbors start target)
    (fun s => s.queue.length + (vertices.card - s.visited.card)) ?_ ?_ fuel _ (exploring_init hne) ?_
  · exact fun s t hs hbody => (hs.iterate hbody).1
  · intro s t hs hbody
    obtain ⟨ht, hcard⟩ := hs.iterate hbody
    have := hbound hs
    have := hbound ht
    omega
  · have hpos := Finset.card_pos.mpr ⟨start, hstart⟩
    simp only [init, List.length_singleton, Finset.card_singleton]
    omega

/-- A search ends with a shortest path, or there is no walk to its target. -/
theorem search_cases (hne : start ≠ target) {result : Except (List V) (State V)}
    (h : Loop.Exits (body neighbors start target) (init start) result) :
    (∃ path, result = .error path ∧ Found neighbors start target path) ∨
      ∃ final, result = .ok final ∧ ∀ n, ¬ Walk neighbors start n target := by
  obtain ⟨final, hfinal, ⟨hresult, hstop⟩ | ⟨path, hresult, hpath⟩⟩ :=
    h.reaches (fun s t (hs : Exploring neighbors start target s) hbody => (hs.iterate hbody).1) (exploring_init hne)
  · refine .inr ⟨final, hresult, fun n hwalk => hfinal.hidden ?_⟩
    have hempty : final.queue = [] := by
      cases hqueue : final.queue with
      | nil => rfl
      | cons current rest =>
        obtain ⟨path, hpath, -⟩ | ⟨t, ht, -⟩ := hfinal.body_cases hqueue
        · rw [hstop] at hpath
          cases hpath
        · rw [hstop] at ht
          cases Except.ok.inj ht
    -- with nothing queued, the discovered vertices are closed under steps
    have hall (n : Nat) (v : V) (hwalk : Walk neighbors start n v) : v ∈ final.visited := by
      induction hwalk with
      | nil => exact hfinal.started
      | step _ hedge ih => exact hfinal.closed _ ih (by simp [hempty]) hedge
    exact hall n target hwalk
  · refine .inl ⟨path, hresult, ?_⟩
    cases hqueue : final.queue with
    | nil =>
      rw [State.body, hqueue] at hpath
      cases hpath
    | cons current rest =>
      obtain ⟨other, hother, hfound⟩ | ⟨t, ht, -⟩ := hfinal.body_cases hqueue
      · rw [hpath] at hother
        obtain rfl := Except.error.inj hother
        exact hfound
      · rw [hpath] at ht
        cases ht

/-- The visits of a search: in state `s`, `v` is the next neighbour of the vertex `current` that an
iteration has popped. -/
inductive Visits (neighbors : V → Finset V) (start target : V) (s : State V) (current v : V) : Prop where
  | intro {before : State V} {rest earlier later : List V}
      (hreached : Relation.ReflTransGen (fun s t => body neighbors start target s = .ok (some t)) (init start) before)
      (hqueue : before.queue = current :: rest)
        (hneighbors : Ordered.ascending (neighbors current) = earlier ++ v :: later)
      (hvisited : earlier.foldlM (visit start target current) { before with queue := rest } = .ok s)

theorem Visits.expanding (hne : start ≠ target) (h : Visits neighbors start target s current v) :
    Expanding neighbors start target current s ∧ v ∈ neighbors current := by
  obtain ⟨hreached, hqueue, hneighbors, hvisited⟩ := h
  rename_i before rest earlier later
  have hmem {w : V} (hw : w ∈ earlier ++ v :: later) : w ∈ neighbors current :=
    Ordered.mem_ascending.mp (hneighbors ▸ hw)
  have hexploring : Exploring neighbors start target before := by
    clear hqueue hvisited
    induction hreached with
    | refl => exact exploring_init hne
    | tail _ hbody ih => exact (ih.iterate hbody).1
  refine ⟨?_, hmem (List.mem_append_right _ List.mem_cons_self)⟩
  obtain ⟨path, hpath, -⟩ | ⟨t, ht, hexpanding, -⟩ :=
    (hexploring.pop hqueue).round earlier fun w hw => hmem (List.mem_append_left _ hw)
  · rw [hvisited] at hpath
    cases hpath
  · rw [hvisited] at ht
    cases ht
    exact hexpanding

/-- When the target is discovered, its predecessors lead back to the start. -/
theorem Visits.chase_ne_none (hne : start ≠ target) (h : Visits neighbors start target s current target)
    (hnew : target ∉ s.visited) :
    ∃ path, chase (s.previous.insert target current) start (s.previous.insert target current).size target [target] =
      some path := by
  obtain ⟨hexpanding, hedge⟩ := h.expanding hne
  have hafter := hexpanding.discover hedge hnew
  have hmem : target ∈ insert target s.visited := Finset.mem_insert_self _ _
  obtain ⟨way, hchase, -⟩ :=
    hafter.chase_eq (s.previous.insert target current).size target [target] hmem hne.symm (hafter.short target hmem)
  exact ⟨way ++ [target], hchase⟩

omit [LinearOrder V] in
/-- A list of adjacent vertices is a walk. -/
theorem walk_of_isChain {path : List V} {v : V} (hchain : (path ++ [v]).IsChain fun u w => w ∈ neighbors u)
    (hhead : (path ++ [v]).head? = some start) : Walk neighbors start path.length v := by
  induction path using List.reverseRecOn generalizing v with
  | nil =>
    obtain rfl := Option.some.inj hhead
    exact .nil
  | append_singleton path u ih =>
    rw [List.append_assoc] at hchain hhead
    obtain ⟨hbefore, hedge, -⟩ := List.isChain_append_cons_cons.mp hchain
    rw [List.length_append, List.length_singleton]
    refine .step (ih hbefore ?_) hedge
    rw [← hhead]
    cases path with
    | nil => rfl
    | cons w path => rfl

omit [LinearOrder V] in
theorem reflTransGen_iff_walk {v : V} :
    Relation.ReflTransGen (fun u w => w ∈ neighbors u) start v ↔ ∃ n, Walk neighbors start n v := by
  constructor
  · intro h
    induction h with
    | refl => exact ⟨0, .nil⟩
    | tail _ hedge ih =>
      obtain ⟨n, hwalk⟩ := ih
      exact ⟨n + 1, .step hwalk hedge⟩
  · rintro ⟨n, hwalk⟩
    induction hwalk with
    | nil => exact .refl
    | step _ hedge ih => exact .tail ih hedge

namespace Found

omit [LinearOrder V]

variable {path : List V}

theorem length_eq (h : Found neighbors start target path) : path.length = distance neighbors start target + 1 := by
  rw [← List.length_map (distance neighbors start), h.distances, List.length_range]

theorem nodup (h : Found neighbors start target path) : path.Nodup := by
  refine List.Nodup.of_map (distance neighbors start) ?_
  rw [h.distances]
  exact List.nodup_range

/-- No path to the target is shorter. -/
theorem length_le (h : Found neighbors start target path) {other : List V}
    (hchain : other.IsChain fun u v => v ∈ neighbors u) (hhead : other.head? = some start)
    (hlast : other.getLast? = some target) : path.length ≤ other.length := by
  obtain ⟨before, rfl⟩ := List.getLast?_eq_some_iff.mp hlast
  have hdistance := distance_le (walk_of_isChain hchain hhead)
  rw [h.length_eq, List.length_append, List.length_singleton]
  omega

end Found

end BreadthFirst
