import Mathlib

/-! Shortest walks in a weighted network in which only some of the vertices pass traffic on, and
the forwarding along tables that every vertex has made for itself. -/

namespace Transit

/-- The links of a network with their costs, and the vertices that pass traffic on. -/
structure Network (V : Type) where
  Edge : V → V → Nat → Prop
  Forwards : V → Prop

variable {V : Type} {N : Network V} {s v : V} {cost : Nat} {first : V}

/-- Walks with their cost and their first hop; every vertex between the ends passes traffic on. -/
inductive Walk (N : Network V) (s : V) : V → Nat → V → Prop where
  | single {v : V} {cost : Nat} (hedge : N.Edge s v cost) : Walk N s v cost v
  | extend {u v : V} {cost edge : Nat} {first : V} (hwalk : Walk N s u cost first)
      (hforwards : N.Forwards u) (hedge : N.Edge u v edge) : Walk N s v (cost + edge) first

theorem Walk.prepend {hop : V} {edge : Nat} (h : Walk N hop v cost first) (hedge : N.Edge s hop edge)
    (hforwards : N.Forwards hop) : Walk N s v (edge + cost) hop := by
  induction h with
  | single hlast => exact .extend (.single hedge) hforwards hlast
  | extend _ hmiddle hlast ih =>
    rw [← add_assoc]
    exact .extend ih hmiddle hlast

/-- A walk is one edge, or an edge to its first hop and a walk from there. -/
theorem Walk.split (h : Walk N s v cost first) :
    (v = first ∧ N.Edge s first cost) ∨
      ∃ edge rest next, N.Edge s first edge ∧ N.Forwards first ∧ Walk N first v rest next ∧
        cost = edge + rest := by
  induction h with
  | single hedge => exact .inl ⟨rfl, hedge⟩
  | @extend u v cost last first hwalk hforwards hlast ih =>
    obtain ⟨rfl, hedge⟩ | ⟨edge, rest, next, hedge, hfirst, hrest, rfl⟩ := ih
    · exact .inr ⟨cost, last, v, hedge, hforwards, .single hlast, rfl⟩
    · exact .inr ⟨edge, rest + last, next, hedge, hfirst, .extend hrest hforwards hlast, add_assoc ..⟩

/-- A cost and a first hop of some shortest walk. -/
structure Shortest (N : Network V) (s v : V) (cost : Nat) (first : V) : Prop where
  walk : Walk N s v cost first
  least : ∀ other next, Walk N s v other next → cost ≤ other

/-- Shortest walks compose: the first hop is reached over a cheapest edge, and what is left of the
cost is the cost of a shortest walk from there. -/
theorem Shortest.first_hop (hpositive : ∀ u v edge, N.Edge u v edge → 0 < edge)
    (h : Shortest N s v cost first) :
    (v = first ∧ IsLeast {edge | N.Edge s first edge} cost) ∨
      v ≠ first ∧ N.Forwards first ∧ ∃ edge rest next, IsLeast {edge | N.Edge s first edge} edge ∧
        Shortest N first v rest next ∧ cost = edge + rest := by
  obtain ⟨rfl, hedge⟩ | ⟨edge, rest, next, hedge, hforwards, hrest, rfl⟩ := h.walk.split
  · exact .inl ⟨rfl, hedge, fun other hother => h.least other v (.single hother)⟩
  · have hrest_positive : 0 < rest := by
      obtain ⟨-, hlast⟩ | ⟨lead, tail, _, hlead, -, -, rfl⟩ := hrest.split
      · exact hpositive _ _ _ hlast
      · have := hpositive _ _ _ hlead
        omega
    refine .inr ⟨?_, hforwards, edge, rest, next, ⟨hedge, fun other hother => ?_⟩, ⟨hrest, ?_⟩, rfl⟩
    · rintro rfl
      have := h.least edge v (.single hedge)
      omega
    · have := h.least _ _ (hrest.prepend hother hforwards)
      omega
    · intro other hop hother
      have := h.least _ _ (hother.prepend hedge hforwards)
      omega

/-- What a vertex advertises for a destination: nothing to pay at the destination itself. -/
def advertised [DecidableEq V] (table : V → V → Option (V × Nat)) (destination u : V) : Nat :=
  if u = destination then 0 else ((table u destination).map Prod.snd).getD 0

/-- A step of forwarding: to the listed next hop, over a cheapest edge, whose cost is what the
advertised cost falls by. -/
def Hop [DecidableEq V] (N : Network V) (table : V → V → Option (V × Nat)) (destination u v : V) : Prop :=
  ∃ cost edge, table u destination = some (v, cost) ∧ IsLeast {edge | N.Edge u v edge} edge ∧
    cost = edge + advertised table destination v

/-- Tables that list a shortest walk to every destination that can be reached. -/
structure Tables (N : Network V) (known : V → Prop) (table : V → V → Option (V × Nat)) : Prop where
  sound : ∀ {u destination hop : V} {cost : Nat}, known u → table u destination = some (hop, cost) →
    u ≠ destination ∧ Shortest N u destination cost hop
  complete : ∀ {u destination hop : V} {cost : Nat}, known u → u ≠ destination → Walk N u destination cost hop →
    ∃ entry, table u destination = some entry
  known_of_edge : ∀ {u v : V} {edge : Nat}, N.Edge u v edge → known v
  positive : ∀ u v edge, N.Edge u v edge → 0 < edge

/-- The way of a packet from a vertex to its destination. -/
structure Delivery [DecidableEq V] (N : Network V) (table : V → V → Option (V × Nat)) (destination u : V)
    (path : List V) : Prop where
  head : path.head? = some u
  last : path.getLast? = some destination
  nodup : path.Nodup
  hops : path.IsChain (Hop N table destination)
  forwards : ∀ v ∈ path, v ≠ u → v ≠ destination → N.Forwards v
  advertised_le : ∀ v ∈ path, advertised table destination v ≤ advertised table destination u

section Delivery

variable [DecidableEq V] {known : V → Prop} {table : V → V → Option (V × Nat)} {destination u : V}

theorem delivery_at_destination : Delivery N table destination destination [destination] where
  head := rfl
  last := rfl
  nodup := List.nodup_singleton _
  hops := List.isChain_singleton _
  forwards := fun _ hv hne => absurd (List.mem_singleton.mp hv) hne
  advertised_le := fun _ hv => (List.mem_singleton.mp hv) ▸ le_refl _

/-- A hop to a vertex with a lower advertised cost goes in front of the way from there. -/
theorem Delivery.cons {path : List V} (h : Delivery N table destination v path) (hhop : Hop N table destination u v)
    (hless : advertised table destination v < advertised table destination u)
    (hforwards : v ≠ destination → N.Forwards v) : Delivery N table destination u (u :: path) where
  head := rfl
  last := by
    obtain ⟨rest, rfl⟩ : ∃ rest, path = v :: rest := List.head?_eq_some_iff.mp h.head
    rw [List.getLast?_cons_cons]
    exact h.last
  nodup := List.nodup_cons.mpr ⟨fun hmem => absurd (h.advertised_le u hmem) (not_le.mpr hless), h.nodup⟩
  hops := by
    obtain ⟨rest, rfl⟩ : ∃ rest, path = v :: rest := List.head?_eq_some_iff.mp h.head
    exact List.isChain_cons_cons.mpr ⟨hhop, h.hops⟩
  forwards := by
    intro w hw hne hdestination
    obtain rfl | hw := List.mem_cons.mp hw
    · exact absurd rfl hne
    · by_cases hwv : w = v
      · subst hwv
        exact hforwards hdestination
      · exact h.forwards w hw hwv hdestination
  advertised_le := by
    intro w hw
    obtain rfl | hw := List.mem_cons.mp hw
    · exact le_refl _
    · exact (h.advertised_le w hw).trans hless.le

/-- The next hop that a table lists: it is known, has less to pay, and passes traffic on unless it is
the destination. -/
theorem Tables.next (h : Tables N known table) {hop : V} {cost : Nat} (hknown : known u)
    (hentry : table u destination = some (hop, cost)) :
    known hop ∧ Hop N table destination u hop ∧
      advertised table destination hop < advertised table destination u ∧ (hop ≠ destination → N.Forwards hop) := by
  obtain ⟨hne, hshortest⟩ := h.sound hknown hentry
  have hadvertised : advertised table destination u = cost := by simp [advertised, hne, hentry]
  obtain ⟨rfl, hleast⟩ | ⟨hfar, hforwards, edge, rest, next, hleast, hrest, rfl⟩ :=
    hshortest.first_hop h.positive
  · have hzero : advertised table destination destination = 0 := if_pos rfl
    refine ⟨h.known_of_edge hleast.1, ⟨cost, cost, hentry, hleast, by rw [hzero, add_zero]⟩, ?_, ?_⟩
    · rw [hzero, hadvertised]
      exact h.positive _ _ _ hleast.1
    · exact fun habsurd => absurd rfl habsurd
  · have hhop_known := h.known_of_edge hleast.1
    obtain ⟨⟨onward, onward_cost⟩, honward⟩ := h.complete hhop_known hfar.symm hrest.walk
    have hsame : onward_cost = rest := by
      have honward_shortest := (h.sound hhop_known honward).2
      exact le_antisymm (honward_shortest.least _ _ hrest.walk) (hrest.least _ _ honward_shortest.walk)
    subst hsame
    have hpositive := h.positive _ _ _ hleast.1
    have hless : advertised table destination hop = onward_cost := by
      simp [advertised, hfar.symm, honward]
    refine ⟨hhop_known, ⟨_, edge, hentry, hleast, by rw [hless]⟩, ?_, fun _ => hforwards⟩
    rw [hless, hadvertised]
    omega

/-- Forwarding along the tables delivers: every listed destination is reached, and no vertex is
visited twice since the advertised cost falls at every hop. -/
theorem Tables.exists_delivery (h : Tables N known table) :
    ∀ (cost : Nat) (u hop : V), known u → table u destination = some (hop, cost) →
      ∃ path, Delivery N table destination u path := by
  intro cost
  induction cost using Nat.strong_induction_on with
  | _ cost ih =>
    intro u hop hknown hentry
    obtain ⟨hhop_known, hhop, hless, hforwards⟩ := h.next hknown hentry
    by_cases hlast : hop = destination
    · subst hlast
      exact ⟨_, delivery_at_destination.cons hhop hless hforwards⟩
    · obtain ⟨hne, hshortest⟩ := h.sound hknown hentry
      obtain ⟨habsurd, -⟩ | ⟨-, -, edge, rest, next, -, hrest, -⟩ := hshortest.first_hop h.positive
      · exact absurd habsurd.symm hlast
      obtain ⟨⟨onward, onward_cost⟩, honward⟩ := h.complete hhop_known hlast hrest.walk
      have hfalls : onward_cost < cost := by
        simpa [advertised, hlast, honward, hne, hentry] using hless
      obtain ⟨path, hpath⟩ := ih onward_cost hfalls hop onward hhop_known honward
      exact ⟨u :: path, hpath.cons hhop hless hforwards⟩

end Delivery

end Transit
