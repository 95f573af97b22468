import Mathlib.Data.List.Nodup
import Mathlib.Data.List.Perm.Subperm
import Mathlib.Data.Nat.Find
import Mathlib.Logic.Relation
import NominalScript.Graph

/-!
# Finding cycles

A *tour* is what the search for cycles looks for: a path from a node back to the
seed that avoids the nodes visited before and keeps to nodes greater than the seed.

* `Graph.mem_cyclesFrom`: the search finds just the tours that are no longer than
  its depth, and `Graph.mem_cycles` that the depth is enough.
* `Graph.mem_rotations_cycles`: the cycles found, each started at each of its nodes,
  are all the cycles that come to no node twice.
* `Graph.exists_cycle`: there is such a cycle through every node that leads back to
  itself, since a walk can leave out what it does between two visits to a node.
-/

namespace NominalScript

open Relation (TransGen)

variable {α : Type}

namespace Graph

/-! ## Graphs from edges -/

/-- Edges are added behind those there are, and no node is added. -/
theorem foldl_addEdge (es : List (Nat × Nat × α)) (g : Graph α) :
    (es.foldl (fun g e => g.addEdge e.1 e.2.1 e.2.2) g).nodeCount = g.nodeCount ∧
      (es.foldl (fun g e => g.addEdge e.1 e.2.1 e.2.2) g).edges.map
        (fun e => (e.source, e.target, e.label)) =
      g.edges.map (fun e => (e.source, e.target, e.label)) ++ es := by
  induction es generalizing g with
  | nil => simp
  | cons e es ih =>
    obtain ⟨nodes, edges⟩ := ih (g.addEdge e.1 e.2.1 e.2.2)
    refine ⟨nodes, ?_⟩
    rw [List.foldl_cons, edges]
    simp [addEdge]

theorem nodeCount_ofEdges (n : Nat) (es : List (Nat × Nat × α)) :
    (ofEdges n es).nodeCount = n :=
  (foldl_addEdge es (.empty n)).1

theorem edges_ofEdges (n : Nat) (es : List (Nat × Nat × α)) :
    (ofEdges n es).edges.map (fun e => (e.source, e.target, e.label)) = es :=
  (foldl_addEdge es (.empty n)).2

/-! ## Tours -/

/-- An edge leads from the one node to the other. -/
def Step (g : Graph α) (u v : Nat) : Prop := ∃ e ∈ g.edges, e.source = u ∧ e.target = v

/-- A path from a node to the seed, by way of nodes that are greater than the seed,
all different and not visited before. -/
inductive Tour (g : Graph α) (seed : Nat) : Nat → List Nat → Path α → Prop
  | close {e : Edge α} {visited : List Nat} :
    e ∈ g.edges → e.target = seed → Tour g seed e.source visited [e]
  | step {e : Edge α} {visited : List Nat} {p : Path α} :
    e ∈ g.edges → seed < e.target → e.target ∉ visited →
    Tour g seed e.target (e.target :: visited) p → Tour g seed e.source visited (e :: p)

/-- Every edge leads from a node to a node. -/
def InRange (g : Graph α) : Prop :=
  ∀ e ∈ g.edges, e.source < g.nodeCount ∧ e.target < g.nodeCount

variable {g : Graph α} {seed node : Nat} {visited : List Nat} {p : Path α}

theorem mem_outgoing {e : Edge α} : e ∈ g.outgoing node ↔ e ∈ g.edges ∧ e.source = node := by
  simp [outgoing]

/-- The search finds the tours of bounded length. -/
theorem mem_cyclesFrom {depth : Nat} :
    p ∈ g.cyclesFrom seed depth node visited ↔ g.Tour seed node visited p ∧ p.length ≤ depth := by
  induction depth generalizing node visited p with
  | zero =>
    refine ⟨?_, ?_⟩
    · intro found
      simp [cyclesFrom] at found
    · intro ⟨tour, short⟩
      cases tour <;> simp at short
  | succ depth ih =>
    simp only [cyclesFrom, List.mem_flatMap, mem_outgoing]
    refine ⟨?_, ?_⟩
    · intro ⟨e, ⟨edge, source⟩, found⟩
      subst source
      split at found
      · next closes =>
        cases List.mem_singleton.1 found
        exact ⟨.close edge closes, by simp⟩
      · split at found
        · next onward =>
          obtain ⟨q, inner, rfl⟩ := List.mem_map.1 found
          obtain ⟨tour, short⟩ := ih.1 inner
          exact ⟨.step edge onward.1 onward.2 tour, by simpa using short⟩
        · exact absurd found List.not_mem_nil
    · intro ⟨tour, short⟩
      cases tour with
      | @close e _ edge closes =>
        refine ⟨e, ⟨edge, rfl⟩, ?_⟩
        rw [if_pos closes]
        exact List.mem_singleton.2 rfl
      | @step e _ q edge greater new tour =>
        refine ⟨e, ⟨edge, rfl⟩, ?_⟩
        rw [if_neg (Nat.ne_of_gt greater), if_pos ⟨greater, new⟩]
        exact List.mem_map.2 ⟨q, ih.2 ⟨tour, by simpa using short⟩, rfl⟩

/-! ## Length of tours -/

theorem length_le_of_nodup_lt {xs : List Nat} {n : Nat} (distinct : xs.Nodup)
    (below : ∀ x ∈ xs, x < n) : xs.length ≤ n := by
  have inside : xs ⊆ List.range n := fun x mem => List.mem_range.2 (below x mem)
  simpa using (List.subperm_of_subset distinct inside).length_le

/-- The nodes of a tour are all different, so there are at most as many as the
graph has. -/
theorem Tour.length_le (tour : g.Tour seed node visited p) (ranged : g.InRange)
    (distinct : visited.Nodup) (below : ∀ v ∈ visited, v < g.nodeCount) :
    visited.length + p.length ≤ g.nodeCount + 1 := by
  induction tour with
  | close _ _ =>
    have bound := length_le_of_nodup_lt distinct below
    simpa using bound
  | step edge _ new _ ih =>
    have rest := ih (List.nodup_cons.2 ⟨new, distinct⟩)
      (List.forall_mem_cons.2 ⟨(ranged _ edge).2, below⟩)
    simp only [List.length_cons] at rest ⊢
    omega

theorem mem_cycles (ranged : g.InRange) :
    p ∈ g.cycles ↔ ∃ seed < g.nodeCount, g.Tour seed seed [seed] p := by
  simp only [cycles, List.mem_flatMap, List.mem_range, mem_cyclesFrom]
  refine ⟨?_, ?_⟩
  · intro ⟨seed, bound, tour, _⟩
    exact ⟨seed, bound, tour⟩
  · intro ⟨seed, bound, tour⟩
    have short := tour.length_le ranged (List.nodup_singleton seed) (by simpa using bound)
    refine ⟨seed, bound, tour, ?_⟩
    simp only [List.length_singleton] at short
    omega

/-! ## Walks -/

/-- A path that leads along edges from the one node to the other. -/
inductive Walk (g : Graph α) : Nat → Path α → Nat → Prop
  | nil {v : Nat} : Walk g v [] v
  | cons {e : Edge α} {p : Path α} {v : Nat} :
    e ∈ g.edges → Walk g e.target p v → Walk g e.source (e :: p) v

/-- A cycle from a node back to it that comes to no node twice. -/
structure Cycle (g : Graph α) (start : Nat) (p : Path α) : Prop where
  walk : g.Walk start p start
  ne_nil : p ≠ []
  once : (p.map Edge.source).Nodup

variable {u v w : Nat} {left right : Path α}

theorem Walk.nil_iff : g.Walk u [] v ↔ u = v := by
  refine ⟨?_, ?_⟩
  · intro walk
    cases walk
    rfl
  · intro same
    exact same ▸ .nil

theorem Walk.cons_iff {e : Edge α} :
    g.Walk u (e :: p) v ↔ u = e.source ∧ e ∈ g.edges ∧ g.Walk e.target p v := by
  refine ⟨?_, ?_⟩
  · intro walk
    cases walk with
    | cons edge walk => exact ⟨rfl, edge, walk⟩
  · rintro ⟨rfl, edge, walk⟩
    exact .cons edge walk

theorem Walk.sources (walk : g.Walk u p v) (taken : p ≠ []) :
    p.map Edge.source = u :: p.tail.map Edge.source := by
  cases walk with
  | nil => exact absurd rfl taken
  | cons _ _ => rfl

theorem Walk.append_iff :
    g.Walk u (left ++ right) w ↔ ∃ v, g.Walk u left v ∧ g.Walk v right w := by
  induction left generalizing u with
  | nil => simp [nil_iff]
  | cons e left ih => simp only [List.cons_append, cons_iff, ih, ← exists_and_left, and_assoc]

/-- The nodes of a walk, read off its targets and off its sources. -/
theorem Walk.nodes_eq (walk : g.Walk u p v) :
    u :: p.map Edge.target = p.map Edge.source ++ [v] := by
  induction walk with
  | nil => rfl
  | cons _ _ ih => rw [List.map_cons, List.map_cons, ih, List.cons_append]

theorem Walk.transGen (walk : g.Walk u p v) (taken : p ≠ []) : TransGen g.Step u v := by
  induction walk with
  | nil => exact absurd rfl taken
  | @cons e p v edge walk ih =>
    cases p with
    | nil => exact .single ⟨e, edge, rfl, nil_iff.1 walk⟩
    | cons e' p => exact .head ⟨e, edge, rfl, rfl⟩ (ih (List.cons_ne_nil e' p))

theorem exists_walk (reached : TransGen g.Step u v) : ∃ p ≠ [], g.Walk u p v := by
  induction reached using TransGen.head_induction_on with
  | single here =>
    obtain ⟨e, edge, rfl, rfl⟩ := here
    exact ⟨[e], List.cons_ne_nil e [], .cons edge .nil⟩
  | head here _ ih =>
    obtain ⟨e, edge, rfl, rfl⟩ := here
    obtain ⟨p, _, walk⟩ := ih
    exact ⟨e :: p, List.cons_ne_nil e p, .cons edge walk⟩

/-- A walk that comes to a node twice has a shorter one, from the second visit on. -/
theorem Walk.exists_once (walk : g.Walk u p v) (taken : p ≠ []) :
    ∃ q ≠ [], g.Walk u q v ∧ (q.map Edge.source).Nodup := by
  induction walk with
  | nil => exact absurd rfl taken
  | @cons e p v edge walk ih =>
    cases p with
    | nil => exact ⟨[e], taken, .cons edge walk, List.nodup_singleton _⟩
    | cons e' p =>
      obtain ⟨q, _, shorter, once⟩ := ih (List.cons_ne_nil e' p)
      by_cases again : e.source ∈ q.map Edge.source
      · obtain ⟨e₁, mem, same⟩ := List.mem_map.1 again
        obtain ⟨before, after, rfl⟩ := List.append_of_mem mem
        obtain ⟨w, _, rest⟩ := append_iff.1 shorter
        obtain ⟨_, edge', rest⟩ := cons_iff.1 rest
        rw [List.map_append, List.nodup_append] at once
        exact ⟨e₁ :: after, List.cons_ne_nil e₁ after, same ▸ .cons edge' rest, once.2.1⟩
      · exact ⟨e :: q, List.cons_ne_nil e q, .cons edge shorter, List.nodup_cons.2 ⟨again, once⟩⟩

/-! ## Cycles -/

/-- A node that leads back to itself is on a cycle. -/
theorem exists_cycle (back : TransGen g.Step v v) : ∃ p, g.Cycle v p := by
  obtain ⟨p, taken, walk⟩ := exists_walk back
  obtain ⟨q, taken', shorter, once⟩ := walk.exists_once taken
  exact ⟨q, shorter, taken', once⟩

/-- The same cycle, started at another of its nodes. -/
theorem Cycle.turn (cycle : g.Cycle u (left ++ right)) : ∃ v, g.Cycle v (right ++ left) := by
  obtain ⟨v, first, second⟩ := Walk.append_iff.1 cycle.walk
  refine ⟨v, Walk.append_iff.2 ⟨u, second, first⟩, ?_, ?_⟩
  · have taken := cycle.ne_nil
    simp only [ne_eq, List.append_eq_nil_iff] at taken ⊢
    exact fun both => taken ⟨both.2, both.1⟩
  · rw [List.map_append]
    refine List.nodup_append_comm.1 ?_
    rw [← List.map_append]
    exact cycle.once

/-- A tour is a walk whose nodes on the way are greater than the seed, different and new. -/
theorem tour_iff : g.Tour seed node visited p ↔
    (g.Walk node p seed ∧ p ≠ []) ∧ (p.tail.map Edge.source).Nodup ∧
      ∀ v ∈ p.tail.map Edge.source, seed < v ∧ v ∉ visited := by
  refine ⟨?_, ?_⟩
  · intro tour
    induction tour with
    | @close e visited edge closes =>
      exact ⟨⟨.cons edge (closes ▸ .nil), List.cons_ne_nil e []⟩, List.nodup_nil, nofun⟩
    | @step e visited p edge greater new _ ih =>
      obtain ⟨⟨walk, taken⟩, once, apart⟩ := ih
      have sources := walk.sources taken
      refine ⟨⟨.cons edge walk, List.cons_ne_nil e p⟩, ?_, ?_⟩
      · rw [List.tail_cons, sources]
        exact List.nodup_cons.2 ⟨fun again => (apart _ again).2 List.mem_cons_self, once⟩
      · rw [List.tail_cons, sources]
        refine List.forall_mem_cons.2 ⟨⟨greater, new⟩, fun v mem => ?_⟩
        exact ⟨(apart v mem).1, fun old => (apart v mem).2 (List.mem_cons_of_mem _ old)⟩
  · rintro ⟨⟨walk, taken⟩, once, apart⟩
    induction walk generalizing visited with
    | nil => exact absurd rfl taken
    | @cons e p seed edge walk ih =>
      cases p with
      | nil => exact .close edge (Walk.nil_iff.1 walk)
      | cons e' p =>
        rw [List.tail_cons, List.map_cons] at once apart
        obtain ⟨fresh, once⟩ := List.nodup_cons.1 once
        obtain ⟨first, apart⟩ := List.forall_mem_cons.1 apart
        have next : e.target = e'.source := (Walk.cons_iff.1 walk).1
        refine .step edge (next ▸ first.1) (next ▸ first.2)
          (ih (List.cons_ne_nil e' p) once fun v mem => ⟨(apart v mem).1, ?_⟩)
        rw [List.mem_cons, not_or]
        exact ⟨fun same => fresh (next ▸ same ▸ mem), (apart v mem).2⟩

/-- The cycles found are those that start at their least node. -/
theorem mem_cycles_iff (ranged : g.InRange) :
    p ∈ g.cycles ↔ ∃ seed, g.Cycle seed p ∧ ∀ v ∈ p.map Edge.source, seed ≤ v := by
  rw [mem_cycles ranged]
  refine ⟨?_, ?_⟩
  · intro ⟨seed, _, tour⟩
    obtain ⟨⟨walk, taken⟩, once, apart⟩ := tour_iff.1 tour
    have sources := walk.sources taken
    refine ⟨seed, ⟨walk, taken, ?_⟩, ?_⟩
    · rw [sources]
      exact List.nodup_cons.2 ⟨fun again => Nat.lt_irrefl _ (apart seed again).1, once⟩
    · rw [sources]
      exact List.forall_mem_cons.2 ⟨Nat.le_refl seed, fun v mem => Nat.le_of_lt (apart v mem).1⟩
  · intro ⟨seed, cycle, least⟩
    have sources := cycle.walk.sources cycle.ne_nil
    have once := cycle.once
    rw [sources] at once least
    obtain ⟨fresh, once⟩ := List.nodup_cons.1 once
    have greater : ∀ v ∈ p.tail.map Edge.source, seed < v ∧ v ∉ [seed] := by
      intro v mem
      have other : seed ≠ v := fun same => fresh (same ▸ mem)
      have bound := least v (List.mem_cons_of_mem _ mem)
      exact ⟨Nat.lt_of_le_of_ne bound other, by simpa using other.symm⟩
    have inside : seed < g.nodeCount := by
      cases cycle.walk with
      | nil => exact absurd rfl cycle.ne_nil
      | cons edge _ => exact (ranged _ edge).1
    exact ⟨seed, inside, tour_iff.2 ⟨⟨cycle.walk, cycle.ne_nil⟩, once, greater⟩⟩

/-- A rotation of a path is a front part of it put behind the rest. -/
theorem mem_rotations {q : Path α} :
    q ∈ p.rotations ↔ ∃ left right, p = left ++ right ∧ right ≠ [] ∧ q = right ++ left := by
  simp only [Path.rotations, Path.rotated, List.mem_map, List.mem_range]
  refine ⟨?_, ?_⟩
  · rintro ⟨k, bound, rfl⟩
    refine ⟨p.take k, p.drop k, (List.take_append_drop k p).symm, ?_, rfl⟩
    rw [ne_eq, List.drop_eq_nil_iff]
    omega
  · rintro ⟨left, right, rfl, some, rfl⟩
    refine ⟨left.length, ?_, by simp⟩
    rw [List.length_append]
    exact Nat.lt_add_of_pos_right (List.length_pos_iff.2 some)

/-- Started at each of their nodes, the cycles found are all cycles. -/
theorem mem_rotations_cycles (ranged : g.InRange) {q : Path α} :
    q ∈ g.cycles.flatMap Path.rotations ↔ ∃ v, g.Cycle v q := by
  simp only [List.mem_flatMap, mem_rotations]
  refine ⟨?_, ?_⟩
  · rintro ⟨_, found, left, right, rfl, _, rfl⟩
    obtain ⟨seed, cycle, _⟩ := (mem_cycles_iff ranged).1 found
    exact cycle.turn
  · intro ⟨v, cycle⟩
    -- Started at its least node, the cycle is one that is found.
    have some : ∃ n, n ∈ q.map Edge.source :=
      ⟨v, cycle.walk.sources cycle.ne_nil ▸ List.mem_cons_self⟩
    obtain ⟨e, mem, source⟩ := List.mem_map.1 (Nat.find_spec some)
    obtain ⟨left, right, rfl⟩ := List.append_of_mem mem
    obtain ⟨w, turned⟩ := cycle.turn
    have start : w = e.source := (Walk.cons_iff.1 turned.walk).1
    have found : (e :: right) ++ left ∈ g.cycles := by
      refine (mem_cycles_iff ranged).2 ⟨w, turned, fun u mem => ?_⟩
      rw [start, source]
      refine Nat.find_min' some ?_
      rw [List.map_append] at mem ⊢
      exact List.mem_append.2 (List.mem_append.1 mem).symm
    cases left with
    | nil => exact ⟨_, found, [], e :: right, by simp, List.cons_ne_nil e right, by simp⟩
    | cons e' left => exact ⟨_, found, e :: right, e' :: left, rfl, List.cons_ne_nil e' left, rfl⟩

/-- No cycles are found just when no node leads back to itself. -/
theorem cycles_eq_nil (ranged : g.InRange) :
    g.cycles = [] ↔ ∀ v, ¬ TransGen g.Step v v := by
  refine ⟨?_, ?_⟩
  · intro none v back
    obtain ⟨q, cycle⟩ := exists_cycle back
    have found := (mem_rotations_cycles ranged).2 ⟨v, cycle⟩
    rw [none] at found
    exact List.not_mem_nil found
  · intro acyclic
    refine List.eq_nil_iff_forall_not_mem.2 fun q found => ?_
    obtain ⟨seed, cycle, _⟩ := (mem_cycles_iff ranged).1 found
    exact acyclic seed (cycle.walk.transGen cycle.ne_nil)

end Graph

end NominalScript
