import Mathlib.Data.List.Rotate
import NominalScript.Proofs.Cycles.Tables

/-!
# Turning a closed path

A closed path can be started at each of its nodes.  In tables it is two lists, the nodes
with the first of them again at the end and the edges without, so both are cut at the same
place but put together differently.

`Trail.Closed` says what a closed path of a graph is, edge by edge; it may come to a node
any number of times.  `Trail.rotated_closed` says that turning such paths is a cyclic
action: what is turned is a closed path of the same graph, and turns add up.

* `Graph.closed_iff`: the closed paths are the walks that lead back to their start.
* `Graph.Walk.rotated`: a walk back to its start is one from each of its nodes.
* `Path.rotated_rotated`: the edges are turned as lists are, so turns add up.
-/

namespace NominalScript

variable {α : Type}

namespace Path

variable {p : Path α} {a b : Nat}

theorem rotated_eq_rotate (inside : a ≤ p.length) : p.rotated a = p.rotate a :=
  (List.rotate_eq_drop_append_take inside).symm

theorem rotated_zero (p : Path α) : p.rotated 0 = p := by
  simp [rotated]

theorem length_rotated (inside : a ≤ p.length) : (p.rotated a).length = p.length := by
  rw [rotated_eq_rotate inside, List.length_rotate]

/-- Turns add up, and a full turn is none. -/
theorem rotated_rotated (inside : a < p.length) (inside' : b < p.length) :
    (p.rotated a).rotated b = p.rotated ((a + b) % p.length) := by
  have sum : (a + b) % p.length < p.length := Nat.mod_lt _ (Nat.zero_lt_of_lt inside)
  have second : b ≤ (p.rotated a).length := by
    rw [length_rotated (Nat.le_of_lt inside)]
    exact Nat.le_of_lt inside'
  calc (p.rotated a).rotated b
    _ = (p.rotate a).rotate b := by
      rw [rotated_eq_rotate second, rotated_eq_rotate (Nat.le_of_lt inside)]
    _ = p.rotate ((a + b) % p.length) := by rw [List.rotate_rotate, List.rotate_mod]
    _ = p.rotated ((a + b) % p.length) := (rotated_eq_rotate (Nat.le_of_lt sum)).symm

end Path

/-- A closed path of a graph: edge number `i` leads from node number `i` to the node after
it, there is an edge, and the last node is the first. -/
structure Trail.Closed (g : Graph α) (w : Trail) : Prop where
  taken : w.edges ≠ []
  count : w.nodes.length = w.edges.length + 1
  leads : ∀ (i edge : Nat), w.edges[i]? = some edge →
    ∃ e ∈ g.edges, e.index = edge ∧ w.nodes[i]? = some e.source ∧ w.nodes[i + 1]? = some e.target
  closed : w.nodes.getLast? = w.nodes.head?

namespace Graph

variable {g : Graph α} {u v : Nat} {p : Path α} {w : Trail}

/-! ## Closed paths are walks -/

theorem Walk.getLast?_nodesFrom (walk : g.Walk u p v) :
    (Path.nodesFrom u p).getLast? = some v := by
  rw [Path.nodesFrom, walk.nodes_eq, List.getLast?_concat]

/-- Edges that lead from each node to the next make up a walk. -/
theorem exists_walk_of_leads {nodes edges : List Nat} (count : nodes.length = edges.length)
    (leads : ∀ (i edge : Nat), edges[i]? = some edge → ∃ e ∈ g.edges,
      e.index = edge ∧ (u :: nodes)[i]? = some e.source ∧ nodes[i]? = some e.target) :
    ∃ v p, g.Walk u p v ∧ p.trailFrom u = ⟨u :: nodes, edges⟩ := by
  induction edges generalizing u nodes with
  | nil =>
    rw [List.length_eq_zero_iff.1 count]
    exact ⟨u, [], .nil, rfl⟩
  | cons edge edges ih =>
    cases nodes with
    | nil => simp at count
    | cons node nodes =>
      rcases leads 0 edge rfl with ⟨e, mem, rfl, source, target⟩
      cases Option.some.inj source
      cases Option.some.inj target
      rcases ih (u := e.target) (by simpa using count)
        fun i edge' here => leads (i + 1) edge' here with ⟨v, p, walk, trail⟩
      rcases Trail.mk.inj trail with ⟨rest, numbers⟩
      have targets : p.map Edge.target = nodes := (List.cons.inj rest).2
      refine ⟨v, e :: p, .cons mem walk, ?_⟩
      simp [Path.trailFrom, Path.nodesFrom, targets, numbers]

/-- The closed paths are the walks that lead back to their start. -/
theorem closed_iff : w.Closed g ↔ ∃ v p, g.Walk v p v ∧ p ≠ [] ∧ p.trail = w := by
  rcases w with ⟨nodes, edges⟩
  refine ⟨?_, ?_⟩
  · intro closed
    cases nodes with
    | nil => simpa using closed.count
    | cons u nodes =>
      have count : nodes.length = edges.length := by simpa using closed.count
      rcases exists_walk_of_leads count closed.leads with ⟨v, p, walk, trail⟩
      rcases Trail.mk.inj trail with ⟨rest, numbers⟩
      have taken : p ≠ [] := by
        rintro rfl
        exact closed.taken numbers.symm
      have back : (Path.nodesFrom u p).getLast? = some u := rest ▸ closed.closed
      rw [walk.getLast?_nodesFrom] at back
      cases Option.some.inj back
      exact ⟨u, p, walk, taken, (walk.trail_eq taken).trans trail⟩
  · rintro ⟨v, p, walk, taken, trail⟩
    rw [walk.trail_eq taken] at trail
    rcases Trail.mk.inj trail with ⟨rfl, rfl⟩
    refine ⟨by simpa using taken, by simp [Path.nodesFrom], fun i edge here => ?_,
      walk.getLast?_nodesFrom⟩
    rw [List.getElem?_map] at here
    rcases Option.map_eq_some_iff.1 here with ⟨e, there, rfl⟩
    rcases walk.leads there with ⟨mem, source, target⟩
    exact ⟨e, mem, rfl, source, target⟩

/-! ## Turning -/

/-- A walk back to its start can be started at any node it leaves. -/
theorem Walk.rotated (walk : g.Walk v p v) {a : Nat} (inside : a < p.length) :
    ∃ u, (Path.nodesFrom v p)[a]? = some u ∧ g.Walk u (p.rotated a) u := by
  have cut : p = p.take a ++ p[a] :: p.drop (a + 1) := by simp
  rcases Walk.append_iff.1 (cut ▸ walk) with ⟨u, first, second⟩
  have start : u = p[a].source := (Walk.cons_iff.1 second).1
  rcases walk.leads (List.getElem?_eq_getElem inside) with ⟨_, source, _⟩
  refine ⟨u, start ▸ source, ?_⟩
  rw [Path.rotated, List.drop_eq_getElem_cons inside]
  exact Walk.append_iff.2 ⟨v, second, first⟩

end Graph

/-- Turning acts cyclically on closed paths.  A closed path of a graph can be started at
each of its nodes: cutting its two lists there gives a closed path of the same graph, from
that node back to it, and its edges are those of the path turned as a list.  Starting it at
its first node changes nothing, and starting what was turned at another node is turning by
the sum, where all the way round counts as nothing.

The closed paths are those of the walks that lead back to their start, and on these
`Path.rotated` does the same. -/
theorem Trail.rotated_closed {g : Graph α} {w : Trail} (closed : w.Closed g) {a b : Nat}
    (inside : a < w.edges.length) (inside' : b < w.edges.length) :
    (∃ w', w.rotated? a = some w' ∧ w'.Closed g ∧ w'.nodes.head? = w.nodes[a]? ∧
        w'.nodes.getLast? = w.nodes[a]? ∧ w'.edges = w.edges.rotate a ∧
        w'.rotated? b = w.rotated? ((a + b) % w.edges.length)) ∧
      w.rotated? 0 = some w ∧
      (∃ v p, g.Walk v p v ∧ p.trail = w) ∧
      ∀ v p, g.Walk v p v → p.trail = w → w.rotated? a = some (p.rotated a).trail ∧
        p.rotated 0 = p ∧ (p.rotated a).rotated b = p.rotated ((a + b) % p.length) := by
  rcases Graph.closed_iff.1 closed with ⟨v, p, walk, taken, rfl⟩
  have count : ∀ {q : Path α}, q.trail.edges.length = q.length := List.length_map _
  rw [count] at inside inside'
  have turns : (a + b) % p.length < p.length := Nat.mod_lt _ (Nat.zero_lt_of_lt inside)
  refine ⟨⟨(p.rotated a).trail, walk.rotated?_eq inside, ?_⟩, ?_, ⟨v, p, walk, rfl⟩, ?_⟩
  · rcases walk.rotated inside with ⟨u, node, turned⟩
    have length : (p.rotated a).length = p.length := Path.length_rotated (Nat.le_of_lt inside)
    have taken' : p.rotated a ≠ [] := List.ne_nil_of_length_pos (by omega)
    have nodes : p.trail.nodes[a]? = some u := by rw [walk.trail_eq taken]; exact node
    have trail := turned.trail_eq taken'
    refine ⟨Graph.closed_iff.2 ⟨u, _, turned, taken', rfl⟩, ?_, ?_, ?_, ?_⟩
    · rw [nodes, trail]
      rfl
    · rw [nodes, trail]
      exact turned.getLast?_nodesFrom
    · rw [Path.trail, Path.trail, Path.rotated_eq_rotate (Nat.le_of_lt inside), List.map_rotate]
    · rw [turned.rotated?_eq (length ▸ inside'), Path.rotated_rotated inside inside', count,
        walk.rotated?_eq turns]
  · rw [walk.rotated?_eq (Nat.zero_lt_of_lt inside), Path.rotated_zero]
  · intro v' q walk' same
    have length : q.length = p.length := by rw [← count, same, count]
    rw [← length] at inside inside'
    exact ⟨same ▸ walk'.rotated?_eq inside, q.rotated_zero, Path.rotated_rotated inside inside'⟩

/-- Between two nodes with two edges one way and one back: a closed path that takes one of
the two and then the other, started at its fourth node, and from there at its third. -/
theorem Trail.rotated_closed_twice :
    ∃ (g : Graph Unit) (w w' : Trail),
      g = .ofEdges 2 [(1, 0, ()), (0, 1, ()), (0, 1, ())] ∧
      w = ⟨[0, 1, 0, 1, 0], [1, 0, 2, 0]⟩ ∧ w.Closed g ∧ w.rotated? 3 = some w' ∧
      w' = ⟨[1, 0, 1, 0, 1], [0, 1, 0, 2]⟩ ∧ w'.Closed g ∧ w'.rotated? 2 = w.rotated? 1 := by
  have along : (Graph.ofEdges 2 [(1, 0, ()), (0, 1, ()), (0, 1, ())]).Walk 0
      [⟨1, 0, 1, ()⟩, ⟨0, 1, 0, ()⟩, ⟨2, 0, 1, ()⟩, ⟨0, 1, 0, ()⟩] 0 :=
    Graph.walk_iff.2 (by decide)
  have closed := Graph.closed_iff.2 ⟨0, _, along, List.cons_ne_nil _ _, rfl⟩
  rcases (Trail.rotated_closed closed (a := 3) (b := 2) (by decide) (by decide)).1 with
    ⟨w', turned, closed', _, _, _, again⟩
  cases turned
  exact ⟨_, _, _, rfl, rfl, closed, rfl, rfl, closed', again⟩

end NominalScript
