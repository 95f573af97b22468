import Mathlib.Data.List.Nodup
import NominalScript.Proofs.Aligned
import NominalScript.Proofs.Cycles

/-!
# Every cycle once

The cycles of a graph are listed without repetition, and up to where they start they are
all there is: of every cycle that comes to no node twice, exactly one rotation is listed,
the one that starts at the least node.

* `Graph.listed_iff` reads a cycle off the list of its nodes: edge `i` leads from node `i`
  to node `i + 1`, the first and the last node are the least, and no other comes twice.
* `Graph.nodup_cyclesFrom`: two branches of the search start with different edges, so they
  have no path in common.
* `Graph.existsUnique_rotation`: nodes come once, so there is one way to start a cycle at
  its least node.
-/

namespace NominalScript.Graph

variable {α : Type} {g : Graph α} {seed node u v : Nat} {visited : List Nat} {p q : Path α}

/-! ## Graphs from edges -/

theorem index_addEdge {s t : Nat} {label : α}
    (numbered : g.edges.map Edge.index = List.range g.edges.length) :
    (g.addEdge s t label).edges.map Edge.index =
      List.range (g.addEdge s t label).edges.length := by
  simp [addEdge, numbered, List.range_succ]

/-- Edges are numbered in the order in which they were added. -/
theorem index_ofEdges (n : Nat) (es : List (Nat × Nat × α)) :
    (ofEdges n es).edges.map Edge.index = List.range (ofEdges n es).edges.length := by
  have run : ∀ (es : List (Nat × Nat × α)) (g : Graph α),
      g.edges.map Edge.index = List.range g.edges.length →
      (es.foldl (fun g e => g.addEdge e.1 e.2.1 e.2.2) g).edges.map Edge.index =
        List.range (es.foldl (fun g e => g.addEdge e.1 e.2.1 e.2.2) g).edges.length := by
    intro es
    induction es with
    | nil => exact fun _ numbered => numbered
    | cons e es ih => exact fun g numbered => ih _ (index_addEdge numbered)
  exact run es (.empty n) rfl

theorem nodup_index_ofEdges (n : Nat) (es : List (Nat × Nat × α)) :
    ((ofEdges n es).edges.map Edge.index).Nodup := by
  rw [index_ofEdges]
  exact List.nodup_range

theorem inRange_ofEdges {n : Nat} {es : List (Nat × Nat × α)}
    (ends : ∀ e ∈ es, e.1 < n ∧ e.2.1 < n) : (ofEdges n es).InRange := by
  intro e edge
  rw [nodeCount_ofEdges]
  refine ends (e.source, e.target, e.label) ?_
  rw [← edges_ofEdges n es]
  exact List.mem_map_of_mem edge

/-- Paths along edges with different numbers are known by the numbers of their edges. -/
theorem eq_of_index_eq (distinct : (g.edges.map Edge.index).Nodup) (along : ∀ e ∈ p, e ∈ g.edges)
    (along' : ∀ e ∈ q, e ∈ g.edges) (same : p.map Edge.index = q.map Edge.index) : p = q := by
  have aligned : List.Forall₂ Eq p q := by
    refine List.forall₂_iff_zip.2 ⟨by simpa using congrArg List.length same, ?_⟩
    intro e e' both
    obtain ⟨here, there⟩ := List.of_mem_zip both
    have index := List.forall₂_zip (Aligned.of_map_eq same) both
    exact List.inj_on_of_nodup_map distinct (along e here) (along' e' there) index
  exact List.forall₂_eq_eq_eq ▸ aligned

/-! ## Nodes of a cycle -/

/-- A path is a walk when each edge starts where the one before it ends. -/
theorem walk_iff : g.Walk u p v ↔
    (∀ e ∈ p, e ∈ g.edges) ∧ u :: p.map Edge.target = p.map Edge.source ++ [v] := by
  refine ⟨?_, ?_⟩
  · intro walk
    refine ⟨?_, walk.nodes_eq⟩
    induction walk with
    | nil => exact nofun
    | cons edge _ ih => exact List.forall_mem_cons.2 ⟨edge, ih⟩
  · rintro ⟨along, nodes⟩
    induction p generalizing u with
    | nil =>
      obtain ⟨same, _⟩ := List.cons.inj nodes
      exact Walk.nil_iff.2 same
    | cons e p ih =>
      obtain ⟨edge, along⟩ := List.forall_mem_cons.1 along
      obtain ⟨start, rest⟩ := List.cons.inj nodes
      exact Walk.cons_iff.2 ⟨start, edge, ih along rest⟩

/-- Each edge of a walk leads from the node at its place to the node after it. -/
theorem Walk.leads (walk : g.Walk u p v) {i : Nat} {e : Edge α} (here : p[i]? = some e) :
    e ∈ g.edges ∧ (Path.nodesFrom u p)[i]? = some e.source ∧
      (Path.nodesFrom u p)[i + 1]? = some e.target := by
  rcases walk_iff.1 walk with ⟨along, nodes⟩
  have bound := (List.getElem?_eq_some_iff.1 here).1
  refine ⟨along e (List.mem_of_getElem? here), ?_, ?_⟩
  · rw [Path.nodesFrom, nodes, List.getElem?_append_left (by simpa using bound),
      List.getElem?_map, here]
    rfl
  · rw [Path.nodesFrom, List.getElem?_cons_succ, List.getElem?_map, here]
    rfl

/-- A cycle as it is listed: along edges of the graph, from the least of its nodes back to
it, and to no other node twice. -/
structure Listed (g : Graph α) (p : Path α) : Prop where
  ne_nil : p ≠ []
  edges : ∀ (i : Nat) e, p[i]? = some e →
    e ∈ g.edges ∧ p.nodes[i]? = some e.source ∧ p.nodes[i + 1]? = some e.target
  closed : p.nodes.getLast? = p.nodes.head?
  least : ∀ first, p.nodes.head? = some first → ∀ v ∈ p.nodes, first ≤ v
  once : p.nodes.dropLast.Nodup

theorem nodes_cons (e : Edge α) (p : Path α) :
    Path.nodes (e :: p) = e.source :: (e :: p).map Edge.target := rfl

/-- The nodes of a path whose edges link up, but for the last, are where its edges start. -/
theorem Listed.nodes_eq (listed : g.Listed p) :
    ∃ u, p.nodes = p.map Edge.source ++ [u] ∧ p.nodes.head? = some u := by
  cases p with
  | nil => exact absurd rfl listed.ne_nil
  | cons e p =>
    have sources : (Path.nodes (e :: p)).dropLast = (e :: p).map Edge.source := by
      refine List.ext_getElem? fun i => ?_
      rw [List.getElem?_dropLast, List.getElem?_map]
      cases here : (e :: p)[i]? with
      | none =>
        have beyond := List.getElem?_eq_none_iff.1 here
        rw [if_neg (by simpa [nodes_cons] using beyond)]
        rfl
      | some e' =>
        have bound := (List.getElem?_eq_some_iff.1 here).1
        rw [if_pos (by simpa [nodes_cons] using bound), (listed.edges i e' here).2.1]
        rfl
    have last : (Path.nodes (e :: p)).getLast? = some e.source := listed.closed
    refine ⟨e.source, ?_, rfl⟩
    rw [← sources, ← List.dropLast_append_getLast? e.source last]
    simp

/-- A path is listed when it is an elementary cycle written from its least node, in terms of the
nodes along it or in terms of where its edges start. -/
theorem listed_iff : g.Listed p ↔ ∃ seed, g.Cycle seed p ∧ ∀ v ∈ p.map Edge.source, seed ≤ v := by
  refine ⟨?_, ?_⟩
  · intro listed
    obtain ⟨u, nodes, head⟩ := listed.nodes_eq
    have along : ∀ e ∈ p, e ∈ g.edges := by
      intro e mem
      obtain ⟨i, here⟩ := List.mem_iff_getElem?.1 mem
      exact (listed.edges i e here).1
    have once := listed.once
    rw [nodes, List.dropLast_concat] at once
    refine ⟨u, ⟨walk_iff.2 ⟨along, ?_⟩, listed.ne_nil, once⟩, fun v mem => ?_⟩
    · rw [← nodes]
      cases p with
      | nil => exact absurd rfl listed.ne_nil
      | cons e p =>
        cases head
        rfl
    · refine listed.least u head v ?_
      rw [nodes]
      exact List.mem_append_left _ mem
  · rintro ⟨seed, cycle, least⟩
    have nodes := cycle.walk.nodes_eq
    have start : p.nodes = seed :: p.map Edge.target := by
      cases p with
      | nil => exact absurd rfl cycle.ne_nil
      | cons e p => rw [(Walk.cons_iff.1 cycle.walk).1]; rfl
    refine ⟨cycle.ne_nil, fun i e here => start ▸ cycle.walk.leads here, ?_, ?_, ?_⟩
    · rw [start, List.head?_cons, nodes, List.getLast?_concat]
    · intro first head w mem
      rw [start, List.head?_cons] at head
      cases head
      rw [start, nodes, List.mem_append, List.mem_singleton] at mem
      rcases mem with source | rfl
      · exact least w source
      · exact Nat.le_refl w
    · rw [start, nodes, List.dropLast_concat]
      exact cycle.once

/-! ## No path twice -/

/-- The search goes on from a node without finding a path twice. -/
theorem nodup_cyclesFrom (distinct : g.edges.Nodup) {depth : Nat} :
    (g.cyclesFrom seed depth node visited).Nodup := by
  induction depth generalizing node visited with
  | zero => exact List.nodup_nil
  | succ depth ih =>
    rw [cyclesFrom]
    refine List.nodup_flatMap.2 ⟨fun e _ => ?_, ?_⟩
    · split
      · exact List.nodup_singleton _
      · split
        · exact ih.map fun _ _ same => (List.cons.inj same).2
        · exact List.nodup_nil
    · -- Whatever is found along an edge starts with that edge.
      refine (distinct.filter _).imp fun {e e'} differ =>
        List.disjoint_left.2 fun q here there => ?_
      have starts : ∀ {e : Edge α}, q ∈ (if e.target = seed then [[e]]
          else if seed < e.target ∧ e.target ∉ visited then
            (g.cyclesFrom seed depth e.target (e.target :: visited)).map (e :: ·)
          else []) → q.head? = some e := by
        intro e found
        split at found
        · rw [List.mem_singleton.1 found]
          rfl
        · split at found
          · obtain ⟨_, _, rfl⟩ := List.mem_map.1 found
            rfl
          · exact absurd found List.not_mem_nil
      exact differ (Option.some.inj ((starts here).symm.trans (starts there)))

theorem nodup_cycles (distinct : g.edges.Nodup) : g.cycles.Nodup := by
  rw [cycles]
  refine List.nodup_flatMap.2 ⟨fun seed _ => nodup_cyclesFrom distinct, ?_⟩
  refine List.nodup_range.imp fun {s t} differ => List.disjoint_left.2 fun q here there => ?_
  have sources : ∀ {s : Nat}, q ∈ g.cyclesFrom s g.nodeCount s [s] →
      q.map Edge.source = s :: q.tail.map Edge.source := by
    intro s found
    obtain ⟨walk, taken⟩ := (tour_iff.1 (mem_cyclesFrom.1 found).1).1
    exact walk.sources taken
  exact differ (List.cons.inj ((sources here).symm.trans (sources there))).1

/-! ## One rotation of each -/

theorem rotated_perm (p : Path α) (k : Nat) : (p.rotated k).Perm p := by
  unfold Path.rotated
  exact List.perm_append_comm.trans (List.Perm.of_eq (List.take_append_drop k p))

theorem head?_rotated {k : Nat} (inside : k < p.length) : (p.rotated k).head? = p[k]? := by
  have some : p.drop k ≠ [] := by simpa using inside
  rw [Path.rotated, List.head?_append_of_ne_nil _ some, List.head?_drop]

theorem mem_rotations_symm (turned : q ∈ p.rotations) : p ∈ q.rotations := by
  rcases mem_rotations.1 turned with ⟨left, right, rfl, some, rfl⟩
  cases left with
  | nil => exact mem_rotations.2 ⟨[], right, by simp, some, by simp⟩
  | cons e left => exact mem_rotations.2 ⟨right, e :: left, rfl, List.cons_ne_nil e left, rfl⟩

/-- A cycle has one rotation that is listed: nodes come once, so it starts at its least
node in one way. -/
theorem existsUnique_rotation (ranged : g.InRange) (cycle : g.Cycle v q) :
    ∃! p, p ∈ g.cycles ∧ p ∈ q.rotations := by
  have starts : ∀ {k : Nat}, k < q.length → q.rotated k ∈ g.cycles →
      ∃ u, (q.map Edge.source)[k]? = some u ∧ ∀ w ∈ q.map Edge.source, u ≤ w := by
    intro k inside found
    rcases (mem_cycles_iff ranged).1 found with ⟨u, turned, least⟩
    have head : (q.rotated k).head?.map Edge.source = some u := by
      rw [← List.head?_map, turned.walk.sources turned.ne_nil]
      rfl
    rw [head?_rotated inside, ← List.getElem?_map] at head
    exact ⟨u, head, fun w mem => least w (((rotated_perm q k).map _).mem_iff.2 mem)⟩
  have some : ∃ p, p ∈ g.cycles ∧ p ∈ q.rotations := by
    have found := (mem_rotations_cycles ranged).2 ⟨v, cycle⟩
    rcases List.mem_flatMap.1 found with ⟨p, listed, turned⟩
    exact ⟨p, listed, mem_rotations_symm turned⟩
  rcases some with ⟨p, listed, turned⟩
  refine ⟨p, ⟨listed, turned⟩, ?_⟩
  rintro p' ⟨listed', turned'⟩
  rcases List.mem_map.1 turned with ⟨k, inside, rfl⟩
  rcases List.mem_map.1 turned' with ⟨k', inside', rfl⟩
  rw [List.mem_range] at inside inside'
  rcases starts inside listed with ⟨u, here, least⟩
  rcases starts inside' listed' with ⟨u', here', least'⟩
  have same : u = u' := by
    have below := least u' (List.mem_of_getElem? here')
    have below' := least' u (List.mem_of_getElem? here)
    omega
  have index : k' = k := by
    apply (List.getElem?_inj (by simpa using inside') cycle.once).1
    rw [here, here', same]
  rw [index]

end NominalScript.Graph

namespace NominalScript

/-- The list of cycles is exact: no two entries take the same edges, the entries are the
cycles that are written from their least node, and every cycle is there in one of its
rotations only. -/
theorem Graph.cycles_exact {α : Type} (n : Nat) (es : List (Nat × Nat × α))
    (ends : ∀ e ∈ es, e.1 < n ∧ e.2.1 < n) :
    ((ofEdges n es).cycles.map fun p => p.map Edge.index).Nodup ∧
      (∀ p, p ∈ (ofEdges n es).cycles ↔ (ofEdges n es).Listed p) ∧
      ∀ v q, (ofEdges n es).Cycle v q →
        ∃! p, p ∈ (ofEdges n es).cycles ∧ p ∈ q.rotations := by
  have ranged := inRange_ofEdges ends
  have numbers := nodup_index_ofEdges n es
  have listed : ∀ p, p ∈ (ofEdges n es).cycles ↔ (ofEdges n es).Listed p := by
    intro p
    rw [mem_cycles_iff ranged, listed_iff]
  refine ⟨?_, listed, fun v q cycle => existsUnique_rotation ranged cycle⟩
  have along : ∀ p ∈ (ofEdges n es).cycles, ∀ e ∈ p, e ∈ (ofEdges n es).edges := by
    intro p found e mem
    rcases List.mem_iff_getElem?.1 mem with ⟨i, here⟩
    exact (((listed p).1 found).edges i e here).1
  apply List.Nodup.map_on _ (nodup_cycles numbers.of_map)
  intro p found q found' same
  exact eq_of_index_eq numbers (along p found) (along q found') same

/-- Two nodes with two edges one way and one back, and a third that leads to itself. -/
theorem Graph.cycles_exact_parallel :
    ∃ g : Graph Unit, g = .ofEdges 3 [(1, 0, ()), (0, 1, ()), (2, 2, ()), (0, 1, ())] ∧
      (g.cycles.map fun p => p.map Edge.index) = [[1, 0], [3, 0], [2]] ∧
      (g.cycles.map fun p => p.map Edge.index).Nodup ∧ ∀ p, p ∈ g.cycles ↔ g.Listed p := by
  have exact := Graph.cycles_exact 3 [(1, 0, ()), (0, 1, ()), (2, 2, ()), (0, 1, ())] (by decide)
  exact ⟨_, rfl, rfl, exact.1, exact.2.1⟩

end NominalScript
