import NominalScript.Proofs.Cycles.Enumeration

/-!
# The search in tables

A graph can be kept in tables: of every edge the node it leads to and its label, and of
every node the numbers of the edges that leave it.  Paths are then lists of numbers, and
whatever the search asks for is looked up: the edges of a node, the end and the label of
an edge, the nodes of a path.  `GraphTables` does that, and each of its operations fails
when a number is not in its table.

None of them ever does on a graph whose edges lead from nodes to nodes, and what they
compute is what the search on the graph computes:

* `Graph.ofEdges?_eq_tables`: the tables can be built, and are those of the graph.
* `Graph.searchFrom?_eq`: the search goes on from every path it comes to.  It also gets by
  with a depth of as many edges as there are nodes, since its paths repeat none.
* `Graph.turns?_tables`: so all cycles can be read off from each of their nodes.
-/

namespace NominalScript

variable {α β : Type}

/-! ## Tables -/

/-- The entries of a list from `first` on and before `last`. -/
def slice? (xs : List β) (first last : Nat) : Option (List β) :=
  if first ≤ last ∧ last ≤ xs.length then some ((xs.take last).drop first) else none

/-- A path, as the numbers of its nodes, both ends included, and of its edges. -/
structure Trail where
  nodes : List Nat
  edges : List Nat
deriving DecidableEq, Repr

namespace Trail

/-- Go on along an edge to a node. -/
def extended (w : Trail) (edge node : Nat) : Trail := ⟨w.nodes ++ [node], w.edges ++ [edge]⟩

/-- The same cycle, started at its node number `offset`. -/
def rotated? (w : Trail) (offset : Nat) : Option Trail := do
  let last := w.nodes.length - 1
  let start ← w.nodes[offset]?
  let after ← slice? w.nodes offset last
  let before ← slice? w.nodes 0 offset
  let later ← slice? w.edges offset w.edges.length
  let earlier ← slice? w.edges 0 offset
  return ⟨after ++ before ++ [start], later ++ earlier⟩

end Trail

/-- A graph in tables: for every edge the node it leads to and its label, and for every node
the numbers of the edges that leave it. -/
structure GraphTables (α : Type) where
  edges : List (Nat × α)
  outgoing : List (List Nat)
deriving DecidableEq, Repr

namespace GraphTables

/-- Nodes without edges. -/
def empty (nodeCount : Nat) : GraphTables α := ⟨[], List.replicate nodeCount []⟩

/-- Add an edge after all others. -/
def addEdge? (t : GraphTables α) (source target : Nat) (label : α) : Option (GraphTables α) := do
  let leaving ← t.outgoing[source]?
  return ⟨t.edges ++ [(target, label)], t.outgoing.set source (leaving ++ [t.edges.length])⟩

/-- The tables of the given edges, in order. -/
def ofEdges? (nodeCount : Nat) (edges : List (Nat × Nat × α)) : Option (GraphTables α) :=
  edges.foldlM (fun t e => t.addEdge? e.1 e.2.1 e.2.2) (empty nodeCount)

/-- Follow an edge from the end of a path: it closes a cycle, or leads to a node to go on
from, or neither. -/
def along? (t : GraphTables α) (goOn : Trail → Option (List Trail)) (seed : Nat) (w : Trail)
    (edge : Nat) : Option (List Trail) := do
  let (next, _) ← t.edges[edge]?
  if next = seed then return [w.extended edge next]
  else if seed < next ∧ next ∉ w.nodes then goOn (w.extended edge next)
  else return []

/-- The cycles that go on from a path through nodes greater than its first one, by at most
`depth` further edges.  There is no answer when the depth does not suffice. -/
def searchFrom? (t : GraphTables α) : Nat → Trail → Option (List Trail)
  | 0, _ => none
  | depth + 1, w => do
    let seed ← w.nodes.head?
    let node ← w.nodes.getLast?
    let leaving ← t.outgoing[node]?
    let found ← leaving.mapM (t.along? (t.searchFrom? depth) seed w)
    return found.flatten

/-- Every elementary cycle, each once and from its least node. -/
def cycles? (t : GraphTables α) : Option (List Trail) := do
  let found ← (List.range t.outgoing.length).mapM fun seed =>
    t.searchFrom? t.outgoing.length ⟨[seed], []⟩
  return found.flatten

/-- What is read off a path: its first node, and the labels of its edges. -/
def labels? (t : GraphTables α) (w : Trail) : Option (Nat × List α) := do
  let first ← w.nodes.head?
  let labels ← w.edges.mapM fun edge => (t.edges[edge]?).map Prod.snd
  return (first, labels)

/-- Every cycle, read off from each of its nodes in turn. -/
def turns? (t : GraphTables α) : Option (List (Nat × List α)) := do
  let turns ← (← t.cycles?).mapM fun w =>
    (List.range (w.nodes.length - 1)).mapM fun offset => do t.labels? (← w.rotated? offset)
  return turns.flatten

end GraphTables

/-- The numbers of the nodes and of the edges of a path that starts at a node. -/
def Path.trailFrom (start : Nat) (p : Path α) : Trail := ⟨nodesFrom start p, p.map Edge.index⟩

/-- The numbers of the nodes and of the edges of a path. -/
def Path.trail (p : Path α) : Trail := ⟨p.nodes, p.map Edge.index⟩

/-- The tables of a graph. -/
def Graph.tables (g : Graph α) : GraphTables α where
  edges := g.edges.map fun e => (e.target, e.label)
  outgoing := (List.range g.nodeCount).map fun node => (g.outgoing node).map Edge.index

theorem mapM_eq_some_filterMap {γ : Type} {f g : β → Option γ} {xs : List β}
    (each : ∀ x ∈ xs, ∃ y, f x = some y ∧ g x = some y) :
    xs.mapM f = some (xs.filterMap g) := by
  induction xs with
  | nil => rfl
  | cons x xs ih =>
    obtain ⟨⟨y, first, same⟩, rest⟩ := List.forall_mem_cons.1 each
    rw [List.mapM_cons, first, ih rest, List.filterMap_cons_some same]
    rfl

theorem mapM_eq_some_map {γ : Type} {f : β → Option γ} {h : β → γ} {xs : List β}
    (each : ∀ x ∈ xs, f x = some (h x)) : xs.mapM f = some (xs.map h) := by
  rw [← List.filterMap_eq_map]
  exact mapM_eq_some_filterMap fun x mem => ⟨h x, each x mem, rfl⟩

theorem slice?_eq {xs : List β} (left mid right : List β) {first last : Nat}
    (split : xs = left ++ (mid ++ right)) (start : first = left.length)
    (stop : last = left.length + mid.length) : slice? xs first last = some mid := by
  subst split start stop
  rw [slice?, if_pos (by simp), List.take_length_add_append, List.drop_left, List.take_left]

/-- Starting a cycle at another node is taking its parts in the other order. -/
theorem Trail.rotated?_eq {w : Trail} {front back : List Nat} {node last : Nat}
    {taken left : List Nat} (nodes : w.nodes = front ++ (node :: back ++ [last]))
    (edges : w.edges = taken ++ left) (same : taken.length = front.length) :
    w.rotated? front.length = some ⟨node :: back ++ front ++ [node], left ++ taken⟩ := by
  have start : w.nodes[front.length]? = some node := by simp [nodes]
  have after : slice? w.nodes front.length (w.nodes.length - 1) = some (node :: back) :=
    slice?_eq front (node :: back) [last] nodes rfl (by simp [nodes])
  have before : slice? w.nodes 0 front.length = some front :=
    slice?_eq [] front _ nodes rfl (by simp)
  have later : slice? w.edges front.length w.edges.length = some left :=
    slice?_eq taken left [] (by simpa using edges) same.symm (by simp [edges])
  have earlier : slice? w.edges 0 front.length = some taken :=
    slice?_eq [] taken left edges rfl (by simp [same])
  simp only [Trail.rotated?, start, after, before, later, earlier, Option.bind_eq_bind,
    Option.bind_some]
  rfl

namespace Graph

variable {g : Graph α} {seed node v : Nat} {visited : List Nat} {p q : Path α}

/-! ## Building the tables -/

theorem outgoing_addEdge (g : Graph α) (source target : Nat) (label : α) (node : Nat) :
    (g.addEdge source target label).outgoing node = g.outgoing node ++
      if source = node then [⟨g.edges.length, source, target, label⟩] else [] := by
  by_cases here : source = node <;> simp [outgoing, addEdge, here]

/-- The tables of a graph with one more edge are those of the graph with the edge put in, for
its source is a node. -/
theorem tables_addEdge {source : Nat} (bound : source < g.nodeCount) (target : Nat) (label : α) :
    g.tables.addEdge? source target label = some (g.addEdge source target label).tables := by
  have leaving : g.tables.outgoing[source]? = some ((g.outgoing source).map Edge.index) := by
    simp [tables, bound]
  rw [GraphTables.addEdge?, leaving]
  refine congrArg some ?_
  rw [GraphTables.mk.injEq]
  refine ⟨by simp [tables, addEdge], List.ext_getElem? fun i => ?_⟩
  have count : (g.addEdge source target label).nodeCount = g.nodeCount := rfl
  by_cases here : source = i
  · subst here
    simp [tables, count, outgoing_addEdge, bound]
  · by_cases inside : i < g.nodeCount <;>
      simp [tables, count, outgoing_addEdge, here, inside]

/-- The tables are built without a look-up that fails, for every edge starts at a node. -/
theorem ofEdges?_eq_tables {n : Nat} {es : List (Nat × Nat × α)} (sources : ∀ e ∈ es, e.1 < n) :
    GraphTables.ofEdges? n es = some (ofEdges n es).tables := by
  have run : ∀ {g : Graph α}, g.nodeCount = n →
      es.foldlM (fun t e => t.addEdge? e.1 e.2.1 e.2.2) g.tables =
        some (es.foldl (fun g e => g.addEdge e.1 e.2.1 e.2.2) g).tables := by
    induction es with
    | nil => exact fun _ => rfl
    | cons e es ih =>
      intro g count
      obtain ⟨here, later⟩ := List.forall_mem_cons.1 sources
      rw [List.foldlM_cons, tables_addEdge (count ▸ here)]
      exact ih later count
  have start : (GraphTables.empty n : GraphTables α) = (empty n : Graph α).tables := by
    simp [GraphTables.empty, empty, tables, outgoing, List.map_const']
  rw [GraphTables.ofEdges?, start]
  exact run rfl

/-! ## Looking up -/

theorem getElem?_tables_outgoing (inside : node < g.nodeCount) :
    g.tables.outgoing[node]? = some ((g.outgoing node).map Edge.index) := by
  simp [tables, inside]

theorem getElem?_tables_edges (numbered : g.edges.map Edge.index = List.range g.edges.length)
    {e : Edge α} (edge : e ∈ g.edges) : g.tables.edges[e.index]? = some (e.target, e.label) := by
  obtain ⟨i, here⟩ := List.mem_iff_getElem?.1 edge
  have place : (g.edges.map Edge.index)[i]? = some e.index := by rw [List.getElem?_map, here]; rfl
  rw [numbered, List.getElem?_range (List.getElem?_eq_some_iff.1 here).1] at place
  rw [← Option.some.inj place, tables, List.getElem?_map, here]
  rfl

/-! ## Searching -/

theorem extended_trailFrom (seed : Nat) (q : Path α) (e : Edge α) :
    (q.trailFrom seed).extended e.index e.target = Path.trailFrom seed (q ++ [e]) := by
  simp [Path.trailFrom, Path.nodesFrom, Trail.extended]

/-- Following an edge finds what the search finds along it, if going on from its end does. -/
theorem along?_eq (numbered : g.edges.map Edge.index = List.range g.edges.length)
    {goOn : Trail → Option (List Trail)} {found : List (Path α)} {e : Edge α} (edge : e ∈ g.edges)
    (taken : Path.nodesFrom seed q = visited.reverse)
    (going : seed < e.target → e.target ∉ visited → goOn (Path.trailFrom seed (q ++ [e])) =
      some (found.map fun p => Path.trailFrom seed (q ++ e :: p))) :
    g.tables.along? goOn seed (q.trailFrom seed) e.index =
      some ((if e.target = seed then [[e]]
        else if seed < e.target ∧ e.target ∉ visited then found.map (e :: ·)
        else []).map fun p => Path.trailFrom seed (q ++ p)) := by
  have seen : e.target ∈ (q.trailFrom seed).nodes ↔ e.target ∈ visited := by
    rw [Path.trailFrom, taken, List.mem_reverse]
  simp only [GraphTables.along?, getElem?_tables_edges numbered edge, Option.bind_eq_bind,
    Option.bind_some, extended_trailFrom, seen]
  by_cases closes : e.target = seed
  · simp [closes]
  · by_cases onward : seed < e.target ∧ e.target ∉ visited
    · rw [if_neg closes, if_pos onward, if_neg closes, if_pos onward,
        going onward.1 onward.2, List.map_map]
      rfl
    · rw [if_neg closes, if_neg onward, if_neg closes, if_neg onward]
      rfl

/-- The search goes on from every path through different nodes.  There is an edge to spare
for each node not yet on the path, so the depth never runs out. -/
theorem searchFrom?_eq (numbered : g.edges.map Edge.index = List.range g.edges.length)
    (ranged : g.InRange) {depth : Nat} (taken : Path.nodesFrom seed q = visited.reverse)
    (last : visited.head? = some node) (distinct : visited.Nodup)
    (below : ∀ u ∈ visited, u < g.nodeCount) (enough : depth + visited.length = g.nodeCount + 1) :
    g.tables.searchFrom? depth (q.trailFrom seed) =
      some ((g.cyclesFrom seed depth node visited).map fun p => Path.trailFrom seed (q ++ p)) := by
  induction depth generalizing node visited q with
  | zero =>
    have room := length_le_of_nodup_lt distinct below
    omega
  | succ depth ih =>
    have first : (q.trailFrom seed).nodes.head? = some seed := rfl
    have final : (q.trailFrom seed).nodes.getLast? = some node := by
      rw [Path.trailFrom, taken, List.getLast?_reverse, last]
    have inside : node < g.nodeCount := below node (List.mem_of_mem_head? last)
    have found : ((g.outgoing node).map Edge.index).mapM
        (g.tables.along? (g.tables.searchFrom? depth) seed (q.trailFrom seed)) =
        some ((g.outgoing node).map fun e => (if e.target = seed then [[e]]
          else if seed < e.target ∧ e.target ∉ visited then
            (g.cyclesFrom seed depth e.target (e.target :: visited)).map (e :: ·)
          else []).map fun p => Path.trailFrom seed (q ++ p)) := by
      rw [List.mapM_map]
      refine mapM_eq_some_map fun e leaves => ?_
      have edge := (mem_outgoing.1 leaves).1
      refine along?_eq numbered edge taken fun greater new => ?_
      have longer : Path.nodesFrom seed (q ++ [e]) = (e.target :: visited).reverse := by
        rw [List.reverse_cons, ← taken]
        simp [Path.nodesFrom]
      rw [ih longer rfl (List.nodup_cons.2 ⟨new, distinct⟩)
        (List.forall_mem_cons.2 ⟨(ranged e edge).2, below⟩) (by rw [List.length_cons]; omega)]
      simp
    simp only [GraphTables.searchFrom?, first, final, getElem?_tables_outgoing inside, found,
      Option.bind_eq_bind, Option.bind_some]
    rw [cyclesFrom, List.map_flatMap]
    rfl

theorem Walk.trail_eq (walk : g.Walk seed p v) (taken : p ≠ []) :
    p.trail = p.trailFrom seed := by
  cases walk with
  | nil => exact absurd rfl taken
  | cons _ _ => rfl

/-- The search on the tables finds the cycles of the graph, and no look-up in it fails. -/
theorem cycles?_eq (numbered : g.edges.map Edge.index = List.range g.edges.length)
    (ranged : g.InRange) : g.tables.cycles? = some (g.cycles.map Path.trail) := by
  have count : g.tables.outgoing.length = g.nodeCount := by simp [tables]
  rw [GraphTables.cycles?, count, mapM_eq_some_map (h := fun seed =>
    (g.cyclesFrom seed g.nodeCount seed [seed]).map Path.trail)]
  · refine congrArg some ?_
    rw [cycles, List.map_flatMap]
    rfl
  · intro seed mem
    have found := searchFrom?_eq (q := []) numbered ranged rfl rfl (List.nodup_singleton seed)
      (by simpa using List.mem_range.1 mem) rfl
    refine found.trans (congrArg some (List.map_congr_left fun p listed => ?_))
    obtain ⟨⟨walk, taken⟩, _⟩ := tour_iff.1 (mem_cyclesFrom.1 listed).1
    exact (walk.trail_eq taken).symm

/-! ## Turning -/

/-- The nodes of a walk are where its edges start, and where the last of them ends. -/
theorem Walk.nodes_eq_sources (walk : g.Walk seed p v) (taken : p ≠ []) :
    p.nodes = p.map Edge.source ++ [v] := by
  have nodes := congrArg Trail.nodes (walk.trail_eq taken)
  exact nodes.trans walk.nodes_eq

theorem Cycle.exists_head (cycle : g.Cycle v p) : ∃ e, p.head? = some e ∧ e.source = v := by
  cases p with
  | nil => exact absurd rfl cycle.ne_nil
  | cons e p => exact ⟨e, rfl, (Walk.cons_iff.1 cycle.walk).1.symm⟩

/-- A walk back to its start can be started at any of its nodes. -/
theorem Walk.rotated?_eq (walk : g.Walk v p v) {offset : Nat} (inside : offset < p.length) :
    p.trail.rotated? offset = some (p.rotated offset).trail := by
  obtain ⟨left, e, right, split, rfl⟩ :
      ∃ left e right, p = left ++ e :: right ∧ left.length = offset :=
    ⟨p.take offset, p[offset], p.drop (offset + 1), by simp, by simp; omega⟩
  have turn : p.rotated left.length = e :: right ++ left := by
    rw [Path.rotated, split, List.drop_left, List.take_left]
  obtain ⟨w, first, second⟩ := Walk.append_iff.1 (split ▸ walk)
  have start : w = e.source := (Walk.cons_iff.1 second).1
  have turned : g.Walk w (e :: right ++ left) w := Walk.append_iff.2 ⟨v, second, first⟩
  have nodes : p.trail.nodes = left.map Edge.source ++
      (e.source :: right.map Edge.source ++ [v]) := by
    rw [Path.trail, walk.nodes_eq_sources (List.ne_nil_of_length_pos (Nat.zero_lt_of_lt inside)),
      split]
    simp
  have edges : p.trail.edges = left.map Edge.index ++ (e :: right).map Edge.index := by
    rw [Path.trail, split, List.map_append]
  have rotated := Trail.rotated?_eq nodes edges (by simp)
  rw [List.length_map] at rotated
  rw [rotated, turn, Path.trail, turned.nodes_eq_sources (List.cons_ne_nil _ _), start]
  simp

/-- The labels along a cycle are read off the table of edges. -/
theorem labels?_eq (numbered : g.edges.map Edge.index = List.range g.edges.length)
    (cycle : g.Cycle v p) : g.tables.labels? p.trail = some (v, p.map Edge.label) := by
  have first : p.trail.nodes.head? = some v := by
    rw [cycle.walk.trail_eq cycle.ne_nil]
    rfl
  have along : ∀ e ∈ p, e ∈ g.edges := (walk_iff.1 cycle.walk).1
  have labels : p.trail.edges.mapM (fun edge => (g.tables.edges[edge]?).map Prod.snd) =
      some (p.map Edge.label) := by
    rw [Path.trail, List.mapM_map]
    refine mapM_eq_some_map fun e mem => ?_
    rw [Function.comp_apply, getElem?_tables_edges numbered (along e mem)]
    rfl
  rw [GraphTables.labels?, first, Option.bind_eq_bind, Option.bind_some, labels]
  rfl

/-- Every rotation of every cycle is read off the tables.  No look-up fails, for an offset is
less than the cycle's length and a rotation is again a cycle. -/
theorem turns?_tables (numbered : g.edges.map Edge.index = List.range g.edges.length)
    (ranged : g.InRange) :
    g.tables.turns? = some ((g.cycles.flatMap Path.rotations).filterMap fun q =>
      q.head?.map fun e => (e.source, q.map Edge.label)) := by
  have read : ∀ p ∈ g.cycles, (List.range (p.trail.nodes.length - 1)).mapM
      (fun offset => do g.tables.labels? (← p.trail.rotated? offset)) =
      some (p.rotations.filterMap fun q => q.head?.map fun e => (e.source, q.map Edge.label)) := by
    intro p found
    obtain ⟨seed, cycle, _⟩ := (mem_cycles_iff ranged).1 found
    have length : p.trail.nodes.length - 1 = p.length := by
      rw [Path.trail, cycle.walk.nodes_eq_sources cycle.ne_nil]
      simp
    rw [length, Path.rotations, List.filterMap_map]
    refine mapM_eq_some_filterMap fun offset mem => ?_
    have inside := List.mem_range.1 mem
    have turned : p.rotated offset ∈ g.cycles.flatMap Path.rotations :=
      List.mem_flatMap.2 ⟨p, found, List.mem_map_of_mem mem⟩
    obtain ⟨w, cycle'⟩ := (mem_rotations_cycles ranged).1 turned
    refine ⟨(w, (p.rotated offset).map Edge.label), ?_, ?_⟩
    · rw [cycle.walk.rotated?_eq inside]
      exact labels?_eq numbered cycle'
    · obtain ⟨e, head, rfl⟩ := cycle'.exists_head
      rw [Function.comp_apply, head]
      rfl
  rw [GraphTables.turns?, cycles?_eq numbered ranged, Option.bind_eq_bind, Option.bind_some,
    List.mapM_map, mapM_eq_some_map (h := fun p =>
      p.rotations.filterMap fun q => q.head?.map fun e => (e.source, q.map Edge.label)) read]
  rw [List.filterMap_flatMap]
  rfl

/-- The tables of edges between nodes can be built and searched, and what is read off the
cycles found is what the cycles of the graph say. -/
theorem exists_turns? {n : Nat} {es : List (Nat × Nat × α)} (ranged : (ofEdges n es).InRange) :
    ∃ t, GraphTables.ofEdges? n es = some t ∧
      t.turns? = some (((ofEdges n es).cycles.flatMap Path.rotations).filterMap fun q =>
        q.head?.map fun e => (e.source, q.map Edge.label)) := by
  refine ⟨(ofEdges n es).tables, ofEdges?_eq_tables fun e mem => ?_,
    turns?_tables (index_ofEdges n es) ranged⟩
  rw [← edges_ofEdges n es] at mem
  obtain ⟨edge, listed, rfl⟩ := List.mem_map.1 mem
  have inside := (ranged edge listed).1
  rwa [nodeCount_ofEdges] at inside

end Graph

end NominalScript
