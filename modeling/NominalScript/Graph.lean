/-!
# Elementary cycles of a directed graph

A graph has nodes `0, …, n - 1` and labelled edges, possibly several between
the same two nodes.  A path is a list of edges, each starting where the one
before it ends; a cycle is a path that ends where it starts.

* `Graph.cycles` lists the cycles that repeat no node, each once and starting at
  its least node: from each node in turn, a depth-first search goes through
  greater nodes only and closes a cycle on every edge back to its start.
* `Path.rotated` starts the same cycle at another of its nodes.
-/

namespace NominalScript

/-- An edge: its number in the graph, its ends, and what it is labelled with. -/
structure Edge (α : Type) where
  index : Nat
  source : Nat
  target : Nat
  label : α
deriving DecidableEq, Repr

/-- A directed graph, with its edges in the order in which they were added. -/
structure Graph (α : Type) where
  nodeCount : Nat
  edges : List (Edge α)
deriving DecidableEq, Repr

variable {α : Type}

namespace Graph

/-- A graph without edges. -/
def empty (nodeCount : Nat) : Graph α := ⟨nodeCount, []⟩

/-- Add an edge after all others. -/
def addEdge (g : Graph α) (source target : Nat) (label : α) : Graph α :=
  { g with edges := g.edges ++ [⟨g.edges.length, source, target, label⟩] }

/-- The graph with the given edges, in order. -/
def ofEdges (nodeCount : Nat) (edges : List (Nat × Nat × α)) : Graph α :=
  edges.foldl (fun g e => g.addEdge e.1 e.2.1 e.2.2) (.empty nodeCount)

/-- The edges that leave a node, in order. -/
def outgoing (g : Graph α) (node : Nat) : List (Edge α) :=
  g.edges.filter fun e => e.source == node

end Graph

/-- A walk through a graph, as the edges it takes. -/
abbrev Path (α : Type) := List (Edge α)

namespace Path

/-- The nodes that a path starting at `start` comes through, both ends
included. -/
def nodesFrom (start : Nat) (p : Path α) : List Nat :=
  start :: p.map Edge.target

/-- The nodes of a path that takes an edge. -/
def nodes : Path α → List Nat
  | [] => []
  | e :: p => nodesFrom e.source (e :: p)

/-- The same cycle, started at its node number `offset`. -/
def rotated (p : Path α) (offset : Nat) : Path α :=
  p.drop offset ++ p.take offset

/-- The cycle, started at each of its nodes in turn. -/
def rotations (p : Path α) : List (Path α) :=
  (List.range p.length).map p.rotated

end Path

namespace Graph

/-- The cycles through `seed` and greater nodes that go on from `node` by at
most `depth` further edges and avoid the nodes of `visited`. -/
def cyclesFrom (g : Graph α) (seed : Nat) : Nat → Nat → List Nat → List (Path α)
  | 0, _, _ => []
  | depth + 1, node, visited =>
    (g.outgoing node).flatMap fun e =>
      if e.target = seed then [[e]]
      else if seed < e.target ∧ e.target ∉ visited then
        (g.cyclesFrom seed depth e.target (e.target :: visited)).map (e :: ·)
      else []

/-- Every elementary cycle, each once and from its least node.  A path that
repeats no node has at most as many edges as the graph has nodes. -/
def cycles (g : Graph α) : List (Path α) :=
  (List.range g.nodeCount).flatMap fun seed => g.cyclesFrom seed g.nodeCount seed [seed]

end Graph

end NominalScript
