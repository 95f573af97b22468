import NominalScript.Proofs.Check.Tables
import NominalScript.Proofs.Cycles
import NominalScript.Proofs.Types
import NominalScript.Proofs.Typing

/-!
# Structs that contain themselves

The search for structs that contain themselves is exact.  It finds nothing just when no
struct reaches itself by way of its fields (`finiteStructs_eq_ok`), and otherwise reports
each struct that does, once, with a chain of fields that leads from it back to it and to
no struct twice on the way.

The search is in a graph of numbers, in which builtin types come first and an edge
stands for a field.  `NodeOf` relates a number to the declaration it stands for, and
`exists_follow?` reads a walk through the graph as a chain of fields.
-/

namespace NominalScript

open Relation (TransGen)

/-- The structs that a chain of fields leads to from a struct, one after the other. -/
def Syntax.Program.follow? (p : Syntax.Program) :
    Syntax.StructDecl → List String → Option (List Syntax.StructDecl)
  | _, [] => some []
  | d, field :: chain => do
    let b ← d.fields.find? fun b => b.ident.name == field
    let next ← p.structs.find? fun d => d.ident.name == b.type.name
    let rest ← p.follow? next chain
    return next :: rest

namespace Check

open Syntax
open Typing (Contains)

/-! ## Reports -/

/-- The node that a path starts from. -/
def pathStart? (q : Path String) : Option Nat := q.head?.map Edge.source

/-- A struct with its node and a cycle through it. -/
structure CycleReport where
  node : Nat
  decl : StructDecl
  cycle : Path String

/-- The error about a struct on a cycle. -/
def CycleReport.error (r : CycleReport) : CheckError :=
  ⟨.selfContaining r.decl.ident.name (r.cycle.map Edge.label), r.decl.span⟩

/-- The node stands for the struct. -/
def NodeOf (builtinCount : Nat) (decls : List StructDecl) (node : Nat) (d : StructDecl) : Prop :=
  ∃ i, node = builtinCount + i ∧ decls[i]? = some d

theorem NodeOf.mem {n node : Nat} {decls : List StructDecl} {d : StructDecl}
    (stands : NodeOf n decls node d) : d ∈ decls := by
  obtain ⟨i, _, here⟩ := stands
  exact List.mem_of_getElem? here

theorem cycleError?_eq_some {n node : Nat} {decls : List StructDecl} {d : StructDecl}
    {q : Path String} (stands : NodeOf n decls node d) :
    cycleError? n decls node q = some (CycleReport.error ⟨node, d, q⟩) := by
  obtain ⟨i, rfl, here⟩ := stands
  rw [cycleError?, if_neg (Nat.not_lt.2 (Nat.le_add_right n i)), Nat.add_sub_cancel_left, here]
  rfl

/-- One cycle is reported for each node that some cycle starts from and that none was
reported for. -/
theorem exists_reports {n : Nat} {decls : List StructDecl} {paths : List (Path String)}
    (declared : ∀ q ∈ paths, ∃ node d, pathStart? q = some node ∧ NodeOf n decls node d)
    (reported : List Nat) :
    ∃ rs : List CycleReport, cycleErrors n decls reported paths = rs.map CycleReport.error ∧
      (rs.map CycleReport.node).Nodup ∧
      (∀ node, node ∈ rs.map CycleReport.node ↔
        node ∉ reported ∧ some node ∈ paths.map pathStart?) ∧
      ∀ r ∈ rs, r.cycle ∈ paths ∧ pathStart? r.cycle = some r.node ∧
        NodeOf n decls r.node r.decl := by
  induction paths generalizing reported with
  | nil => exact ⟨[], rfl, List.nodup_nil, by simp, nofun⟩
  | cons q paths ih =>
    obtain ⟨⟨node, d, start, stands⟩, later⟩ := List.forall_mem_cons.1 declared
    cases q with
    | nil => cases start
    | cons e q =>
      cases start
      rw [cycleErrors]
      split
      · next old =>
        obtain ⟨rs, errors, once, covers, each⟩ := ih later reported
        refine ⟨rs, errors, once, fun node => ?_, fun r mem => ?_⟩
        · rw [covers node, List.map_cons, List.mem_cons]
          refine and_congr_right fun new => ⟨.inr, fun found => found.resolve_left ?_⟩
          intro same
          cases same
          exact new old
        · obtain ⟨listed, rest⟩ := each r mem
          exact ⟨List.mem_cons_of_mem _ listed, rest⟩
      · next new =>
        rw [cycleError?_eq_some stands]
        obtain ⟨rs, errors, once, covers, each⟩ := ih later (e.source :: reported)
        refine ⟨⟨e.source, d, e :: q⟩ :: rs, by rw [errors]; rfl, ?_, fun node => ?_, ?_⟩
        · rw [List.map_cons, List.nodup_cons, covers]
          exact ⟨fun again => again.1 List.mem_cons_self, once⟩
        · rw [List.map_cons, List.mem_cons, covers node, List.map_cons, List.mem_cons,
            List.mem_cons, not_or]
          by_cases same : node = e.source
          · subst same
            exact ⟨fun _ => ⟨new, .inl rfl⟩, fun _ => .inl rfl⟩
          · have other : some node ≠ pathStart? (e :: q) :=
              fun found => same (Option.some.inj found)
            simp [same, other]
        · refine List.forall_mem_cons.2 ⟨⟨List.mem_cons_self, rfl, stands⟩, fun r mem => ?_⟩
          obtain ⟨listed, rest⟩ := each r mem
          exact ⟨List.mem_cons_of_mem _ listed, rest⟩

/-- Without a cycle there is nothing to report. -/
theorem errors_finiteStructs {n : Nat} {decls : List StructDecl} {structs : List StructType} :
    (finiteStructs n decls structs).errors =
      cycleErrors n decls [] ((containmentGraph n structs).cycles.flatMap Path.rotations) := by
  unfold finiteStructs
  dsimp only
  split
  · next none =>
    rw [List.isEmpty_iff.1 none]
    rfl
  · rfl

/-! ## Numbers and declarations -/

/-- An edge stands for a field. -/
theorem mem_edges_iff {n u v : Nat} {structs : List StructType} {label : String} :
    (∃ e ∈ (containmentGraph n structs).edges, e.source = u ∧ e.target = v ∧ e.label = label) ↔
      ∃ (i : Nat) (s : StructType) (f : Field), structs[i]? = some s ∧ f ∈ s.fields ∧ u = n + i ∧
        v = typeNode n f.type ∧ label = f.name := by
  have listed : (∃ e ∈ (containmentGraph n structs).edges,
      e.source = u ∧ e.target = v ∧ e.label = label) ↔
      (u, v, label) ∈ structs.zipIdx.flatMap fun s => containments n s.2 s.1 := by
    rw [← Graph.edges_ofEdges (n + structs.length) (structs.zipIdx.flatMap _), ← containmentGraph,
      List.mem_map]
    simp
  rw [listed]
  simp only [List.mem_flatMap, containments, List.mem_map]
  refine ⟨?_, ?_⟩
  · rintro ⟨⟨s, i⟩, entry, f, mem, edge⟩
    cases edge
    exact ⟨i, s, f, List.mem_zipIdx_iff_getElem?.1 entry, mem, rfl, rfl, rfl⟩
  · rintro ⟨i, s, f, entry, mem, rfl, rfl, rfl⟩
    exact ⟨(s, i), List.mem_zipIdx_iff_getElem?.2 entry, f, mem, rfl⟩

section Declarations

variable {p : Syntax.Program} {builtins : List String} {structs : List StructType}

theorem NodeOf.decl_eq {u : Nat} {d d' : StructDecl} (here : NodeOf builtins.length p.structs u d)
    (there : NodeOf builtins.length p.structs u d') : d = d' := by
  obtain ⟨i, rfl, entry⟩ := here
  obtain ⟨j, same, entry'⟩ := there
  cases Nat.add_left_cancel same
  exact Option.some.inj (entry.symm.trans entry')

theorem NodeOf.node_eq (distinct : (p.structs.map (·.ident.name)).Nodup) {u v : Nat}
    {d : StructDecl}
    (here : NodeOf builtins.length p.structs u d) (there : NodeOf builtins.length p.structs v d) :
    u = v := by
  obtain ⟨i, rfl, entry⟩ := here
  obtain ⟨j, rfl, entry'⟩ := there
  have bound := (List.getElem?_eq_some_iff.1 entry).1
  rw [(List.getElem?_inj bound (List.Nodup.of_map _ distinct)).1 (entry.trans entry'.symm)]

theorem exists_nodeOf {d : StructDecl} (mem : d ∈ p.structs) :
    ∃ u, NodeOf builtins.length p.structs u d := by
  obtain ⟨i, here⟩ := List.mem_iff_getElem?.1 mem
  exact ⟨builtins.length + i, i, rfl, here⟩

/-- A name that resolves to the node of a struct is the name of the struct. -/
theorem name_of_nodeOf {name : String} {t : TypeId} {d : StructDecl}
    (resolved : (p.typeNames builtins).resolve? name = some t)
    (stands : NodeOf builtins.length p.structs (typeNode builtins.length t) d) :
    d.ident.name = name := by
  obtain ⟨j, same, entry⟩ := stands
  cases t with
  | builtin i =>
    have bound : i < builtins.length := TypeNames.has_of_resolve? resolved
    simp only [typeNode] at same
    omega
  | struct i =>
    have named : (p.structs.map (·.ident.name))[i]? = some name :=
      TypeNames.getElem?_of_resolve?_struct resolved
    cases Nat.add_left_cancel same
    rw [List.getElem?_map, entry] at named
    exact Option.some.inj named

/-- A declared struct has its place as its number. -/
theorem resolve?_struct (distinct : (p.structs.map (·.ident.name)).Nodup) {d : StructDecl} {i : Nat}
    (here : p.structs[i]? = some d) (new : d.ident.name ∉ builtins) :
    (p.typeNames builtins).resolve? d.ident.name = some (.struct i) := by
  have absent : builtins.idxOf? d.ident.name = none := List.idxOf?_eq_none_iff.2 new
  have place : (p.structs.map (·.ident.name)).idxOf? d.ident.name = some i := by
    rw [List.idxOf?, List.findIdx?_map]
    exact findIdx?_of_nodup distinct here
  unfold TypeNames.resolve? Syntax.Program.typeNames
  rw [absent, place]
  rfl

variable (distinct : (p.structs.map (·.ident.name)).Nodup)
  (each : ∀ d ∈ p.structs, d.ident.name ∉ builtins ∧ (d.fields.map (·.ident.name)).Nodup)
  (entries : List.Forall₂ (StructFor (p.typeNames builtins)) p.structs structs)

section Edges

include entries

/-- An edge leads from a struct along a declared field to the node of its type. -/
theorem field_of_edge {e : Edge String}
    (edge : e ∈ (containmentGraph builtins.length structs).edges) :
    ∃ d b t, NodeOf builtins.length p.structs e.source d ∧ b ∈ d.fields ∧
      b.ident.name = e.label ∧ (p.typeNames builtins).resolve? b.type.name = some t ∧
      e.target = typeNode builtins.length t := by
  obtain ⟨i, s, f, entry, mem, source, target, label⟩ := mem_edges_iff.1 ⟨e, edge, rfl, rfl, rfl⟩
  obtain ⟨d, here, made⟩ := Aligned.getElem?_right entries entry
  obtain ⟨b, written, named, resolved⟩ := Aligned.mem_right made.fields mem
  exact ⟨d, b, f.type, ⟨i, source, here⟩, written, named.symm.trans label.symm, resolved, target⟩

/-- Every edge leads from one node to another: the type of a declared field is a builtin or a
struct of the program. -/
theorem containmentGraph_inRange : (containmentGraph builtins.length structs).InRange := by
  intro e edge
  obtain ⟨d, b, t, ⟨i, source, here⟩, _, _, resolved, target⟩ := field_of_edge entries edge
  have nodes : (containmentGraph builtins.length structs).nodeCount =
      builtins.length + p.structs.length := by
    rw [entries.length_eq]
    exact Graph.nodeCount_ofEdges _ _
  have bound := (List.getElem?_eq_some_iff.1 here).1
  have known := TypeNames.has_of_resolve? resolved
  rw [nodes, source, target]
  refine ⟨by omega, ?_⟩
  cases t with
  | builtin j =>
    have below : j < builtins.length := known
    simp only [typeNode]
    omega
  | struct j =>
    have below : j < (p.structs.map (·.ident.name)).length := known
    rw [List.length_map] at below
    simp only [typeNode]
    omega

/-- Where a walk to a struct starts, there is a struct. -/
theorem nodeOf_of_walk {u v : Nat} {q : Path String} {d' : StructDecl}
    (walk : (containmentGraph builtins.length structs).Walk u q v)
    (stop : NodeOf builtins.length p.structs v d') : ∃ d, NodeOf builtins.length p.structs u d := by
  cases walk with
  | nil => exact ⟨d', stop⟩
  | cons edge _ =>
    obtain ⟨d, _, _, stands, _⟩ := field_of_edge entries edge
    exact ⟨d, stands⟩

/-- Steps in the graph of containment follow declared fields from struct to struct. -/
theorem transGen_contains {u v : Nat} {d' : StructDecl}
    (reached : TransGen (containmentGraph builtins.length structs).Step u v)
    (stop : NodeOf builtins.length p.structs v d') :
    ∃ d, NodeOf builtins.length p.structs u d ∧ TransGen (Contains p) d d' := by
  have first : ∀ {u v d'}, (containmentGraph builtins.length structs).Step u v →
      NodeOf builtins.length p.structs v d' →
      ∃ d, NodeOf builtins.length p.structs u d ∧ Contains p d d' := by
    rintro _ _ d' ⟨e, edge, rfl, rfl⟩ stop
    obtain ⟨d, b, t, here, written, _, resolved, target⟩ := field_of_edge entries edge
    have called := name_of_nodeOf resolved (target ▸ stop)
    exact ⟨d, here, here.mem, stop.mem, b, written, called.symm⟩
  induction reached using TransGen.head_induction_on with
  | single step =>
    obtain ⟨d, here, contains⟩ := first step stop
    exact ⟨d, here, .single contains⟩
  | head step _ ih =>
    obtain ⟨middle, between, rest⟩ := ih
    obtain ⟨d, here, contains⟩ := first step between
    exact ⟨d, here, .head contains rest⟩

/-- A cycle starts at the node of a struct. -/
theorem start_of_cycle {u : Nat} {q : Path String}
    (cycle : (containmentGraph builtins.length structs).Cycle u q) :
    pathStart? q = some u ∧ ∃ d, NodeOf builtins.length p.structs u d := by
  obtain ⟨walk, taken, _⟩ := cycle
  cases walk with
  | nil => exact absurd rfl taken
  | cons edge _ =>
    obtain ⟨d, _, _, stands, _⟩ := field_of_edge entries edge
    exact ⟨rfl, d, stands⟩

theorem contains_self_of_step {u : Nat} {d : StructDecl}
    (back : TransGen (containmentGraph builtins.length structs).Step u u)
    (here : NodeOf builtins.length p.structs u d) : TransGen (Contains p) d d := by
  obtain ⟨d', here', reached⟩ := transGen_contains entries back here
  cases here'.decl_eq here
  exact reached

include distinct each

/-- A declared field whose type is a struct is an edge to the node of that struct. -/
theorem step_of_contains {u v : Nat} {d d' : StructDecl}
    (here : NodeOf builtins.length p.structs u d) (there : NodeOf builtins.length p.structs v d')
    (contains : Contains p d d') : (containmentGraph builtins.length structs).Step u v := by
  obtain ⟨i, rfl, here⟩ := here
  obtain ⟨j, rfl, there⟩ := there
  obtain ⟨s, entry, made⟩ := Aligned.getElem?_left entries here
  obtain ⟨b, written, called⟩ := contains.field
  obtain ⟨f, mem, _, resolved⟩ := Aligned.mem_left made.fields written
  have number := resolve?_struct distinct there (each d' contains.part_mem).1
  rw [called, number] at resolved
  obtain ⟨e, edge, source, target, _⟩ := mem_edges_iff.2 ⟨i, s, f, entry, mem, rfl, rfl, rfl⟩
  refine ⟨e, edge, source, target.trans ?_⟩
  rw [← Option.some.inj resolved]
  rfl

theorem transGen_step {d d' : StructDecl} (reached : TransGen (Contains p) d d') {u v : Nat}
    (here : NodeOf builtins.length p.structs u d) (there : NodeOf builtins.length p.structs v d') :
    TransGen (containmentGraph builtins.length structs).Step u v := by
  induction reached generalizing v with
  | single contains => exact .single (step_of_contains distinct each entries here there contains)
  | tail _ contains ih =>
    obtain ⟨w, between⟩ := @exists_nodeOf p builtins _ contains.whole_mem
    exact (ih between).tail (step_of_contains distinct each entries between there contains)

theorem exists_step_of_contains_self {d : StructDecl} (back : TransGen (Contains p) d d) :
    ∃ u, NodeOf builtins.length p.structs u d ∧
      TransGen (containmentGraph builtins.length structs).Step u u := by
  obtain ⟨_, first, _⟩ := TransGen.head'_iff.1 back
  obtain ⟨u, here⟩ := @exists_nodeOf p builtins _ first.whole_mem
  exact ⟨u, here, transGen_step distinct each entries back here here⟩

end Edges

/-! ## Chains of fields -/

section Chains

include distinct each entries

/-- A walk through the graph is a chain of fields. -/
theorem exists_follow? {u v : Nat} {q : Path String} {d d' : StructDecl}
    (walk : (containmentGraph builtins.length structs).Walk u q v)
    (here : NodeOf builtins.length p.structs u d) (stop : NodeOf builtins.length p.structs v d') :
    ∃ visited, p.follow? d (q.map Edge.label) = some visited ∧
      List.Forall₂ (NodeOf builtins.length p.structs) (q.map Edge.target) visited := by
  induction walk generalizing d with
  | nil => exact ⟨[], rfl, .nil⟩
  | @cons e q v edge walk ih =>
    obtain ⟨next, there⟩ := nodeOf_of_walk entries walk stop
    obtain ⟨visited, followed, stands⟩ := ih there stop
    obtain ⟨d₀, b, t, source, written, label, resolved, target⟩ := field_of_edge entries edge
    cases here.decl_eq source
    have called := name_of_nodeOf resolved (target ▸ there)
    obtain ⟨i, place⟩ := List.mem_iff_getElem?.1 written
    obtain ⟨j, place'⟩ := List.mem_iff_getElem?.1 there.mem
    have field := find?_of_nodup (each d here.mem).2 place
    have struct := find?_of_nodup distinct place'
    refine ⟨next :: visited, ?_, .cons there stands⟩
    rw [List.map_cons, ← label, Syntax.Program.follow?, field]
    simp only [Option.bind_eq_bind, Option.bind_some, ← called, struct, followed]
    rfl

/-- A cycle is a chain of fields that comes to no struct twice and ends where it
starts. -/
theorem exists_follow?_of_cycle {u : Nat} {q : Path String} {d : StructDecl}
    (cycle : (containmentGraph builtins.length structs).Cycle u q)
    (here : NodeOf builtins.length p.structs u d) :
    ∃ visited, p.follow? d (q.map Edge.label) = some visited ∧ visited.Nodup ∧
      visited.getLast? = some d := by
  obtain ⟨visited, followed, stands⟩ := exists_follow? distinct each entries cycle.walk here here
  have nodes := cycle.walk.nodes_eq
  refine ⟨visited, followed, ?_, ?_⟩
  · have perm : (q.map Edge.target).Perm (q.map Edge.source) := by
      refine List.Perm.cons_inv (a := u) ?_
      rw [nodes]
      exact List.perm_append_singleton u _
    have same := Aligned.nodup_map_iff (f := id) (g := id) stands ?_
    · rw [List.map_id, List.map_id] at same
      exact same.1 (perm.nodup_iff.2 cycle.once)
    · intro v d' w d'' first second
      refine ⟨?_, ?_⟩
      · rintro rfl
        exact first.decl_eq second
      · rintro rfl
        exact first.node_eq distinct second
  · have last : (q.map Edge.target).getLast? = some u := by
      have whole := congrArg List.getLast? nodes
      rw [List.getLast?_cons, List.getLast?_concat, Option.some.injEq] at whole
      cases stop : (q.map Edge.target).getLast? with
      | none => exact absurd (List.map_eq_nil_iff.1 (List.getLast?_eq_none_iff.1 stop)) cycle.ne_nil
      | some v =>
        rw [stop] at whole
        exact congrArg some whole
    obtain ⟨d', stop, there⟩ := Aligned.getLast?_left stands last
    rw [stop, there.decl_eq here]

end Chains

/-! ## What is reported -/

section Reports

include distinct each entries

/-- Nothing is reported just when no struct contains itself. -/
theorem finiteStructs_eq_ok {done : Unit} :
    finiteStructs builtins.length p.structs structs = .ok done ↔
      ∀ d, ¬ TransGen (Contains p) d d := by
  have found : finiteStructs builtins.length p.structs structs = .ok done ↔
      (containmentGraph builtins.length structs).cycles = [] := by
    unfold finiteStructs
    cases (containmentGraph builtins.length structs).cycles <;> simp
  rw [found, Graph.cycles_eq_nil (containmentGraph_inRange entries)]
  refine ⟨?_, ?_⟩
  · intro acyclic d back
    obtain ⟨u, _, back⟩ := exists_step_of_contains_self distinct each entries back
    exact acyclic u back
  · intro acyclic u back
    obtain ⟨q, cycle⟩ := Graph.exists_cycle back
    obtain ⟨_, d, here⟩ := start_of_cycle entries cycle
    exact acyclic d (contains_self_of_step entries back here)

/-- There is one report for each struct that contains itself, with a cycle through it. -/
theorem exists_cycleReports :
    ∃ rs : List CycleReport,
      (finiteStructs builtins.length p.structs structs).errors = rs.map CycleReport.error ∧
      (rs.map CycleReport.decl).Nodup ∧
      (∀ d, d ∈ rs.map CycleReport.decl ↔ TransGen (Contains p) d d) ∧
      ∀ r ∈ rs, (containmentGraph builtins.length structs).Cycle r.node r.cycle ∧
        NodeOf builtins.length p.structs r.node r.decl := by
  have ranged := containmentGraph_inRange entries
  obtain ⟨rs, errors, once, covers, made⟩ := @exists_reports builtins.length p.structs
    ((containmentGraph builtins.length structs).cycles.flatMap Path.rotations)
    (fun q listed => by
      obtain ⟨u, cycle⟩ := (Graph.mem_rotations_cycles ranged).1 listed
      obtain ⟨start, d, stands⟩ := start_of_cycle entries cycle
      exact ⟨u, d, start, stands⟩) []
  have cycles : ∀ r ∈ rs, (containmentGraph builtins.length structs).Cycle r.node r.cycle := by
    intro r mem
    obtain ⟨listed, start, _⟩ := made r mem
    obtain ⟨u, cycle⟩ := (Graph.mem_rotations_cycles ranged).1 listed
    cases start.symm.trans (start_of_cycle entries cycle).1
    exact cycle
  refine ⟨rs, errors_finiteStructs.trans errors, ?_, fun d => ⟨?_, ?_⟩,
    fun r mem => ⟨cycles r mem, (made r mem).2.2⟩⟩
  · rw [List.Nodup, List.pairwise_map] at once ⊢
    refine once.imp_of_mem fun first second apart same => apart ?_
    exact (made _ first).2.2.node_eq distinct (same ▸ (made _ second).2.2)
  · intro mem
    obtain ⟨r, listed, rfl⟩ := List.mem_map.1 mem
    have cycle := cycles r listed
    exact contains_self_of_step entries (cycle.walk.transGen cycle.ne_nil) (made r listed).2.2
  · intro back
    obtain ⟨u, here, back⟩ := exists_step_of_contains_self distinct each entries back
    obtain ⟨q, cycle⟩ := Graph.exists_cycle back
    have listed := (Graph.mem_rotations_cycles ranged).2 ⟨u, cycle⟩
    have reported : u ∈ rs.map CycleReport.node :=
      (covers u).2 ⟨List.not_mem_nil,
        List.mem_map.2 ⟨q, listed, (start_of_cycle entries cycle).1⟩⟩
    obtain ⟨r, mem, rfl⟩ := List.mem_map.1 reported
    exact List.mem_map.2 ⟨r, mem, (made r mem).2.2.decl_eq here⟩

end Reports

end Declarations

/-- The search for structs that contain themselves is exact.  It succeeds just when there
are none, and otherwise each of them is reported once, with a chain of fields that leads
from the struct back to it and to no struct twice. -/
theorem finiteStructs_exact {p : Syntax.Program} {builtins : List String}
    {structs : List StructType}
    (resolved : collect ((withEarlier p.structs).map fun d =>
      structType (p.typeNames builtins) d.1 d.2) = .ok structs) :
    (finiteStructs builtins.length p.structs structs = .ok () ↔
      ∀ d, ¬ TransGen (Contains p) d d) ∧
    ∃ reports : List (StructDecl × List String),
      (finiteStructs builtins.length p.structs structs).errors =
        reports.map (fun r => ⟨.selfContaining r.1.ident.name r.2, r.1.span⟩) ∧
      (reports.map Prod.fst).Nodup ∧
      (∀ d, d ∈ reports.map Prod.fst ↔ TransGen (Contains p) d d) ∧
      ∀ r ∈ reports, ∃ visited, p.follow? r.1 r.2 = some visited ∧ visited.Nodup ∧
        visited.getLast? = some r.1 := by
  obtain ⟨distinct, each, entries⟩ := collect_structType_eq_ok.1 resolved
  obtain ⟨rs, errors, once, covers, made⟩ := exists_cycleReports distinct each entries
  have decls : (rs.map fun r => (r.decl, r.cycle.map Edge.label)).map Prod.fst =
      rs.map CycleReport.decl := by
    rw [List.map_map]
    rfl
  refine ⟨finiteStructs_eq_ok distinct each entries,
    rs.map fun r => (r.decl, r.cycle.map Edge.label), ?_, decls ▸ once, decls ▸ covers, ?_⟩
  · refine errors.trans ?_
    rw [List.map_map]
    rfl
  · intro r mem
    obtain ⟨r, listed, rfl⟩ := List.mem_map.1 mem
    obtain ⟨cycle, here⟩ := made r listed
    exact exists_follow?_of_cycle distinct each entries cycle here

/-- The structs

    struct Egg { bird: Bird, nest: Nest }
    struct Bird { egg: Egg, count: Int }
    struct Nest { first: Egg, bird: Bird }
    struct Tree { nest: Nest }

of which the first three contain each other in more ways than one, and the last one
contains them. -/
def nesting : Syntax.Program where
  structs := [
    ⟨named "Egg", [typed "bird" "Bird", typed "nest" "Nest"], .builtin⟩,
    ⟨named "Bird", [typed "egg" "Egg", typed "count" "Int"], .builtin⟩,
    ⟨named "Nest", [typed "first" "Egg", typed "bird" "Bird"], .builtin⟩,
    ⟨named "Tree", [typed "nest" "Nest"], .builtin⟩]
  fns := []
where
  named (name : String) : Syntax.Ident := ⟨name, .builtin⟩
  typed (name type : String) : Syntax.Binding := ⟨named name, named type, .builtin⟩

/-- Each of the three structs on a chain that leads back is reported, and no other. -/
theorem finiteStructs_exact_nesting :
    ∃ (structs : List StructType) (reports : List (StructDecl × List String)),
      collect ((withEarlier nesting.structs).map fun d =>
        structType (nesting.typeNames ["Void", "Int", "String"]) d.1 d.2) = .ok structs ∧
      (finiteStructs 3 nesting.structs structs).errors =
        reports.map (fun r => ⟨.selfContaining r.1.ident.name r.2, r.1.span⟩) ∧
      reports.length = 3 ∧ ∀ d, d ∈ reports.map Prod.fst ↔ TransGen (Contains nesting) d d := by
  obtain ⟨_, reports, errors, _, covers, _⟩ :=
    @finiteStructs_exact nesting ["Void", "Int", "String"] _ rfl
  refine ⟨_, reports, rfl, errors, ?_, covers⟩
  have three := congrArg List.length errors
  rw [List.length_map] at three
  exact three.symm

end Check

end NominalScript
