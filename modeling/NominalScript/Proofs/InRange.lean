import NominalScript.Proofs.Check.Faults
import NominalScript.Proofs.Cycles.Tables

/-!
# No number without an entry

Checking hands out numbers in one step and looks them up in later ones: a type in a message,
the type of a slot, the struct that a literal or a field is of, the edges and nodes of the
search for structs that contain themselves.  An accepted program is all numbers.
`Syntax.Program.check_inRange` puts together that each of them has an entry, whatever the
program, the types and the functions of the host are, and whether checking succeeds or not.
-/

namespace NominalScript

open Syntax

/-- The position of a field is one of the struct's. -/
theorem StructType.lt_of_fieldIndex? {s : StructType} {name : String} {i : Nat}
    (found : s.fieldIndex? name = some i) : i < s.fields.length :=
  (List.findIdx?_eq_some_iff_getElem.1 found).1

/-- Position and type of a field are what is looked up at its position. -/
theorem StructType.field?_eq_getElem? (s : StructType) (name : String) :
    s.field? name = (s.fieldIndex? name).bind fun i => (s.fields[i]?).map fun f => (i, f.type) := by
  have place : s.fields.zipIdx.findIdx? (fun f => f.1.name == name) = s.fieldIndex? name := by
    rw [StructType.fieldIndex?, ← List.zipIdx_map_fst 0 s.fields, List.findIdx?_map]
    simp [Function.comp_def]
  rw [StructType.field?, List.find?_eq_bind_findIdx?_getElem?, place]
  cases s.fieldIndex? name with
  | none => rfl
  | some i => cases here : s.fields[i]? <;> simp [List.getElem?_zipIdx, here]

namespace Check

/-- The fields of all structs, as edges between the numbers of types. -/
def containmentEdges (builtinCount : Nat) (structs : List StructType) :
    List (Nat × Nat × String) :=
  structs.zipIdx.flatMap fun s => containments builtinCount s.2 s.1

variable {p : Syntax.Program} {host : Builtins} {a : Accepted} {types : TypeTable}
  {builtins users : List Checked.Signature}

/-- The search for structs that contain themselves finds all it looks up in its tables. -/
theorem exists_turns?_containment {structs : List StructType}
    (entries : List.Forall₂ (StructFor (p.typeNames host.types)) p.structs structs) :
    ∃ t, GraphTables.ofEdges? (host.types.length + structs.length)
        (containmentEdges host.types.length structs) = some t ∧
      t.turns? = some (((containmentGraph host.types.length structs).cycles.flatMap
        Path.rotations).filterMap fun q => q.head?.map fun e => (e.source, q.map Edge.label)) :=
  Graph.exists_turns? (containmentGraph_inRange entries)

theorem Tables.hasFn (tables : Tables p host types builtins users) {program : Checked.Program}
    (hostFns : program.builtins = host.fns) (fns : program.fns.length = p.fns.length) :
    ∀ f ∈ fnTable builtins users, program.HasFn f.1 := by
  rintro ⟨i | i, s⟩ mem
  · have bound := (List.getElem?_eq_some_iff.1 (mem_fnTable_builtin.1 mem)).1
    rwa [← tables.hostFns.length_eq, ← hostFns] at bound
  · have bound := (List.getElem?_eq_some_iff.1 (mem_fnTable_user.1 mem)).1
    rwa [← tables.fns.length_eq, ← fns] at bound

/-- The tables of an accepted program are in range, and its functions are well typed against
these. -/
theorem inRange_of_check (accepted : p.check host = .ok a) : a.program.InRange := by
  obtain ⟨types, builtins, users, fns, tables, bodies, rfl⟩ := check_eq_ok.1 accepted
  have count : fns.length = p.fns.length := by
    rw [← bodies.length_eq, List.length_zip, ← tables.fns.length_eq, Nat.min_self]
  refine ⟨tables.inRange.types, fun f mem => ?_⟩
  obtain ⟨r, made, rfl⟩ := List.mem_map.1 mem
  obtain ⟨f, paired, checked⟩ := Aligned.mem_right bodies made
  obtain ⟨signature, typed⟩ := fn_wellTyped tables.fieldsDistinct checked
  obtain ⟨d, _, entry⟩ := Aligned.mem_right tables.fns (List.of_mem_zip paired).2
  refine typed.inRange rfl tables.inRange (tables.hasFn rfl (by simpa using count)) ?_
  rw [signature]
  exact entry.inRange

end Check

open Check

/-- Checking looks up no number that has no entry, and accepts no program with such a number.

* Every error is about what is there: the types that its message describes have names, so
  that the message says the same whatever the other numbers are called, and no slot or struct
  was looked up in vain.
* Once the structs are resolved, the tables of the search for cycles can be built, and in
  them every cycle be found, started at each of its nodes, and read off.
* The position of a field is one of its struct's.
* In an accepted program, each number has an entry in the table that it is for. -/
theorem Syntax.Program.check_inRange (p : Syntax.Program) (host : Builtins) :
    (∀ e ∈ (p.check host).errors, e.fault.InRange (p.typeNames host.types) ∧
      ∀ names : TypeNames, (∀ t, (p.typeNames host.types).Has t →
          names.describe t = (p.typeNames host.types).describe t) →
        e.fault.message names = e.fault.message (p.typeNames host.types)) ∧
    (∀ structs, collect ((withEarlier p.structs).map fun d =>
        structType (p.typeNames host.types) d.1 d.2) = .ok structs →
      ∃ t, GraphTables.ofEdges? (host.types.length + structs.length)
          (containmentEdges host.types.length structs) = some t ∧
        t.turns? = some (((containmentGraph host.types.length structs).cycles.flatMap
          Path.rotations).filterMap fun q =>
            q.head?.map fun e => (e.source, q.map Edge.label))) ∧
    (∀ (s : StructType) (name : String),
      s.field? name = (s.fieldIndex? name).bind (fun i =>
        (s.fields[i]?).map fun f => (i, f.type)) ∧
      ∀ i, s.fieldIndex? name = some i → i < s.fields.length) ∧
    ∀ a, p.check host = .ok a → a.program.InRange := by
  refine ⟨fun e reported => ?_, fun structs resolved => ?_, fun s name => ?_,
    fun a accepted => inRange_of_check accepted⟩
  · have inRange := check_errorsInRange p host e reported
    refine ⟨inRange, fun names same => CheckFault.message_congr fun t described => ?_⟩
    exact same t (inRange.types t described)
  · exact exists_turns?_containment (collect_structType_eq_ok.1 resolved).2.2
  · exact ⟨s.field?_eq_getElem? name, fun i found => StructType.lt_of_fieldIndex? found⟩

/-- The program

    struct Place { row: Int, column: Int }
    fn below(p: Place): Place { let q = ...  return q }

with the given value for `q`. -/
def below (value : Expr) : Syntax.Program where
  structs := [⟨named "Place", [typed "row" "Int", typed "column" "Int"], .builtin⟩]
  fns := [⟨named "below", [typed "p" "Place"], some (named "Place"), .builtin, [
    .bind (named "q") none value .builtin,
    .ret (some (.var "q" .builtin)) .builtin], .builtin⟩]
where
  named (name : String) : Ident := ⟨name, .builtin⟩
  typed (name type : String) : Binding := ⟨named name, named type, .builtin⟩

/-- The value `p.row + 1`. -/
def nextRow : Expr :=
  .binary ⟨"+", .builtin⟩ (.member (.var "p" .builtin) ⟨"row", .builtin⟩ .builtin)
    (.int 1 .builtin) .builtin

/-- The value `Place { row: p.row + 1, column: p.column }`. -/
def nextPlace : Expr :=
  .init ⟨"Place", .builtin⟩ [
    ⟨⟨"row", .builtin⟩, nextRow, .builtin⟩,
    ⟨⟨"column", .builtin⟩, .member (.var "p" .builtin) ⟨"column", .builtin⟩ .builtin, .builtin⟩]
    .builtin .builtin

/-- A return of the wrong type is described with the names of a struct and of a builtin type;
structs that contain each other are turned in seven ways; and the numbers of a program that
is accepted all have entries. -/
theorem Syntax.Program.check_inRange_places :
    (∃ e, ((below nextRow).check .standard).errors = [e] ∧
      e.fault.types.length = 2 ∧
      e.fault.message ((below nextRow).typeNames Builtins.standard.types) =
        "Function expected to return 'Place', got expression of type 'Int'" ∧
      e.fault.InRange ((below nextRow).typeNames Builtins.standard.types)) ∧
    (∃ structs t turns, collect ((withEarlier nesting.structs).map fun d =>
        structType (nesting.typeNames ["Void", "Int", "String"]) d.1 d.2) = .ok structs ∧
      GraphTables.ofEdges? 7 (containmentEdges 3 structs) = some t ∧ t.turns? = some turns ∧
      turns.length = 7) ∧
    ∃ a, (below nextPlace).check .standard = .ok a ∧ a.program.InRange := by
  refine ⟨?_, ?_, ?_⟩
  · obtain ⟨reported, _⟩ := Syntax.Program.check_inRange (below nextRow) .standard
    refine ⟨_, rfl, rfl, rfl, (reported _ ?_).1⟩
    exact List.mem_singleton.2 rfl
  · obtain ⟨_, searched, _⟩ :=
      Syntax.Program.check_inRange nesting ⟨["Void", "Int", "String"], []⟩
    obtain ⟨t, built, turned⟩ := searched _ rfl
    exact ⟨_, t, _, rfl, built, turned, rfl⟩
  · obtain ⟨_, _, _, accepted⟩ := Syntax.Program.check_inRange (below nextPlace) .standard
    exact ⟨_, rfl, accepted _ rfl⟩

end NominalScript
