import NominalScript.Check.Error
import NominalScript.Graph
import NominalScript.Syntax

/-!
# Checking struct declarations

Struct number `i` is the one declared at place `i`.  Its name differs from that
of every builtin type and every struct before it, its field names differ from
each other, and every field has a type that exists.  When all this holds, no
struct may contain itself, directly or through other structs, since it would
have no finite value.
-/

namespace NominalScript.Check

open Syntax

/-- The type that a written name stands for. -/
def resolve (names : TypeNames) (type : Ident) : Check TypeId :=
  match names.resolve? type.name with
  | some t => .ok t
  | none => fail (.noSuchType type.name) type.span

/-- One field of a struct, given those before it. -/
def structField (names : TypeNames) (struct : String) (earlier : List Binding) (b : Binding) :
    Check Field :=
  if earlier.any fun e => e.ident.name == b.ident.name then
    fail (.duplicateField struct b.ident.name) b.span
  else (resolve names b.type).map fun t => ⟨b.ident.name, t⟩

/-- One struct, given those before it. -/
def structType (names : TypeNames) (earlier : List StructDecl) (d : StructDecl) :
    Check StructType :=
  if names.builtins.contains d.ident.name then
    fail (.duplicateBuiltinType d.ident.name) d.ident.span
  else if earlier.any fun e => e.ident.name == d.ident.name then
    fail (.duplicateStruct d.ident.name) d.ident.span
  else
    (collect ((withEarlier d.fields).map fun f =>
      structField names d.ident.name f.1 f.2)).map fun fields => ⟨d.ident.name, fields⟩

/-! ## Structs that contain themselves -/

/-- The node of a type in the graph of all types, builtin types first. -/
def typeNode (builtinCount : Nat) : TypeId → Nat
  | .builtin i => i
  | .struct i => builtinCount + i

/-- The fields of a struct, as edges to their types. -/
def containments (builtinCount index : Nat) (s : StructType) : List (Nat × Nat × String) :=
  s.fields.map fun f =>
    (typeNode builtinCount (.struct index), typeNode builtinCount f.type, f.name)

/-- The graph that leads from a struct to the types of its fields. -/
def containmentGraph (builtinCount : Nat) (structs : List StructType) : Graph String :=
  .ofEdges (builtinCount + structs.length)
    (structs.zipIdx.flatMap fun s => containments builtinCount s.2 s.1)

/-- The report that a struct contains itself by way of a cycle.  There is none for a
builtin type, which has no fields. -/
def cycleError? (builtinCount : Nat) (decls : List StructDecl) (start : Nat)
    (cycle : Path String) : Option CheckError :=
  if start < builtinCount then none
  else decls[start - builtinCount]?.map fun d =>
    ⟨.selfContaining d.ident.name (cycle.map Edge.label), d.span⟩

/-- The first of the given cycles for each struct that none was reported for. -/
def cycleErrors (builtinCount : Nat) (decls : List StructDecl) (reported : List Nat) :
    List (Path String) → List CheckError
  | [] => []
  | [] :: cycles => cycleErrors builtinCount decls reported cycles
  | (e :: p) :: cycles =>
    if e.source ∈ reported then cycleErrors builtinCount decls reported cycles
    else
      match cycleError? builtinCount decls e.source (e :: p) with
      | none => cycleErrors builtinCount decls reported cycles
      | some error => error :: cycleErrors builtinCount decls (e.source :: reported) cycles

/-- No struct contains itself; one error for each that does. -/
def finiteStructs (builtinCount : Nat) (decls : List StructDecl) (structs : List StructType) :
    Check Unit :=
  let cycles := (containmentGraph builtinCount structs).cycles
  if cycles.isEmpty then .ok ()
  else .error (cycleErrors builtinCount decls [] (cycles.flatMap Path.rotations))

/-- All structs of a program. -/
def structTypes (names : TypeNames) (decls : List StructDecl) : Check (List StructType) := do
  let structs ← collect ((withEarlier decls).map fun d => structType names d.1 d.2)
  finiteStructs names.builtins.length decls structs
  return structs

/-! ## The table of all types -/

/-- A builtin type that the language relies on. -/
def neededBuiltin (builtins : List String) (name : String) : Check TypeId :=
  match builtins.idxOf? name with
  | some i => .ok (.builtin i)
  | none => fail (.missingBuiltinType name) .builtin

/-- The table of the given types; it needs `Void`, `Int` and `String`. -/
def typeTable (builtins : List String) (structs : List StructType) : Check TypeTable :=
  (both (neededBuiltin builtins "Void")
    (both (neededBuiltin builtins "Int") (neededBuiltin builtins "String"))).map
    fun t => ⟨builtins, structs, t.1, t.2.1, t.2.2⟩

end NominalScript.Check
