/-!
# Types by number

A checked program refers to a type by number: its place in the list of builtin
types, or in the list of declared structs.  Two types are the same when their
numbers are, so types are nominal: two structs with the same fields differ.

* `TypeNames` is what names resolve against: builtin types first, then structs,
  and the first of a name in each list.
* `TypeTable` is all types of a program, and which builtin types the language
  itself relies on.
-/

namespace NominalScript

/-- A type, by its number. -/
inductive TypeId where
  | builtin (index : Nat)
  | struct (index : Nat)
deriving DecidableEq, Repr, Inhabited

/-- A named part of a struct or of a parameter list, with its type. -/
structure Field where
  name : String
  type : TypeId
deriving DecidableEq, Repr

/-- A struct with its fields in declared order, which is also the order of the
fields in a value of it. -/
structure StructType where
  name : String
  fields : List Field
deriving DecidableEq, Repr

/-- The position of a field. -/
def StructType.fieldIndex? (s : StructType) (name : String) : Option Nat :=
  s.fields.findIdx? fun f => f.name == name

/-- The position and the type of a field. -/
def StructType.field? (s : StructType) (name : String) : Option (Nat × TypeId) :=
  (s.fields.zipIdx.find? fun f => f.1.name == name).map fun f => (f.2, f.1.type)

/-! ## Names of types -/

/-- The names that types are known by, each list in the order of the numbers. -/
structure TypeNames where
  builtins : List String
  structs : List String
deriving DecidableEq, Repr

namespace TypeNames

/-- The type of a name. -/
def resolve? (names : TypeNames) (name : String) : Option TypeId :=
  match names.builtins.idxOf? name with
  | some i => some (.builtin i)
  | none => (names.structs.idxOf? name).map .struct

/-- Is there a type of this number? -/
def Has (names : TypeNames) : TypeId → Prop
  | .builtin i => i < names.builtins.length
  | .struct i => i < names.structs.length

/-- The name of a type, which is empty for a number without one. -/
def describe (names : TypeNames) : TypeId → String
  | .builtin i => names.builtins[i]?.getD ""
  | .struct i => names.structs[i]?.getD ""

/-- The names of some types with commas between. -/
def describeList (names : TypeNames) (types : List TypeId) : String :=
  ", ".intercalate (types.map names.describe)

/-- A name resolves only to a number that has a name. -/
theorem has_of_resolve? {names : TypeNames} {name : String} {t : TypeId}
    (h : names.resolve? name = some t) : names.Has t := by
  unfold resolve? at h
  split at h
  · next i hi =>
    cases h
    exact (List.findIdx?_eq_some_iff_getElem.1 hi).1
  · obtain ⟨i, hi, rfl⟩ := Option.map_eq_some_iff.1 h
    exact (List.findIdx?_eq_some_iff_getElem.1 hi).1

end TypeNames

/-! ## All types of a program -/

/-- The types of a program. -/
structure TypeTable where
  builtins : List String
  structs : List StructType
  /-- What a function without a return type returns. -/
  void : TypeId
  /-- The type of integer literals and of conditions. -/
  int : TypeId
  /-- The type of string literals. -/
  string : TypeId
deriving DecidableEq, Repr

namespace TypeTable

/-- The names that the types of a table are known by. -/
def names (t : TypeTable) : TypeNames := ⟨t.builtins, t.structs.map StructType.name⟩

/-- The struct of a number; a builtin type is none. -/
def struct? (t : TypeTable) : TypeId → Option StructType
  | .struct i => t.structs[i]?
  | .builtin _ => none

/-- The builtin type of a name. -/
def builtinNamed? (t : TypeTable) (name : String) : Option TypeId :=
  (t.builtins.idxOf? name).map .builtin

end TypeTable

end NominalScript
