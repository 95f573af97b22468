import NominalScript.Proofs.Aligned
import NominalScript.Proofs.Types
import NominalScript.Value

/-!
# Values of a type

A value does not know its type, so which values a type has is said from outside:

* the values of a builtin type are whatever its host takes for them, as long as
  integers are `Int`, strings are `String` and the one value of `Void` is `Void`
  (`HostValues`);
* a value of a struct has one value for each declared field, in order, of the
  type declared for it.
-/

namespace NominalScript

/-- Which values belong to each builtin type, by its name. -/
structure HostValues where
  Holds : String → Value → Prop
  int : ∀ n, Holds "Int" (.int n)
  string : ∀ s, Holds "String" (.str s)
  void : Holds "Void" .void

/-- The reading under which a value has the builtin type of its host type, and no
builtin type but those of the host has any value. -/
def HostValues.standard : HostValues where
  Holds name v := v.hostTypeName? = some name
  int _ := rfl
  string _ := rfl
  void := rfl

/-- The values of a type. -/
inductive Value.HasType (host : HostValues) (types : TypeTable) : Value → TypeId → Prop
  | builtin {v : Value} {i : Nat} {name : String} :
    types.builtins[i]? = some name → host.Holds name v → HasType host types v (.builtin i)
  | struct {vs : List Value} {i : Nat} {s : StructType} :
    types.structs[i]? = some s →
    List.Forall₂ (HasType host types) vs (s.fields.map Field.type) →
    HasType host types (.struct vs) (.struct i)

variable {host : HostValues} {types : TypeTable} {v : Value}

/-- The values of a type that a builtin name stands for. -/
theorem Value.hasType_of_resolve? {name : String} {t : TypeId}
    (builtin : name ∈ types.builtins) (resolved : types.names.resolve? name = some t) :
    v.HasType host types t ↔ host.Holds name v := by
  obtain ⟨i, found, entry⟩ := @TypeNames.resolve?_of_mem types.names name builtin
  rw [found] at resolved
  cases resolved
  refine ⟨?_, ?_⟩
  · intro typed
    cases typed with
    | builtin entry' holds =>
      rw [show types.builtins[i]? = some name from entry] at entry'
      cases entry'
      exact holds
  · intro holds
    exact .builtin entry holds

/-- A value of a struct type is the list of its fields. -/
theorem Value.HasType.field {t : TypeId} {s : StructType} {i : Nat} {f : Field}
    (typed : v.HasType host types t) (struct : types.struct? t = some s)
    (declared : s.fields[i]? = some f) :
    ∃ w, v.field? i = some w ∧ w.HasType host types f.type := by
  cases typed with
  | builtin _ _ => cases struct
  | struct entry fields =>
    change types.structs[_]? = some s at struct
    rw [entry] at struct
    cases struct
    have fieldType : (s.fields.map Field.type)[i]? = some f.type := by
      rw [List.getElem?_map, declared]
      rfl
    exact Aligned.getElem?_right fields fieldType

end NominalScript
