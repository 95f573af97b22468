import Mathlib.Data.List.Nodup
import NominalScript.Types

/-!
# Names and numbers of types

A name resolves to at most one number, and no two names resolve to the same one:
as far as names go, types are their names.  Likewise the fields of a struct, whose
number is their position.  Where names are distinct, a search by name finds the
entry at hand.
-/

namespace NominalScript

namespace TypeNames

variable {names : TypeNames} {name : String}

theorem getElem?_of_idxOf? {xs : List String} {i : Nat} (found : xs.idxOf? name = some i) :
    xs[i]? = some name := by
  obtain ⟨bound, same, _⟩ := List.findIdx?_eq_some_iff_getElem.1 found
  rw [List.getElem?_eq_getElem bound]
  simpa using same

theorem resolve?_of_mem (mem : name ∈ names.builtins) :
    ∃ i, names.resolve? name = some (.builtin i) ∧ names.builtins[i]? = some name := by
  unfold resolve?
  cases found : names.builtins.idxOf? name with
  | none => exact absurd mem (List.idxOf?_eq_none_iff.1 found)
  | some i => exact ⟨i, rfl, getElem?_of_idxOf? found⟩

theorem getElem?_of_resolve?_builtin {i : Nat}
    (resolved : names.resolve? name = some (.builtin i)) :
    names.builtins[i]? = some name := by
  unfold resolve? at resolved
  split at resolved
  · next found => cases resolved; exact getElem?_of_idxOf? found
  · next => simp at resolved

theorem getElem?_of_resolve?_struct {i : Nat} (resolved : names.resolve? name = some (.struct i)) :
    names.structs[i]? = some name := by
  unfold resolve? at resolved
  split at resolved
  · cases resolved
  · next =>
    obtain ⟨j, found, same⟩ := Option.map_eq_some_iff.1 resolved
    cases same
    exact getElem?_of_idxOf? found

/-- The number of a name is described by that name. -/
theorem describe_of_resolve? {t : TypeId} (resolved : names.resolve? name = some t) :
    names.describe t = name := by
  cases t with
  | builtin i => simp [describe, getElem?_of_resolve?_builtin resolved]
  | struct i => simp [describe, getElem?_of_resolve?_struct resolved]

/-- Two names of one type are the same name. -/
theorem resolve?_inj {other : String} {t : TypeId} (first : names.resolve? name = some t)
    (second : names.resolve? other = some t) : name = other := by
  rw [← describe_of_resolve? first, describe_of_resolve? second]

end TypeNames

/-! ## Distinct names -/

section Keyed

variable {α : Type} {key : α → String} {xs : List α} {i : Nat} {x : α}

theorem findIdx?_of_nodup (distinct : (xs.map key).Nodup) (here : xs[i]? = some x) :
    (xs.findIdx? fun y => key y == key x) = some i := by
  obtain ⟨bound, entry⟩ := List.getElem?_eq_some_iff.1 here
  refine List.findIdx?_eq_some_iff_getElem.2 ⟨bound, by simp [entry], fun j less same => ?_⟩
  have keys : (xs.map key)[j]? = (xs.map key)[i]? := by
    rw [List.getElem?_map, List.getElem?_map, List.getElem?_eq_getElem (Nat.lt_trans less bound),
      here]
    simpa using same
  exact List.nodup_iff_getElem?_ne_getElem?.1 distinct j i less (by simpa using bound) keys

theorem find?_of_nodup (distinct : (xs.map key).Nodup) (here : xs[i]? = some x) :
    (xs.find? fun y => key y == key x) = some x := by
  rw [List.find?_eq_bind_findIdx?_getElem?, findIdx?_of_nodup distinct here]
  exact here

end Keyed

theorem StructType.field?_eq_some {s : StructType} {name : String} {i : Nat} {t : TypeId}
    (found : s.field? name = some (i, t)) :
    ∃ f, s.fields[i]? = some f ∧ f.name = name ∧ f.type = t := by
  obtain ⟨⟨f, j⟩, here, same⟩ := Option.map_eq_some_iff.1 found
  cases same
  exact ⟨f, List.mem_zipIdx_iff_getElem?.1 (List.mem_of_find?_eq_some here),
    by simpa using List.find?_some here, rfl⟩

/-- Where the fields of a struct are distinct, each is found by its name. -/
theorem StructType.field?_of_nodup {s : StructType} {i : Nat} {f : Field}
    (distinct : (s.fields.map Field.name).Nodup) (here : s.fields[i]? = some f) :
    s.field? f.name = some (i, f.type) := by
  have keys : (s.fields.zipIdx.map fun f => f.1.name) = s.fields.map Field.name := by
    conv_rhs => rw [← List.zipIdx_map_fst 0 s.fields, List.map_map]
    rfl
  have entry : s.fields.zipIdx[i]? = some (f, i) := by
    rw [List.getElem?_zipIdx, here]
    simp
  have found := @find?_of_nodup _ (fun f => f.1.name) _ _ _ (keys ▸ distinct) entry
  unfold StructType.field?
  rw [found]
  rfl

end NominalScript
