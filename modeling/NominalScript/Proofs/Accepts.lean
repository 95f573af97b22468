import NominalScript.Proofs.Check.Overloads
import NominalScript.Proofs.Typing.Body

/-!
# The programs that are accepted

Checking accepts just the well-typed programs.  The rules on declarations say that
the tables of checking can be built, and the rules on bodies that every body passes
the check against these tables.
-/

namespace NominalScript.Typing

open Syntax Check
open Checked (Signature)

variable {p : Program} {host : Builtins} {types : TypeTable} {builtins users : List Signature}

/-! ## Names of types -/

/-- The types of the program are the names that resolve among those of the host and the structs. -/
theorem isType_iff {name : String} :
    (Context.of p host).IsType name ↔ ∃ t, (p.typeNames host.types).resolve? name = some t := by
  unfold Context.IsType Context.of TypeNames.resolve? Program.typeNames
  cases known : host.types.idxOf? name with
  | some i =>
    have listed : name ∈ host.types := List.mem_of_getElem? (TypeNames.getElem?_of_idxOf? known)
    simp [listed]
  | none =>
    have absent : name ∉ host.types := List.idxOf?_eq_none_iff.1 known
    cases declared : (p.structs.map fun d => d.ident.name).idxOf? name with
    | some i =>
      have listed := List.mem_of_getElem? (TypeNames.getElem?_of_idxOf? declared)
      simpa [absent] using listed
    | none =>
      have unlisted := List.idxOf?_eq_none_iff.1 declared
      simpa [absent] using unlisted

/-- Fields or parameters can be numbered when their types exist. -/
theorem exists_fields_iff {α : Type} {as : List α} {label type : α → String} :
    (∃ fs : List Field, List.Forall₂ (fun a f => f.name = label a ∧
      (p.typeNames host.types).resolve? (type a) = some f.type) as fs) ↔
      ∀ a ∈ as, (Context.of p host).IsType (type a) := by
  rw [Aligned.exists_iff]
  refine forall₂_congr fun a _ => ?_
  rw [isType_iff]
  refine ⟨?_, ?_⟩
  · intro ⟨f, _, resolved⟩
    exact ⟨f.type, resolved⟩
  · intro ⟨t, resolved⟩
    exact ⟨⟨label a, t⟩, rfl, resolved⟩

/-! ## Declarations -/

theorem exists_struct_iff {d : StructDecl} :
    (∃ s, StructFor (p.typeNames host.types) d s) ↔
      ∀ b ∈ d.fields, (Context.of p host).IsType b.type.name := by
  refine ⟨?_, ?_⟩
  · intro ⟨s, made⟩
    exact exists_fields_iff.1 ⟨s.fields, made.fields⟩
  · intro known
    obtain ⟨fields, bound⟩ := exists_fields_iff.2 known
    exact ⟨⟨d.ident.name, fields⟩, rfl, bound⟩

theorem exists_hostSignature_iff {b : Builtin} :
    (∃ s, HostSignatureFor (p.typeNames host.types) b s) ↔
      (∀ q ∈ b.params, (Context.of p host).IsType q.typeName) ∧
        (Context.of p host).IsType b.returnType := by
  refine ⟨?_, ?_⟩
  · intro ⟨s, made⟩
    exact ⟨exists_fields_iff.1 ⟨s.params, made.params⟩, isType_iff.2 ⟨s.returnType, made.returns⟩⟩
  · intro ⟨known, returns⟩
    obtain ⟨params, bound⟩ := exists_fields_iff.2 known
    obtain ⟨t, resolved⟩ := isType_iff.1 returns
    exact ⟨⟨b.name, params, t⟩, rfl, bound, resolved⟩

theorem exists_signature_iff {d : FnDecl} :
    (∃ s, SignatureFor (p.typeNames host.types) d s) ↔
      (∀ b ∈ d.params, (Context.of p host).IsType b.type.name) ∧
        (Context.of p host).IsType d.returnName := by
  refine ⟨?_, ?_⟩
  · intro ⟨s, made⟩
    exact ⟨exists_fields_iff.1 ⟨s.params, made.params⟩, isType_iff.2 ⟨s.returnType, made.returns⟩⟩
  · intro ⟨known, returns⟩
    obtain ⟨params, bound⟩ := exists_fields_iff.2 known
    obtain ⟨t, resolved⟩ := isType_iff.1 returns
    exact ⟨⟨d.ident.name, params, t⟩, rfl, bound, resolved⟩

/-! ## Signatures -/

/-- Signatures are apart just when no two functions have a name and the names of
their parameter types in common. -/
theorem apart_iff {names : TypeNames}
    (hostFns : List.Forall₂ (HostSignatureFor names) host.fns builtins)
    (fns : List.Forall₂ (SignatureFor names) p.fns users) :
    Apart [] (builtins ++ users) ↔
      ((Context.of p host).fns.map fun f => (f.name, f.params)).Nodup := by
  have aligned : List.Forall₂ (fun f s => f.name = s.name ∧
      List.Forall₂ (fun n t => names.resolve? n = some t) f.params s.paramTypes)
      (Context.of p host).fns (builtins ++ users) := by
    refine List.rel_append ?_ ?_
    · rw [List.forall₂_map_left_iff]
      refine hostFns.imp fun b s made => ⟨made.name.symm, ?_⟩
      exact Refinement.forall₂_resolve?_map made.params fun _ _ bound => bound.2
    · rw [List.forall₂_map_left_iff]
      refine fns.imp fun d s made => ⟨made.name.symm, ?_⟩
      exact Refinement.forall₂_resolve?_map made.params fun _ _ bound => bound.2
  rw [apart_nil_iff]
  refine (Aligned.nodup_map_iff aligned fun f s f' s' entry entry' => ?_).symm
  rw [Prod.mk.injEq, Signature.key, Signature.key, Prod.mk.injEq, entry.1, entry'.1,
    Refinement.names_eq_iff entry.2 entry'.2]

/-! ## Programs -/

theorem Describes.of_tables (tables : Tables p host types builtins users) :
    Describes p host ⟨types, fnTable builtins users⟩ where
  toAgrees := .of_tables tables
  names := tables.typeNames
  void := tables.void
  new d mem := (tables.structNew d mem).1
  signatures := (apart_iff tables.hostFns tables.fns).1 tables.apart

/-- The tables can be built for the declarations of a well-typed program. -/
theorem WellTyped.exists_tables (typed : WellTyped p host) :
    ∃ types builtins users, Tables p host types builtins users := by
  obtain ⟨structs, made⟩ := Aligned.exists_iff.2 fun d mem =>
    exists_struct_iff.2 (typed.structs d mem).fieldTypes
  obtain ⟨builtins, hostFns⟩ := Aligned.exists_iff.2 fun b mem =>
    exists_hostSignature_iff.2 (typed.hostTypes b mem)
  obtain ⟨users, fns⟩ := Aligned.exists_iff.2 fun d mem =>
    exists_signature_iff.2 ⟨(typed.fns d mem).paramTypes, (typed.fns d mem).returnType⟩
  obtain ⟨hasVoid, hasInt, hasString⟩ := typed.needed
  obtain ⟨v, void, _⟩ := @TypeNames.resolve?_of_mem (p.typeNames host.types) _ hasVoid
  obtain ⟨i, int, _⟩ := @TypeNames.resolve?_of_mem (p.typeNames host.types) _ hasInt
  obtain ⟨s, string, _⟩ := @TypeNames.resolve?_of_mem (p.typeNames host.types) _ hasString
  have names : TypeTable.names ⟨host.types, structs, .builtin v, .builtin i, .builtin s⟩ =
      p.typeNames host.types := typeNames_eq made
  refine ⟨⟨host.types, structs, .builtin v, .builtin i, .builtin s⟩, builtins, users, ?_⟩
  exact {
    needed := typed.needed
    void := names ▸ void
    int := names ▸ int
    string := names ▸ string
    builtinTypes := rfl
    structs := names ▸ made
    structNames := typed.structNames
    structNew := fun d mem => ⟨(typed.structs d mem).new, (typed.structs d mem).fieldNames⟩
    finite := (finiteStructs_eq_ok typed.structNames
      (fun d mem => ⟨(typed.structs d mem).new, (typed.structs d mem).fieldNames⟩) made).2
        typed.finite
    hostFns := names ▸ hostFns
    fns := names ▸ fns
    params := fun d mem => (typed.fns d mem).paramNames
    apart := (apart_iff hostFns fns).2 typed.signatures }

end NominalScript.Typing

namespace NominalScript

open Check Typing

/-- Checking accepts just the well-typed programs. -/
theorem Syntax.Program.accepted_iff (p : Syntax.Program) (host : Builtins) :
    (∃ a, p.check host = .ok a) ↔ WellTyped p host := by
  refine ⟨?_, ?_⟩
  · intro ⟨a, accepted⟩
    obtain ⟨types, builtins, users, fns, tables, bodies, _⟩ := check_eq_ok.1 accepted
    have describes := Describes.of_tables tables
    have names := tables.typeNames
    have structs := tables.structs
    have hostFns := tables.hostFns
    rw [names] at structs hostFns
    refine ⟨tables.needed, tables.structNames, fun d mem => ?_, ?_, fun b mem => ?_,
      describes.signatures, fun d mem => ?_⟩
    · obtain ⟨s, _, made⟩ := Aligned.mem_left structs mem
      obtain ⟨new, distinct⟩ := tables.structNew d mem
      exact ⟨new, distinct, exists_struct_iff.1 ⟨s, made⟩⟩
    · exact (finiteStructs_eq_ok tables.structNames tables.structNew structs).1 tables.finite
    · obtain ⟨s, _, made⟩ := Aligned.mem_left hostFns mem
      exact exists_hostSignature_iff.1 ⟨s, made⟩
    · obtain ⟨r, _, s, made, checked⟩ :=
        Aligned.mem_left (Aligned.through_zip tables.fns bodies) mem
      have params := tables.params d mem
      obtain ⟨typed, returns⟩ := (fn_iff describes made params).1 ⟨r, checked⟩
      have known := exists_signature_iff.1 ⟨s, names ▸ made⟩
      exact ⟨params, known.1, known.2, typed, returns⟩
  · intro typed
    obtain ⟨types, builtins, users, tables⟩ := typed.exists_tables
    have describes := Describes.of_tables tables
    have bodies : ∃ fns, List.Forall₂ (fun f r =>
        fn ⟨types, fnTable builtins users⟩ f.1 f.2 = .ok r) (p.fns.zip users) fns := by
      refine Aligned.exists_iff.2 fun f mem => ?_
      have made := List.forall₂_zip tables.fns mem
      have rules := typed.fns f.1 (List.of_mem_zip mem).1
      exact (fn_iff describes made rules.paramNames).2 ⟨rules.body, rules.returns⟩
    obtain ⟨fns, bodies⟩ := bodies
    exact ⟨_, check_eq_ok.2 ⟨types, builtins, users, fns, tables, bodies, rfl⟩⟩

end NominalScript
