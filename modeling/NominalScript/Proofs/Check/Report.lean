import NominalScript.Proofs.Containment

/-!
# What checking a program reports

The judgment `Check.Blames`, carried over a whole program: a check that fails reports at
least one error, and all its errors stand at spans of the program, or at no place in
the text (`Syntax.Program.check_blames`).  The warnings of a check that succeeds stand
there too (`Syntax.Program.warnings_blamed`).
-/

namespace NominalScript

open Relation (TransGen)
open Syntax
open Checked (Signature)

namespace Check

variable {blame : Span → Prop} {p : Syntax.Program} {builtins : List String}

/-- A struct that contains itself is reported at its declaration, and there is one
whenever a cycle is found. -/
theorem finiteStructs_blames {structs : List StructType}
    (distinct : (p.structs.map (·.ident.name)).Nodup)
    (each : ∀ d ∈ p.structs, d.ident.name ∉ builtins ∧ (d.fields.map (·.ident.name)).Nodup)
    (entries : List.Forall₂ (StructFor (p.typeNames builtins)) p.structs structs)
    (spans : ∀ d ∈ p.structs, blame d.span) :
    Blames blame (finiteStructs builtins.length p.structs structs) := by
  intro es failed
  obtain ⟨rs, errors, _, covers, made⟩ := exists_cycleReports distinct each entries
  rw [failed] at errors
  subst errors
  refine ⟨fun none => ?_, fun e mem => ?_⟩
  · have found : finiteStructs builtins.length p.structs structs = .ok () := by
      refine (finiteStructs_eq_ok distinct each entries).2 fun d back => ?_
      have reported := (covers d).2 back
      rw [List.map_eq_nil_iff.1 none] at reported
      exact List.not_mem_nil reported
    cases failed.symm.trans found
  · obtain ⟨r, listed, rfl⟩ := List.mem_map.1 mem
    exact spans r.decl (made r listed).2.mem

theorem structTypes_blames (spans : ∀ d ∈ p.structs, ∀ s ∈ d.spans, blame s) :
    Blames blame (structTypes (p.typeNames builtins) p.structs) := by
  unfold structTypes
  have declared : Blames blame (collect ((withEarlier p.structs).map fun d =>
      structType (p.typeNames builtins) d.1 d.2)) :=
    blames_collect_withEarlier fun d mem earlier => structType_blames (spans d mem)
  refine declared.bind fun structs resolved => ?_
  obtain ⟨distinct, each, entries⟩ := collect_structType_eq_ok.1 resolved
  refine (finiteStructs_blames distinct each entries fun d mem => ?_).bind fun _ _ => blames_ok _
  exact spans d mem d.span (by simp [StructDecl.spans])

end Check

open Check

variable {blame : Span → Prop} {p : Syntax.Program} {host : Builtins}

/-- What is wrong with a program is reported at its spans, at spans around some of them, or
outside of the text. -/
theorem Syntax.Program.check_blames (joins : JoinsBlame blame) (outside : blame .builtin)
    (spans : ∀ s ∈ p.spans, blame s) (host : Builtins) : Blames blame (p.check host) := by
  simp only [Syntax.Program.spans, List.forall_mem_append, List.forall_mem_flatMap] at spans
  obtain ⟨inStructs, inFns⟩ := spans
  unfold Syntax.Program.check
  refine (structTypes_blames inStructs).bind fun structs madeStructs => ?_
  refine (typeTable_blames outside).bind fun types madeTypes => ?_
  refine (builtinSignaturesFrom_blames outside).bind fun builtins madeBuiltins => ?_
  refine (signaturesFrom_blames inFns).bind fun users madeUsers => ?_
  obtain ⟨_, _, rfl, _⟩ := typeTable_eq_ok.1 madeTypes
  have tables : Tables p host types builtins users :=
    tables_iff.2 ⟨madeStructs, madeTypes, madeBuiltins, madeUsers⟩
  refine (blames_collect fun c mem => ?_).bind fun fns _ => blames_ok _
  obtain ⟨f, paired, rfl⟩ := List.mem_map.1 mem
  have inside := inFns f.1 (List.of_mem_zip paired).1
  simp only [FnDecl.spans, List.forall_mem_cons, List.forall_mem_append] at inside
  exact (fn_blames tables.fieldsDistinct joins inside.1 inside.2.2.2.2.2).1

theorem Syntax.Program.warnings_blamed (joins : JoinsBlame blame)
    (spans : ∀ s ∈ p.spans, blame s) {a : Accepted} (accepted : p.check host = .ok a) :
    ∀ w ∈ a.warnings, blame w.span := by
  simp only [Syntax.Program.spans, List.forall_mem_append, List.forall_mem_flatMap] at spans
  obtain ⟨types, builtins, users, fns, tables, bodies, rfl⟩ := check_eq_ok.1 accepted
  intro w mem
  obtain ⟨r, made, warned⟩ := List.mem_flatMap.1 mem
  obtain ⟨f, paired, checked⟩ := Aligned.mem_right bodies made
  have inside := spans.2 f.1 (List.of_mem_zip paired).1
  simp only [FnDecl.spans, List.forall_mem_cons, List.forall_mem_append] at inside
  exact (fn_blames tables.fieldsDistinct joins inside.1 inside.2.2.2.2.2).2 r checked w warned

end NominalScript
