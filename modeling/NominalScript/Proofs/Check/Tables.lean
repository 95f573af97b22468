import NominalScript.Proofs.Aligned
import NominalScript.Proofs.Check.Success
import NominalScript.Proofs.Syntax

/-!
# The tables of an accepted program

What checking has found out before it turns to bodies: a struct table that
mirrors the struct declarations, and a table of signatures that mirrors the
builtins and the function declarations, with no two signatures of one name and
one list of parameter types.

* `BindingFor`, `StructFor`, `HostSignatureFor` and `SignatureFor` relate an entry
  to its declaration.
* `structTypes_eq_ok`, `builtinSignatures_eq_ok` and `signaturesFrom_eq_ok` say
  exactly when a table can be built.  `Tables` puts these together, and
  `check_eq_ok` says when a program is accepted.
-/

namespace NominalScript

open Syntax
open Checked (Signature)

namespace Check

/-! ## Entries and their declarations -/

/-- A field or parameter and its declaration. -/
def BindingFor (names : TypeNames) (b : Binding) (f : Field) : Prop :=
  f.name = b.ident.name ∧ names.resolve? b.type.name = some f.type

/-- A struct and its declaration. -/
structure StructFor (names : TypeNames) (d : StructDecl) (s : StructType) : Prop where
  name : s.name = d.ident.name
  fields : List.Forall₂ (BindingFor names) d.fields s.fields

/-- A parameter of a builtin and its declaration. -/
def HostParamFor (names : TypeNames) (p : BuiltinParam) (f : Field) : Prop :=
  f.name = p.label ∧ names.resolve? p.typeName = some f.type

/-- The signature of a builtin and the builtin. -/
structure HostSignatureFor (names : TypeNames) (b : Builtin) (s : Signature) : Prop where
  name : s.name = b.name
  params : List.Forall₂ (HostParamFor names) b.params s.params
  returns : names.resolve? b.returnType = some s.returnType

/-- The signature of a declared function and its declaration. -/
structure SignatureFor (names : TypeNames) (d : FnDecl) (s : Signature) : Prop where
  name : s.name = d.ident.name
  params : List.Forall₂ (BindingFor names) d.params s.params
  returns : names.resolve? d.returnName = some s.returnType

variable {names : TypeNames} {types : TypeTable}

theorem map_resolve_eq_ok {type : Ident} {name : String} {f : Field} :
    ((resolve names type).map fun t => (⟨name, t⟩ : Field)) = .ok f ↔
      f.name = name ∧ names.resolve? type.name = some f.type := by
  rw [map_eq_ok]
  refine ⟨?_, ?_⟩
  · intro parts
    obtain ⟨t, resolved, rfl⟩ := parts
    exact ⟨rfl, resolve_eq_ok.1 resolved⟩
  · intro parts
    obtain ⟨rfl, resolved⟩ := parts
    exact ⟨f.type, resolve_eq_ok.2 resolved, rfl⟩

/-- A field or parameter passes when its name is new and its type exists. -/
theorem newBinding_eq_ok {earlier : List Binding} {b : Binding} {f : Field} {fault : CheckFault} :
    (if earlier.any fun e => e.ident.name == b.ident.name then fail fault b.span
      else (resolve names b.type).map fun t => (⟨b.ident.name, t⟩ : Field)) = .ok f ↔
      b.ident.name ∉ earlier.map (·.ident.name) ∧ BindingFor names b f := by
  split
  · next taken => simpa [fail] using fun fresh => absurd taken (by simpa using fresh)
  · next fresh =>
    rw [map_resolve_eq_ok]
    exact ⟨fun bound => ⟨by simpa using fresh, bound⟩, And.right⟩

/-! ## Structs -/

theorem structFields_eq_ok {struct : String} {bs : List Binding} {fs : List Field} :
    collect ((withEarlier bs).map fun p => structField names struct p.1 p.2) = .ok fs ↔
      (bs.map (·.ident.name)).Nodup ∧ List.Forall₂ (BindingFor names) bs fs :=
  collect_withEarlier_eq_ok (f := structField names struct)
    (fun _ _ => newBinding_blames fun _ _ => trivial) fun _ _ _ => newBinding_eq_ok

/-- A struct passes when its name is new among the structs before it and the builtin types, its
fields have different names, and their types exist. -/
theorem structType_eq_ok {earlier : List StructDecl} {d : StructDecl} {s : StructType} :
    structType names earlier d = .ok s ↔
      d.ident.name ∉ earlier.map (·.ident.name) ∧
        (d.ident.name ∉ names.builtins ∧ (d.fields.map (·.ident.name)).Nodup) ∧
        StructFor names d s := by
  unfold structType
  split
  · next builtin => simpa [fail] using fun _ fresh => absurd builtin (by simpa using fresh)
  · next new =>
    split
    · next taken => simpa [fail] using fun fresh => absurd taken (by simpa using fresh)
    · next fresh =>
      simp only [map_eq_ok, structFields_eq_ok]
      refine ⟨?_, ?_⟩
      · intro parts
        obtain ⟨fields, ⟨distinct, declared⟩, rfl⟩ := parts
        exact ⟨by simpa using fresh, ⟨by simpa using new, distinct⟩, rfl, declared⟩
      · intro parts
        obtain ⟨_, ⟨_, distinct⟩, name, declared⟩ := parts
        refine ⟨s.fields, ⟨distinct, declared⟩, ?_⟩
        rw [← name]

/-- The structs resolve when names are new, fields distinct and types declared. -/
theorem collect_structType_eq_ok {decls : List StructDecl} {structs : List StructType} :
    collect ((withEarlier decls).map fun d => structType names d.1 d.2) = .ok structs ↔
      (decls.map (·.ident.name)).Nodup ∧
        (∀ d ∈ decls, d.ident.name ∉ names.builtins ∧ (d.fields.map (·.ident.name)).Nodup) ∧
        List.Forall₂ (StructFor names) decls structs := by
  rw [← List.forall₂_and_left]
  exact collect_withEarlier_eq_ok (fun _ _ => structType_blames fun _ _ => trivial)
    fun _ _ _ => structType_eq_ok

/-- The structs pass when their names differ, each passes by itself, and no chain of containment
leads back to its start. -/
theorem structTypes_eq_ok {decls : List StructDecl} {structs : List StructType} :
    structTypes names decls = .ok structs ↔
      (decls.map (·.ident.name)).Nodup ∧
        (∀ d ∈ decls, d.ident.name ∉ names.builtins ∧ (d.fields.map (·.ident.name)).Nodup) ∧
        List.Forall₂ (StructFor names) decls structs ∧
          finiteStructs names.builtins.length decls structs = .ok () := by
  unfold structTypes
  rw [bind_eq_ok]
  refine ⟨?_, ?_⟩
  · intro ⟨_, collected, rest⟩
    obtain ⟨distinct, each, entries⟩ := collect_structType_eq_ok.1 collected
    obtain ⟨_, finite, made⟩ := bind_eq_ok.1 rest
    cases made
    exact ⟨distinct, each, entries, finite⟩
  · intro ⟨distinct, each, entries, finite⟩
    refine ⟨structs, collect_structType_eq_ok.2 ⟨distinct, each, entries⟩, ?_⟩
    exact bind_eq_ok.2 ⟨(), finite, rfl⟩

/-! ## The type table -/

/-- A builtin type that the language needs is found among those of the host, in front of all
structs. -/
theorem neededBuiltin_eq_ok {builtins structs : List String} {name : String} {t : TypeId} :
    neededBuiltin builtins name = .ok t ↔
      name ∈ builtins ∧ TypeNames.resolve? ⟨builtins, structs⟩ name = some t := by
  unfold neededBuiltin TypeNames.resolve?
  cases found : builtins.idxOf? name with
  | none => simpa [fail] using fun present => absurd found (by simpa using present)
  | some i =>
    have present : name ∈ builtins := by
      by_contra absent
      rw [List.idxOf?_eq_none_iff.2 absent] at found
      cases found
    simp [present]

/-- The table is that of the given types, and the types the language relies on
are in it under their names. -/
theorem typeTable_eq_ok {builtins : List String} {structs : List StructType} :
    typeTable builtins structs = .ok types ↔
      ("Void" ∈ builtins ∧ "Int" ∈ builtins ∧ "String" ∈ builtins) ∧
        types.builtins = builtins ∧ types.structs = structs ∧
        types.names.resolve? "Void" = some types.void ∧
        types.names.resolve? "Int" = some types.int ∧
        types.names.resolve? "String" = some types.string := by
  unfold typeTable
  simp only [map_eq_ok, both_eq_ok, @neededBuiltin_eq_ok _ (structs.map StructType.name)]
  refine ⟨?_, ?_⟩
  · intro parts
    obtain ⟨t, ⟨⟨hasVoid, void⟩, ⟨hasInt, int⟩, hasString, string⟩, rfl⟩ := parts
    exact ⟨⟨hasVoid, hasInt, hasString⟩, rfl, rfl, void, int, string⟩
  · intro parts
    obtain ⟨⟨hasVoid, hasInt, hasString⟩, rfl, rfl, void, int, string⟩ := parts
    exact ⟨(types.void, types.int, types.string),
      ⟨⟨hasVoid, void⟩, ⟨hasInt, int⟩, hasString, string⟩, rfl⟩

/-! ## Signatures -/

/-- A builtin has a signature when the types it names exist. -/
theorem builtinSignature_eq_ok {b : Builtin} {s : Signature} :
    builtinSignature types b = .ok s ↔ HostSignatureFor types.names b s := by
  have reports : ∀ q ∈ b.params, Reports ((resolve types.names (hostIdent q.typeName)).map
      fun t => (⟨q.label, t⟩ : Field)) := fun q _ => (resolve_blames trivial).map
  unfold builtinSignature
  simp only [map_eq_ok, both_eq_ok, collect_map_eq_ok reports, resolve_eq_ok]
  refine ⟨?_, ?_⟩
  · intro parts
    obtain ⟨⟨params, returns⟩, ⟨declared, resolved⟩, rfl⟩ := parts
    refine ⟨rfl, declared.imp fun p f made => ?_, resolved⟩
    obtain ⟨t, found, rfl⟩ := made
    exact ⟨rfl, found⟩
  · intro ⟨name, declared, resolved⟩
    refine ⟨(s.params, s.returnType), ⟨declared.imp fun p f made => ?_, resolved⟩, ?_⟩
    · exact ⟨f.type, made.2, by rw [← made.1]⟩
    · rw [← name]

/-- No new signature overlaps one that is taken or another new one before it. -/
def Apart (taken new : List Signature) : Prop :=
  (∀ s ∈ taken, ∀ t ∈ new, s.overlaps t = false) ∧ new.Pairwise fun s t => s.overlaps t = false

theorem apart_nil (taken : List Signature) : Apart taken [] := by
  simp [Apart]

/-- One more signature in front of the new ones is apart from those taken, and is itself taken
for the rest. -/
theorem apart_cons {taken new : List Signature} {s : Signature} :
    Apart taken (s :: new) ↔ (∀ t ∈ taken, t.overlaps s = false) ∧ Apart (taken ++ [s]) new := by
  refine ⟨?_, ?_⟩
  · intro ⟨apart, pairwise⟩
    obtain ⟨first, rest⟩ := List.pairwise_cons.1 pairwise
    refine ⟨fun t old => apart t old s (by simp), fun t old u new => ?_, rest⟩
    rcases List.mem_append.1 old with earlier | last
    · exact apart t earlier u (by simp [new])
    · rw [List.mem_singleton.1 last]
      exact first u new
  · intro ⟨fresh, apart, pairwise⟩
    refine ⟨fun t old u new => ?_,
      List.pairwise_cons.2 ⟨fun u new => apart s (by simp) u new, pairwise⟩⟩
    rcases List.mem_cons.1 new with rfl | later
    · exact fresh t old
    · exact apart t (by simp [old]) u later

/-- The signatures of builtins pass one after the other, each apart from all before it, and none
is left out. -/
theorem builtinSignaturesFrom_eq_ok {taken sigs : List Signature} {bs : List Builtin} :
    builtinSignaturesFrom types taken bs = .ok sigs ↔
      ∃ new, sigs = taken ++ new ∧ List.Forall₂ (HostSignatureFor types.names) bs new ∧
        Apart taken new := by
  induction bs generalizing taken with
  | nil =>
    simp only [builtinSignaturesFrom, Except.ok.injEq, List.forall₂_nil_left_iff]
    refine ⟨?_, ?_⟩
    · intro same
      subst same
      exact ⟨[], by simp, rfl, apart_nil _⟩
    · intro parts
      obtain ⟨new, rfl, rfl, _⟩ := parts
      simp
  | cons b bs ih =>
    simp only [builtinSignaturesFrom, bind_eq_ok, builtinSignature_eq_ok]
    refine ⟨?_, ?_⟩
    · intro ⟨s, made, rest⟩
      split at rest
      · cases rest
      · next fresh =>
        obtain ⟨new, rfl, others, apart⟩ := ih.1 rest
        exact ⟨s :: new, by simp, .cons made others, apart_cons.2 ⟨by simpa using fresh, apart⟩⟩
    · intro parts
      obtain ⟨_, rfl, entries, apart⟩ := parts
      obtain ⟨s, new, made, others, rfl⟩ := List.forall₂_cons_left_iff.1 entries
      obtain ⟨fresh, apart⟩ := apart_cons.1 apart
      refine ⟨s, made, ?_⟩
      rw [if_neg (by simpa using fresh)]
      exact ih.2 ⟨new, by simp, others, apart⟩

theorem builtinSignatures_eq_ok {sigs : List Signature} {bs : List Builtin} :
    builtinSignatures types bs = .ok sigs ↔
      List.Forall₂ (HostSignatureFor types.names) bs sigs ∧ Apart [] sigs := by
  simp [builtinSignatures, builtinSignaturesFrom_eq_ok]

theorem params_eq_ok {bs : List Binding} {fs : List Field} :
    collect ((withEarlier bs).map fun p => param names p.1 p.2) = .ok fs ↔
      (bs.map (·.ident.name)).Nodup ∧ List.Forall₂ (BindingFor names) bs fs :=
  collect_withEarlier_eq_ok (f := param names) (fun _ _ => newBinding_blames fun _ _ => trivial)
    fun _ _ _ => newBinding_eq_ok

theorem returnType_eq_ok {d : FnDecl} {t : TypeId}
    (void : types.names.resolve? "Void" = some types.void) :
    returnType types d.returnType = .ok t ↔ types.names.resolve? d.returnName = some t := by
  unfold returnType FnDecl.returnName
  cases d.returnType with
  | none => simp [void]
  | some type => simp [resolve_eq_ok]

/-- The first line of a function has a signature when its parameter names differ and its types
exist; `Void` stands for a missing one. -/
theorem declaredSignature_eq_ok {d : FnDecl} {s : Signature}
    (void : types.names.resolve? "Void" = some types.void) :
    declaredSignature types d = .ok s ↔
      (d.params.map (·.ident.name)).Nodup ∧ SignatureFor types.names d s := by
  unfold declaredSignature
  simp only [map_eq_ok, both_eq_ok, params_eq_ok, returnType_eq_ok void]
  refine ⟨?_, ?_⟩
  · intro parts
    obtain ⟨⟨params, returns⟩, ⟨⟨distinct, declared⟩, resolved⟩, rfl⟩ := parts
    exact ⟨distinct, rfl, declared, resolved⟩
  · intro ⟨distinct, name, declared, resolved⟩
    exact ⟨(s.params, s.returnType), ⟨⟨distinct, declared⟩, resolved⟩, by rw [← name]⟩

/-- The first line of a function passes when its parameters have different names, its types
exist, and it is apart from the signatures taken. -/
theorem newSignature_eq_ok {taken : List Signature} {d : FnDecl} {s : Signature}
    (void : types.names.resolve? "Void" = some types.void) :
    newSignature types taken d = .ok s ↔
      (d.params.map (·.ident.name)).Nodup ∧ SignatureFor types.names d s ∧
        ∀ t ∈ taken, t.overlaps s = false := by
  unfold newSignature
  simp only [bind_eq_ok, declaredSignature_eq_ok void]
  refine ⟨?_, ?_⟩
  · intro ⟨t, ⟨distinct, made⟩, rest⟩
    split at rest
    · cases rest
    · next fresh => cases rest; exact ⟨distinct, made, by simpa using fresh⟩
  · intro ⟨distinct, made, fresh⟩
    refine ⟨s, ⟨distinct, made⟩, ?_⟩
    rw [if_neg (by simpa using fresh)]
    rfl

/-- The functions pass one after the other, each apart from the builtins and from the functions
before it. -/
theorem signaturesFrom_eq_ok {taken sigs : List Signature} {ds : List FnDecl}
    (void : types.names.resolve? "Void" = some types.void) :
    signaturesFrom types taken ds = .ok sigs ↔
      (∀ d ∈ ds, (d.params.map (·.ident.name)).Nodup) ∧
        List.Forall₂ (SignatureFor types.names) ds sigs ∧ Apart taken sigs := by
  induction ds generalizing taken sigs with
  | nil => cases sigs <;> simp [signaturesFrom, apart_nil]
  | cons d ds ih =>
    rw [signaturesFrom]
    refine ⟨?_, ?_⟩
    · intro made
      cases first : newSignature types taken d with
      | error es =>
        rw [first] at made
        have reports := newSignature_blames (fun _ _ => trivial) es first
        obtain ⟨_, _, failed, _⟩ := (cons_eq_ok (blames_error reports.1 reports.2)).1 made
        cases failed
      | ok s =>
        rw [first] at made
        obtain ⟨_, new, same, rest, rfl⟩ := (cons_eq_ok (blames_ok s)).1 made
        cases same
        obtain ⟨distinct, entry, fresh⟩ := (newSignature_eq_ok void).1 first
        obtain ⟨others, entries, apart⟩ := ih.1 rest
        exact ⟨List.forall_mem_cons.2 ⟨distinct, others⟩, .cons entry entries,
          apart_cons.2 ⟨fresh, apart⟩⟩
    · rintro ⟨distinct, entries, apart⟩
      obtain ⟨s, new, entry, others, rfl⟩ := List.forall₂_cons_left_iff.1 entries
      obtain ⟨fresh, apart⟩ := apart_cons.1 apart
      obtain ⟨first, rest⟩ := List.forall_mem_cons.1 distinct
      rw [(newSignature_eq_ok void).2 ⟨first, entry, fresh⟩]
      exact (cons_eq_ok (blames_ok s)).2 ⟨s, new, rfl, ih.2 ⟨rest, others, apart⟩, rfl⟩

/-! ## Programs -/

theorem apart_append {taken first second : List Signature} :
    Apart taken (first ++ second) ↔ Apart taken first ∧ Apart (taken ++ first) second := by
  induction first generalizing taken with
  | nil => simp [apart_nil]
  | cons s first ih => simp [apart_cons, ih, and_assoc]

theorem mem_fnTable_builtin {builtins users : List Signature} {i : Nat} {s : Signature} :
    (.builtin i, s) ∈ fnTable builtins users ↔ builtins[i]? = some s := by
  simp [fnTable, List.mem_zipIdx_iff_getElem?]

theorem mem_fnTable_user {builtins users : List Signature} {i : Nat} {s : Signature} :
    (.user i, s) ∈ fnTable builtins users ↔ users[i]? = some s := by
  simp [fnTable, List.mem_zipIdx_iff_getElem?]

/-- The types of an accepted program, and the signatures of its builtins and of
its functions. -/
structure Tables (p : Syntax.Program) (host : Builtins) (types : TypeTable)
    (builtins users : List Signature) : Prop where
  needed : "Void" ∈ host.types ∧ "Int" ∈ host.types ∧ "String" ∈ host.types
  void : types.names.resolve? "Void" = some types.void
  int : types.names.resolve? "Int" = some types.int
  string : types.names.resolve? "String" = some types.string
  builtinTypes : types.builtins = host.types
  structs : List.Forall₂ (StructFor types.names) p.structs types.structs
  structNames : (p.structs.map (·.ident.name)).Nodup
  structNew : ∀ d ∈ p.structs, d.ident.name ∉ host.types ∧ (d.fields.map (·.ident.name)).Nodup
  finite : finiteStructs host.types.length p.structs types.structs = .ok ()
  hostFns : List.Forall₂ (HostSignatureFor types.names) host.fns builtins
  fns : List.Forall₂ (SignatureFor types.names) p.fns users
  params : ∀ d ∈ p.fns, (d.params.map (·.ident.name)).Nodup
  apart : Apart [] (builtins ++ users)

theorem Tables.fieldsDistinct {p : Program} {host : Builtins} {types : TypeTable}
    {builtins users : List Signature} (tables : Tables p host types builtins users) :
    FieldsDistinct types := by
  intro s mem
  obtain ⟨d, declared, entry⟩ := Aligned.mem_right tables.structs mem
  rw [← Aligned.map_eq_map entry.fields fun _ _ bound => bound.1.symm]
  exact (tables.structNew d declared).2

section Programs

variable {p : Syntax.Program} {host : Builtins} {builtins users : List Signature}

theorem typeNames_eq {structs : List StructType}
    (entries : List.Forall₂ (StructFor names) p.structs structs) :
    (⟨host.types, structs.map StructType.name⟩ : TypeNames) = p.typeNames host.types := by
  unfold Syntax.Program.typeNames
  rw [Aligned.map_eq_map entries fun _ _ entry => entry.name.symm]

theorem Tables.typeNames (tables : Tables p host types builtins users) :
    types.names = p.typeNames host.types := by
  rw [← typeNames_eq tables.structs, ← tables.builtinTypes]
  rfl

/-- The tables are those of a program just when the four stages that build them succeed, each
from what the ones before it have made. -/
theorem tables_iff :
    Tables p host types builtins users ↔
      structTypes (p.typeNames host.types) p.structs = .ok types.structs ∧
        typeTable host.types types.structs = .ok types ∧
        builtinSignatures types host.fns = .ok builtins ∧
        signaturesFrom types builtins p.fns = .ok users := by
  refine ⟨?_, ?_⟩
  · intro tables
    refine ⟨structTypes_eq_ok.2 ⟨tables.structNames, tables.structNew, ?_, tables.finite⟩,
      typeTable_eq_ok.2 ⟨tables.needed, tables.builtinTypes, rfl, tables.void, tables.int,
        tables.string⟩, ?_⟩
    · rw [← tables.typeNames]
      exact tables.structs
    · obtain ⟨first, second⟩ := apart_append.1 tables.apart
      exact ⟨builtinSignatures_eq_ok.2 ⟨tables.hostFns, first⟩,
        (signaturesFrom_eq_ok tables.void).2 ⟨tables.params, tables.fns, second⟩⟩
  · intro ⟨madeStructs, madeTypes, madeBuiltins, madeUsers⟩
    obtain ⟨structNames, structNew, structs, finite⟩ := structTypes_eq_ok.1 madeStructs
    obtain ⟨needed, builtinTypes, _, void, int, string⟩ := typeTable_eq_ok.1 madeTypes
    obtain ⟨hostFns, first⟩ := builtinSignatures_eq_ok.1 madeBuiltins
    obtain ⟨params, fns, second⟩ := (signaturesFrom_eq_ok void).1 madeUsers
    refine ⟨needed, void, int, string, builtinTypes, ?_, structNames, structNew, finite, hostFns,
      fns, params, apart_append.2 ⟨first, second⟩⟩
    rw [TypeTable.names, builtinTypes, typeNames_eq structs]
    exact structs

/-- A program is accepted when its tables can be built and its bodies check
against them. -/
theorem check_eq_ok {a : Accepted} :
    p.check host = .ok a ↔
      ∃ types builtins users fns, Tables p host types builtins users ∧
        List.Forall₂ (fun f r => fn ⟨types, fnTable builtins users⟩ f.1 f.2 = .ok r)
          (p.fns.zip users) fns ∧
        a = ⟨⟨types, host.fns, fns.map Prod.fst⟩, fns.flatMap Prod.snd⟩ := by
  -- No declared name comes twice, so that every body that fails says why.
  have bodies : ∀ {types builtins users}, Tables p host types builtins users →
      ∀ d ∈ p.fns.zip users, (fn ⟨types, fnTable builtins users⟩ d.1 d.2).Reports :=
    fun tables _ _ => (fn_blames tables.fieldsDistinct joinsBlame_true trivial fun _ _ => trivial).1
  unfold Syntax.Program.check
  simp only [bind_eq_ok]
  refine ⟨?_, ?_⟩
  · intro ⟨structs, hStructs, types, hTypes, builtins, hBuiltins, users, hUsers, fns, hFns, made⟩
    cases made
    obtain ⟨_, _, rfl, _⟩ := typeTable_eq_ok.1 hTypes
    have tables := tables_iff.2 ⟨hStructs, hTypes, hBuiltins, hUsers⟩
    exact ⟨types, builtins, users, fns, tables, (collect_map_eq_ok (bodies tables)).1 hFns, rfl⟩
  · intro ⟨types, builtins, users, fns, tables, hFns, made⟩
    obtain ⟨hStructs, hTypes, hBuiltins, hUsers⟩ := tables_iff.1 tables
    exact ⟨types.structs, hStructs, types, hTypes, builtins, hBuiltins, users, hUsers, fns,
      (collect_map_eq_ok (bodies tables)).2 hFns, made ▸ rfl⟩

end Programs

end Check

end NominalScript
