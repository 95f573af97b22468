import NominalScript.Proofs.Accepts
import NominalScript.Proofs.Check.Renumbering

/-!
# The order of declarations

Structs may name later structs and functions may call later functions, so the order in
which a program declares them says nothing: reordered, it is accepted just when it was,
and every function does what it did.

The tables of the two programs are built from the same declarations, and each entry of
the one stands renumbered in the other (`Tables.renumbered`).  The rules on declarations
(no name twice, no struct inside itself, no signature twice) ask only which declarations
there are.  The bodies then check to renumbered bodies, and these run alike.
-/

namespace NominalScript

open Syntax Check
open Checked (Signature)
open Typing (Contains Context)

/-- The one program has the declarations of the other, both the structs and the functions in
any order. -/
structure Syntax.Program.Reorders (q p : Syntax.Program) : Prop where
  structs : q.structs.Perm p.structs
  fns : q.fns.Perm p.fns

/-- Every declaration of the first program stands in the second under its new number. -/
structure Renumbering.Places (ρ : Renumbering) (p q : Syntax.Program) : Prop where
  structs : ∀ i, q.structs[ρ.structIndex i]? = p.structs[i]?
  fns : ∀ i, q.fns[ρ.fnIndex i]? = p.fns[i]?
  outside : ∀ i, p.fns.length ≤ i → ρ.fnIndex i = i

namespace Syntax.Program.Reorders

variable {p q : Syntax.Program} {host : Builtins}

theorem symm (reordered : q.Reorders p) : p.Reorders q :=
  ⟨reordered.structs.symm, reordered.fns.symm⟩

theorem exists_places (reordered : q.Reorders p) : ∃ ρ : Renumbering, ρ.Places p q := by
  obtain ⟨structIndex, structs, _⟩ := exists_index_of_perm reordered.structs
  obtain ⟨fnIndex, fns, outside⟩ := exists_index_of_perm reordered.fns
  exact ⟨⟨structIndex, fnIndex⟩, structs, fns, outside⟩

/-! ## Rules that ask which declarations there are -/

theorem contains_eq (reordered : q.Reorders p) : Contains q = Contains p := by
  funext whole part
  apply propext
  refine ⟨?_, ?_⟩
  · intro ⟨isWhole, isPart, field⟩
    exact ⟨reordered.structs.mem_iff.1 isWhole, reordered.structs.mem_iff.1 isPart, field⟩
  · intro ⟨isWhole, isPart, field⟩
    exact ⟨reordered.structs.mem_iff.2 isWhole, reordered.structs.mem_iff.2 isPart, field⟩

theorem nodup_structNames (reordered : q.Reorders p)
    (distinct : (p.structs.map (·.ident.name)).Nodup) :
    (q.structs.map (·.ident.name)).Nodup :=
  (reordered.structs.map _).nodup_iff.2 distinct

theorem context_fns (reordered : q.Reorders p) :
    (Context.of q host).fns.Perm (Context.of p host).fns :=
  (reordered.fns.map _).append_left _

/-! ## Names of types -/

/-- A name has the same type as before, under its new number. -/
theorem resolve?_renumbered (reordered : q.Reorders p) {ρ : Renumbering} (places : ρ.Places p q)
    (distinct : (p.structs.map (·.ident.name)).Nodup) (builtins : List String) (name : String)
    (t : TypeId) (resolved : (p.typeNames builtins).resolve? name = some t) :
    (q.typeNames builtins).resolve? name = some (ρ.type t) := by
  have structNames := reordered.nodup_structNames distinct
  unfold TypeNames.resolve? Program.typeNames at resolved ⊢
  dsimp only at resolved ⊢
  cases known : builtins.idxOf? name with
  | some i =>
    rw [known] at resolved
    cases resolved
    rfl
  | none =>
    rw [known] at resolved
    obtain ⟨i, found, rfl⟩ := Option.map_eq_some_iff.1 resolved
    have here := TypeNames.getElem?_of_idxOf? found
    rw [List.getElem?_map, ← places.structs i, ← List.getElem?_map] at here
    have found' : (q.structs.map (·.ident.name)).idxOf? name = some (ρ.structIndex i) :=
      @findIdx?_of_nodup _ id _ _ _ (by simpa using structNames) here
    rw [found']
    rfl

end Syntax.Program.Reorders

/-! ## Tables -/

namespace Check.Tables

variable {p q : Syntax.Program} {host : Builtins} {types types' : TypeTable}
  {builtins users builtins' users' : List Signature} {ρ : Renumbering}

theorem resolve?_reordered (tables : Tables p host types builtins users)
    (reordered : q.Reorders p) (places : ρ.Places p q) (name : String) (t : TypeId)
    (resolved : types.names.resolve? name = some t) :
    (q.typeNames host.types).resolve? name = some (ρ.type t) := by
  rw [tables.typeNames] at resolved
  exact reordered.resolve?_renumbered places tables.structNames host.types name t resolved

/-- The tables of the reordered program can be built. -/
theorem exists_reordered (tables : Tables p host types builtins users)
    (reordered : q.Reorders p) :
    ∃ types' builtins' users', Tables q host types' builtins' users' := by
  obtain ⟨ρ, places⟩ := reordered.exists_places
  have carried := tables.resolve?_reordered reordered places
  have structNames := reordered.nodup_structNames tables.structNames
  have structNew : ∀ d ∈ q.structs, d.ident.name ∉ host.types ∧
      (d.fields.map (·.ident.name)).Nodup :=
    fun d mem => tables.structNew d (reordered.structs.mem_iff.1 mem)
  obtain ⟨structs, made⟩ := Aligned.exists_iff.2 fun d (mem : d ∈ q.structs) => by
    obtain ⟨s, _, made⟩ := Aligned.mem_left tables.structs (reordered.structs.mem_iff.1 mem)
    exact ⟨ρ.struct s, made.renumber carried⟩
  obtain ⟨builtins', hostFns⟩ := Aligned.exists_iff.2 fun b (mem : b ∈ host.fns) => by
    obtain ⟨s, _, made⟩ := Aligned.mem_left tables.hostFns mem
    exact ⟨ρ.signature s, made.renumber carried⟩
  obtain ⟨users', fns⟩ := Aligned.exists_iff.2 fun d (mem : d ∈ q.fns) => by
    obtain ⟨s, _, made⟩ := Aligned.mem_left tables.fns (reordered.fns.mem_iff.1 mem)
    exact ⟨ρ.signature s, made.renumber carried⟩
  have names : TypeTable.names ⟨host.types, structs, ρ.type types.void, ρ.type types.int,
      ρ.type types.string⟩ = q.typeNames host.types := typeNames_eq made
  refine ⟨⟨host.types, structs, ρ.type types.void, ρ.type types.int, ρ.type types.string⟩,
    builtins', users', ?_⟩
  exact {
    needed := tables.needed
    void := names ▸ carried _ _ tables.void
    int := names ▸ carried _ _ tables.int
    string := names ▸ carried _ _ tables.string
    builtinTypes := rfl
    structs := names ▸ made
    structNames := structNames
    structNew := structNew
    finite := by
      have before := tables.structs
      rw [tables.typeNames] at before
      refine (finiteStructs_eq_ok structNames structNew made).2 ?_
      rw [reordered.contains_eq]
      exact (finiteStructs_eq_ok tables.structNames tables.structNew before).1 tables.finite
    hostFns := names ▸ hostFns
    fns := names ▸ fns
    params := fun d mem => tables.params d (reordered.fns.mem_iff.1 mem)
    apart := by
      rw [Typing.apart_iff hostFns fns, (reordered.context_fns.map _).nodup_iff]
      exact (Typing.apart_iff tables.hostFns tables.fns).1 tables.apart }

/-- Everything in the tables of a program stands renumbered in those of the reordered one. -/
theorem renumbered (tables : Tables p host types builtins users)
    (tables' : Tables q host types' builtins' users') (reordered : q.Reorders p)
    (places : ρ.Places p q) :
    Globals.Renumbered ρ ⟨types, fnTable builtins users⟩ ⟨types', fnTable builtins' users'⟩ := by
  have carried : ∀ name t, types.names.resolve? name = some t →
      types'.names.resolve? name = some (ρ.type t) := by
    rw [tables'.typeNames]
    exact tables.resolve?_reordered reordered places
  have structs := Aligned.getElem?_reordered tables.structs tables'.structs places.structs
    fun d s s' made made' => made'.unique (made.renumber carried)
  have hostFns : ∀ i, builtins'[i]? = builtins[i]?.map ρ.signature :=
    Aligned.getElem?_reordered tables.hostFns tables'.hostFns (fun _ => rfl)
      fun b s s' made made' => made'.unique (made.renumber carried)
  have fns := Aligned.getElem?_reordered tables.fns tables'.fns places.fns
    fun d s s' made made' => made'.unique (made.renumber carried)
  exact {
    names := carried
    structs := fun i s entry => by
      dsimp only at entry ⊢
      rw [structs, entry, Option.map_some]
    fns := fun f s listed => by
      cases f with
      | builtin i =>
        have entry := hostFns i
        rw [mem_fnTable_builtin.1 listed] at entry
        exact mem_fnTable_builtin.2 entry
      | user i =>
        have entry := fns i
        rw [mem_fnTable_user.1 listed] at entry
        exact mem_fnTable_user.2 entry
    void := Option.some.inj (tables'.void.symm.trans (carried _ _ tables.void))
    int := Option.some.inj (tables'.int.symm.trans (carried _ _ tables.int))
    string := Option.some.inj (tables'.string.symm.trans (carried _ _ tables.string))
    distinct := tables.fieldsDistinct
    distinct' := tables'.fieldsDistinct
    keys := nodup_keys_fnTable (apart_nil_iff.1 tables'.apart) }

theorem nodup_fns (tables : Tables p host types builtins users) : p.fns.Nodup := by
  have distinct := (Typing.apart_iff tables.hostFns tables.fns).1 tables.apart
  have declared := (List.nodup_append.1 (List.Nodup.of_map _ distinct)).2.1
  exact List.Nodup.of_map _ declared

end Check.Tables

/-! ## Programs -/

section Programs

variable {p q : Syntax.Program} {host : Builtins} {a : Accepted} {ρ : Renumbering}

/-- The reordered program is accepted as well, and is the accepted program renumbered. -/
theorem exists_check_of_reorders (reordered : q.Reorders p) (places : ρ.Places p q)
    (accepted : p.check host = .ok a) :
    ∃ b, q.check host = .ok b ∧ Checked.Program.Renumbered ρ a.program b.program := by
  obtain ⟨types, builtins, users, fns, tables, bodies, rfl⟩ := check_eq_ok.1 accepted
  obtain ⟨types', builtins', users', tables'⟩ := tables.exists_reordered reordered
  have renumbered := tables.renumbered tables' reordered places
  have made := Aligned.through_zip tables.fns bodies
  -- A declaration that checks in the one program checks in the other, to one function.
  have carried : ∀ d s s' r, SignatureFor types.names d s → SignatureFor types'.names d s' →
      fn ⟨types, fnTable builtins users⟩ d s = .ok r →
      fn ⟨types', fnTable builtins' users'⟩ d s' = .ok (ρ.fn r.1, r.2) := by
    intro d s s' r declared declared' checked
    rw [declared'.unique (declared.renumber renumbered.names)]
    exact fn_renumbered renumbered checked
  obtain ⟨fns', bodies'⟩ : ∃ fns', List.Forall₂ (fun f r =>
      fn ⟨types', fnTable builtins' users'⟩ f.1 f.2 = .ok r) (q.fns.zip users') fns' := by
    refine Aligned.exists_iff.2 fun f mem => ?_
    have listed := reordered.fns.mem_iff.1 (List.of_mem_zip mem).1
    obtain ⟨r, _, s, declared, checked⟩ := Aligned.mem_left made listed
    exact ⟨_, carried f.1 s f.2 r declared (List.forall₂_zip tables'.fns mem) checked⟩
  have made' := Aligned.through_zip tables'.fns bodies'
  refine ⟨_, check_eq_ok.2 ⟨types', builtins', users', fns', tables', bodies', rfl⟩, rfl, ?_, ?_⟩
  · intro i
    have entry := Aligned.getElem?_reordered made made' places.fns
      (f := fun r => (ρ.fn r.1, r.2))
      (fun d r r' ⟨s, declared, checked⟩ ⟨s', declared', checked'⟩ =>
        Except.ok.inj (checked'.symm.trans (carried d s s' r declared declared' checked))) i
    rw [List.getElem?_map, List.getElem?_map, entry, Option.map_map, Option.map_map]
    rfl
  · intro i beyond
    rw [List.length_map, ← made.length_eq] at beyond
    exact places.outside i beyond

theorem nodup_fns_of_check (accepted : p.check host = .ok a) : p.fns.Nodup := by
  obtain ⟨types, builtins, users, fns, tables, _, rfl⟩ := check_eq_ok.1 accepted
  exact tables.nodup_fns

theorem exists_fn_of_check (accepted : p.check host = .ok a) {i : Nat} {d : FnDecl}
    (declared : p.fns[i]? = some d) : ∃ f, a.program.fns[i]? = some f := by
  obtain ⟨types, builtins, users, fns, tables, bodies, rfl⟩ := check_eq_ok.1 accepted
  obtain ⟨r, entry, _⟩ := Aligned.getElem?_left (Aligned.through_zip tables.fns bodies) declared
  refine ⟨r.1, ?_⟩
  rw [List.getElem?_map, entry, Option.map_some]

end Programs

/-- The order of declarations does not matter: the reordered program is accepted just when
the program is, and what a declaration is checked to evaluates alike in both, whatever the
arguments. -/
theorem Syntax.Program.check_reordered {p q : Syntax.Program} (reordered : q.Reorders p)
    (host : Builtins) :
    ((∃ a, p.check host = .ok a) ↔ ∃ b, q.check host = .ok b) ∧
      ∀ a b, p.check host = .ok a → q.check host = .ok b →
        ∀ (i j : Nat) d, p.fns[i]? = some d → q.fns[j]? = some d →
          ∃ f f', a.program.fns[i]? = some f ∧ b.program.fns[j]? = some f' ∧
            ∀ args o, a.program.Evaluates f args o ↔ b.program.Evaluates f' args o := by
  have carried : ∀ {p q : Syntax.Program} {a}, q.Reorders p → p.check host = .ok a →
      ∃ b, q.check host = .ok b := by
    intro p q a reordered accepted
    obtain ⟨ρ, places⟩ := reordered.exists_places
    obtain ⟨b, accepted', _⟩ := exists_check_of_reorders reordered places accepted
    exact ⟨b, accepted'⟩
  refine ⟨⟨?_, ?_⟩, ?_⟩
  · intro ⟨a, accepted⟩
    exact carried reordered accepted
  · intro ⟨b, accepted⟩
    exact carried reordered.symm accepted
  · intro a b accepted accepted' i j d declared declared'
    obtain ⟨ρ, places⟩ := reordered.exists_places
    obtain ⟨b', same, renumbered⟩ := exists_check_of_reorders reordered places accepted
    cases accepted'.symm.trans same
    obtain ⟨f, entry⟩ := exists_fn_of_check accepted declared
    -- No function is declared twice, so the declaration stands at its new number only.
    have position : j = ρ.fnIndex i := by
      have bound := (List.getElem?_eq_some_iff.1 declared').1
      refine (List.getElem?_inj bound (nodup_fns_of_check accepted')).1 ?_
      rw [declared', places.fns, declared]
    refine ⟨f, ρ.fn f, entry, ?_, fun args o =>
      (Checked.Program.evaluates_renumbered renumbered).symm⟩
    rw [position, renumbered.fns, entry, Option.map_some]

/-- The program

    struct Line { start: Point }
    struct Point { x: Int }
    fn begin(n: Int) -> Int { return even(Line { start: Point { x: n } }.start.x) }
    fn even(n: Int) -> Int { if n == 0 { return 1 } return odd(n - 1) }
    fn odd(n: Int) -> Int { if n == 0 { return 0 } return even(n - 1) }

in which declarations name later ones, and two functions call each other. -/
def parity : Syntax.Program where
  structs := [
    ⟨named "Line", [typed "start" "Point"], .builtin⟩,
    ⟨named "Point", [typed "x" "Int"], .builtin⟩]
  fns := [
    function "begin" [.ret (some (.call (named "even") [.member (.member line (named "start")
      .builtin) (named "x") .builtin] .builtin)) .builtin],
    function "even" [stop 1, step "odd"],
    function "odd" [stop 0, step "even"]]
where
  named (name : String) : Syntax.Ident := ⟨name, .builtin⟩
  typed (name type : String) : Syntax.Binding := ⟨named name, named type, .builtin⟩
  n : Syntax.Expr := .var "n" .builtin
  literal (type field : String) (value : Syntax.Expr) : Syntax.Expr :=
    .init (named type) [⟨named field, value, .builtin⟩] .builtin .builtin
  line : Syntax.Expr := literal "Line" "start" (literal "Point" "x" n)
  function (name : String) (body : List Syntax.Stmt) : Syntax.FnDecl :=
    ⟨named name, [typed "n" "Int"], some (named "Int"), .builtin, body, .builtin⟩
  stop (value : Int64) : Syntax.Stmt :=
    .cond (.mk (.binary (named "==") n (.int 0 .builtin) .builtin)
      [.ret (some (.int value .builtin)) .builtin] .nothing .builtin)
  step (other : String) : Syntax.Stmt :=
    .ret (some (.call (named other) [.binary (named "-") n (.int 1 .builtin) .builtin] .builtin))
      .builtin

/-- Both orders of the declarations are accepted; in the second `begin` is the last function,
and it still finds that three is not even. -/
theorem check_reordered_parity :
    Syntax.Program.Reorders ⟨parity.structs.reverse, parity.fns.reverse⟩ parity ∧
      ∃ a b f', parity.check .standard = .ok a ∧
        Syntax.Program.check ⟨parity.structs.reverse, parity.fns.reverse⟩ .standard = .ok b ∧
        a.program.types.structs.map StructType.name = ["Line", "Point"] ∧
        b.program.types.structs.map StructType.name = ["Point", "Line"] ∧
        b.program.fns[2]? = some f' ∧ f'.signature.name = "begin" ∧
        b.program.Evaluates f' [.int 3] ⟨[], .ok (.int 0)⟩ := by
  have reordered : Syntax.Program.Reorders ⟨parity.structs.reverse, parity.fns.reverse⟩ parity :=
    ⟨List.reverse_perm _, List.reverse_perm _⟩
  obtain ⟨_, alike⟩ := Syntax.Program.check_reordered reordered .standard
  obtain ⟨f, f', entry, entry', same⟩ := alike _ _ rfl rfl 0 2 _ rfl rfl
  cases entry
  cases entry'
  refine ⟨reordered, _, _, _, rfl, rfl, rfl, rfl, rfl, rfl, ?_⟩
  exact (same _ _).1 ⟨4, rfl⟩

end NominalScript
