import NominalScript.Proofs.Check.Scopes
import NominalScript.Proofs.Check.WellTyped
import NominalScript.Proofs.Reference

/-!
# Names and what they are numbered by

The tables of checking number what a source tree calls by name.  `Agrees` says
that tables number the functions, structs and types of a program, and `ScopesFor`
that the slots of a call hold the variables that are in scope.  Under both, an
expression that passes the check has the static type that its checked form says
(`typeOf_of_expr`), so a call of the source and the checked call select the same
function.
-/

namespace NominalScript.Refinement

open Syntax Check
open Checked (Signature)
open Reference (Code Callee Var)

/-! ## Functions and structs -/

/-- The same function, by number and by itself. -/
inductive Linked (p : Program) (host : Builtins) : Callee → FnId → Prop
  | builtin {i : Nat} {b : Builtin} :
    host.fns[i]? = some b → Linked p host (.builtin b) (.builtin i)
  | user {i : Nat} {d : FnDecl} : p.fns[i]? = some d → Linked p host (.user d) (.user i)

/-- An entry of the table of functions and the function it is for. -/
structure CalleeFor (p : Program) (host : Builtins) (names : TypeNames) (c : Callee)
    (f : FnId × Signature) : Prop where
  name : c.name = f.2.name
  params : List.Forall₂ (fun n t => names.resolve? n = some t) c.paramTypes f.2.paramTypes
  returns : names.resolve? c.returnType = some f.2.returnType
  linked : Linked p host c f.1

/-- Tables that number the functions, structs and types of a program. -/
structure Agrees (p : Program) (host : Builtins) (g : Globals) : Prop where
  callees : List.Forall₂ (CalleeFor p host g.types.names) (Code.of p host).callees g.fns
  structs : List.Forall₂ (StructFor g.types.names) p.structs g.types.structs
  structNames : (p.structs.map (·.ident.name)).Nodup
  fieldNames : ∀ d ∈ p.structs, (d.fields.map (·.ident.name)).Nodup
  distinct : FieldsDistinct g.types
  int : g.types.names.resolve? "Int" = some g.types.int
  string : g.types.names.resolve? "String" = some g.types.string

variable {p : Program} {host : Builtins} {g : Globals} {names : TypeNames}

theorem forall₂_resolve?_map {α : Type} {as : List α} {fields : List Field} {name : α → String}
    {R : α → Field → Prop} (entries : List.Forall₂ R as fields)
    (resolved : ∀ a f, R a f → names.resolve? (name a) = some f.type) :
    List.Forall₂ (fun n t => names.resolve? n = some t) (as.map name) (fields.map Field.type) :=
  List.forall₂_map_left_iff.2 (List.forall₂_map_right_iff.2 (entries.imp resolved))

theorem calleeFor_builtin {b : Builtin} {s : Signature} {i : Nat}
    (entry : HostSignatureFor names b s)
    (declared : host.fns[i]? = some b) : CalleeFor p host names (.builtin b) (.builtin i, s) where
  name := entry.name.symm
  params := forall₂_resolve?_map entry.params fun _ _ made => made.2
  returns := entry.returns
  linked := .builtin declared

theorem calleeFor_user {d : FnDecl} {s : Signature} {i : Nat} (entry : SignatureFor names d s)
    (declared : p.fns[i]? = some d) : CalleeFor p host names (.user d) (.user i, s) where
  name := entry.name.symm
  params := forall₂_resolve?_map entry.params fun _ _ made => made.2
  returns := entry.returns
  linked := .user declared

/-- Numbering the entries of a table by their position. -/
theorem forall₂_numbered {α : Type} {as : List α} {sigs : List Signature} {R : α → Signature → Prop}
    {callee : α → Callee} {number : Nat → FnId} (entries : List.Forall₂ R as sigs)
    (each : ∀ (i : Nat) a s, as[i]? = some a → R a s →
      CalleeFor p host names (callee a) (number i, s)) :
    List.Forall₂ (CalleeFor p host names) (as.map callee)
      (sigs.zipIdx.map fun s => (number s.2, s.1)) := by
  rw [List.forall₂_map_left_iff, List.forall₂_map_right_iff]
  refine Aligned.of_getElem? (by simpa using entries.length_eq) fun i a s here there => ?_
  obtain ⟨t, entry, related⟩ := Aligned.getElem?_left entries here
  rw [List.getElem?_zipIdx, entry] at there
  cases there
  rw [Nat.zero_add]
  exact each i a t here related

/-- The tables that checking makes agree with the names of the source: each function stands in
them once, under its own signature. -/
theorem Agrees.of_tables {types : TypeTable} {builtins users : List Signature}
    (tables : Tables p host types builtins users) :
    Agrees p host ⟨types, fnTable builtins users⟩ where
  callees := by
    refine List.rel_append ?_ ?_
    · exact forall₂_numbered tables.hostFns fun i b s here entry => calleeFor_builtin entry here
    · exact forall₂_numbered tables.fns fun i d s here entry => calleeFor_user entry here
  structs := tables.structs
  structNames := tables.structNames
  fieldNames d declared := (tables.structNew d declared).2
  distinct := tables.fieldsDistinct
  int := tables.int
  string := tables.string

/-- Lists of names and of their types are equal together. -/
theorem names_eq_iff {ns ms : List String} {ts us : List TypeId}
    (first : List.Forall₂ (fun n t => names.resolve? n = some t) ns ts)
    (second : List.Forall₂ (fun n t => names.resolve? n = some t) ms us) : ns = ms ↔ ts = us := by
  refine ⟨?_, ?_⟩
  · intro same
    subst same
    refine List.right_unique_forall₂' ?_ first second
    intro n t u here there
    exact Option.some.inj (here.symm.trans there)
  · intro same
    subst same
    refine List.left_unique_forall₂' ?_ first second
    intro n t m here there
    exact TypeNames.resolve?_inj here there

/-- The function that a checked call selects is the one that the call of the source
selects. -/
theorem Agrees.callee? (agrees : Agrees p host g) {name : String} {ns : List String}
    {ts : List TypeId} {f : FnId × Signature}
    (resolved : List.Forall₂ (fun n t => g.types.names.resolve? n = some t) ns ts)
    (found : (g.fns.find? fun f => f.2.answers name ts) = some f) :
    ∃ c, (Code.of p host).callee? name ns = some c ∧ CalleeFor p host g.types.names c f := by
  refine Aligned.find?_right agrees.callees (fun c f entry => ?_) found
  have params : c.paramTypes = ns ↔ f.2.paramTypes = ts := names_eq_iff entry.params resolved
  rw [Signature.answers, entry.name, Bool.eq_iff_iff]
  simp [params]

/-- The field that a checked expression selects is the one that its name selects. -/
theorem Agrees.field? (agrees : Agrees p host g) {n name : String} {t u : TypeId} {s : StructType}
    {i : Nat} (resolved : g.types.names.resolve? n = some t) (struct : g.types.struct? t = some s)
    (found : s.field? name = some (i, u)) :
    ∃ m, (Code.of p host).field? n name = some (i, m) ∧ g.types.names.resolve? m = some u := by
  cases t with
  | builtin j => cases struct
  | struct j =>
    obtain ⟨d, declared, entry⟩ := Aligned.getElem?_right agrees.structs struct
    obtain ⟨f, here, rfl, rfl⟩ := StructType.field?_eq_some found
    obtain ⟨b, written, bound⟩ := Aligned.getElem?_right entry.fields here
    have called : d.ident.name = n := by
      have numbered : (g.types.structs.map StructType.name)[j]? = some n :=
        TypeNames.getElem?_of_resolve?_struct resolved
      rw [List.getElem?_map, show g.types.structs[j]? = some s from struct] at numbered
      rw [← entry.name]
      exact Option.some.inj numbered
    refine ⟨b.type.name, ?_, bound.2⟩
    have struct? := find?_of_nodup agrees.structNames declared
    have index? := findIdx?_of_nodup (agrees.fieldNames d (List.mem_of_getElem? declared)) written
    rw [called] at struct?
    rw [← bound.1] at index?
    simp only [Code.field?, Code.of, struct?, index?, written, Option.bind_eq_bind,
      Option.bind_some]
    rfl

/-! ## Variables -/

/-- A slot and a variable: the slot has the type and holds the value of the
variable. -/
structure VarFor (names : TypeNames) (locals : List TypeId) (slots : List Value) (i : Nat)
    (var : Var) : Prop where
  type : ∃ t, locals[i]? = some t ∧ names.resolve? var.type = some t
  value : slots[i]? = some var.value

/-- The open scopes of checking, and those of a run of the source. -/
abbrev ScopesFor (names : TypeNames) (locals : List TypeId) (slots : List Value) :
    List Scope → List Reference.Scope → Prop :=
  ScopesAgree (VarFor names locals slots)

section Variables

variable {locals : List TypeId} {slots : List Value} {scopes : List Scope}
  {stack : List Reference.Scope}

/-- More slots may be handed out. -/
theorem ScopesFor.grow {locals' : List TypeId} (inScope : ScopesFor names locals slots scopes stack)
    (more : locals <+: locals') : ScopesFor names locals' slots scopes stack := by
  refine inScope.mono fun i var held => ⟨?_, held.value⟩
  obtain ⟨t, here, resolved⟩ := held.type
  exact ⟨t, getElem?_of_grown more here, resolved⟩

/-- A slot that is not handed out yet may be filled. -/
theorem ScopesFor.set {v : Value} (inScope : ScopesFor names locals slots scopes stack) :
    ScopesFor names locals (slots.set locals.length v) scopes stack := by
  refine inScope.mono fun i var held => ⟨held.type, ?_⟩
  obtain ⟨t, here, _⟩ := held.type
  have bound := (List.getElem?_eq_some_iff.1 here).1
  rw [List.getElem?_set_ne (Nat.ne_of_gt bound)]
  exact held.value

/-- Binding a name to the next slot, which holds the value of the variable. -/
theorem ScopesFor.push {s : BodyState} {name : String} {type : TypeId} {var : Var}
    (inScope : ScopesFor names s.locals slots s.scopes stack) (opened : s.scopes ≠ [])
    (value : slots[s.locals.length]? = some var.value)
    (resolved : names.resolve? var.type = some type) :
    ScopesFor names (s.bind name type).locals slots (s.bind name type).scopes
      (Reference.bind stack name var) := by
  have grown := inScope.grow (s.bind_grows name type).locals
  cases stack with
  | nil => exact absurd (List.forall₂_nil_right_iff.1 inScope) opened
  | cons scope outer =>
    refine grown.bind ⟨⟨type, ?_, resolved⟩, value⟩ type
    simp [BodyState.bind]

end Variables

/-! ## Static types -/

section Static

variable {env : Env} {slots : List Value} {stack : List Reference.Scope}

/-- Checked expressions have the static types of the expressions of the source. -/
theorem typesOf_of_forall₂ {es : List Expr} {cs : List Checked.Expr}
    (each : List.Forall₂ (fun e c => ∃ n, Reference.typeOf (.of p host) stack e = some n ∧
      names.resolve? n = some (Checked.Expr.type c)) es cs) :
    ∃ ns, Reference.typesOf (.of p host) stack es = some ns ∧
      List.Forall₂ (fun n t => names.resolve? n = some t) ns (cs.map Checked.Expr.type) := by
  induction each with
  | nil => exact ⟨[], by rw [Reference.typesOf], .nil⟩
  | cons here _ ih =>
    obtain ⟨n, type, resolved⟩ := here
    obtain ⟨ns, types, rest⟩ := ih
    refine ⟨n :: ns, ?_, .cons resolved rest⟩
    rw [Reference.typesOf, type, types]
    rfl

/-- The function that a checked call has by its number is the one that the source finds by name
and types. -/
theorem calleeOf_of_call (agrees : Agrees p host g) {name : String} {es : List Expr}
    {cs : List Checked.Expr} {span : Span} {c : Checked.Expr}
    (each : List.Forall₂ (fun e c => ∃ n, Reference.typeOf (.of p host) stack e = some n ∧
      g.types.names.resolve? n = some (Checked.Expr.type c)) es cs)
    (called : call g name cs span = .ok c) :
    ∃ callee f, Reference.calleeOf (.of p host) stack name es = some callee ∧
      CalleeFor p host g.types.names callee f ∧ c = .call f.1 cs f.2.returnType := by
  obtain ⟨f, found, rfl⟩ := call_eq_ok.1 called
  obtain ⟨ns, types, resolved⟩ := typesOf_of_forall₂ each
  obtain ⟨callee, selected, entry⟩ := agrees.callee? resolved found
  refine ⟨callee, f, ?_, entry, rfl⟩
  rw [Reference.calleeOf, types]
  exact selected

theorem typeOf_call {code : Code} {fn : Ident} {args : List Expr} {span : Span} :
    Reference.typeOf code stack (.call fn args span) =
      (Reference.calleeOf code stack fn.name args).map Callee.returnType := by
  rw [Reference.typeOf, Reference.calleeOf]
  cases Reference.typesOf code stack args <;> rfl

theorem typeOf_unary {code : Code} {op : Ident} {operand : Expr} {span : Span} :
    Reference.typeOf code stack (.unary op operand span) =
      (Reference.calleeOf code stack op.name [operand]).map Callee.returnType := by
  rw [Reference.typeOf, Reference.calleeOf, Reference.typesOf, Reference.typesOf]
  cases Reference.typeOf code stack operand <;> rfl

theorem typeOf_binary {code : Code} {op : Ident} {left right : Expr} {span : Span} :
    Reference.typeOf code stack (.binary op left right span) =
      (Reference.calleeOf code stack op.name [left, right]).map Callee.returnType := by
  rw [Reference.typeOf, Reference.calleeOf, Reference.typesOf, Reference.typesOf, Reference.typesOf]
  cases Reference.typeOf code stack left <;> cases Reference.typeOf code stack right <;> rfl

/-- The static type that the source has for an expression is a name, and it resolves to the type
of the checked expression. -/
theorem typeOf_of_expr (agrees : Agrees p host env.globals)
    (inScope : ScopesFor env.types.names env.locals slots env.scopes stack) (e : Expr) :
    ∀ {c : Checked.Expr}, expr env e = .ok c →
      ∃ n, Reference.typeOf (.of p host) stack e = some n ∧
        env.types.names.resolve? n = some c.type := by
  induction e using Expr.inductOn with
  | str value span =>
    intro c checked
    cases expr_str_eq_ok.1 checked
    exact ⟨"String", by rw [Reference.typeOf], agrees.string⟩
  | int value span =>
    intro c checked
    cases expr_int_eq_ok.1 checked
    exact ⟨"Int", by rw [Reference.typeOf], agrees.int⟩
  | call fn args span ih =>
    intro c checked
    obtain ⟨cs, parts, called⟩ := (expr_call_eq_ok agrees.distinct).1 checked
    obtain ⟨callee, f, selected, entry, rfl⟩ :=
      calleeOf_of_call agrees (Aligned.imp_mem parts ih) called
    exact ⟨callee.returnType, by rw [typeOf_call, selected]; rfl, entry.returns⟩
  | var name span =>
    intro c checked
    obtain ⟨i, t, found, entry, rfl⟩ := expr_var_eq_ok.1 checked
    obtain ⟨var, here, ⟨u, slot, resolved⟩, _⟩ := inScope.left found
    rw [slot] at entry
    cases entry
    refine ⟨var.type, ?_, resolved⟩
    rw [Reference.typeOf, Reference.var?, here]
    rfl
  | unary op operand span ih =>
    intro c checked
    obtain ⟨e, ok, called⟩ := expr_unary_eq_ok.1 checked
    obtain ⟨callee, f, selected, entry, rfl⟩ :=
      calleeOf_of_call agrees (.cons (ih ok) .nil) called
    exact ⟨callee.returnType, by rw [typeOf_unary, selected]; rfl, entry.returns⟩
  | binary op left right span ihLeft ihRight =>
    intro c checked
    obtain ⟨l, r, okLeft, okRight, called⟩ := (expr_binary_eq_ok agrees.distinct).1 checked
    obtain ⟨callee, f, selected, entry, rfl⟩ :=
      calleeOf_of_call agrees (.cons (ihLeft okLeft) (.cons (ihRight okRight) .nil)) called
    exact ⟨callee.returnType, by rw [typeOf_binary, selected]; rfl, entry.returns⟩
  | paren inner span ih =>
    intro c checked
    rw [Reference.typeOf]
    exact ih (expr_paren_eq_ok.1 checked)
  | init type fields fieldsSpan span ih =>
    intro c checked
    obtain ⟨i, s, values, resolved, _, _, _, _, rfl⟩ := (expr_init_eq_ok agrees.distinct).1 checked
    exact ⟨type.name, by rw [Reference.typeOf], resolved⟩
  | member base field span ih =>
    intro c checked
    obtain ⟨e, s, i, t, ok, struct, found, rfl⟩ := expr_member_eq_ok.1 checked
    obtain ⟨n, type, resolved⟩ := ih ok
    obtain ⟨m, selected, resolved'⟩ := agrees.field? resolved struct found
    refine ⟨m, ?_, resolved'⟩
    rw [Reference.typeOf, type, Option.bind_eq_bind, Option.bind_some, selected]
    rfl

end Static

end NominalScript.Refinement
