import NominalScript.Proofs.Containment
import NominalScript.Proofs.Refinement.Names

/-!
# Checking expressions follows the typing rules

`hasType_of_expr` and `expr_of_hasType`: an expression passes the check just when it
has a type, and the type of what checking makes of it is that type.  Both go by
induction on the expression, with the scopes of checking and those of the rules in
agreement.
-/

namespace NominalScript.Typing

open Syntax Check
open Checked (Signature)
open Refinement (Agrees)

/-! ## Functions and structs -/

/-- Tables that number a program whose declarations obey the rules. -/
structure Describes (p : Program) (host : Builtins) (g : Globals) : Prop
    extends Agrees p host g where
  names : g.types.names = p.typeNames host.types
  void : g.types.names.resolve? "Void" = some g.types.void
  new : ∀ d ∈ p.structs, d.ident.name ∉ host.types
  signatures : ((Context.of p host).fns.map fun f => (f.name, f.params)).Nodup

variable {p : Program} {host : Builtins} {g : Globals}

/-- The function as the rules see it. -/
def calleeType (c : Reference.Callee) : FnType := ⟨c.name, c.paramTypes, c.returnType⟩

theorem context_fns (p : Program) (host : Builtins) :
    (Context.of p host).fns = (Reference.Code.of p host).callees.map calleeType := by
  simp only [Context.of, Reference.Code.of, List.map_append, List.map_map]
  rfl

/-- A call that passes the check has a function that takes its arguments. -/
theorem Describes.fn_of_call (describes : Describes p host g) {name : String} {types : List String}
    {cs : List Checked.Expr} {span : Span} {c : Checked.Expr}
    (resolved : List.Forall₂ (fun n c => g.types.names.resolve? n = some (Checked.Expr.type c))
      types cs)
    (called : call g name cs span = .ok c) :
    ∃ type, ⟨name, types, type⟩ ∈ (Context.of p host).fns ∧
      g.types.names.resolve? type = some c.type := by
  obtain ⟨f, found, rfl⟩ := call_eq_ok.1 called
  obtain ⟨callee, selected, entry⟩ :=
    describes.callee? (List.forall₂_map_right_iff.2 resolved) found
  have answers := List.find?_some selected
  simp only [Bool.and_eq_true, beq_iff_eq] at answers
  refine ⟨callee.returnType, ?_, entry.returns⟩
  rw [context_fns]
  refine List.mem_map.2 ⟨callee, List.mem_of_find?_eq_some selected, ?_⟩
  rw [calleeType, answers.1, answers.2]

/-- A call whose arguments some function takes passes the check. -/
theorem Describes.call_of_fn (describes : Describes p host g) {name type : String}
    {types : List String} {cs : List Checked.Expr} (span : Span)
    (resolved : List.Forall₂ (fun n c => g.types.names.resolve? n = some (Checked.Expr.type c))
      types cs)
    (listed : ⟨name, types, type⟩ ∈ (Context.of p host).fns) :
    ∃ c, call g name cs span = .ok c ∧ g.types.names.resolve? type = some c.type := by
  have resolved' : List.Forall₂ (fun n t => g.types.names.resolve? n = some t) types
      (cs.map Checked.Expr.type) := List.forall₂_map_right_iff.2 resolved
  have listed' := listed
  rw [context_fns] at listed'
  obtain ⟨callee, mem, same⟩ := List.mem_map.1 listed'
  cases same
  obtain ⟨f, entered, entry⟩ := Aligned.mem_left describes.callees mem
  have answers : f.2.answers callee.name (cs.map Checked.Expr.type) = true := by
    have params := (Refinement.names_eq_iff entry.params resolved').1 rfl
    simp [Signature.answers, entry.name, params]
  obtain ⟨f', found⟩ : ∃ f', (g.fns.find? fun f =>
      f.2.answers callee.name (cs.map Checked.Expr.type)) = some f' := by
    rw [← Option.isSome_iff_exists, List.find?_isSome]
    exact ⟨f, entered, answers⟩
  have called : call g callee.name cs span = .ok (.call f'.1 cs f'.2.returnType) :=
    call_eq_ok.2 ⟨f', found, rfl⟩
  -- The function found takes the same arguments, and no two functions do.
  obtain ⟨type', listed'', returns⟩ := describes.fn_of_call resolved called
  have same := List.inj_on_of_nodup_map describes.signatures listed'' listed rfl
  cases same
  exact ⟨_, called, returns⟩

/-- A declared struct and its number. -/
theorem Describes.struct (describes : Describes p host g) {d : StructDecl} (mem : d ∈ p.structs) :
    ∃ i s, g.types.names.resolve? d.ident.name = some (.struct i) ∧
      g.types.structs[i]? = some s ∧ StructFor g.types.names d s := by
  obtain ⟨i, here⟩ := List.mem_iff_getElem?.1 mem
  obtain ⟨s, entry, made⟩ := Aligned.getElem?_left describes.structs here
  refine ⟨i, s, ?_, entry, made⟩
  rw [describes.names]
  exact resolve?_struct describes.structNames here (describes.new d mem)

/-- The struct of a number, and its declaration. -/
theorem Describes.decl (describes : Describes p host g) {name : String} {i : Nat} {s : StructType}
    (resolved : g.types.names.resolve? name = some (.struct i))
    (entry : g.types.structs[i]? = some s) :
    ∃ d ∈ p.structs, d.ident.name = name ∧ StructFor g.types.names d s := by
  obtain ⟨d, here, made⟩ := Aligned.getElem?_right describes.structs entry
  refine ⟨d, List.mem_of_getElem? here, ?_, made⟩
  have named : (g.types.structs.map StructType.name)[i]? = some name :=
    TypeNames.getElem?_of_resolve?_struct resolved
  rw [List.getElem?_map, entry] at named
  rw [← made.name]
  exact Option.some.inj named

/-! ## Variables -/

/-- A slot has the type of a variable. -/
def TypeFor (names : TypeNames) (locals : List TypeId) (i : Nat) (type : String) : Prop :=
  ∃ t, locals[i]? = some t ∧ names.resolve? type = some t

/-- The nearest binding is the one that a search from the innermost scope finds. -/
theorem bound_iff {scopes : List Scope} {name type : String}
    (distinct : ∀ scope ∈ scopes, (scope.map Prod.fst).Nodup) :
    Bound scopes name type ↔ scopes.findSome? (·.lookup name) = some type := by
  induction scopes with
  | nil => exact ⟨fun bound => (nomatch bound), fun found => (nomatch found)⟩
  | cons scope outer ih =>
    obtain ⟨first, rest⟩ := List.forall_mem_cons.1 distinct
    rw [List.findSome?_cons]
    refine ⟨?_, ?_⟩
    · intro bound
      cases bound with
      | here mem => rw [(lookup_eq_some first).2 mem]
      | outside absent bound =>
        rw [lookup_eq_none.2 absent]
        exact (ih rest).1 bound
    · intro found
      cases here : scope.lookup name with
      | some t =>
        rw [here] at found
        cases found
        exact .here ((lookup_eq_some first).1 here)
      | none =>
        rw [here] at found
        exact .outside (lookup_eq_none.1 here) ((ih rest).2 found)

/-- The scopes of checking, and those of the rules. -/
structure InScope (names : TypeNames) (locals : List TypeId) (scopes : List Check.Scope)
    (stack : List Scope) : Prop where
  agree : ScopesAgree (TypeFor names locals) scopes stack
  distinct : ∀ scope ∈ stack, (scope.map Prod.fst).Nodup

/-! ## Expressions -/

section Expressions

variable {env : Env} {stack : List Scope}

/-- What passes the check has the type that checking gives it. -/
theorem hasType_of_expr (describes : Describes p host env.globals)
    (inScope : InScope env.types.names env.locals env.scopes stack) (e : Expr) :
    ∀ {c : Checked.Expr}, expr env e = .ok c →
      ∃ type, HasType (.of p host) stack e type ∧ env.types.names.resolve? type = some c.type := by
  induction e using Expr.inductOn with
  | str value span =>
    intro c checked
    cases expr_str_eq_ok.1 checked
    exact ⟨"String", .str, describes.string⟩
  | int value span =>
    intro c checked
    cases expr_int_eq_ok.1 checked
    exact ⟨"Int", .int, describes.int⟩
  | call fn args span ih =>
    intro c checked
    obtain ⟨cs, parts, called⟩ := (expr_call_eq_ok describes.distinct).1 checked
    obtain ⟨types, typed, resolved⟩ := Aligned.exists_between parts fun a mem c ok => ih a mem ok
    obtain ⟨type, listed, returns⟩ := describes.fn_of_call resolved called
    exact ⟨type, .call listed typed, returns⟩
  | var name span =>
    intro c checked
    obtain ⟨i, t, found, entry, rfl⟩ := expr_var_eq_ok.1 checked
    obtain ⟨type, bound, u, slot, resolved⟩ := inScope.agree.left found
    rw [slot] at entry
    cases entry
    exact ⟨type, .var ((bound_iff inScope.distinct).2 bound), resolved⟩
  | unary op operand span ih =>
    intro c checked
    obtain ⟨e, ok, called⟩ := expr_unary_eq_ok.1 checked
    obtain ⟨t, typed, resolved⟩ := ih ok
    obtain ⟨type, listed, returns⟩ := describes.fn_of_call (.cons resolved .nil) called
    exact ⟨type, .unary listed typed, returns⟩
  | binary op left right span ihLeft ihRight =>
    intro c checked
    obtain ⟨l, r, okLeft, okRight, called⟩ := (expr_binary_eq_ok describes.distinct).1 checked
    obtain ⟨t, typed, resolved⟩ := ihLeft okLeft
    obtain ⟨u, typed', resolved'⟩ := ihRight okRight
    obtain ⟨type, listed, returns⟩ :=
      describes.fn_of_call (.cons resolved (.cons resolved' .nil)) called
    exact ⟨type, .binary listed typed typed', returns⟩
  | paren inner span ih =>
    intro c checked
    obtain ⟨type, typed, resolved⟩ := ih (expr_paren_eq_ok.1 checked)
    exact ⟨type, .paren typed, resolved⟩
  | init type fields fieldsSpan span ih =>
    intro c checked
    obtain ⟨i, s, values, resolved, entry, given, parts, matched, rfl⟩ :=
      (expr_init_eq_ok describes.distinct).1 checked
    obtain ⟨d, mem, called, made⟩ := describes.decl resolved entry
    have declared := Aligned.map_eq_map made.fields fun _ _ bound => bound.1.symm
    have length : values.length = s.fields.length := by
      simpa [← parts.length_eq] using congrArg List.length given
    have types := Aligned.of_map_eq ((fieldTypeErrors_eq_nil parts.length_eq length).1 matched)
    refine ⟨type.name, .init mem called ?_ ?_, resolved⟩
    · apply Aligned.of_map_eq
      rw [declared, ← given, List.map_map]
      rfl
    · have typed := Aligned.imp_mem parts ih
      refine (Aligned.comp (Aligned.comp typed types) made.fields.flip).imp fun f b between => ?_
      obtain ⟨fd, ⟨v, ⟨t, typed, first⟩, same⟩, bound⟩ := between
      rw [same] at first
      rw [← TypeNames.resolve?_inj first bound.2]
      exact typed
  | member base field span ih =>
    intro c checked
    obtain ⟨e, s, i, t, ok, struct, found, rfl⟩ := expr_member_eq_ok.1 checked
    obtain ⟨type, typed, resolved⟩ := ih ok
    cases kind : e.type with
    | builtin j =>
      rw [kind] at struct
      cases struct
    | struct j =>
      rw [kind] at struct resolved
      obtain ⟨d, mem, rfl, made⟩ := describes.decl resolved struct
      obtain ⟨f, declared, named, rfl⟩ := StructType.field?_eq_some found
      obtain ⟨b, written, bound⟩ := Aligned.getElem?_right made.fields declared
      refine ⟨b.type.name, .member typed mem (List.mem_of_getElem? written) ?_, bound.2⟩
      rw [← named, bound.1]

/-- What has a type passes the check, and checking gives it that type. -/
theorem expr_of_hasType (describes : Describes p host env.globals)
    (inScope : InScope env.types.names env.locals env.scopes stack) (e : Expr) :
    ∀ {type : String}, HasType (.of p host) stack e type →
      ∃ c, expr env e = .ok c ∧ env.types.names.resolve? type = some c.type := by
  induction e using Expr.inductOn with
  | str value span =>
    intro type typed
    cases typed
    exact ⟨_, expr_str_eq_ok.2 rfl, describes.string⟩
  | int value span =>
    intro type typed
    cases typed
    exact ⟨_, expr_int_eq_ok.2 rfl, describes.int⟩
  | call fn args span ih =>
    intro type typed
    cases typed with
    | call listed parts =>
      obtain ⟨cs, checked, resolved⟩ :=
        Aligned.exists_between parts fun a mem t typed => ih a mem typed
      have resolved' := resolved.flip
      obtain ⟨c, called, returns⟩ := describes.call_of_fn span resolved' listed
      exact ⟨c, (expr_call_eq_ok describes.distinct).2 ⟨cs, checked, called⟩, returns⟩
  | var name span =>
    intro type typed
    cases typed with
    | var bound =>
      obtain ⟨i, found, t, slot, resolved⟩ :=
        inScope.agree.right ((bound_iff inScope.distinct).1 bound)
      exact ⟨_, expr_var_eq_ok.2 ⟨i, t, found, slot, rfl⟩, resolved⟩
  | unary op operand span ih =>
    intro type typed
    cases typed with
    | unary listed typed =>
      obtain ⟨e, ok, resolved⟩ := ih typed
      obtain ⟨c, called, returns⟩ := describes.call_of_fn span (.cons resolved .nil) listed
      exact ⟨c, expr_unary_eq_ok.2 ⟨e, ok, called⟩, returns⟩
  | binary op left right span ihLeft ihRight =>
    intro type typed
    cases typed with
    | binary listed typed typed' =>
      obtain ⟨l, okLeft, resolved⟩ := ihLeft typed
      obtain ⟨r, okRight, resolved'⟩ := ihRight typed'
      obtain ⟨c, called, returns⟩ :=
        describes.call_of_fn span (.cons resolved (.cons resolved' .nil)) listed
      exact ⟨c, (expr_binary_eq_ok describes.distinct).2 ⟨l, r, okLeft, okRight, called⟩, returns⟩
  | paren inner span ih =>
    intro type typed
    cases typed with
    | paren typed =>
      obtain ⟨c, ok, resolved⟩ := ih typed
      exact ⟨c, expr_paren_eq_ok.2 ok, resolved⟩
  | init type fields fieldsSpan span ih =>
    intro name typed
    cases typed with
    | @init _ _ _ _ d mem called named parts =>
      obtain ⟨i, s, resolved, entry, made⟩ := describes.struct mem
      rw [called] at resolved
      have declared := Aligned.map_eq_map made.fields fun _ _ bound => bound.1.symm
      have given : (fields.map FieldInit.ident).map Ident.name = s.fields.map Field.name := by
        rw [← declared, List.map_map]
        exact Aligned.map_eq_map named fun _ _ same => same
      obtain ⟨values, checked, resolved'⟩ :=
        Aligned.exists_between parts fun f mem b typed => ih f mem typed
      have types : values.map Checked.Expr.type = s.fields.map Field.type := by
        refine Aligned.map_eq_map (Aligned.comp resolved' made.fields) fun v f between => ?_
        obtain ⟨b, first, bound⟩ := between
        exact Option.some.inj (first.symm.trans bound.2)
      have length : values.length = s.fields.length := by
        simpa using congrArg List.length types
      have matched := (fieldTypeErrors_eq_nil checked.length_eq length).2 types
      exact ⟨_, (expr_init_eq_ok describes.distinct).2
        ⟨i, s, values, resolved, entry, given, checked, matched, rfl⟩, resolved⟩
  | member base field span ih =>
    intro type typed
    cases typed with
    | @member _ _ _ d b typed mem declared named =>
      obtain ⟨e, ok, resolved⟩ := ih typed
      obtain ⟨i, s, number, entry, made⟩ := describes.struct mem
      have kind : TypeId.struct i = e.type := Option.some.inj (number.symm.trans resolved)
      obtain ⟨k, written⟩ := List.mem_iff_getElem?.1 declared
      obtain ⟨f, here, bound⟩ := Aligned.getElem?_left made.fields written
      have found :=
        StructType.field?_of_nodup (describes.distinct s (List.mem_of_getElem? entry)) here
      rw [bound.1, named] at found
      refine ⟨_, expr_member_eq_ok.2 ⟨e, s, k, f.type, ok, ?_, found, rfl⟩, bound.2⟩
      rw [← kind]
      exact entry

end Expressions

end NominalScript.Typing
