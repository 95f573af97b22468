import NominalScript.Proofs.Check.Overloads
import NominalScript.Proofs.Renumbering

/-!
# Checking against renumbered tables

The tables that a body is checked against may be renumbered, and functions may be added
to them: a body that passes the check still does, and what is made of it is
renumbered.  Slots, scopes and warnings stay as they are, and so does whether a
statement returns.

`Globals.Renumbered` says what the two tables have in common.  It asks for nothing but
that types and functions of the one are found in the other, so a call that is resolved
goes to the function with the new number because no key comes twice in the second table.
-/

namespace NominalScript.Check

open Syntax
open Checked (Signature)

/-- The second tables have everything of the first under its new number, and a call
against them has at most one function to go to. -/
structure Globals.Renumbered (ρ : Renumbering) (g g' : Globals) : Prop where
  names : ∀ name t, g.types.names.resolve? name = some t →
    g'.types.names.resolve? name = some (ρ.type t)
  structs : ∀ i s, g.types.structs[i]? = some s →
    g'.types.structs[ρ.structIndex i]? = some (ρ.struct s)
  fns : ∀ f s, (f, s) ∈ g.fns → (ρ.fnId f, ρ.signature s) ∈ g'.fns
  void : g'.types.void = ρ.type g.types.void
  int : g'.types.int = ρ.type g.types.int
  string : g'.types.string = ρ.type g.types.string
  distinct : FieldsDistinct g.types
  distinct' : FieldsDistinct g'.types
  keys : (g'.fns.map fun f => f.2.key).Nodup

variable {ρ : Renumbering} {g g' : Globals}

theorem Globals.Renumbered.struct? (renumbered : g.Renumbered ρ g') {t : TypeId} {s : StructType}
    (found : g.types.struct? t = some s) : g'.types.struct? (ρ.type t) = some (ρ.struct s) := by
  cases t with
  | builtin i => cases found
  | struct i => exact renumbered.structs i s found

/-! ## Expressions -/

/-- A call resolves to the renumbered function, for the keys of the two tables correspond. -/
theorem call_renumbered (renumbered : g.Renumbered ρ g') {name : String}
    {args : List Checked.Expr} {span : Span} {c : Checked.Expr}
    (checked : call g name args span = .ok c) :
    call g' name (args.map ρ.expr) span = .ok (ρ.expr c) := by
  obtain ⟨f, found, rfl⟩ := call_eq_ok.1 checked
  have types : (args.map ρ.expr).map Checked.Expr.type =
      (args.map Checked.Expr.type).map ρ.type := by
    simp [Function.comp_def]
  have listed := renumbered.fns f.1 f.2 (List.mem_of_find?_eq_some found)
  have answers := List.find?_some found
  refine call_eq_ok.2 ⟨(ρ.fnId f.1, ρ.signature f.2), ?_, ?_⟩
  · rw [types]
    exact (find?_eq_some_of_unique (eq_of_answers renumbered.keys)).2
      ⟨listed, Renumbering.answers_signature answers⟩
  · rw [Renumbering.expr, Renumbering.exprs_eq_map]
    rfl

section Expressions

variable {locals : List TypeId} {scopes : List Scope}

theorem forall₂_renumbered {α : Type} {as : List α} {cs : List Checked.Expr}
    {checks checks' : α → Check Checked.Expr}
    (parts : List.Forall₂ (fun a c => checks a = .ok c) as cs)
    (each : ∀ a ∈ as, ∀ {c}, checks a = .ok c → checks' a = .ok (ρ.expr c)) :
    List.Forall₂ (fun a c => checks' a = .ok c) as (cs.map ρ.expr) := by
  rw [List.forall₂_map_right_iff]
  exact Aligned.imp_mem parts each

/-- An expression that is right with one numbering is right with the other and checked into the
renumbered tree. -/
theorem expr_renumbered (renumbered : g.Renumbered ρ g') (e : Expr) :
    ∀ {c : Checked.Expr}, expr ⟨g, locals, scopes⟩ e = .ok c →
      expr ⟨g', locals.map ρ.type, scopes⟩ e = .ok (ρ.expr c) := by
  have distinct : FieldsDistinct (Env.types ⟨g, locals, scopes⟩) := renumbered.distinct
  have distinct' : FieldsDistinct (Env.types ⟨g', locals.map ρ.type, scopes⟩) :=
    renumbered.distinct'
  induction e using Expr.inductOn with
  | str value span =>
    intro c checked
    cases expr_str_eq_ok.1 checked
    rw [expr_str_eq_ok, Renumbering.expr, Env.types, Env.types, renumbered.string]
  | int value span =>
    intro c checked
    cases expr_int_eq_ok.1 checked
    rw [expr_int_eq_ok, Renumbering.expr, Env.types, Env.types, renumbered.int]
  | call fn args span ih =>
    intro c checked
    obtain ⟨cs, parts, called⟩ := (expr_call_eq_ok distinct).1 checked
    exact (expr_call_eq_ok distinct').2
      ⟨cs.map ρ.expr, forall₂_renumbered parts ih, call_renumbered renumbered called⟩
  | var name span =>
    intro c checked
    obtain ⟨i, t, found, entry, rfl⟩ := expr_var_eq_ok.1 checked
    refine expr_var_eq_ok.2 ⟨i, ρ.type t, found, ?_, by rw [Renumbering.expr]⟩
    rw [List.getElem?_map, entry, Option.map_some]
  | unary op operand span ih =>
    intro c checked
    obtain ⟨e, ok, called⟩ := expr_unary_eq_ok.1 checked
    exact expr_unary_eq_ok.2 ⟨ρ.expr e, ih ok, call_renumbered renumbered called⟩
  | binary op left right span ihLeft ihRight =>
    intro c checked
    obtain ⟨l, r, okLeft, okRight, called⟩ := (expr_binary_eq_ok distinct).1 checked
    exact (expr_binary_eq_ok distinct').2
      ⟨ρ.expr l, ρ.expr r, ihLeft okLeft, ihRight okRight, call_renumbered renumbered called⟩
  | paren inner span ih =>
    intro c checked
    exact expr_paren_eq_ok.2 (ih (expr_paren_eq_ok.1 checked))
  | init type fields fieldsSpan span ih =>
    intro c checked
    obtain ⟨i, s, values, resolved, entry, same, parts, typed, rfl⟩ :=
      (expr_init_eq_ok distinct).1 checked
    have length : values.length = s.fields.length := by
      rw [← parts.length_eq]
      simpa using congrArg List.length same
    refine (expr_init_eq_ok distinct').2 ⟨ρ.structIndex i, ρ.struct s,
      values.map ρ.expr, renumbered.names _ _ resolved, renumbered.structs i s entry, ?_,
      forall₂_renumbered parts ih, ?_, ?_⟩
    · rw [same, Renumbering.struct, List.map_map]
      rfl
    · have types := (fieldTypeErrors_eq_nil parts.length_eq length).1 typed
      refine (fieldTypeErrors_eq_nil (by simpa using parts.length_eq)
        (by simpa [Renumbering.struct] using length)).2 ?_
      have mapped := congrArg (List.map ρ.type) types
      simpa [Renumbering.struct, Renumbering.field, Function.comp_def] using mapped
    · rw [Renumbering.expr, Renumbering.exprs_eq_map]
      rfl
  | member base field span ih =>
    intro c checked
    obtain ⟨e, s, i, t, ok, struct, found, rfl⟩ := expr_member_eq_ok.1 checked
    refine expr_member_eq_ok.2 ⟨ρ.expr e, ρ.struct s, i, ρ.type t, ih ok, ?_, ?_, ?_⟩
    · rw [Renumbering.type_expr]
      exact renumbered.struct? struct
    · rw [Renumbering.field?_struct, found, Option.map_some]
    · rw [Renumbering.expr]

end Expressions

/-! ## States and blocks -/

/-- The types of the slots under their new numbers. -/
def BodyState.renumber (ρ : Renumbering) (s : BodyState) : BodyState :=
  { s with locals := s.locals.map ρ.type }

/-- Another node that returns just when the old one does. -/
def Analyzed.map {α β : Type} (f : α → β) (a : Analyzed α) : Analyzed β := ⟨f a.node, a.returns⟩

theorem BodyState.renumber_bind (s : BodyState) (name : String) (type : TypeId) :
    (s.renumber ρ).bind name (ρ.type type) = (s.bind name type).renumber ρ := by
  simp [BodyState.renumber, BodyState.bind]

theorem BodyState.renumber_bindAll (params : List Field) (s : BodyState) :
    (s.renumber ρ).bindAll (params.map ρ.field) = (s.bindAll params).renumber ρ := by
  induction params generalizing s with
  | nil => rfl
  | cons p params ih =>
    have step := ih (s.bind p.name p.type)
    rw [← BodyState.renumber_bind] at step
    exact step

theorem reachable_map (f : Checked.Stmt → Checked.Stmt) (as : List (Analyzed Checked.Stmt)) :
    reachable (as.map (Analyzed.map f)) = (reachable as).map f := by
  induction as with
  | nil => rfl
  | cons a as ih =>
    rw [List.map_cons, reachable, reachable, ih]
    cases out : a.returns <;> simp [Analyzed.map, out]

theorem unreachable_map (f : Checked.Stmt → Checked.Stmt) (as : List (Analyzed Checked.Stmt))
    (body : List Stmt) : unreachable (as.map (Analyzed.map f)) body = unreachable as body := by
  induction as generalizing body with
  | nil => rfl
  | cons a as ih =>
    cases body with
    | nil => rfl
    | cons b body =>
      rw [List.map_cons, unreachable, unreachable, ih]
      rfl

theorem closeBlock_map (body : List Stmt) (as : List (Analyzed Checked.Stmt)) :
    closeBlock body (as.map (Analyzed.map ρ.stmt)) =
      ((closeBlock body as).1.map ρ.stmts, (closeBlock body as).2) := by
  have returns : (as.map (Analyzed.map ρ.stmt)).any Analyzed.returns = as.any Analyzed.returns := by
    rw [List.any_map]
    rfl
  unfold closeBlock
  rw [reachable_map, unreachable_map, returns]
  simp only [Analyzed.map, Renumbering.stmts_eq_map]

/-! ## Statements -/

section Statements

variable {expected : TypeId}

/-- Closing a block drops the same statements under either numbering, for it looks only at which
of them return. -/
theorem block_renumbered_of_stmts {body : List Stmt} {s s' : BodyState}
    {b : Analyzed (List Checked.Stmt)} (checked : block g expected body s = (.ok b, s'))
    (inside : ∀ {s s' : BodyState} {as : List (Analyzed Checked.Stmt)},
      stmts g expected body s = (.ok as, s') →
      stmts g' (ρ.type expected) body (s.renumber ρ) =
        (.ok (as.map (Analyzed.map ρ.stmt)), s'.renumber ρ)) :
    block g' (ρ.type expected) body (s.renumber ρ) = (.ok (b.map ρ.stmts), s'.renumber ρ) := by
  obtain ⟨as, s₁, ran, rfl, rfl⟩ := block_eq_ok.1 checked
  refine block_eq_ok.2 ⟨as.map (Analyzed.map ρ.stmt), s₁.renumber ρ, inside ran, ?_, ?_⟩
  · rw [closeBlock_map]
  · rw [closeBlock_map]
    rfl

mutual

/-- A statement that is right leads to the renumbered statement and state. -/
theorem stmt_renumbered (renumbered : g.Renumbered ρ g') :
    ∀ (a : Stmt) {s s' : BodyState} {r : Analyzed Checked.Stmt},
      stmt g expected a s = (.ok r, s') →
      stmt g' (ρ.type expected) a (s.renumber ρ) = (.ok (r.map ρ.stmt), s'.renumber ρ)
  | .expr e, s, s', r, checked => by
    obtain ⟨c, ok, rfl, rfl⟩ := stmt_expr_eq_ok.1 checked
    refine stmt_expr_eq_ok.2 ⟨ρ.expr c, expr_renumbered renumbered e ok, ?_, rfl⟩
    rw [Analyzed.map, Renumbering.stmt]
  | .cond c, s, s', r, checked => by
    obtain ⟨b, ok, rfl⟩ := stmt_cond_eq_ok.1 checked
    refine stmt_cond_eq_ok.2 ⟨b.map ρ.chain, conditional_renumbered renumbered c ok, ?_⟩
    rw [Analyzed.map, Renumbering.stmt]
    rfl
  | .ret none span, s, s', r, checked => by
    obtain ⟨n, made, rfl, rfl⟩ := stmt_ret_eq_ok.1 checked
    obtain ⟨void, rfl⟩ := returned_none_eq_ok.1 made
    refine stmt_ret_eq_ok.2 ⟨.ret none, returned_none_eq_ok.2 ⟨?_, rfl⟩, ?_, rfl⟩
    · rw [← void]
      exact renumbered.void
    · rw [Analyzed.map, Renumbering.stmt, Option.map_none]
  | .ret (some e) span, s, s', r, checked => by
    obtain ⟨n, made, rfl, rfl⟩ := stmt_ret_eq_ok.1 checked
    obtain ⟨c, ok, typed, rfl⟩ := returned_some_eq_ok.1 made
    refine stmt_ret_eq_ok.2 ⟨.ret (some (ρ.expr c)),
      returned_some_eq_ok.2 ⟨ρ.expr c, expr_renumbered renumbered e ok, ?_, rfl⟩, ?_, rfl⟩
    · rw [Renumbering.type_expr, typed]
    · rw [Analyzed.map, Renumbering.stmt, Option.map_some]
  | .bind ident type value span, s, s', r, checked => by
    obtain ⟨c, ok, free, rfl, rfl⟩ := stmt_bind_eq_ok.1 checked
    obtain ⟨ok, annotated⟩ := boundValue_eq_ok.1 ok
    refine stmt_bind_eq_ok.2 ⟨ρ.expr c, boundValue_eq_ok.2
      ⟨expr_renumbered renumbered value ok, fun t written => ?_⟩, free, ?_, ?_⟩
    · rw [Renumbering.type_expr]
      exact renumbered.names _ _ (annotated t written)
    · rw [Analyzed.map, Renumbering.stmt, BodyState.renumber, List.length_map]
    · rw [Renumbering.type_expr, BodyState.renumber_bind]

/-- Statements that are right lead to the renumbered statements and state. -/
theorem stmts_renumbered (renumbered : g.Renumbered ρ g') :
    ∀ (body : List Stmt) {s s' : BodyState} {as : List (Analyzed Checked.Stmt)},
      stmts g expected body s = (.ok as, s') →
      stmts g' (ρ.type expected) body (s.renumber ρ) =
        (.ok (as.map (Analyzed.map ρ.stmt)), s'.renumber ρ)
  | [], s, s', as, checked => by
    obtain ⟨rfl, rfl⟩ := stmts_nil_eq_ok.1 checked
    exact stmts_nil_eq_ok.2 ⟨rfl, rfl⟩
  | a :: body, s, s', as, checked => by
    obtain ⟨x, xs, s₁, first, rest, rfl⟩ := (stmts_cons_eq_ok renumbered.distinct).1 checked
    exact (stmts_cons_eq_ok renumbered.distinct').2 ⟨x.map ρ.stmt, xs.map (Analyzed.map ρ.stmt),
      s₁.renumber ρ, stmt_renumbered renumbered a first, stmts_renumbered renumbered body rest, rfl⟩

/-- The condition keeps its type, for `Int` is renumbered to itself. -/
theorem conditional_renumbered (renumbered : g.Renumbered ρ g') :
    ∀ (c : Conditional) {s s' : BodyState} {r : Analyzed Checked.Chain},
      conditional g expected c s = (.ok r, s') →
      conditional g' (ρ.type expected) c (s.renumber ρ) = (.ok (r.map ρ.chain), s'.renumber ρ)
  | .mk e body rest span, s, s', r, checked => by
    obtain ⟨c, b, o, s₁, ok, int, inside, others, rfl⟩ := conditional_eq_ok.1 checked
    refine conditional_eq_ok.2 ⟨ρ.expr c, b.map ρ.stmts, o.map ρ.chain, s₁.renumber ρ,
      expr_renumbered renumbered e ok, ?_,
      block_renumbered_of_stmts inside (stmts_renumbered renumbered body),
      otherwise_renumbered renumbered rest others, ?_⟩
    · rw [Renumbering.type_expr, int, renumbered.int]
    · rw [Analyzed.map, Renumbering.chain]
      rfl

/-- What follows a block is checked into its renumbered form. -/
theorem otherwise_renumbered (renumbered : g.Renumbered ρ g') :
    ∀ (o : Otherwise) {s s' : BodyState} {r : Analyzed Checked.Chain},
      otherwise g expected o s = (.ok r, s') →
      otherwise g' (ρ.type expected) o (s.renumber ρ) = (.ok (r.map ρ.chain), s'.renumber ρ)
  | .nothing, s, s', r, checked => by
    obtain ⟨rfl, rfl⟩ := otherwise_nothing_eq_ok.1 checked
    exact otherwise_nothing_eq_ok.2 ⟨by rw [Analyzed.map, Renumbering.chain], rfl⟩
  | .elseIf c, s, s', r, checked => by
    rw [otherwise_elseIf_eq_ok renumbered.distinct] at checked
    rw [otherwise_elseIf_eq_ok renumbered.distinct']
    exact conditional_renumbered renumbered c checked
  | .block body, s, s', r, checked => by
    obtain ⟨b, inside, rfl⟩ := otherwise_block_eq_ok.1 checked
    refine otherwise_block_eq_ok.2 ⟨b.map ρ.stmts,
      block_renumbered_of_stmts inside (stmts_renumbered renumbered body), ?_⟩
    rw [Analyzed.map, Renumbering.chain]
    rfl

end

end Statements

/-- A function that checks makes the renumbered function, with the same warnings. -/
theorem fn_renumbered (renumbered : g.Renumbered ρ g') {d : FnDecl} {signature : Signature}
    {r : Checked.Fn × List Warning} (checked : fn g d signature = .ok r) :
    fn g' d (ρ.signature signature) = .ok (ρ.fn r.1, r.2) := by
  obtain ⟨b, s, inside, returns, rfl⟩ := fn_eq_ok.1 checked
  refine fn_eq_ok.2 ⟨b.map ρ.stmts, s.renumber ρ, ?_, ?_, ?_⟩
  · have bound := BodyState.renumber_bindAll (ρ := ρ) signature.params .start
    have here := block_renumbered_of_stmts inside (stmts_renumbered renumbered d.body)
    rw [← bound] at here
    exact here
  · rcases returns with void | all
    · left
      rw [renumbered.void, ← void]
      rfl
    · exact .inr all
  · rw [Renumbering.fn, BodyState.renumber, List.length_map]
    rfl

/-! ## Entries of the tables -/

section Entries

variable {names names' : TypeNames}

/-- Fields or parameters have one list of types, since a name has one type. -/
theorem fields_unique {α : Type} {as : List α} {label type : α → String} {fs fs' : List Field}
    (made : List.Forall₂ (fun a f => Field.name f = label a ∧
      names.resolve? (type a) = some f.type) as fs)
    (made' : List.Forall₂ (fun a f => Field.name f = label a ∧
      names.resolve? (type a) = some f.type) as fs') : fs = fs' := by
  refine List.right_unique_forall₂' ?_ made made'
  rintro a ⟨name, type⟩ ⟨name', type'⟩ ⟨rfl, here⟩ ⟨rfl, there⟩
  cases here.symm.trans there
  rfl

theorem StructFor.unique {d : StructDecl} {s s' : StructType} (made : StructFor names d s)
    (made' : StructFor names d s') : s = s' := by
  rcases s with ⟨name, fields⟩
  rcases s' with ⟨name', fields'⟩
  cases made.name.trans made'.name.symm
  cases fields_unique made.fields made'.fields
  rfl

theorem HostSignatureFor.unique {b : Builtin} {s s' : Signature}
    (made : HostSignatureFor names b s) (made' : HostSignatureFor names b s') : s = s' := by
  rcases s with ⟨name, params, returns⟩
  rcases s' with ⟨name', params', returns'⟩
  cases made.name.trans made'.name.symm
  cases fields_unique made.params made'.params
  cases made.returns.symm.trans made'.returns
  rfl

theorem SignatureFor.unique {d : FnDecl} {s s' : Signature} (made : SignatureFor names d s)
    (made' : SignatureFor names d s') : s = s' := by
  rcases s with ⟨name, params, returns⟩
  rcases s' with ⟨name', params', returns'⟩
  cases made.name.trans made'.name.symm
  cases fields_unique made.params made'.params
  cases made.returns.symm.trans made'.returns
  rfl

variable (carried : ∀ name t, names.resolve? name = some t →
  names'.resolve? name = some (ρ.type t))

include carried

theorem fields_renumbered {α : Type} {as : List α} {label type : α → String} {fs : List Field}
    (made : List.Forall₂ (fun a f => Field.name f = label a ∧
      names.resolve? (type a) = some f.type) as fs) :
    List.Forall₂ (fun a f => Field.name f = label a ∧
      names'.resolve? (type a) = some f.type) as (fs.map ρ.field) := by
  rw [List.forall₂_map_right_iff]
  exact made.imp fun a f bound => ⟨bound.1, carried _ _ bound.2⟩

theorem StructFor.renumber {d : StructDecl} {s : StructType} (made : StructFor names d s) :
    StructFor names' d (ρ.struct s) :=
  ⟨made.name, fields_renumbered carried made.fields⟩

theorem HostSignatureFor.renumber {b : Builtin} {s : Signature}
    (made : HostSignatureFor names b s) : HostSignatureFor names' b (ρ.signature s) :=
  ⟨made.name, fields_renumbered carried made.params, carried _ _ made.returns⟩

theorem SignatureFor.renumber {d : FnDecl} {s : Signature} (made : SignatureFor names d s) :
    SignatureFor names' d (ρ.signature s) :=
  ⟨made.name, fields_renumbered carried made.params, carried _ _ made.returns⟩

end Entries

end NominalScript.Check
