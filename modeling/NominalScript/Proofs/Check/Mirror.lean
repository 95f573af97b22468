import NominalScript.Proofs.Check.Report
import NominalScript.Proofs.Typing.Body
import NominalScript.Script

/-!
# Nothing is lost on the way through a check

A check that fails says why, and a program that passes has everything its source
has: entry by entry the declarations, and inside them the arguments of a call, the
fields of a literal and the statements of a block.  Only what stands after a statement
that always returns is left out.

`ExprFor`, `StmtFor`, `BlockFor` and their companions relate a checked tree to the tree
it was made from, part by part and in order.  Which statements always return is said
of the source alone, by `Typing.FallsThrough`.
-/

namespace NominalScript.Mirror

open Syntax Check
open Typing (FallsThrough)

/-! ## Trees and what they were made from -/

/-- A checked expression has one part for each part of its source.  An operator is a
call of one or two arguments, and the values of a literal stand in the order of the
declared fields, which is the order they are given in. -/
inductive ExprFor (types : TypeTable) : Expr → Checked.Expr → Prop
  | str {value : String} {span : Span} {t : TypeId} :
    ExprFor types (.str value span) (.const (.str value) t)
  | int {value : Int64} {span : Span} {t : TypeId} :
    ExprFor types (.int value span) (.const (.int value) t)
  | call {fn : Ident} {args : List Expr} {span : Span} {id : FnId} {cs : List Checked.Expr}
    {t : TypeId} :
    List.Forall₂ (ExprFor types) args cs → ExprFor types (.call fn args span) (.call id cs t)
  | var {name : String} {span : Span} {i : Nat} {t : TypeId} :
    ExprFor types (.var name span) (.slot i t)
  | unary {op : Ident} {operand : Expr} {span : Span} {id : FnId} {c : Checked.Expr} {t : TypeId} :
    ExprFor types operand c → ExprFor types (.unary op operand span) (.call id [c] t)
  | binary {op : Ident} {left right : Expr} {span : Span} {id : FnId} {l r : Checked.Expr}
    {t : TypeId} :
    ExprFor types left l → ExprFor types right r →
    ExprFor types (.binary op left right span) (.call id [l, r] t)
  | paren {inner : Expr} {span : Span} {c : Checked.Expr} :
    ExprFor types inner c → ExprFor types (.paren inner span) c
  | init {type : Ident} {fields : List (FieldInit Expr)} {fieldsSpan span : Span} {i : Nat}
    {s : StructType} {cs : List Checked.Expr} {t : TypeId} :
    types.structs[i]? = some s → s.name = type.name →
    fields.map (·.ident.name) = s.fields.map Field.name →
    List.Forall₂ (fun f c => ExprFor types (FieldInit.value f) c) fields cs →
    ExprFor types (.init type fields fieldsSpan span) (.init i cs t)
  | member {base : Expr} {field : Ident} {span : Span} {c : Checked.Expr} {i : Nat} {t : TypeId} :
    ExprFor types base c → ExprFor types (.member base field span) (.field c i t)

mutual

/-- A checked statement is of the sort of its source. -/
inductive StmtFor (types : TypeTable) : Stmt → Checked.Stmt → Prop
  | expr {e : Expr} {c : Checked.Expr} : ExprFor types e c → StmtFor types (.expr e) (.expr c)
  | cond {c : Conditional} {chain : Checked.Chain} :
    ConditionalFor types c chain → StmtFor types (.cond c) (.cond chain)
  | ret {e : Expr} {span : Span} {c : Checked.Expr} :
    ExprFor types e c → StmtFor types (.ret (some e) span) (.ret (some c))
  | retVoid {span : Span} : StmtFor types (.ret none span) (.ret none)
  | bind {ident : Ident} {type : Option Ident} {value : Expr} {span : Span} {i : Nat}
    {c : Checked.Expr} :
    ExprFor types value c → StmtFor types (.bind ident type value span) (.bind i c)

/-- A checked block has one statement for each of its source, up to the first that
always returns. -/
inductive BlockFor (types : TypeTable) : List Stmt → List Checked.Stmt → Prop
  | nil : BlockFor types [] []
  | last {a : Stmt} {rest : List Stmt} {n : Checked.Stmt} :
    ¬ FallsThrough a → StmtFor types a n → BlockFor types (a :: rest) [n]
  | cons {a : Stmt} {rest : List Stmt} {n : Checked.Stmt} {ns : List Checked.Stmt} :
    FallsThrough a → StmtFor types a n → BlockFor types rest ns →
    BlockFor types (a :: rest) (n :: ns)

/-- The first branch of a chain is the conditional, the others are what follows it. -/
inductive ConditionalFor (types : TypeTable) : Conditional → Checked.Chain → Prop
  | mk {e : Expr} {body : List Stmt} {rest : Otherwise} {span : Span} {c : Checked.Expr}
    {ns : List Checked.Stmt} {chain : Checked.Chain} :
    ExprFor types e c → BlockFor types body ns → OtherwiseFor types rest chain →
    ConditionalFor types (.mk e body rest span) (.branch c ns chain)

inductive OtherwiseFor (types : TypeTable) : Otherwise → Checked.Chain → Prop
  | nothing : OtherwiseFor types .nothing .nothing
  | elseIf {c : Conditional} {chain : Checked.Chain} :
    ConditionalFor types c chain → OtherwiseFor types (.elseIf c) chain
  | block {body : List Stmt} {ns : List Checked.Stmt} :
    BlockFor types body ns → OtherwiseFor types (.block body) (.otherwise ns)

end

/-- A checked function and its declaration. -/
structure FnFor (types : TypeTable) (d : FnDecl) (f : Checked.Fn) : Prop where
  signature : SignatureFor types.names d f.signature
  body : BlockFor types d.body f.body

/-- A checked program has the structs and the functions of its source, in order. -/
structure ProgramFor (p : Program) (q : Checked.Program) : Prop where
  structs : List.Forall₂ (StructFor q.types.names) p.structs q.types.structs
  fns : List.Forall₂ (FnFor q.types) p.fns q.fns

/-! ## What checking makes -/

/-- An expression that is right is checked node by node, each field of a literal at its place in
the struct. -/
theorem exprFor_of_expr (env : Env) (distinct : FieldsDistinct env.types) (e : Expr) :
    ∀ {c : Checked.Expr}, expr env e = .ok c → ExprFor env.types e c := by
  induction e using Expr.inductOn with
  | str value span =>
    intro c checked
    cases expr_str_eq_ok.1 checked
    exact .str
  | int value span =>
    intro c checked
    cases expr_int_eq_ok.1 checked
    exact .int
  | call fn args span ih =>
    intro c checked
    obtain ⟨cs, parts, called⟩ := (expr_call_eq_ok distinct).1 checked
    obtain ⟨_, _, rfl⟩ := call_eq_ok.1 called
    exact .call (Aligned.imp_mem parts fun a mem c ok => ih a mem ok)
  | var name span =>
    intro c checked
    obtain ⟨i, t, _, _, rfl⟩ := expr_var_eq_ok.1 checked
    exact .var
  | unary op operand span ih =>
    intro c checked
    obtain ⟨e, ok, called⟩ := expr_unary_eq_ok.1 checked
    obtain ⟨_, _, rfl⟩ := call_eq_ok.1 called
    exact .unary (ih ok)
  | binary op left right span ihLeft ihRight =>
    intro c checked
    obtain ⟨l, r, okLeft, okRight, called⟩ := (expr_binary_eq_ok distinct).1 checked
    obtain ⟨_, _, rfl⟩ := call_eq_ok.1 called
    exact .binary (ihLeft okLeft) (ihRight okRight)
  | paren inner span ih =>
    intro c checked
    exact .paren (ih (expr_paren_eq_ok.1 checked))
  | init type fields fieldsSpan span ih =>
    intro c checked
    obtain ⟨i, s, values, resolved, entry, same, parts, _, rfl⟩ :=
      (expr_init_eq_ok distinct).1 checked
    rw [List.map_map] at same
    refine .init entry ?_ same (Aligned.imp_mem parts fun f mem c ok => ih f mem ok)
    have named : (env.types.structs.map StructType.name)[i]? = some type.name :=
      TypeNames.getElem?_of_resolve?_struct resolved
    rw [List.getElem?_map, entry] at named
    exact Option.some.inj named
  | member base field span ih =>
    intro c checked
    obtain ⟨e, s, i, t, ok, _, _, rfl⟩ := expr_member_eq_ok.1 checked
    exact .member (ih ok)

variable {g : Globals} {expected : TypeId}

/-- A block is what was checked of it, up to the first statement that returns. -/
theorem blockFor_reachable {types : TypeTable} {body : List Stmt}
    {as : List (Analyzed Checked.Stmt)}
    (made : List.Forall₂ (fun a r => StmtFor types a r.node ∧ (r.returns = false ↔ FallsThrough a))
      body as) : BlockFor types body (reachable as) := by
  induction made with
  | nil => exact .nil
  | @cons a r body as first rest ih =>
    rw [reachable]
    split
    · next returns =>
      refine .last (fun falls => ?_) first.1
      rw [first.2.2 falls] at returns
      cases returns
    · next falls => exact .cons (first.2.1 (by simpa using falls)) first.1 ih

mutual

/-- A statement that is right is checked into one of the same sort. -/
theorem stmtFor_of_stmt (distinct : FieldsDistinct g.types) :
    ∀ (a : Stmt) {s s' : BodyState} {r : Analyzed Checked.Stmt},
      stmt g expected a s = (.ok r, s') → StmtFor g.types a r.node
  | .expr e, s, s', r, checked => by
    obtain ⟨c, ok, rfl, _⟩ := stmt_expr_eq_ok.1 checked
    exact .expr (exprFor_of_expr (s.env g) distinct e ok)
  | .cond c, s, s', r, checked => by
    obtain ⟨b, ok, rfl⟩ := stmt_cond_eq_ok.1 checked
    exact .cond (conditionalFor_of_conditional distinct c ok)
  | .ret (some e) span, s, s', r, checked => by
    obtain ⟨n, made, rfl, _⟩ := stmt_ret_eq_ok.1 checked
    obtain ⟨c, ok, _, rfl⟩ := returned_some_eq_ok.1 made
    exact .ret (exprFor_of_expr (s.env g) distinct e ok)
  | .ret none span, s, s', r, checked => by
    obtain ⟨n, made, rfl, _⟩ := stmt_ret_eq_ok.1 checked
    obtain ⟨_, rfl⟩ := returned_none_eq_ok.1 made
    exact .retVoid
  | .bind ident type value span, s, s', r, checked => by
    obtain ⟨c, ok, _, rfl, _⟩ := stmt_bind_eq_ok.1 checked
    exact .bind (exprFor_of_expr (s.env g) distinct value (boundValue_eq_ok.1 ok).1)

/-- All statements are checked, those that cannot be reached too; which of them return is said
along with them. -/
theorem forall₂_of_stmts (distinct : FieldsDistinct g.types) :
    ∀ (body : List Stmt) {s s' : BodyState} {as : List (Analyzed Checked.Stmt)},
      stmts g expected body s = (.ok as, s') →
      List.Forall₂ (fun a r => StmtFor g.types a r.node ∧ (r.returns = false ↔ FallsThrough a))
        body as
  | [], s, s', as, checked => by
    obtain ⟨rfl, _⟩ := stmts_nil_eq_ok.1 checked
    exact .nil
  | a :: body, s, s', as, checked => by
    obtain ⟨x, xs, s₁, first, rest, rfl⟩ := (stmts_cons_eq_ok distinct).1 checked
    exact .cons ⟨stmtFor_of_stmt distinct a first, Typing.stmt_returns distinct a first⟩
      (forall₂_of_stmts distinct body rest)

theorem conditionalFor_of_conditional (distinct : FieldsDistinct g.types) :
    ∀ (c : Conditional) {s s' : BodyState} {r : Analyzed Checked.Chain},
      conditional g expected c s = (.ok r, s') → ConditionalFor g.types c r.node
  | .mk e body rest span, s, s', r, checked => by
    obtain ⟨c, b, o, s₁, ok, _, inside, others, rfl⟩ := conditional_eq_ok.1 checked
    obtain ⟨as, s₂, ran, rfl, _⟩ := block_eq_ok.1 inside
    exact .mk (exprFor_of_expr (s.env g) distinct e ok)
      (blockFor_reachable (forall₂_of_stmts distinct body ran))
      (otherwiseFor_of_otherwise distinct rest others)

/-- What follows a block is checked into what follows the checked block, dead statements
dropped. -/
theorem otherwiseFor_of_otherwise (distinct : FieldsDistinct g.types) :
    ∀ (o : Otherwise) {s s' : BodyState} {r : Analyzed Checked.Chain},
      otherwise g expected o s = (.ok r, s') → OtherwiseFor g.types o r.node
  | .nothing, s, s', r, checked => by
    obtain ⟨rfl, _⟩ := otherwise_nothing_eq_ok.1 checked
    exact .nothing
  | .elseIf c, s, s', r, checked =>
    .elseIf (conditionalFor_of_conditional distinct c ((otherwise_elseIf_eq_ok distinct).1 checked))
  | .block body, s, s', r, checked => by
    obtain ⟨b, inside, rfl⟩ := otherwise_block_eq_ok.1 checked
    obtain ⟨as, s₂, ran, rfl, _⟩ := block_eq_ok.1 inside
    exact .block (blockFor_reachable (forall₂_of_stmts distinct body ran))

end

theorem fnFor_of_fn (distinct : FieldsDistinct g.types) {d : FnDecl} {s : Checked.Signature}
    {r : Checked.Fn × List Warning} (declared : SignatureFor g.types.names d s)
    (checked : fn g d s = .ok r) : FnFor g.types d r.1 := by
  obtain ⟨b, s', inside, _, rfl⟩ := fn_eq_ok.1 checked
  obtain ⟨as, _, ran, rfl, _⟩ := block_eq_ok.1 inside
  exact ⟨declared, blockFor_reachable (forall₂_of_stmts distinct d.body ran)⟩

theorem programFor_of_check {p : Program} {host : Builtins} {a : Accepted}
    (accepted : p.check host = .ok a) : ProgramFor p a.program := by
  obtain ⟨types, builtins, users, fns, tables, bodies, rfl⟩ := check_eq_ok.1 accepted
  refine ⟨tables.structs, ?_⟩
  rw [List.forall₂_map_right_iff]
  refine (Aligned.through_zip tables.fns bodies).imp fun d r made => ?_
  obtain ⟨s, declared, checked⟩ := made
  exact fnFor_of_fn tables.fieldsDistinct declared checked

end NominalScript.Mirror

namespace NominalScript

open Check

/-- A check that fails reports at least one diagnostic, and all of them as errors.  One
that succeeds keeps every declaration with all its parts, and reports nothing but
warnings. -/
theorem Syntax.Program.check_complete (p : Syntax.Program) (host : Builtins) :
    match p.check host with
    | .error es =>
      (ScriptError.check (p.typeNames host.types) es).diagnostics ≠ [] ∧
        ∀ d ∈ (ScriptError.check (p.typeNames host.types) es).diagnostics, d.level = .error
    | .ok a => Mirror.ProgramFor p a.program ∧ ∀ d ∈ reported (.ok a), d.level = .warning := by
  cases checked : p.check host with
  | error es =>
    have reports : (p.check host).Reports :=
      Syntax.Program.check_blames joinsBlame_true trivial (fun _ _ => trivial) host
    refine ⟨fun none => (reports es checked).1 (List.map_eq_nil_iff.1 none), fun d mem => ?_⟩
    obtain ⟨e, _, rfl⟩ := List.mem_map.1 mem
    rfl
  | ok a =>
    refine ⟨Mirror.programFor_of_check checked, fun d mem => ?_⟩
    obtain ⟨w, _, rfl⟩ := List.mem_map.1 mem
    rfl

end NominalScript
