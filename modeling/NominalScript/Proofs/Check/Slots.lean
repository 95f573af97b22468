import NominalScript.Proofs.Check.Reachability
import NominalScript.Proofs.Check.Scopes
import NominalScript.Proofs.Slots

/-!
# Checking hands out slots in source order

While a body is checked, the state knows how many slots are taken and which name stands
for which slot.  `InScope` ties the state to the scopes of `Slots.StmtResolved`: the same
names, each for the slot of its variable, which has the variable's type.  Every step of
checking that succeeds goes from scopes to scopes as the judgment does and takes as many
slots as there are `let`s (`stmt_letCount`), so the next slot is always the number of
parameters and of `let`s before it.
-/

namespace NominalScript.Slots

open Syntax Check
open Checked (Signature Var)

/-- A slot is that of the variable, and has its type. -/
def Holds (locals : List TypeId) (i : Nat) (v : Var) : Prop :=
  v.slot = i ∧ locals[i]? = some v.type

/-- The names in scope, each for the slot of its variable. -/
def InScope (locals : List TypeId) (scopes : List Check.Scope) (vars : List Scope) : Prop :=
  ScopesAgree (Holds locals) scopes vars

theorem nearest_of_lookup {vars : List Scope} {name : String} {v : Var}
    (found : vars.findSome? (·.lookup name) = some v) : Nearest vars name v := by
  obtain ⟨inner, scope, outer, rfl, here, absent⟩ := List.findSome?_eq_some_iff.1 found
  refine ⟨inner, scope, outer, rfl, fun s mem => lookup_eq_none.1 (absent s mem), ?_⟩
  obtain ⟨_, _, rfl, _⟩ := List.lookup_eq_some_iff.1 here
  simp

/-! ## Expressions -/

/-- The variables of an expression that is right are, in source order, those its names stand
for. -/
theorem resolved_of_expr {env : Env} {vars : List Scope} (distinct : FieldsDistinct env.types)
    (inScope : InScope env.locals env.scopes vars) (e : Expr) :
    ∀ {c : Checked.Expr}, expr env e = .ok c → Resolved vars e c := by
  -- Arguments and field values, which are resolved one by one.
  have ofAll : ∀ {α : Type} {f : α → Expr} {as : List α} {cs : List Checked.Expr},
      List.Forall₂ (fun a c => Resolved vars (f a) c) as cs →
      List.Forall₂ (Nearest vars) (as.flatMap fun a => (f a).names)
        (cs.flatMap Checked.Expr.vars) :=
    fun parts => List.rel_flatMap parts fun _ _ part => part
  induction e using Expr.inductOn with
  | str value span =>
    intro c checked
    cases expr_str_eq_ok.1 checked
    exact .nil
  | int value span =>
    intro c checked
    cases expr_int_eq_ok.1 checked
    exact .nil
  | call fn args span ih =>
    intro c checked
    obtain ⟨cs, parts, called⟩ := (expr_call_eq_ok distinct).1 checked
    obtain ⟨_, _, rfl⟩ := call_eq_ok.1 called
    rw [Resolved, Expr.names, Checked.Expr.vars, Expr.namesOfAll_eq_flatMap,
      Checked.Expr.varsOfAll_eq_flatMap]
    exact ofAll (Aligned.imp_mem parts fun a mem c ok => ih a mem ok)
  | var name span =>
    intro c checked
    obtain ⟨i, t, found, typed, rfl⟩ := expr_var_eq_ok.1 checked
    obtain ⟨v, here, rfl, typed'⟩ := ScopesAgree.left inScope found
    cases typed.symm.trans typed'
    exact .cons (nearest_of_lookup here) .nil
  | unary op operand span ih =>
    intro c checked
    obtain ⟨e, ok, called⟩ := expr_unary_eq_ok.1 checked
    obtain ⟨_, _, rfl⟩ := call_eq_ok.1 called
    have inside := ih ok
    rw [Resolved] at inside ⊢
    simpa [Expr.names, Checked.Expr.vars, Checked.Expr.varsOfAll] using inside
  | binary op left right span ihLeft ihRight =>
    intro c checked
    obtain ⟨l, r, okLeft, okRight, called⟩ := (expr_binary_eq_ok distinct).1 checked
    obtain ⟨_, _, rfl⟩ := call_eq_ok.1 called
    have both : List.Forall₂ (Nearest vars) (left.names ++ right.names) (l.vars ++ r.vars) :=
      List.rel_append (ihLeft okLeft) (ihRight okRight)
    rw [Resolved]
    simpa [Expr.names, Checked.Expr.vars, Checked.Expr.varsOfAll] using both
  | paren inner span ih =>
    intro c checked
    exact ih (expr_paren_eq_ok.1 checked)
  | init type fields fieldsSpan span ih =>
    intro c checked
    obtain ⟨i, s, values, _, _, _, parts, _, rfl⟩ := (expr_init_eq_ok distinct).1 checked
    rw [Resolved, Expr.names, Checked.Expr.vars, Expr.namesOfFields_eq_flatMap,
      Checked.Expr.varsOfAll_eq_flatMap]
    exact ofAll (Aligned.imp_mem parts fun f mem c ok => ih f mem ok)
  | member base field span ih =>
    intro c checked
    obtain ⟨e, s, i, t, ok, _, _, rfl⟩ := expr_member_eq_ok.1 checked
    have inside := ih ok
    exact inside

/-! ## Slots taken -/

section Counts

variable {g : Globals} {expected : TypeId}

mutual

/-- A statement takes one slot for each `let` in it. -/
theorem stmt_letCount (distinct : FieldsDistinct g.types) :
    ∀ (a : Stmt) {s s' : BodyState} {r : Analyzed Checked.Stmt},
      stmt g expected a s = (.ok r, s') → s'.locals.length = s.locals.length + a.letCount
  | .expr e, s, s', r, checked => by
    obtain ⟨_, _, _, rfl⟩ := stmt_expr_eq_ok.1 checked
    rfl
  | .cond c, s, s', r, checked => by
    obtain ⟨b, ok, _⟩ := stmt_cond_eq_ok.1 checked
    exact conditional_letCount distinct c ok
  | .ret value span, s, s', r, checked => by
    obtain ⟨_, _, _, rfl⟩ := stmt_ret_eq_ok.1 checked
    rfl
  | .bind ident type value span, s, s', r, checked => by
    obtain ⟨c, _, _, _, rfl⟩ := stmt_bind_eq_ok.1 checked
    exact List.length_append

theorem stmts_letCount (distinct : FieldsDistinct g.types) :
    ∀ (as : List Stmt) {s s' : BodyState} {rs : List (Analyzed Checked.Stmt)},
      stmts g expected as s = (.ok rs, s') →
      s'.locals.length = s.locals.length + Stmt.letCountOfAll as
  | [], s, s', rs, checked => by
    obtain ⟨_, rfl⟩ := stmts_nil_eq_ok.1 checked
    rfl
  | a :: as, s, s', rs, checked => by
    obtain ⟨x, xs, s₁, first, rest, _⟩ := (stmts_cons_eq_ok distinct).1 checked
    rw [stmts_letCount distinct as rest, stmt_letCount distinct a first, Stmt.letCountOfAll,
      Nat.add_assoc]

theorem conditional_letCount (distinct : FieldsDistinct g.types) :
    ∀ (c : Conditional) {s s' : BodyState} {r : Analyzed Checked.Chain},
      conditional g expected c s = (.ok r, s') → s'.locals.length = s.locals.length + c.letCount
  | .mk e body rest span, s, s', r, checked => by
    obtain ⟨c, b, o, s₁, _, _, block, others, _⟩ := conditional_eq_ok.1 checked
    obtain ⟨as, s₂, inner, _, rfl⟩ := block_eq_ok.1 block
    have inside := stmts_letCount distinct body inner
    rw [otherwise_letCount distinct rest others, Conditional.letCount, ← Nat.add_assoc]
    exact congrArg (· + rest.letCount) inside

/-- What follows a block takes a slot for each `let` in it. -/
theorem otherwise_letCount (distinct : FieldsDistinct g.types) :
    ∀ (o : Otherwise) {s s' : BodyState} {r : Analyzed Checked.Chain},
      otherwise g expected o s = (.ok r, s') → s'.locals.length = s.locals.length + o.letCount
  | .nothing, s, s', r, checked => by
    obtain ⟨_, rfl⟩ := otherwise_nothing_eq_ok.1 checked
    rfl
  | .elseIf c, s, s', r, checked =>
    conditional_letCount distinct c ((otherwise_elseIf_eq_ok distinct).1 checked)
  | .block body, s, s', r, checked => by
    obtain ⟨b, block, _⟩ := otherwise_block_eq_ok.1 checked
    obtain ⟨as, s₂, inner, _, rfl⟩ := block_eq_ok.1 block
    have inside := stmts_letCount distinct body inner
    exact inside

end

end Counts

/-! ## Bodies -/

section Scopes

variable {s s' : BodyState} {vars : List Scope}

theorem InScope.grow {scopes : List Check.Scope} (inScope : InScope s.locals scopes vars)
    (grown : s.locals <+: s'.locals) : InScope s'.locals scopes vars :=
  ScopesAgree.mono inScope fun _ _ held => ⟨held.1, getElem?_of_grown grown held.2⟩

theorem InScope.leave (inScope : InScope s.locals s.scopes vars) (kept : s.Keeps s') :
    InScope s'.locals s'.scopes vars := by
  rw [kept.scopes]
  exact inScope.grow kept.locals

theorem InScope.bind {scope : Scope} {outer : List Scope} (name : String) (t : TypeId)
    (inScope : InScope s.locals s.scopes (scope :: outer)) :
    InScope (s.bind name t).locals (s.bind name t).scopes
      (((name, ⟨s.locals.length, t⟩) :: scope) :: outer) := by
  refine ScopesAgree.bind (inScope.grow (s.bind_grows name t).locals) ⟨rfl, ?_⟩ t
  simp [BodyState.bind]

theorem InScope.new {scope : Scope} {outer : List Scope} {name : String}
    (inScope : InScope s.locals s.scopes (scope :: outer)) (free : s.isBoundHere name = false) :
    name ∉ scope.map Prod.fst := by
  rcases s with ⟨locals, scopes, warnings⟩
  cases inScope with
  | cons entries _ =>
    rcases @lookup_agree _ _ name _ _ entries with ⟨_, absent⟩ | ⟨i, v, here, _, _⟩
    · exact lookup_eq_none.1 absent
    · simp [BodyState.isBoundHere, here] at free

end Scopes

section Bodies

variable {g : Globals} {expected : TypeId}

mutual

/-- A statement that is right leads to the scopes that the judgment has behind it, and the state
still agrees with these. -/
theorem resolved_of_stmt (distinct : FieldsDistinct g.types) :
    ∀ (a : Stmt) {s s' : BodyState} {r : Analyzed Checked.Stmt} {vars : List Scope},
      stmt g expected a s = (.ok r, s') → vars ≠ [] → InScope s.locals s.scopes vars →
      ∃ vars', StmtResolved vars s.locals.length a r.node vars' ∧ vars' ≠ [] ∧
        InScope s'.locals s'.scopes vars'
  | .expr e, s, s', r, vars, checked, opened, inScope => by
    obtain ⟨c, ok, rfl, rfl⟩ := stmt_expr_eq_ok.1 checked
    exact ⟨vars, .expr (@resolved_of_expr (s'.env g) _ distinct inScope e _ ok), opened, inScope⟩
  | .cond c, s, s', r, vars, checked, opened, inScope => by
    obtain ⟨b, ok, rfl⟩ := stmt_cond_eq_ok.1 checked
    exact ⟨vars, .cond (resolved_of_conditional distinct c ok inScope), opened,
      inScope.leave (.of_conditional ok)⟩
  | .ret value span, s, s', r, vars, checked, opened, inScope => by
    obtain ⟨n, made, rfl, rfl⟩ := stmt_ret_eq_ok.1 checked
    cases value with
    | none =>
      obtain ⟨_, rfl⟩ := returned_none_eq_ok.1 made
      exact ⟨vars, .retVoid, opened, inScope⟩
    | some e =>
      obtain ⟨c, ok, _, rfl⟩ := returned_some_eq_ok.1 made
      exact ⟨vars, .ret (@resolved_of_expr (s'.env g) _ distinct inScope e _ ok), opened, inScope⟩
  | .bind ident type value span, s, s', r, vars, checked, opened, inScope => by
    obtain ⟨c, made, free, rfl, rfl⟩ := stmt_bind_eq_ok.1 checked
    obtain ⟨ok, _⟩ := boundValue_eq_ok.1 made
    have resolved := @resolved_of_expr (s.env g) _ distinct inScope value _ ok
    cases vars with
    | nil => exact absurd rfl opened
    | cons scope outer =>
      exact ⟨_, .bind resolved (inScope.new free), List.cons_ne_nil _ _,
        inScope.bind ident.name c.type⟩

/-- Each statement counts its slots on from those that the ones before it have taken. -/
theorem resolved_of_stmts (distinct : FieldsDistinct g.types) :
    ∀ (as : List Stmt) {s s' : BodyState} {rs : List (Analyzed Checked.Stmt)} {vars : List Scope},
      stmts g expected as s = (.ok rs, s') → vars ≠ [] → InScope s.locals s.scopes vars →
      StmtsResolved vars s.locals.length as (rs.map Analyzed.node)
  | [], s, s', rs, vars, checked, opened, inScope => by
    obtain ⟨rfl, _⟩ := stmts_nil_eq_ok.1 checked
    exact .nil
  | a :: as, s, s', rs, vars, checked, opened, inScope => by
    obtain ⟨x, xs, s₁, first, rest, rfl⟩ := (stmts_cons_eq_ok distinct).1 checked
    obtain ⟨vars', resolved, opened', inScope'⟩ := resolved_of_stmt distinct a first opened inScope
    have others := resolved_of_stmts distinct as rest opened' inScope'
    rw [stmt_letCount distinct a first] at others
    exact .cons resolved others

/-- The blocks of a chain count their slots on from each other, in scopes that do not. -/
theorem resolved_of_conditional (distinct : FieldsDistinct g.types) :
    ∀ (c : Conditional) {s s' : BodyState} {r : Analyzed Checked.Chain} {vars : List Scope},
      conditional g expected c s = (.ok r, s') → InScope s.locals s.scopes vars →
      ConditionalResolved vars s.locals.length c r.node
  | .mk e body rest span, s, s', r, vars, checked, inScope => by
    obtain ⟨c, b, o, s₁, ok, _, block, others, rfl⟩ := conditional_eq_ok.1 checked
    obtain ⟨as, s₂, inner, rfl, rfl⟩ := block_eq_ok.1 block
    have inside := resolved_of_stmts distinct body inner (List.cons_ne_nil [] vars)
      (.cons .nil inScope)
    have after := resolved_of_otherwise distinct rest others (inScope.leave (.of_block block))
    have taken := stmts_letCount distinct body inner
    rw [(closeBlock_eq distinct inner).1]
    exact .mk (@resolved_of_expr (s.env g) _ distinct inScope e _ ok) inside (taken ▸ after)

/-- What follows a block is resolved in the scopes around it. -/
theorem resolved_of_otherwise (distinct : FieldsDistinct g.types) :
    ∀ (o : Otherwise) {s s' : BodyState} {r : Analyzed Checked.Chain} {vars : List Scope},
      otherwise g expected o s = (.ok r, s') → InScope s.locals s.scopes vars →
      OtherwiseResolved vars s.locals.length o r.node
  | .nothing, s, s', r, vars, checked, inScope => by
    obtain ⟨rfl, _⟩ := otherwise_nothing_eq_ok.1 checked
    exact .nothing
  | .elseIf c, s, s', r, vars, checked, inScope =>
    .elseIf
      (resolved_of_conditional distinct c ((otherwise_elseIf_eq_ok distinct).1 checked) inScope)
  | .block body, s, s', r, vars, checked, inScope => by
    obtain ⟨b, block, rfl⟩ := otherwise_block_eq_ok.1 checked
    obtain ⟨as, s₂, inner, rfl, _⟩ := block_eq_ok.1 block
    have inside := resolved_of_stmts distinct body inner (List.cons_ne_nil [] vars)
      (.cons .nil inScope)
    rw [(closeBlock_eq distinct inner).1]
    exact .block inside

end

end Bodies

/-! ## Functions -/

/-- Parameters whose slots are counted from `n` on, the latest first. -/
def paramsFrom (n : Nat) (params : List Field) : Scope :=
  ((params.zipIdx n).map fun q => (q.1.name, ⟨q.2, q.1.type⟩)).reverse

/-- The parameters as the scope around a body: each in the slot of its position, with its
declared type. -/
def paramScope (signature : Signature) : Scope := paramsFrom 0 signature.params

theorem paramsFrom_cons (n : Nat) (p : Field) (params : List Field) :
    paramsFrom n (p :: params) = paramsFrom (n + 1) params ++ [(p.name, ⟨n, p.type⟩)] := by
  simp [paramsFrom]

/-- Parameters are bound one after the other in the innermost scope, in slots that follow each
other. -/
theorem InScope.bindAll (params : List Field) {s : BodyState} {scope : Scope}
    {outer : List Scope} (inScope : InScope s.locals s.scopes (scope :: outer)) :
    InScope (s.bindAll params).locals (s.bindAll params).scopes
      ((paramsFrom s.locals.length params ++ scope) :: outer) := by
  induction params generalizing s scope with
  | nil => exact inScope
  | cons p params ih =>
    have next : (s.bind p.name p.type).locals.length = s.locals.length + 1 := List.length_append
    have rest := ih (inScope.bind p.name p.type)
    rw [next] at rest
    rw [paramsFrom_cons, List.append_assoc]
    exact rest

theorem paramScope_below (signature : Signature) :
    Below signature.params.length [paramScope signature] := by
  intro scope opened entry mem
  rw [List.mem_singleton.1 opened, paramScope, paramsFrom, List.mem_reverse] at mem
  obtain ⟨⟨p, i⟩, listed, rfl⟩ := List.mem_map.1 mem
  exact (List.getElem?_eq_some_iff.1 (List.mem_zipIdx_iff_getElem?.1 listed)).1

/-- Slots are allotted in source order and names resolved by lexical scope.  A function
that checks has one slot for each parameter and each `let` anywhere in its body; its body
is that of the source with every name replaced by the slot and the type of the variable it
means; the slots that are bound are distinct, and all that are used exist. -/
theorem slots_resolved {p : Syntax.Program} {host : Builtins} {types : TypeTable}
    {builtins users : List Signature} (tables : Tables p host types builtins users)
    {d : FnDecl} {signature : Signature} (declared : (d, signature) ∈ p.fns.zip users)
    {r : Checked.Fn × List Warning}
    (checked : fn ⟨types, fnTable builtins users⟩ d signature = .ok r) :
    (signature.params.map Field.name = d.params.map (·.ident.name) ∧
        (signature.params.map Field.name).Nodup) ∧
      r.1.localCount = d.params.length + Stmt.letCountOfAll d.body ∧
      BlockResolved [paramScope signature] d.params.length d.body r.1.body ∧
      (Checked.Stmt.bindsOfAll r.1.body).Sublist
        (List.range' d.params.length (Stmt.letCountOfAll d.body)) ∧
      ∀ v ∈ Checked.Stmt.varsOfAll r.1.body, v.slot < r.1.localCount := by
  have distinct := tables.fieldsDistinct
  have made : SignatureFor types.names d signature := List.forall₂_zip tables.fns declared
  have names : signature.params.map Field.name = d.params.map (·.ident.name) :=
    (Aligned.map_eq_map made.params fun _ _ bound => bound.1.symm).symm
  have params : signature.params.length = d.params.length := made.params.length_eq.symm
  obtain ⟨b, s, ran, _, rfl⟩ := fn_eq_ok.1 checked
  obtain ⟨as, s₁, inner, rfl, rfl⟩ := block_eq_ok.1 ran
  have start : InScope BodyState.start.locals BodyState.start.scopes [[]] := .cons .nil .nil
  have around := start.bindAll signature.params
  rw [List.append_nil] at around
  have taken : (BodyState.start.bindAll signature.params).locals.length = d.params.length := by
    rw [BodyState.bindAll_locals, List.length_append, List.length_map, params]
    exact Nat.zero_add _
  have resolved : BlockResolved [paramScope signature] d.params.length d.body
      (closeBlock d.body as).1.node := by
    refine ⟨as.map Analyzed.node, ?_, (closeBlock_eq distinct inner).1⟩
    rw [← taken]
    have inside := resolved_of_stmts distinct d.body inner
      (List.cons_ne_nil [] [paramScope signature]) (.cons .nil around)
    exact inside
  have count : s₁.locals.length = d.params.length + Stmt.letCountOfAll d.body := by
    rw [← taken]
    have inside := stmts_letCount distinct d.body inner
    exact inside
  have below := paramScope_below signature
  rw [params] at below
  refine ⟨⟨names, ?_⟩, count, resolved, resolved.binds_sublist, fun v mem => ?_⟩
  · rw [names]
    exact tables.params d (List.of_mem_zip declared).1
  · have inside := resolved.vars_lt below v mem
    rw [← count] at inside
    exact inside

/-- The function

    fn f(n: Int, m: Int) -> Int {
        let k = n
        if m { let n = k  return n } else { let n = m  n }
        return n
        let n = m
    }

in which `n` means the variables of slots 0, 3, 4 and 0 again, and the last `let` never
runs. -/
def shadowing : FnDecl where
  ident := named "f"
  params := [⟨named "n", named "Int", .builtin⟩, ⟨named "m", named "Int", .builtin⟩]
  returnType := some (named "Int")
  signatureSpan := .builtin
  body := [
    binds "k" "n",
    .cond (.mk (var "m") [binds "n" "k", .ret (some (var "n")) .builtin]
      (.block [binds "n" "m", .expr (var "n")]) .builtin),
    .ret (some (var "n")) .builtin,
    binds "n" "m"]
  span := .builtin
where
  named (name : String) : Ident := ⟨name, .builtin⟩
  var (name : String) : Expr := .var name .builtin
  binds (name value : String) : Stmt := .bind (named name) none (var value) .builtin

/-- Both branches of the function bind a name that stands already, and its last `let` is behind
a return: that one takes a slot and has no statement. -/
theorem slots_resolved_shadowing :
    ∃ (types : TypeTable) (signature : Signature) (body : List Checked.Stmt) (int : TypeId),
      Tables ⟨[], [shadowing]⟩ ⟨["Void", "Int", "String"], []⟩ types [] [signature] ∧
      fn ⟨types, fnTable [] [signature]⟩ shadowing signature = .ok
        (⟨signature, 6, body⟩, [⟨.builtin⟩]) ∧
      Checked.Stmt.bindsOfAll body = [2, 3, 4] ∧
      Checked.Stmt.varsOfAll body =
        [⟨0, int⟩, ⟨1, int⟩, ⟨2, int⟩, ⟨3, int⟩, ⟨1, int⟩, ⟨4, int⟩, ⟨0, int⟩] ∧
      BlockResolved [[("m", ⟨1, int⟩), ("n", ⟨0, int⟩)]] 2 shadowing.body body := by
  let int : TypeId := .builtin 1
  let types : TypeTable := ⟨["Void", "Int", "String"], [], .builtin 0, int, .builtin 2⟩
  let signature : Signature := ⟨"f", [⟨"n", int⟩, ⟨"m", int⟩], int⟩
  let body : List Checked.Stmt := [
    .bind 2 (.slot 0 int),
    .cond (.branch (.slot 1 int) [.bind 3 (.slot 2 int), .ret (some (.slot 3 int))]
      (.otherwise [.bind 4 (.slot 1 int), .expr (.slot 4 int)])),
    .ret (some (.slot 0 int))]
  have tables : Tables ⟨[], [shadowing]⟩ ⟨["Void", "Int", "String"], []⟩ types [] [signature] :=
    tables_iff.2 ⟨rfl, rfl, rfl, rfl⟩
  have checked : fn ⟨types, fnTable [] [signature]⟩ shadowing signature =
      .ok (⟨signature, 6, body⟩, [⟨.builtin⟩]) := rfl
  obtain ⟨_, _, resolved, _, _⟩ := slots_resolved tables (List.mem_singleton.2 rfl) checked
  exact ⟨types, signature, body, int, tables, checked, rfl, rfl, resolved⟩

end NominalScript.Slots
