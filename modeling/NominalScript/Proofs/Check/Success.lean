import Mathlib.Data.List.Forall2
import NominalScript.Proofs.Check.Blame
import NominalScript.Proofs.Check.Spans

/-!
# What a successful check says

Each lemma of this module reads the success of one step of checking as the
success of its parts: `expr_call_eq_ok` says what a checked call is made of,
`stmts_cons_eq_ok` what checked statements are.  All of them are equivalences, so
that they serve to take a success apart as well as to build one.  Nothing after
this module unfolds the checker of expressions or of bodies.
-/

namespace NominalScript.Check

open Syntax
open Checked (Signature)

variable {α β : Type}

/-! ## Expressions -/

section Expressions

variable {env : Env} {g : Globals} {types : TypeTable} {c : Checked.Expr} {span : Span}

theorem call_eq_ok {name : String} {args : List Checked.Expr} :
    call g name args span = .ok c ↔
      ∃ f, (g.fns.find? fun f => f.2.answers name (args.map Checked.Expr.type)) = some f ∧
        c = .call f.1 args f.2.returnType := by
  unfold call resolveFn
  rw [map_eq_ok]
  cases g.fns.find? fun f => f.2.answers name (args.map Checked.Expr.type) with
  | none => simp [fail]
  | some f => simp [eq_comm]

theorem localVar_eq_ok {name : String} :
    localVar env name span = .ok c ↔
      ∃ i t, env.slot? name = some i ∧ env.locals[i]? = some t ∧ c = .slot i t := by
  unfold localVar
  cases env.slot? name with
  | none => simp [fail]
  | some i =>
    cases h : env.locals[i]? with
    | none => simp [fail, h]
    | some t => simp [h, eq_comm]

theorem member_eq_ok {base : Checked.Expr} {field : String} :
    member types base field span = .ok c ↔
      ∃ s i t, types.struct? base.type = some s ∧ s.field? field = some (i, t) ∧
        c = .field base i t := by
  unfold member
  cases types.struct? base.type with
  | none => simp [fail]
  | some s =>
    cases h : s.field? field with
    | none => simp [fail, h]
    | some p => rcases p with ⟨i, t⟩; simp [h, eq_comm]

/-- The names of a literal pass when they are those of the struct, in order. -/
theorem fieldNames_eq_ok {s : StructType} {given : List Ident} {u : Unit}
    (declared : (s.fields.map Field.name).Nodup) :
    fieldNames s given span = .ok u ↔ given.map Ident.name = s.fields.map Field.name := by
  unfold fieldNames
  rw [bind_eq_ok]
  refine ⟨?_, ?_⟩
  · intro ⟨_, _, rest⟩
    split at rest
    · next same => exact same
    · cases rest
  · intro same
    refine ⟨(), unlessAny_eq_ok.2 (repeatedFields_eq_nil.2 (same ▸ declared)), ?_⟩
    rw [if_pos same]
    rfl

/-- With as many values as declared fields, the values have the declared types
one by one. -/
theorem fieldTypeErrors_eq_nil {fields : List (FieldInit Expr)} {values : List Checked.Expr}
    {declared : List Field} (given : fields.length = values.length)
    (wanted : values.length = declared.length) :
    fieldTypeErrors fields values declared = [] ↔
      values.map Checked.Expr.type = declared.map Field.type := by
  induction fields generalizing values declared with
  | nil =>
    cases values with
    | nil => cases declared with
      | nil => simp [fieldTypeErrors]
      | cons d declared => simp at wanted
    | cons v values => simp at given
  | cons f fields ih =>
    cases values with
    | nil => simp at given
    | cons v values => cases declared with
      | nil => simp at wanted
      | cons d declared =>
        simp only [List.length_cons, Nat.add_right_cancel_iff] at given wanted
        have rest := ih given wanted
        unfold fieldTypeErrors at rest ⊢
        by_cases same : v.type = d.type
        · simp [same, rest]
        · simp [same]

theorem expr_reports (distinct : FieldsDistinct env.types) (e : Expr) : (expr env e).Reports :=
  expr_blames env distinct e fun _ _ => trivial

theorem exprs_eq_ok (distinct : FieldsDistinct env.types) {es : List Expr}
    {cs : List Checked.Expr} :
    exprs env es = .ok cs ↔ List.Forall₂ (fun e c => expr env e = .ok c) es cs := by
  rw [exprs_eq_collect, collect_map_eq_ok fun e _ => expr_reports distinct e]

theorem fieldValues_eq_ok (distinct : FieldsDistinct env.types) {fs : List (FieldInit Expr)}
    {cs : List Checked.Expr} :
    fieldValues env fs = .ok cs ↔
      List.Forall₂ (fun f c => expr env f.value = .ok c) fs cs := by
  rw [fieldValues_eq_collect, collect_map_eq_ok fun f _ => expr_reports distinct f.value]

theorem expr_str_eq_ok {value : String} :
    expr env (.str value span) = .ok c ↔ c = .const (.str value) env.types.string := by
  simp [expr, eq_comm]

theorem expr_int_eq_ok {value : Int64} :
    expr env (.int value span) = .ok c ↔ c = .const (.int value) env.types.int := by
  simp [expr, eq_comm]

theorem expr_call_eq_ok (distinct : FieldsDistinct env.types) {fn : Ident} {args : List Expr} :
    expr env (.call fn args span) = .ok c ↔
      ∃ cs, List.Forall₂ (fun e c => expr env e = .ok c) args cs ∧
        call env.globals fn.name cs span = .ok c := by
  rw [expr, bind_eq_ok]
  simp only [exprs_eq_ok distinct]

theorem expr_var_eq_ok {name : String} :
    expr env (.var name span) = .ok c ↔
      ∃ i t, env.slot? name = some i ∧ env.locals[i]? = some t ∧ c = .slot i t := by
  rw [expr, localVar_eq_ok]

theorem expr_unary_eq_ok {op : Ident} {operand : Expr} :
    expr env (.unary op operand span) = .ok c ↔
      ∃ e, expr env operand = .ok e ∧ call env.globals op.name [e] span = .ok c := by
  rw [expr, bind_eq_ok]

/-- An operator is accepted when both operands are, as a call of the function with its name. -/
theorem expr_binary_eq_ok (distinct : FieldsDistinct env.types) {op : Ident} {left right : Expr} :
    expr env (.binary op left right span) = .ok c ↔
      ∃ l r, expr env left = .ok l ∧ expr env right = .ok r ∧
        call env.globals op.name [l, r] span = .ok c := by
  have reports : ∀ c ∈ [expr env left, expr env right], c.Reports :=
    List.forall_mem_cons.2
      ⟨expr_reports distinct left, List.forall_mem_singleton.2 (expr_reports distinct right)⟩
  rw [expr, bind_eq_ok]
  simp only [collect_eq_ok reports, List.forall₂_cons_left_iff, List.forall₂_nil_left_iff]
  refine ⟨?_, ?_⟩
  · rintro ⟨_, ⟨l, _, first, ⟨r, _, second, rfl, rfl⟩, rfl⟩, called⟩
    exact ⟨l, r, first, second, called⟩
  · rintro ⟨l, r, first, second, called⟩
    exact ⟨[l, r], ⟨l, [r], first, ⟨r, [], second, rfl, rfl⟩, rfl⟩, called⟩

theorem expr_paren_eq_ok {inner : Expr} :
    expr env (.paren inner span) = .ok c ↔ expr env inner = .ok c := by
  rw [expr]

/-- A struct literal is accepted when it names a struct, gives exactly its fields in their
order, each value is accepted, and the types are those declared. -/
theorem expr_init_eq_ok (distinct : FieldsDistinct env.types) {type : Ident}
    {fields : List (FieldInit Expr)} {fieldsSpan : Span} :
    expr env (.init type fields fieldsSpan span) = .ok c ↔
      ∃ i s values, env.types.names.resolve? type.name = some (.struct i) ∧
        env.types.structs[i]? = some s ∧
        (fields.map FieldInit.ident).map Ident.name = s.fields.map Field.name ∧
        List.Forall₂ (fun f c => expr env f.value = .ok c) fields values ∧
        fieldTypeErrors fields values s.fields = [] ∧ c = .init i values (.struct i) := by
  rw [expr, bind_eq_ok]
  refine ⟨?_, ?_⟩
  · rintro ⟨⟨i, s⟩, found, rest⟩
    obtain ⟨resolved, entry⟩ := literalStruct_eq_ok.1 found
    have declared := distinct s (List.mem_of_getElem? entry)
    obtain ⟨_, names, rest⟩ := bind_eq_ok.1 rest
    obtain ⟨values, checked, rest⟩ := bind_eq_ok.1 rest
    obtain ⟨_, typed, rest⟩ := bind_eq_ok.1 rest
    cases rest
    exact ⟨i, s, values, resolved, entry, (fieldNames_eq_ok declared).1 names,
      (fieldValues_eq_ok distinct).1 checked, unlessAny_eq_ok.1 typed, rfl⟩
  · intro parts
    obtain ⟨i, s, values, resolved, entry, names, checked, typed, rfl⟩ := parts
    have declared := distinct s (List.mem_of_getElem? entry)
    refine ⟨(i, s), literalStruct_eq_ok.2 ⟨resolved, entry⟩, ?_⟩
    refine bind_eq_ok.2 ⟨(), (fieldNames_eq_ok declared).2 names, ?_⟩
    refine bind_eq_ok.2 ⟨values, (fieldValues_eq_ok distinct).2 checked, ?_⟩
    exact bind_eq_ok.2 ⟨(), unlessAny_eq_ok.2 typed, rfl⟩

theorem expr_member_eq_ok {base : Expr} {field : Ident} :
    expr env (.member base field span) = .ok c ↔
      ∃ e s i t, expr env base = .ok e ∧ env.types.struct? e.type = some s ∧
        s.field? field.name = some (i, t) ∧ c = .field e i t := by
  rw [expr, bind_eq_ok]
  simp only [member_eq_ok]
  refine ⟨?_, ?_⟩
  · rintro ⟨e, checked, s, i, t, rest⟩
    exact ⟨e, s, i, t, checked, rest⟩
  · rintro ⟨e, s, i, t, checked, rest⟩
    exact ⟨e, checked, s, i, t, rest⟩

theorem condition_eq_ok {e : Expr} :
    condition env e = .ok c ↔ expr env e = .ok c ∧ c.type = env.types.int := by
  unfold condition
  rw [bind_eq_ok]
  refine ⟨?_, ?_⟩
  · intro ⟨a, checked, rest⟩
    split at rest
    · next typed => cases rest; exact ⟨checked, typed⟩
    · cases rest
  · intro ⟨checked, typed⟩
    exact ⟨c, checked, by rw [if_pos typed]; rfl⟩

end Expressions

/-! ## Statements -/

section Statements

variable {g : Globals} {expected : TypeId} {s s' : BodyState} {span : Span}

/-- A return with a value is accepted when the value is, and has the type of the function. -/
theorem returned_some_eq_ok {env : Env} {e : Expr} {n : Checked.Stmt} :
    returned env expected (some e) span = .ok n ↔
      ∃ c, expr env e = .ok c ∧ c.type = expected ∧ n = .ret (some c) := by
  unfold returned
  rw [bind_eq_ok]
  refine ⟨?_, ?_⟩
  · intro ⟨c, checked, rest⟩
    split at rest
    · next typed => cases rest; exact ⟨c, checked, typed, rfl⟩
    · cases rest
  · intro parts
    obtain ⟨c, checked, typed, rfl⟩ := parts
    exact ⟨c, checked, by rw [if_pos typed]; rfl⟩

theorem returned_none_eq_ok {env : Env} {n : Checked.Stmt} :
    returned env expected none span = .ok n ↔ env.types.void = expected ∧ n = .ret none := by
  by_cases same : env.types.void = expected <;> simp [returned, same, fail, eq_comm]

/-- The value of a `let` is accepted when its expression is, and has the type written behind the
name, if one is. -/
theorem boundValue_eq_ok {env : Env} {ident : Ident} {type : Option Ident} {value : Expr}
    {c : Checked.Expr} :
    boundValue env ident type value = .ok c ↔
      expr env value = .ok c ∧
        ∀ t, type = some t → env.types.names.resolve? t.name = some c.type := by
  cases type with
  | none => simp [boundValue]
  | some t =>
    simp only [boundValue, bind_eq_ok, resolve_eq_ok, Option.some.injEq, forall_eq']
    refine ⟨?_, ?_⟩
    · intro ⟨expected, resolved, a, checked, rest⟩
      split at rest
      · next typed => cases rest; exact ⟨checked, typed ▸ resolved⟩
      · cases rest
    · intro ⟨checked, resolved⟩
      exact ⟨c.type, resolved, c, checked, by rw [if_pos rfl]; rfl⟩

theorem bound_eq_ok {ident : Ident} {type : Option Ident} {value : Expr} {n : Checked.Stmt} :
    bound g s ident type value = (.ok n, s') ↔
      ∃ c, boundValue (s.env g) ident type value = .ok c ∧ s.isBoundHere ident.name = false ∧
        n = .bind s.locals.length c ∧ s' = s.bind ident.name c.type := by
  unfold bound
  cases boundValue (s.env g) ident type value with
  | error es => simp
  | ok c =>
    cases s.isBoundHere ident.name with
    | true => simp [fail]
    | false => simp [eq_comm]

theorem finishBlock_eq_ok {body : List Stmt} {r : Check (List (Analyzed Checked.Stmt))}
    {b : Analyzed (List Checked.Stmt)} :
    finishBlock body (r, s) = (.ok b, s') ↔
      ∃ as, r = .ok as ∧ b = (closeBlock body as).1 ∧
        s' = s.leave.warn (closeBlock body as).2 := by
  cases r with
  | error es => simp [finishBlock]
  | ok as => simp [finishBlock, eq_comm]

/-- A block is accepted when its statements are, in a scope of its own that is closed behind
them. -/
theorem block_eq_ok {body : List Stmt} {b : Analyzed (List Checked.Stmt)} :
    block g expected body s = (.ok b, s') ↔
      ∃ as s₁, stmts g expected body s.enter = (.ok as, s₁) ∧ b = (closeBlock body as).1 ∧
        s' = s₁.leave.warn (closeBlock body as).2 := by
  unfold block
  rcases stmts g expected body s.enter with ⟨r, s₁⟩
  rw [finishBlock_eq_ok]
  refine ⟨?_, ?_⟩
  · intro parts
    obtain ⟨as, rfl, rest⟩ := parts
    exact ⟨as, s₁, rfl, rest⟩
  · intro ⟨as, _, ran, rest⟩
    cases ran
    exact ⟨as, rfl, rest⟩

theorem stmt_expr_eq_ok {e : Expr} {a : Analyzed Checked.Stmt} :
    stmt g expected (.expr e) s = (.ok a, s') ↔
      ∃ c, expr (s.env g) e = .ok c ∧ a = ⟨.expr c, false⟩ ∧ s' = s := by
  simp only [stmt, Prod.mk.injEq, map_eq_ok]
  exact ⟨fun ⟨⟨c, checked, made⟩, same⟩ => ⟨c, checked, made.symm, same.symm⟩,
    fun ⟨c, checked, made, same⟩ => ⟨⟨c, checked, made.symm⟩, same.symm⟩⟩

theorem stmt_cond_eq_ok {c : Conditional} {a : Analyzed Checked.Stmt} :
    stmt g expected (.cond c) s = (.ok a, s') ↔
      ∃ b, conditional g expected c s = (.ok b, s') ∧ a = ⟨.cond b.node, b.returns⟩ := by
  rw [stmt]
  rcases conditional g expected c s with ⟨r, s₁⟩
  simp only [Prod.mk.injEq, map_eq_ok]
  exact ⟨fun ⟨⟨b, checked, made⟩, same⟩ => ⟨b, ⟨checked, same⟩, made.symm⟩,
    fun ⟨b, ⟨checked, same⟩, made⟩ => ⟨⟨b, checked, made.symm⟩, same⟩⟩

theorem stmt_ret_eq_ok {value : Option Expr} {a : Analyzed Checked.Stmt} :
    stmt g expected (.ret value span) s = (.ok a, s') ↔
      ∃ n, returned (s.env g) expected value span = .ok n ∧ a = ⟨n, true⟩ ∧ s' = s := by
  simp only [stmt, Prod.mk.injEq, map_eq_ok]
  exact ⟨fun ⟨⟨n, checked, made⟩, same⟩ => ⟨n, checked, made.symm, same.symm⟩,
    fun ⟨n, checked, made, same⟩ => ⟨⟨n, checked, made.symm⟩, same.symm⟩⟩

/-- A `let` is accepted when its value is and the innermost scope does not have the name yet; it
takes the next slot. -/
theorem stmt_bind_eq_ok {ident : Ident} {type : Option Ident} {value : Expr}
    {a : Analyzed Checked.Stmt} :
    stmt g expected (.bind ident type value span) s = (.ok a, s') ↔
      ∃ c, boundValue (s.env g) ident type value = .ok c ∧ s.isBoundHere ident.name = false ∧
        a = ⟨.bind s.locals.length c, false⟩ ∧ s' = s.bind ident.name c.type := by
  rw [stmt]
  rcases ran : bound g s ident type value with ⟨r, s₁⟩
  simp only [Prod.mk.injEq, map_eq_ok]
  refine ⟨?_, ?_⟩
  · intro parts
    obtain ⟨⟨n, rfl, rfl⟩, rfl⟩ := parts
    obtain ⟨c, checked, free, rfl, rfl⟩ := bound_eq_ok.1 ran
    exact ⟨c, checked, free, rfl, rfl⟩
  · intro parts
    obtain ⟨c, checked, free, rfl, rfl⟩ := parts
    have bound := bound_eq_ok.2 ⟨c, checked, free, rfl, rfl⟩
    rw [ran] at bound
    cases bound
    exact ⟨⟨_, rfl, rfl⟩, rfl⟩

theorem stmt_reports (distinct : FieldsDistinct g.types) (a : Stmt) (s : BodyState) :
    (stmt g expected a s).1.Reports :=
  (stmt_blames distinct joinsBlame_true a (fun _ _ => trivial) fun _ _ => trivial).result

theorem block_reports (distinct : FieldsDistinct g.types) (body : List Stmt) (s : BodyState) :
    (block g expected body s).1.Reports :=
  (finishBlock_blames joinsBlame_true (fun _ _ => trivial)
    (stmts_blames distinct joinsBlame_true body (fun _ _ => trivial) fun _ _ => trivial)).result

theorem stmts_nil_eq_ok {as : List (Analyzed Checked.Stmt)} :
    stmts g expected [] s = (.ok as, s') ↔ as = [] ∧ s' = s := by
  simp [stmts, eq_comm]

/-- Statements are accepted when the first is and the rest are from the state behind it.  That a
failing statement reports something is what rules out a success without it. -/
theorem stmts_cons_eq_ok (distinct : FieldsDistinct g.types) {a : Stmt} {rest : List Stmt}
    {as : List (Analyzed Checked.Stmt)} :
    stmts g expected (a :: rest) s = (.ok as, s') ↔
      ∃ x xs s₁, stmt g expected a s = (.ok x, s₁) ∧
        stmts g expected rest s₁ = (.ok xs, s') ∧ as = x :: xs := by
  rw [stmts]
  have reports : (stmt g expected a s).1.Reports := stmt_reports distinct a s
  revert reports
  rcases stmt g expected a s with ⟨r, s₁⟩
  intro (reports : r.Reports)
  dsimp only
  rcases ran : stmts g expected rest s₁ with ⟨rs, s₂⟩
  simp only [Prod.mk.injEq, cons_eq_ok reports]
  refine ⟨?_, ?_⟩
  · intro parts
    obtain ⟨⟨x, xs, rfl, rfl, rfl⟩, rfl⟩ := parts
    exact ⟨x, xs, s₁, ⟨rfl, rfl⟩, ran, rfl⟩
  · intro parts
    obtain ⟨x, xs, _, ⟨rfl, rfl⟩, rest, rfl⟩ := parts
    rw [ran] at rest
    cases rest
    exact ⟨⟨x, xs, rfl, rfl, rfl⟩, rfl⟩

/-- A branch is accepted when its condition, its block and what follows are, and it returns when
both of the latter do. -/
theorem branch_eq_ok {c : Check Checked.Expr} {b : Check (Analyzed (List Checked.Stmt))}
    {r : Check (Analyzed Checked.Chain)} {a : Analyzed Checked.Chain} :
    branch c b r = .ok a ↔
      ∃ c' b' r', c = .ok c' ∧ b = .ok b' ∧ r = .ok r' ∧
        a = ⟨.branch c' b'.node r'.node, b'.returns && r'.returns⟩ := by
  unfold branch
  simp only [map_eq_ok, both_eq_ok]
  refine ⟨?_, ?_⟩
  · intro parts
    obtain ⟨⟨c', b', r'⟩, ⟨condition, block, rest⟩, rfl⟩ := parts
    exact ⟨c', b', r', condition, block, rest, rfl⟩
  · intro parts
    obtain ⟨c', b', r', condition, block, rest, rfl⟩ := parts
    exact ⟨(c', b', r'), ⟨condition, block, rest⟩, rfl⟩

/-- A chain is accepted when its condition is one of type `Int`, its block is accepted, and so
is what follows, from the state behind the block. -/
theorem conditional_eq_ok {e : Expr} {body : List Stmt} {rest : Otherwise}
    {a : Analyzed Checked.Chain} :
    conditional g expected (.mk e body rest span) s = (.ok a, s') ↔
      ∃ c b r s₁, expr (s.env g) e = .ok c ∧ c.type = g.types.int ∧
        block g expected body s = (.ok b, s₁) ∧ otherwise g expected rest s₁ = (.ok r, s') ∧
        a = ⟨.branch c b.node r.node, b.returns && r.returns⟩ := by
  rw [conditional, ← block]
  rcases block g expected body s with ⟨rb, s₁⟩
  dsimp only
  rcases ran : otherwise g expected rest s₁ with ⟨rr, s₂⟩
  simp only [Prod.mk.injEq, branch_eq_ok, condition_eq_ok]
  refine ⟨?_, ?_⟩
  · intro parts
    obtain ⟨⟨c, b, r, ⟨checked, typed⟩, rfl, rfl, rfl⟩, rfl⟩ := parts
    exact ⟨c, b, r, s₁, checked, typed, ⟨rfl, rfl⟩, ran, rfl⟩
  · intro parts
    obtain ⟨c, b, r, _, checked, typed, ⟨rfl, rfl⟩, others, rfl⟩ := parts
    rw [ran] at others
    cases others
    exact ⟨⟨c, b, r, ⟨checked, typed⟩, rfl, rfl, rfl⟩, rfl⟩

theorem otherwise_nothing_eq_ok {a : Analyzed Checked.Chain} :
    otherwise g expected .nothing s = (.ok a, s') ↔ a = ⟨.nothing, false⟩ ∧ s' = s := by
  simp [otherwise, eq_comm]

theorem otherwise_block_eq_ok {body : List Stmt} {a : Analyzed Checked.Chain} :
    otherwise g expected (.block body) s = (.ok a, s') ↔
      ∃ b, block g expected body s = (.ok b, s') ∧ a = ⟨.otherwise b.node, b.returns⟩ := by
  rw [otherwise, ← block]
  rcases block g expected body s with ⟨r, s₁⟩
  simp only [Prod.mk.injEq, map_eq_ok]
  exact ⟨fun ⟨⟨b, checked, made⟩, same⟩ => ⟨b, ⟨checked, same⟩, made.symm⟩,
    fun ⟨b, ⟨checked, same⟩, made⟩ => ⟨⟨b, checked, made.symm⟩, same⟩⟩

/-- An `else if` that checks is a conditional that checks: the two differ only in
what they still report after an error. -/
theorem otherwise_elseIf_eq_ok (distinct : FieldsDistinct g.types) {c : Conditional}
    {a : Analyzed Checked.Chain} :
    otherwise g expected (.elseIf c) s = (.ok a, s') ↔
      conditional g expected c s = (.ok a, s') := by
  rcases c with ⟨e, body, rest, span⟩
  rw [otherwise, conditional, ← block]
  cases checked : condition (s.env g) e with
  | error es =>
    have failed := condition_blames (s.env g) distinct e (fun _ _ => trivial) es checked
    have reports : Reports (.error es : Check (Checked.Expr × Analyzed (List Checked.Stmt))) :=
      blames_error failed.1 failed.2
    simp [branch_eq_ok, before_eq_ok reports]
  | ok c =>
    have reports : Reports ((block g expected body s).1.map fun b => (c, b)) :=
      (block_reports distinct body s).map
    simp [branch_eq_ok, before_eq_ok reports, map_eq_ok, addBranch]

/-- A function is accepted when its body is, from a state that has the parameters alone, and
returns on all paths unless it returns nothing. -/
theorem fn_eq_ok {d : FnDecl} {signature : Signature} {r : Checked.Fn × List Warning} :
    fn g d signature = .ok r ↔
      ∃ b s, block g signature.returnType d.body
          (BodyState.start.bindAll signature.params) = (.ok b, s) ∧
        (signature.returnType = g.types.void ∨ b.returns) ∧
        r = (⟨signature, s.locals.length, b.node⟩, s.warnings) := by
  unfold fn
  rcases block g signature.returnType d.body (BodyState.start.bindAll signature.params) with
    ⟨rb, s⟩
  cases rb with
  | error es => simp
  | ok b =>
    dsimp only
    split
    · next returns =>
      refine ⟨?_, ?_⟩
      · intro made
        cases made
        exact ⟨b, s, rfl, returns, rfl⟩
      · intro parts
        obtain ⟨_, _, ran, _, rfl⟩ := parts
        cases ran
        rfl
    · next open_ =>
      refine ⟨?_, ?_⟩
      · intro made
        cases made
      · intro ⟨_, _, ran, returns, _⟩
        cases ran
        exact (open_ returns).elim

theorem fn_signature {d : FnDecl} {signature : Signature} {r : Checked.Fn × List Warning}
    (checked : fn g d signature = .ok r) : r.1.signature = signature := by
  obtain ⟨_, _, _, _, rfl⟩ := fn_eq_ok.1 checked
  rfl

end Statements

end NominalScript.Check
