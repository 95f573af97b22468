import NominalScript.Proofs.Evaluates
import NominalScript.Proofs.Refinement.Names

/-!
# Checking keeps the meaning of a program

A checked function and its declaration run alike: they print the same lines and
end in the same way, a run of the one halting as `tooDeep` just when the same run
of the other does.

The two runs are followed side by side.  `Outcome.Alike` relates outcomes, and
`ScopesFor` the slots of the one to the scopes of the other.  It is kept by every
statement; what a block binds goes out of scope with it, though its slots stay.
Statements that checking has dropped stand after one that always returns, and the
run of the source does not reach them either.
-/

namespace NominalScript

open Syntax Check

/-- A halted run of a checked program, as a halted run of its source. -/
def Reference.Halt.of : NominalScript.Halt → Reference.Halt
  | .error e => .error e
  | .tooDeep => .tooDeep

/-! ## Outcomes -/

namespace Outcome

variable {α β γ δ : Type} {R : α → β → Prop}

/-- Both print the same lines, and then both end with related results or both
halt in the same way. -/
def Alike (R : α → β → Prop) (x : Outcome Halt α) (y : Outcome Reference.Halt β) : Prop :=
  x.printed = y.printed ∧
    match x.result, y.result with
    | .ok a, .ok b => R a b
    | .error h, .error k => Reference.Halt.of h = k
    | _, _ => False

theorem alike_pure {a : α} {b : β} (related : R a b) : Alike R (pure a) (pure b) :=
  ⟨rfl, related⟩

theorem alike_ofOption {h : Halt} {k : Reference.Halt} (halt : Reference.Halt.of h = k)
    (a? : Option α) : Alike Eq (ofOption h a?) (ofOption k a?) := by
  cases a? with
  | none => exact ⟨rfl, halt⟩
  | some a => exact ⟨rfl, rfl⟩

/-- Runs that go on from alike runs are alike: the lines printed come one after the other, and a
halt in the first part halts both. -/
theorem Alike.bind {Q : γ → δ → Prop} {x : Outcome Halt α} {y : Outcome Reference.Halt β}
    {f : α → Outcome Halt γ} {g : β → Outcome Reference.Halt δ} (first : Alike R x y)
    (rest : ∀ a b, R a b → Alike Q (f a) (g b)) : Alike Q (x >>= f) (y >>= g) := by
  rcases x with ⟨printed, result⟩
  rcases y with ⟨printed', result'⟩
  obtain ⟨lines, ended⟩ := first
  cases result with
  | error h =>
    cases result' with
    | error k => exact ⟨lines, ended⟩
    | ok b => exact ended.elim
  | ok a =>
    cases result' with
    | error k => exact ended.elim
    | ok b =>
      obtain ⟨lines', ended'⟩ := rest a b ended
      exact ⟨congrArg₂ _ lines lines', ended'⟩

theorem Alike.and {x : Outcome Halt α} {y : Outcome Reference.Halt β} {P : α → Prop}
    {bad : Halt → Prop} (alike : Alike R x y) (ends : x.Ends P bad) :
    Alike (fun a b => R a b ∧ P a) x y := by
  rcases x with ⟨printed, result⟩
  rcases y with ⟨printed', result'⟩
  obtain ⟨lines, ended⟩ := alike
  cases result <;> cases result'
  · exact ⟨lines, ended⟩
  · exact ended.elim
  · exact ended.elim
  · exact ⟨lines, ended, ends⟩

theorem Alike.mono {x : Outcome Halt α} {y : Outcome Reference.Halt β} {Q : α → β → Prop}
    (alike : Alike R x y) (results : ∀ a b, R a b → Q a b) : Alike Q x y := by
  rcases x with ⟨printed, result⟩
  rcases y with ⟨printed', result'⟩
  obtain ⟨lines, ended⟩ := alike
  cases result <;> cases result'
  · exact ⟨lines, ended⟩
  · exact ended.elim
  · exact ended.elim
  · exact ⟨lines, results _ _ ended⟩

/-- Runs that are alike end with the same outcomes. -/
theorem Alike.eq_mapError_iff {x : Outcome Halt α} {y : Outcome Reference.Halt α}
    (alike : Alike Eq x y) (o : Outcome RuntimeError α) :
    y = o.mapError .error ↔ x = o.mapError .error := by
  rcases x with ⟨printed, result⟩
  rcases y with ⟨printed', result'⟩
  rcases o with ⟨printed'', result''⟩
  obtain ⟨lines, ended⟩ := alike
  dsimp only at lines
  subst lines
  cases result <;> cases result'
  · rename_i h k
    dsimp only at ended
    subst ended
    cases h <;> cases result'' <;> simp [Reference.Halt.of]
  · exact ended.elim
  · exact ended.elim
  · dsimp only at ended
    subst ended
    cases result'' <;> simp

end Outcome

namespace Refinement

open Outcome (Alike)
open Checked (Signature)

/-! ## Expressions -/

section Expressions

variable {p : Program} {host : Builtins}

/-- Calls of linked functions run alike. -/
def Simulates (p : Program) (host : Builtins) (invoke : Checked.Invoke)
    (invoke' : Reference.Invoke) : Prop :=
  ∀ c f, Linked p host c f → ∀ vs, Alike Eq (invoke f vs) (invoke' c vs)

variable {invoke : Checked.Invoke} {invoke' : Reference.Invoke} {env : Env} {slots : List Value}
  {stack : List Reference.Scope}

/-- Expressions are evaluated one after the other on both sides, until one of them halts. -/
theorem evalAll_alike {code : Reference.Code} {es : List Expr} {cs : List Checked.Expr}
    (each : List.Forall₂ (fun e c =>
      Alike Eq (Checked.Expr.eval invoke slots c) (Reference.eval code invoke' stack e)) es cs) :
    Alike Eq (Checked.Expr.evalAll invoke slots cs) (Reference.evalAll code invoke' stack es) := by
  induction each with
  | nil =>
    rw [Checked.Expr.evalAll, Reference.evalAll]
    exact Outcome.alike_pure rfl
  | cons here _ ih =>
    rw [Checked.Expr.evalAll, Reference.evalAll]
    apply here.bind
    intro v _ same
    subst same
    apply ih.bind
    intro vs _ same
    subst same
    exact Outcome.alike_pure rfl

theorem evalFields_eq {code : Reference.Code} (fields : List (FieldInit Expr)) :
    Reference.evalFields code invoke' stack fields =
      Reference.evalAll code invoke' stack (fields.map FieldInit.value) := by
  induction fields with
  | nil => rw [Reference.evalFields, List.map_nil, Reference.evalAll]
  | cons f fields ih =>
    rcases f with ⟨ident, value, span⟩
    rw [Reference.evalFields, List.map_cons, Reference.evalAll, ih]

/-- An operator runs like a call with its operand. -/
theorem eval_unary {code : Reference.Code} (op : Ident) (operand : Expr) (span : Span) :
    Reference.eval code invoke' stack (.unary op operand span) =
      Reference.eval code invoke' stack (.call op [operand] span) := by
  rw [Reference.eval, Reference.eval, Reference.evalAll, Reference.evalAll]
  generalize Reference.eval code invoke' stack operand = x
  rcases x with ⟨printed, result⟩
  cases result <;> simp [Outcome.andThen]

/-- An operator runs like a call with its operands. -/
theorem eval_binary {code : Reference.Code} (op : Ident) (left right : Expr) (span : Span) :
    Reference.eval code invoke' stack (.binary op left right span) =
      Reference.eval code invoke' stack (.call op [left, right] span) := by
  rw [Reference.eval, Reference.eval, Reference.evalAll, Reference.evalAll, Reference.evalAll]
  generalize Reference.eval code invoke' stack left = x
  generalize Reference.eval code invoke' stack right = y
  rcases x with ⟨printed, result⟩
  rcases y with ⟨printed', result'⟩
  cases result <;> cases result' <;> simp [Outcome.andThen]

/-- A checked call has its function resolved already; the source finds the same one by the
static types of the arguments, and both then call it with the same values. -/
theorem call_alike {g : Globals} (agrees : Agrees p host g)
    (simulates : Simulates p host invoke invoke') {fn : Ident} {es : List Expr}
    {cs : List Checked.Expr} {span : Span} {c : Checked.Expr}
    (types : List.Forall₂ (fun e c => ∃ n, Reference.typeOf (.of p host) stack e = some n ∧
      g.types.names.resolve? n = some (Checked.Expr.type c)) es cs)
    (called : call g fn.name cs span = .ok c)
    (each : List.Forall₂ (fun e c => Alike Eq (Checked.Expr.eval invoke slots c)
      (Reference.eval (.of p host) invoke' stack e)) es cs) :
    Alike Eq (c.eval invoke slots)
      (Reference.eval (.of p host) invoke' stack (.call fn es span)) := by
  obtain ⟨callee, f, selected, entry, rfl⟩ := calleeOf_of_call agrees types called
  rw [Checked.Expr.eval, Reference.eval, selected]
  apply (evalAll_alike each).bind
  intro vs _ same
  subst same
  exact simulates callee f.1 entry.linked vs

/-- A checked expression runs like the expression of the source. -/
theorem expr_alike (agrees : Agrees p host env.globals)
    (simulates : Simulates p host invoke invoke')
    (inScope : ScopesFor env.types.names env.locals slots env.scopes stack) (e : Expr) :
    ∀ {c : Checked.Expr}, expr env e = .ok c →
      Alike Eq (c.eval invoke slots) (Reference.eval (.of p host) invoke' stack e) := by
  have typed : ∀ {e c}, expr env e = .ok c → _ := fun {e} {_} => typeOf_of_expr agrees inScope e
  induction e using Expr.inductOn with
  | str value span =>
    intro c checked
    cases expr_str_eq_ok.1 checked
    rw [Checked.Expr.eval, Reference.eval]
    exact Outcome.alike_pure rfl
  | int value span =>
    intro c checked
    cases expr_int_eq_ok.1 checked
    rw [Checked.Expr.eval, Reference.eval]
    exact Outcome.alike_pure rfl
  | call fn args span ih =>
    intro c checked
    obtain ⟨cs, parts, called⟩ := (expr_call_eq_ok agrees.distinct).1 checked
    exact call_alike agrees simulates (parts.imp fun _ _ ok => typed ok) called
      (Aligned.imp_mem parts ih)
  | var name span =>
    intro c checked
    obtain ⟨i, t, found, _, rfl⟩ := expr_var_eq_ok.1 checked
    obtain ⟨var, here, held⟩ := inScope.left found
    rw [Checked.Expr.eval, Reference.eval, Reference.var?, here, held.value]
    exact Outcome.alike_pure rfl
  | unary op operand span ih =>
    intro c checked
    obtain ⟨e, ok, called⟩ := expr_unary_eq_ok.1 checked
    rw [eval_unary]
    exact call_alike agrees simulates (.cons (typed ok) .nil) called (.cons (ih ok) .nil)
  | binary op left right span ihLeft ihRight =>
    intro c checked
    obtain ⟨l, r, okLeft, okRight, called⟩ := (expr_binary_eq_ok agrees.distinct).1 checked
    rw [eval_binary]
    exact call_alike agrees simulates (.cons (typed okLeft) (.cons (typed okRight) .nil)) called
      (.cons (ihLeft okLeft) (.cons (ihRight okRight) .nil))
  | paren inner span ih =>
    intro c checked
    rw [Reference.eval]
    exact ih (expr_paren_eq_ok.1 checked)
  | init type fields fieldsSpan span ih =>
    intro c checked
    obtain ⟨i, s, values, _, _, _, parts, _, rfl⟩ := (expr_init_eq_ok agrees.distinct).1 checked
    rw [Checked.Expr.eval, Reference.eval, evalFields_eq]
    refine (evalAll_alike (List.forall₂_map_left_iff.2 (Aligned.imp_mem parts ih))).bind ?_
    intro vs _ same
    subst same
    exact Outcome.alike_pure rfl
  | member base field span ih =>
    intro c checked
    obtain ⟨e, s, i, t, ok, struct, found, rfl⟩ := expr_member_eq_ok.1 checked
    obtain ⟨n, type, resolved⟩ := typed ok
    obtain ⟨m, selected, _⟩ := agrees.field? resolved struct found
    have position : Reference.fieldOf (.of p host) stack base field.name = some i := by
      rw [Reference.fieldOf, type, Option.bind_eq_bind, Option.bind_some, selected]
      rfl
    rw [Checked.Expr.eval, Reference.eval, position]
    apply (ih ok).bind
    intro v _ same
    subst same
    exact Outcome.alike_ofOption rfl _

end Expressions

/-! ## Statements -/

section Statements

variable {p : Program} {host : Builtins} {g : Globals} {expected : TypeId}
  {invoke : Checked.Invoke} {invoke' : Reference.Invoke}

/-- Both go on, with the slots holding the variables in scope, or both return the
same value. -/
def FlowFor (names : TypeNames) (s : BodyState) (n : Nat) : Checked.Flow → Reference.Flow → Prop
  | .onward slots, .onward stack =>
    slots.length = n ∧ ScopesFor names s.locals slots s.scopes stack
  | .returned v, .returned w => v = w
  | _, _ => False

theorem FlowFor.mono {names : TypeNames} {s s' : BodyState} {n : Nat} {x : Checked.Flow}
    {y : Reference.Flow} (flow : FlowFor names s n x y) (kept : s.Keeps s') :
    FlowFor names s' n x y := by
  cases x <;> cases y
  · refine ⟨flow.1, ?_⟩
    rw [kept.scopes]
    exact flow.2.grow kept.locals
  · exact flow.elim
  · exact flow.elim
  · exact flow

/-- Closing the scope of a block. -/
theorem FlowFor.leave {names : TypeNames} {s : BodyState} {ws : List Warning} {n : Nat}
    {x : Checked.Flow} {y : Reference.Flow} (flow : FlowFor names s n x y) :
    FlowFor names (s.leave.warn ws) n x y.leave := by
  cases x <;> cases y
  · obtain ⟨length, inScope⟩ := flow
    refine ⟨length, ?_⟩
    rcases s with ⟨locals, scopes, warnings⟩
    cases inScope with
    | nil => exact .nil
    | cons _ outer => exact outer
  · exact flow.elim
  · exact flow.elim
  · exact flow

/-- A block runs like its statements, followed by closing its scope. -/
theorem block_alike {names : TypeNames} {s : BodyState} {ws : List Warning} {n : Nat}
    {x : Outcome Halt Checked.Flow} {y : Outcome Reference.Halt Reference.Flow}
    (alike : Alike (FlowFor names s n) x y) :
    Alike (FlowFor names (s.leave.warn ws) n) x (y >>= fun flow => pure flow.leave) := by
  rcases x with ⟨printed, result⟩
  rcases y with ⟨printed', result'⟩
  obtain ⟨lines, ended⟩ := alike
  dsimp only at lines
  subst lines
  cases result <;> cases result'
  · exact ⟨rfl, ended⟩
  · exact ended.elim
  · exact ended.elim
  · exact ⟨(List.append_nil _).symm, ended.leave⟩

mutual

/-- A checked statement runs like the statement of the source. -/
theorem stmt_alike (agrees : Agrees p host g) (simulates : Simulates p host invoke invoke') :
    ∀ (a : Stmt) {s s' : BodyState} {r : Analyzed Checked.Stmt} {slots : List Value}
      {stack : List Reference.Scope}, stmt g expected a s = (.ok r, s') →
      s'.locals.length ≤ slots.length → s.scopes ≠ [] →
      ScopesFor g.types.names s.locals slots s.scopes stack →
      Alike (FlowFor g.types.names s' slots.length) (r.node.exec invoke slots)
        (Reference.exec (.of p host) invoke' a stack)
  | .expr e, s, s', r, slots, stack, checked, room, opened, inScope => by
    obtain ⟨c, ok, rfl, rfl⟩ := stmt_expr_eq_ok.1 checked
    rw [Checked.Stmt.exec, Reference.exec]
    apply (@expr_alike _ _ _ _ (s'.env g) _ _ agrees simulates inScope e _ ok).bind
    intro v _ _
    exact Outcome.alike_pure ⟨rfl, inScope⟩
  | .cond c, s, s', r, slots, stack, checked, room, opened, inScope => by
    obtain ⟨b, ok, rfl⟩ := stmt_cond_eq_ok.1 checked
    rw [Checked.Stmt.exec, Reference.exec]
    exact conditional_alike agrees simulates c ok room opened inScope
  | .ret value span, s, s', r, slots, stack, checked, room, opened, inScope => by
    obtain ⟨n, made, rfl, rfl⟩ := stmt_ret_eq_ok.1 checked
    cases value with
    | none =>
      obtain ⟨_, rfl⟩ := returned_none_eq_ok.1 made
      rw [Checked.Stmt.exec, Reference.exec]
      exact Outcome.alike_pure rfl
    | some e =>
      obtain ⟨c, ok, _, rfl⟩ := returned_some_eq_ok.1 made
      rw [Checked.Stmt.exec, Reference.exec]
      apply (@expr_alike _ _ _ _ (s'.env g) _ _ agrees simulates inScope e _ ok).bind
      intro v _ same
      subst same
      exact Outcome.alike_pure rfl
  | .bind ident type value span, s, s', r, slots, stack, checked, room, opened, inScope => by
    obtain ⟨c, made, _, rfl, rfl⟩ := stmt_bind_eq_ok.1 checked
    obtain ⟨ok, _⟩ := boundValue_eq_ok.1 made
    obtain ⟨n, static, resolved⟩ :=
      @typeOf_of_expr _ _ (s.env g) _ _ agrees inScope value _ ok
    have free : s.locals.length < slots.length := by
      simp only [BodyState.bind, List.length_append, List.length_singleton] at room
      omega
    rw [Checked.Stmt.exec, Reference.exec, static]
    apply (@expr_alike _ _ _ _ (s.env g) _ _ agrees simulates inScope value _ ok).bind
    intro v _ same
    subst same
    unfold Checked.fill
    rw [if_pos free]
    refine Outcome.alike_pure ⟨by simp, ?_⟩
    exact inScope.set.push opened (by simp [free]) resolved

/-- Statements run alike as far as they can be reached.  What checking has dropped stands behind
a statement that always returns, and neither run comes to it. -/
theorem stmts_alike (agrees : Agrees p host g) (simulates : Simulates p host invoke invoke') :
    ∀ (as : List Stmt) {s s' : BodyState} {rs : List (Analyzed Checked.Stmt)} {slots : List Value}
      {stack : List Reference.Scope}, stmts g expected as s = (.ok rs, s') →
      s'.locals.length ≤ slots.length → s.scopes ≠ [] →
      ScopesFor g.types.names s.locals slots s.scopes stack →
      Alike (FlowFor g.types.names s' slots.length)
        (Checked.Stmt.execAll invoke (reachable rs) slots)
        (Reference.execAll (.of p host) invoke' as stack)
  | [], s, s', rs, slots, stack, checked, room, opened, inScope => by
    obtain ⟨rfl, rfl⟩ := stmts_nil_eq_ok.1 checked
    rw [reachable, Checked.Stmt.execAll, Reference.execAll]
    exact Outcome.alike_pure ⟨rfl, inScope⟩
  | a :: as, s, s', rs, slots, stack, checked, room, opened, inScope => by
    obtain ⟨x, xs, s₁, first, rest, rfl⟩ := (stmts_cons_eq_ok agrees.distinct).1 checked
    have middle := (BodyState.Grows.of_stmts rest).locals.length_le
    have here := stmt_alike agrees simulates a first (Nat.le_trans middle room) opened inScope
    rw [Reference.execAll]
    cases out : x.returns with
    | true =>
      -- What comes after was dropped; neither run gets there.
      have returns := (stmt_wellTyped agrees.distinct a first List.prefix_rfl opened).returns out
      simp only [reachable, out, if_true]
      rw [Checked.Stmt.execAll]
      apply (here.and (Checked.Stmt.exec_returns x.node returns)).bind
      intro flow flow' both
      cases flow <;> cases flow'
      · exact both.2.elim
      · exact both.1.elim
      · exact both.1.elim
      · exact Outcome.alike_pure both.1
    | false =>
      simp only [reachable, out, Bool.false_eq_true, if_false]
      rw [Checked.Stmt.execAll]
      apply here.bind
      intro flow flow' both
      cases flow <;> cases flow'
      · obtain ⟨length, inScope'⟩ := both
        have later := stmts_alike agrees simulates as rest (length ▸ room)
          ((BodyState.Grows.of_stmt first).scopes_ne_nil opened) inScope'
        rw [length] at later
        exact later
      · exact both.elim
      · exact both.elim
      · exact Outcome.alike_pure both

/-- A chain runs alike: the same condition decides on both sides, and what a block binds goes
out of scope with it. -/
theorem conditional_alike (agrees : Agrees p host g)
    (simulates : Simulates p host invoke invoke') :
    ∀ (c : Conditional) {s s' : BodyState} {r : Analyzed Checked.Chain} {slots : List Value}
      {stack : List Reference.Scope}, conditional g expected c s = (.ok r, s') →
      s'.locals.length ≤ slots.length → s.scopes ≠ [] →
      ScopesFor g.types.names s.locals slots s.scopes stack →
      Alike (FlowFor g.types.names s' slots.length) (r.node.exec invoke slots)
        (Reference.execConditional (.of p host) invoke' c stack)
  | .mk e body rest span, s, s', r, slots, stack, checked, room, opened, inScope => by
    obtain ⟨c, b, o, s₁, ok, _, block, others, rfl⟩ := conditional_eq_ok.1 checked
    have kept := BodyState.Keeps.of_block block
    have kept' := BodyState.Keeps.of_otherwise others
    have middle := Nat.le_trans kept'.locals.length_le room
    rw [Checked.Chain.exec, Reference.execConditional]
    apply (@expr_alike _ _ _ _ (s.env g) _ _ agrees simulates inScope e _ ok).bind
    intro v _ same
    subst same
    split
    · obtain ⟨as, s₂, ran, rfl, rfl⟩ := block_eq_ok.1 block
      have inner := stmts_alike agrees simulates body ran middle (List.cons_ne_nil _ _)
        (.cons .nil inScope)
      exact (block_alike inner).mono fun _ _ flow => flow.mono kept'
    · apply otherwise_alike agrees simulates rest others room (kept.grows.scopes_ne_nil opened)
      rw [kept.scopes]
      exact inScope.grow kept.locals

/-- What follows a block runs alike: an `else if` is a conditional of its own in the source and
one more branch of the chain when checked. -/
theorem otherwise_alike (agrees : Agrees p host g) (simulates : Simulates p host invoke invoke') :
    ∀ (o : Otherwise) {s s' : BodyState} {r : Analyzed Checked.Chain} {slots : List Value}
      {stack : List Reference.Scope}, otherwise g expected o s = (.ok r, s') →
      s'.locals.length ≤ slots.length → s.scopes ≠ [] →
      ScopesFor g.types.names s.locals slots s.scopes stack →
      Alike (FlowFor g.types.names s' slots.length) (r.node.exec invoke slots)
        (Reference.execOtherwise (.of p host) invoke' o stack)
  | .nothing, s, s', r, slots, stack, checked, room, opened, inScope => by
    obtain ⟨rfl, rfl⟩ := otherwise_nothing_eq_ok.1 checked
    rw [Checked.Chain.exec, Reference.execOtherwise]
    exact Outcome.alike_pure ⟨rfl, inScope⟩
  | .block body, s, s', r, slots, stack, checked, room, opened, inScope => by
    obtain ⟨b, block, rfl⟩ := otherwise_block_eq_ok.1 checked
    obtain ⟨as, s₂, ran, rfl, rfl⟩ := block_eq_ok.1 block
    rw [Checked.Chain.exec, Reference.execOtherwise]
    exact block_alike (stmts_alike agrees simulates body ran room (List.cons_ne_nil _ _)
      (.cons .nil inScope))
  | .elseIf c, s, s', r, slots, stack, checked, room, opened, inScope => by
    rw [Reference.execOtherwise]
    exact conditional_alike agrees simulates c
      ((otherwise_elseIf_eq_ok agrees.distinct).1 checked) room opened
      inScope

end

end Statements

/-! ## Functions -/

section Functions

variable {p : Program} {host : Builtins} {g : Globals}

/-- The parameters are in the first slots. -/
theorem bindAll_inScope {names : TypeNames} {slots : List Value} {ds : List Binding}
    {ps : List Field} (declared : List.Forall₂ (BindingFor names) ds ps) :
    ∀ {s : BodyState} {stack : List Reference.Scope} {vs : List Value}, s.scopes ≠ [] →
      ScopesFor names s.locals slots s.scopes stack → vs.length = ds.length →
      (∀ (j : Nat) v, vs[j]? = some v → slots[s.locals.length + j]? = some v) →
      ScopesFor names (s.bindAll ps).locals slots (s.bindAll ps).scopes
        (Reference.bindAll stack (ds.zip vs)) := by
  induction declared with
  | nil =>
    intro s stack vs _ inScope _ _
    exact inScope
  | @cons d f ds ps bound _ ih =>
    intro s stack vs opened inScope length held
    cases vs with
    | nil => simp at length
    | cons v vs =>
      have step : ScopesFor names (s.bind f.name f.type).locals slots
          (s.bind f.name f.type).scopes
          (Reference.bind stack d.ident.name ⟨d.type.name, v⟩) := by
        rw [bound.1]
        exact inScope.push opened (held 0 v rfl) bound.2
      refine ih ((s.bind_grows _ _).scopes_ne_nil opened) step (by simpa using length)
        fun j w here => ?_
      simp only [BodyState.bind, List.length_append, List.length_singleton]
      rw [Nat.add_assoc, Nat.add_comm 1]
      exact held (j + 1) w here

/-- A checked function runs like its declaration. -/
theorem fn_alike (agrees : Agrees p host g) {invoke : Checked.Invoke} {invoke' : Reference.Invoke}
    (simulates : Simulates p host invoke invoke') {d : FnDecl} {signature : Signature}
    {r : Checked.Fn × List Warning} (declared : SignatureFor g.types.names d signature)
    (checked : fn g d signature = .ok r) (args : List Value) :
    Alike Eq (r.1.run invoke args) (Reference.run (.of p host) invoke' d args) := by
  obtain ⟨b, s, ran, _, rfl⟩ := fn_eq_ok.1 checked
  have kept := (BodyState.Keeps.of_block ran).locals.length_le
  rw [BodyState.bindAll_locals] at kept
  obtain ⟨as, s₁, body, rfl, rfl⟩ := block_eq_ok.1 ran
  have arity := declared.params.length_eq
  unfold Checked.Fn.run Reference.run
  dsimp only
  rw [declared.name, arity]
  split
  · next given =>
    have room : s₁.locals.length ≤ (args ++ List.replicate (s₁.locals.length - args.length)
        Value.void).length := by
      simp
      omega
    refine (stmts_alike agrees simulates d.body body room (List.cons_ne_nil _ _)
      (.cons .nil ?_)).bind ?_
    · refine bindAll_inScope declared.params (List.cons_ne_nil _ _) (.cons .nil .nil)
        (by omega) fun j v here => ?_
      have bound := (List.getElem?_eq_some_iff.1 here).1
      rw [show BodyState.start.locals.length = 0 from rfl, Nat.zero_add,
        List.getElem?_append_left bound]
      exact here
    · intro flow flow' both
      cases flow <;> cases flow'
      · exact Outcome.alike_pure rfl
      · exact both.elim
      · exact both.elim
      · exact Outcome.alike_pure both
  · exact ⟨rfl, rfl⟩

/-- What checking makes of a declaration, with the signature it was given. -/
def FnFor (g : Globals) (d : FnDecl) (f : Checked.Fn) : Prop :=
  ∃ signature r, SignatureFor g.types.names d signature ∧ fn g d signature = .ok r ∧ f = r.1

theorem FnFor.alike (agrees : Agrees p host g) {invoke : Checked.Invoke}
    {invoke' : Reference.Invoke} (simulates : Simulates p host invoke invoke') {d : FnDecl}
    {f : Checked.Fn} (made : FnFor g d f) (args : List Value) :
    Alike Eq (f.run invoke args) (Reference.run (.of p host) invoke' d args) := by
  obtain ⟨signature, r, declared, checked, rfl⟩ := made
  exact fn_alike agrees simulates declared checked args

/-- Calls run alike under every bound on how deep they may be nested. -/
theorem invoke_simulates (agrees : Agrees p host g) (q : Checked.Program)
    (hostFns : q.builtins = host.fns) (bodies : List.Forall₂ (FnFor g) p.fns q.fns) (depth : Nat) :
    Simulates p host (q.invoke depth) (Reference.invoke (.of p host) depth) := by
  have builtin : ∀ {i b}, host.fns[i]? = some b → ∀ vs,
      Alike Eq (q.invokeBuiltin i vs) ((b.call vs).mapError .error) := by
    intro i b declared vs
    unfold Checked.Program.invokeBuiltin
    rw [hostFns, declared]
    dsimp only
    rcases b.call vs with ⟨printed, result⟩
    cases result with
    | ok v => exact ⟨rfl, rfl⟩
    | error e => exact ⟨rfl, rfl⟩
  induction depth with
  | zero =>
    intro c f linked vs
    cases linked with
    | builtin declared => exact builtin declared vs
    | user declared => exact ⟨rfl, rfl⟩
  | succ depth ih =>
    intro c f linked vs
    cases linked with
    | builtin declared => exact builtin declared vs
    | user declared =>
      obtain ⟨f, found, made⟩ := Aligned.getElem?_left bodies declared
      rw [Checked.Program.invoke, found, Reference.invoke]
      exact made.alike agrees ih vs

end Functions

end Refinement

open Refinement

/-- Checking keeps meaning: each function of an accepted program, run on any
arguments, ends just when its declaration does, having printed the same lines, and
with the same value or the same error. -/
theorem Syntax.Program.check_preserves {p : Syntax.Program} {host : Builtins} {a : Accepted}
    (accepted : p.check host = .ok a) :
    List.Forall₂ (fun d f => ∀ args o,
      Reference.Evaluates p host d args o ↔ a.program.Evaluates f args o) p.fns a.program.fns := by
  obtain ⟨types, builtins, users, fns, tables, bodies, rfl⟩ := check_eq_ok.1 accepted
  have agrees := Agrees.of_tables tables
  have bodies : List.Forall₂ (FnFor ⟨types, fnTable builtins users⟩) p.fns (fns.map Prod.fst) := by
    rw [List.forall₂_map_right_iff]
    refine (Aligned.through_zip tables.fns bodies).imp fun d r entry => ?_
    obtain ⟨signature, declared, checked⟩ := entry
    exact ⟨signature, r, declared, checked, rfl⟩
  refine bodies.imp fun d f made args o => exists_congr fun depth => ?_
  have simulates := invoke_simulates agrees ⟨types, host.fns, fns.map Prod.fst⟩ rfl bodies depth
  exact (made.alike agrees simulates args).eq_mapError_iff o

/-- The program

    fn count(n: Int) {
      if n == 0 { return } else if n > 9 { let n = "far"  print(n) }
      let n = n - 1
      print(n)
      count(n)
    }

in which each call hides its parameter twice, with another type and with its own. -/
def counting : Syntax.Program where
  structs := []
  fns := [⟨named "count", [⟨named "n", named "Int", .builtin⟩], none, .builtin, [
    .cond (.mk (.binary (named "==") n (.int 0 .builtin) .builtin) [.ret none .builtin]
      (.elseIf (.mk (.binary (named ">") n (.int 9 .builtin) .builtin)
        [.bind (named "n") none (.str "far" .builtin) .builtin,
          .expr (.call (named "print") [n] .builtin)] .nothing .builtin)) .builtin),
    .bind (named "n") none (.binary (named "-") n (.int 1 .builtin) .builtin) .builtin,
    .expr (.call (named "print") [n] .builtin),
    .expr (.call (named "count") [n] .builtin)], .builtin⟩]
where
  named (name : String) : Syntax.Ident := ⟨name, .builtin⟩
  n : Syntax.Expr := .var "n" .builtin

theorem check_preserves_counting :
    ∃ a d f, counting.check .standard = .ok a ∧ counting.fns = [d] ∧ a.program.fns = [f] ∧
      a.program.Evaluates f [.int 1] ⟨["0"], .ok .void⟩ ∧
      Reference.Evaluates counting .standard d [.int 1] ⟨["0"], .ok .void⟩ := by
  refine ⟨_, _, _, rfl, rfl, rfl, ⟨1, rfl⟩, ?_⟩
  have preserved := @Syntax.Program.check_preserves counting .standard _ rfl
  exact ((List.forall₂_cons.1 preserved).1 _ _).2 ⟨1, rfl⟩

end NominalScript
