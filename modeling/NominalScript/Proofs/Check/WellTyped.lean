import NominalScript.Proofs.Check.State
import NominalScript.Proofs.Check.Tables
import NominalScript.Proofs.Syntax
import NominalScript.Proofs.WellTyped

/-!
# Checked code is well typed

What checking makes of an expression, a statement or a function obeys the rules of
`Checked.Expr.WellTyped` and its companions.  The live slots of the rules are the
slots of the names in scope (`BodyState.live`): a `let` brings its slot into scope
just when it is run, and the slots of a block go out of scope with it.
-/

namespace NominalScript.Check

open Syntax
open Checked (Frame Signature)

/-- The slots of the names in scope. -/
def Scope.slots (scopes : List Scope) : List Nat := scopes.flatMap fun scope => scope.map Prod.snd

abbrev BodyState.live (s : BodyState) : List Nat := Scope.slots s.scopes

theorem Env.mem_slots {env : Env} {name : String} {i : Nat} (found : env.slot? name = some i) :
    i ∈ Scope.slots env.scopes := by
  obtain ⟨scope, mem, here⟩ := List.exists_of_findSome?_eq_some found
  obtain ⟨before, after, split, _⟩ := List.lookup_eq_some_iff.1 here
  exact List.mem_flatMap.2 ⟨scope, mem, List.mem_map.2 ⟨(name, i), by simp [split], rfl⟩⟩

/-! ## Expressions -/

section Expressions

variable {env : Env} {slots : List TypeId} {returns : TypeId}

theorem call_wellTyped {live : List Nat} {name : String} {args : List Checked.Expr} {span : Span}
    {c : Checked.Expr} (checked : call env.globals name args span = .ok c)
    (each : ∀ a ∈ args, a.WellTyped ⟨env.globals, slots, returns⟩ live) :
    c.WellTyped ⟨env.globals, slots, returns⟩ live := by
  obtain ⟨⟨f, s⟩, found, rfl⟩ := call_eq_ok.1 checked
  have answers := List.find?_some found
  simp only [Signature.answers, Bool.and_eq_true, beq_iff_eq] at answers
  exact .call (List.mem_of_find?_eq_some found) answers.2.symm each

/-- An expression that is accepted is well typed in every frame whose slots start with those
bound so far, with the slots of the open scopes live. -/
theorem expr_wellTyped (env : Env) (distinct : FieldsDistinct env.types)
    (locals : env.locals <+: slots) (e : Expr) :
    ∀ {c : Checked.Expr}, expr env e = .ok c →
      c.WellTyped ⟨env.globals, slots, returns⟩ (Scope.slots env.scopes) := by
  induction e using Expr.inductOn with
  | str value span =>
    intro c checked
    cases expr_str_eq_ok.1 checked
    exact .str value
  | int value span =>
    intro c checked
    cases expr_int_eq_ok.1 checked
    exact .int value
  | call fn args span ih =>
    intro c checked
    obtain ⟨cs, parts, called⟩ := (expr_call_eq_ok distinct).1 checked
    refine call_wellTyped called fun a mem => ?_
    obtain ⟨e, isArg, ok⟩ := Aligned.mem_right parts mem
    exact ih e isArg ok
  | var name span =>
    intro c checked
    obtain ⟨i, t, found, entry, rfl⟩ := expr_var_eq_ok.1 checked
    exact .slot (Env.mem_slots found) (getElem?_of_grown locals entry)
  | unary op operand span ih =>
    intro c checked
    obtain ⟨e, ok, called⟩ := expr_unary_eq_ok.1 checked
    exact call_wellTyped called (by simpa using ih ok)
  | binary op left right span ihLeft ihRight =>
    intro c checked
    obtain ⟨l, r, okLeft, okRight, called⟩ := (expr_binary_eq_ok distinct).1 checked
    exact call_wellTyped called (by simpa using ⟨ihLeft okLeft, ihRight okRight⟩)
  | paren inner span ih =>
    intro c checked
    exact ih (expr_paren_eq_ok.1 checked)
  | init type fields fieldsSpan span ih =>
    intro c checked
    obtain ⟨i, s, values, _, entry, same, parts, typed, rfl⟩ := (expr_init_eq_ok distinct).1 checked
    have length : fields.length = s.fields.length := by
      simpa using congrArg List.length same
    have types := (fieldTypeErrors_eq_nil parts.length_eq
      (parts.length_eq.symm.trans length)).1 typed
    refine .init entry types fun v mem => ?_
    obtain ⟨f, isField, ok⟩ := Aligned.mem_right parts mem
    exact ih f isField ok
  | member base field span ih =>
    intro c checked
    obtain ⟨e, s, i, t, ok, struct, found, rfl⟩ := expr_member_eq_ok.1 checked
    obtain ⟨f, declared, _, rfl⟩ := StructType.field?_eq_some found
    exact .field struct declared (ih ok)

end Expressions

/-! ## Statements -/

section Statements

variable {g : Globals} {slots : List TypeId} {expected : TypeId}

theorem live_bind {s : BodyState} (opened : s.scopes ≠ []) (name : String) (type : TypeId) :
    (s.bind name type).live = s.locals.length :: s.live := by
  unfold BodyState.live BodyState.bind Scope.slots
  cases scopes : s.scopes with
  | nil => exact absurd scopes opened
  | cons scope outer => simp

/-- What checking a statement establishes: the statement is well typed with the
names in scope live, it leaves live what is in scope after it, and if it is said to
return, every path through it does. -/
structure StmtChecked (F : Frame) (live live' : List Nat) (a : Analyzed Checked.Stmt) : Prop where
  typed : a.node.WellTyped F live
  live : live' = a.node.liveAfter live
  returns : a.returns = true → a.node.mustReturn = true

mutual

/-- A statement that is accepted is well typed in the frame of the whole body, of which its own
slots are a first part. -/
theorem stmt_wellTyped (distinct : FieldsDistinct g.types) :
    ∀ (a : Stmt) {s s' : BodyState} {r : Analyzed Checked.Stmt},
      stmt g expected a s = (.ok r, s') → s'.locals <+: slots → s.scopes ≠ [] →
      StmtChecked ⟨g, slots, expected⟩ s.live s'.live r
  | .expr e, s, s', r, checked, fits, opened => by
    obtain ⟨c, ok, rfl, rfl⟩ := stmt_expr_eq_ok.1 checked
    refine ⟨?_, rfl, nofun⟩
    rw [Checked.Stmt.WellTyped]
    exact expr_wellTyped (s'.env g) distinct fits e ok
  | .cond c, s, s', r, checked, fits, opened => by
    obtain ⟨b, ok, rfl⟩ := stmt_cond_eq_ok.1 checked
    obtain ⟨typed, returns⟩ := conditional_wellTyped distinct c ok fits opened
    refine ⟨?_, ?_, ?_⟩
    · rw [Checked.Stmt.WellTyped]
      exact typed
    · rw [BodyState.live, (BodyState.Keeps.of_conditional ok).scopes]
      rfl
    · rw [Checked.Stmt.mustReturn]
      exact returns
  | .ret value span, s, s', r, checked, fits, opened => by
    obtain ⟨n, made, rfl, rfl⟩ := stmt_ret_eq_ok.1 checked
    cases value with
    | none =>
      obtain ⟨void, rfl⟩ := returned_none_eq_ok.1 made
      refine ⟨?_, rfl, fun _ => by rw [Checked.Stmt.mustReturn]⟩
      rw [Checked.Stmt.WellTyped]
      exact void
    | some e =>
      obtain ⟨c, ok, typed, rfl⟩ := returned_some_eq_ok.1 made
      refine ⟨?_, rfl, fun _ => by rw [Checked.Stmt.mustReturn]⟩
      rw [Checked.Stmt.WellTyped]
      exact ⟨expr_wellTyped (s'.env g) distinct fits e ok, typed⟩
  | .bind ident type value span, s, s', r, checked, fits, opened => by
    obtain ⟨c, ok, _, rfl, rfl⟩ := stmt_bind_eq_ok.1 checked
    obtain ⟨ok, _⟩ := boundValue_eq_ok.1 ok
    have before : s.locals <+: slots := (s.bind_grows _ _).locals.trans fits
    refine ⟨?_, live_bind opened _ _, nofun⟩
    rw [Checked.Stmt.WellTyped]
    refine ⟨expr_wellTyped (s.env g) distinct before value ok, ?_⟩
    obtain ⟨rest, rfl⟩ := fits
    simp [BodyState.bind]

/-- Accepted statements are well typed as far as they can be reached, and return on all paths if
checking says that they do. -/
theorem stmts_wellTyped (distinct : FieldsDistinct g.types) :
    ∀ (as : List Stmt) {s s' : BodyState} {rs : List (Analyzed Checked.Stmt)},
      stmts g expected as s = (.ok rs, s') → s'.locals <+: slots → s.scopes ≠ [] →
      Checked.Stmt.AllWellTyped ⟨g, slots, expected⟩ s.live (reachable rs) ∧
        (rs.any Analyzed.returns = true → Checked.Stmt.anyMustReturn (reachable rs) = true)
  | [], s, s', rs, checked, fits, opened => by
    obtain ⟨rfl, rfl⟩ := stmts_nil_eq_ok.1 checked
    refine ⟨?_, nofun⟩
    rw [reachable, Checked.Stmt.AllWellTyped]
    trivial
  | a :: as, s, s', rs, checked, fits, opened => by
    obtain ⟨x, xs, s₁, first, rest, rfl⟩ := (stmts_cons_eq_ok distinct).1 checked
    have middle : s₁.locals <+: slots := (BodyState.Grows.of_stmts rest).locals.trans fits
    have here := stmt_wellTyped distinct a first middle opened
    obtain ⟨typed, returns⟩ := stmts_wellTyped distinct as rest fits
      ((BodyState.Grows.of_stmt first).scopes_ne_nil opened)
    rw [here.live] at typed
    cases out : x.returns with
    | true =>
      simp only [reachable, out, if_true, Checked.Stmt.AllWellTyped, Checked.Stmt.anyMustReturn,
        here.returns out]
      exact ⟨⟨here.typed, trivial⟩, fun _ => rfl⟩
    | false =>
      simp only [reachable, out, Bool.false_eq_true, if_false, Checked.Stmt.AllWellTyped,
        Checked.Stmt.anyMustReturn, List.any_cons, Bool.false_or]
      exact ⟨⟨here.typed, typed⟩, fun later => by rw [returns later, Bool.or_true]⟩

/-- The chain is typed with what is live before it, and the slots bound in its blocks are live
in these only. -/
theorem conditional_wellTyped (distinct : FieldsDistinct g.types) :
    ∀ (c : Conditional) {s s' : BodyState} {r : Analyzed Checked.Chain},
      conditional g expected c s = (.ok r, s') → s'.locals <+: slots → s.scopes ≠ [] →
      r.node.WellTyped ⟨g, slots, expected⟩ s.live ∧ (r.returns = true → r.node.mustReturn = true)
  | .mk e body rest span, s, s', r, checked, fits, opened => by
    obtain ⟨c, b, o, s₁, ok, int, block, others, rfl⟩ := conditional_eq_ok.1 checked
    have middle : s₁.locals <+: slots := (BodyState.Keeps.of_otherwise others).locals.trans fits
    have kept := BodyState.Keeps.of_block block
    obtain ⟨as, s₂, ran, rfl, rfl⟩ := block_eq_ok.1 block
    obtain ⟨typed, returns⟩ := stmts_wellTyped distinct body ran middle (List.cons_ne_nil _ _)
    obtain ⟨typedRest, returnsRest⟩ :=
      otherwise_wellTyped distinct rest others fits (kept.grows.scopes_ne_nil opened)
    rw [BodyState.live, kept.scopes] at typedRest
    rw [Checked.Chain.WellTyped, Checked.Chain.mustReturn]
    have condition : c.WellTyped ⟨g, slots, expected⟩ s.live :=
      expr_wellTyped (s.env g) distinct (kept.locals.trans middle) e ok
    refine ⟨⟨⟨condition, int⟩, typed, typedRest⟩, ?_⟩
    intro both
    rw [Bool.and_eq_true] at both ⊢
    exact ⟨returns both.1, returnsRest both.2⟩

/-- What follows a block is typed with what is live before the chain. -/
theorem otherwise_wellTyped (distinct : FieldsDistinct g.types) :
    ∀ (o : Otherwise) {s s' : BodyState} {r : Analyzed Checked.Chain},
      otherwise g expected o s = (.ok r, s') → s'.locals <+: slots → s.scopes ≠ [] →
      r.node.WellTyped ⟨g, slots, expected⟩ s.live ∧ (r.returns = true → r.node.mustReturn = true)
  | .nothing, s, s', r, checked, fits, opened => by
    obtain ⟨rfl, rfl⟩ := otherwise_nothing_eq_ok.1 checked
    rw [Checked.Chain.WellTyped]
    exact ⟨trivial, nofun⟩
  | .block body, s, s', r, checked, fits, opened => by
    obtain ⟨b, block, rfl⟩ := otherwise_block_eq_ok.1 checked
    obtain ⟨as, s₂, ran, rfl, rfl⟩ := block_eq_ok.1 block
    rw [Checked.Chain.WellTyped, Checked.Chain.mustReturn]
    have inner := stmts_wellTyped distinct body ran fits (List.cons_ne_nil _ _)
    exact inner
  | .elseIf c, s, s', r, checked, fits, opened =>
    conditional_wellTyped distinct c ((otherwise_elseIf_eq_ok distinct).1 checked) fits opened

end

/-! ## Functions -/

/-- Binding parameters makes live only slots below the number of those then bound. -/
theorem live_bindAll (params : List Field) {s : BodyState} (opened : s.scopes ≠ []) {n : Nat}
    (bound : s.locals.length + params.length = n) (below : ∀ i ∈ s.live, i < n) :
    ∀ i ∈ (s.bindAll params).live, i < n := by
  induction params generalizing s with
  | nil => exact below
  | cons p params ih =>
    have opened' := (s.bind_grows p.name p.type).scopes_ne_nil opened
    refine ih (s := s.bind p.name p.type) opened' ?_ ?_
    · rw [← bound]
      simp [BodyState.bind]
      omega
    · intro i isLive
      rw [live_bind opened] at isLive
      rcases List.mem_cons.1 isLive with rfl | before
      · rw [← bound]
        simp
      · exact below i before

/-- What checking makes of a function is a well-typed function of the given
signature. -/
theorem fn_wellTyped (distinct : FieldsDistinct g.types) {d : FnDecl} {signature : Signature}
    {r : Checked.Fn × List Warning} (checked : fn g d signature = .ok r) :
    r.1.signature = signature ∧ r.1.WellTyped g := by
  obtain ⟨b, s, ran, returns, rfl⟩ := fn_eq_ok.1 checked
  have kept := (BodyState.Keeps.of_block ran).locals
  obtain ⟨as, s₁, body, rfl, rfl⟩ := block_eq_ok.1 ran
  obtain ⟨typed, returned⟩ :=
    stmts_wellTyped distinct d.body body List.prefix_rfl (List.cons_ne_nil _ _)
  refine ⟨rfl, ?_, returns.imp_right returned⟩
  refine ⟨s₁.locals, _, rfl, ?_, ?_, typed⟩
  · rw [BodyState.bindAll_locals] at kept
    exact kept
  · exact live_bindAll signature.params (List.cons_ne_nil _ _) (by simp [BodyState.start])
      (by simp [BodyState.start, Scope.slots])

end Statements

end NominalScript.Check
