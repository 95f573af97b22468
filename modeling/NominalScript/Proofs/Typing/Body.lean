import NominalScript.Proofs.Typing.Expr

/-!
# Checking bodies follows the typing rules

Statements pass the check just when they are typed, one step at a time: checking
goes from scopes to scopes as the rules do.  `typed_of_stmt` and its companions lead
from checking to the rules, `stmt_of_typed` and its companions back, and
`stmt_returns` says that checking finds out whether some path falls through.
-/

namespace NominalScript.Typing

open Syntax Check
open Checked (Signature)

/-! ## Scopes -/

section Scopes

variable {names : TypeNames} {s s' : BodyState} {stack : List Scope}

theorem InScope.grow (inScope : InScope names s.locals s.scopes stack) (kept : s.Keeps s') :
    InScope names s'.locals s'.scopes stack := by
  refine ⟨?_, inScope.distinct⟩
  rw [kept.scopes]
  refine inScope.agree.mono fun i type held => ?_
  obtain ⟨t, here, resolved⟩ := held
  exact ⟨t, getElem?_of_grown kept.locals here, resolved⟩

theorem InScope.enter (inScope : InScope names s.locals s.scopes stack) :
    InScope names s.enter.locals s.enter.scopes ([] :: stack) :=
  ⟨.cons .nil inScope.agree, List.forall_mem_cons.2 ⟨List.nodup_nil, inScope.distinct⟩⟩

variable {scope : Scope} {outer : List Scope} {name type : String}

/-- The same names are bound in the innermost scope. -/
theorem InScope.isBoundHere (inScope : InScope names s.locals s.scopes (scope :: outer)) :
    s.isBoundHere name = false ↔ name ∉ scope.map Prod.fst := by
  obtain ⟨agree, _⟩ := inScope
  rcases s with ⟨locals, scopes, warnings⟩
  rw [← lookup_eq_none]
  cases agree with
  | cons entries _ =>
    rcases @lookup_agree _ _ name _ _ entries with ⟨absent, absent'⟩ | ⟨i, b, here, here', _⟩
    · simp [BodyState.isBoundHere, absent, absent']
    · simp [BodyState.isBoundHere, here, here']

/-- A new name is in scope on both sides, with a type that resolves to that of its slot. -/
theorem InScope.bind {t : TypeId} (inScope : InScope names s.locals s.scopes (scope :: outer))
    (new : name ∉ scope.map Prod.fst) (resolved : names.resolve? type = some t) :
    InScope names (s.bind name t).locals (s.bind name t).scopes
      (((name, type) :: scope) :: outer) := by
  obtain ⟨first, rest⟩ := List.forall_mem_cons.1 inScope.distinct
  refine ⟨?_, List.forall_mem_cons.2 ⟨List.nodup_cons.2 ⟨new, first⟩, rest⟩⟩
  have grown : ScopesAgree (TypeFor names (s.bind name t).locals) s.scopes (scope :: outer) := by
    refine inScope.agree.mono fun i type held => ?_
    obtain ⟨u, here, resolved⟩ := held
    exact ⟨u, getElem?_of_grown (s.bind_grows name t).locals here, resolved⟩
  refine grown.bind ⟨t, ?_, resolved⟩ t
  simp [BodyState.bind]

end Scopes

section Bodies

variable {p : Program} {host : Builtins} {g : Globals} {expected : TypeId} {returns : String}

/-! ## From checking to the rules -/

mutual

/-- A statement that is accepted is typed, and the scopes behind it still hold the names and
types that the state does. -/
theorem typed_of_stmt (describes : Describes p host g)
    (resolved : g.types.names.resolve? returns = some expected) :
    ∀ (a : Stmt) {s s' : BodyState} {r : Analyzed Checked.Stmt} {stack : List Scope},
      stmt g expected a s = (.ok r, s') → s.scopes ≠ [] →
      InScope g.types.names s.locals s.scopes stack →
      ∃ stack', StmtTyped (.of p host) returns stack a stack' ∧
        InScope g.types.names s'.locals s'.scopes stack'
  | .expr e, s, s', r, stack, checked, opened, inScope => by
    obtain ⟨c, ok, rfl, rfl⟩ := stmt_expr_eq_ok.1 checked
    obtain ⟨type, typed, _⟩ := @hasType_of_expr _ _ (s'.env g) _ describes inScope e _ ok
    exact ⟨stack, .expr typed, inScope⟩
  | .cond c, s, s', r, stack, checked, opened, inScope => by
    obtain ⟨b, ok, rfl⟩ := stmt_cond_eq_ok.1 checked
    refine ⟨stack, .cond (typed_of_conditional describes resolved c ok opened inScope), ?_⟩
    exact inScope.grow (.of_conditional ok)
  | .ret value span, s, s', r, stack, checked, opened, inScope => by
    obtain ⟨n, made, rfl, rfl⟩ := stmt_ret_eq_ok.1 checked
    cases value with
    | none =>
      obtain ⟨void, _⟩ := returned_none_eq_ok.1 made
      have isVoid : g.types.names.resolve? "Void" = some expected := void ▸ describes.void
      exact ⟨stack, .retVoid (TypeNames.resolve?_inj resolved isVoid), inScope⟩
    | some e =>
      obtain ⟨c, ok, same, rfl⟩ := returned_some_eq_ok.1 made
      obtain ⟨type, typed, found⟩ := @hasType_of_expr _ _ (s'.env g) _ describes inScope e _ ok
      rw [same] at found
      rw [TypeNames.resolve?_inj found resolved] at typed
      exact ⟨stack, .ret typed, inScope⟩
  | .bind ident stated value span, s, s', r, stack, checked, opened, inScope => by
    obtain ⟨c, made, free, rfl, rfl⟩ := stmt_bind_eq_ok.1 checked
    obtain ⟨ok, annotated⟩ := boundValue_eq_ok.1 made
    obtain ⟨type, typed, found⟩ := @hasType_of_expr _ _ (s.env g) _ describes inScope value _ ok
    cases stack with
    | nil => exact absurd (List.forall₂_nil_right_iff.1 inScope.agree) opened
    | cons scope outer =>
      have new := inScope.isBoundHere.1 free
      refine ⟨_, .bind typed (fun a written => ?_) new, inScope.bind new found⟩
      exact TypeNames.resolve?_inj (annotated a written) found

theorem typed_of_stmts (describes : Describes p host g)
    (resolved : g.types.names.resolve? returns = some expected) :
    ∀ (as : List Stmt) {s s' : BodyState} {rs : List (Analyzed Checked.Stmt)}
      {stack : List Scope}, stmts g expected as s = (.ok rs, s') → s.scopes ≠ [] →
      InScope g.types.names s.locals s.scopes stack → StmtsTyped (.of p host) returns stack as
  | [], s, s', rs, stack, checked, opened, inScope => .nil
  | a :: as, s, s', rs, stack, checked, opened, inScope => by
    obtain ⟨x, xs, s₁, first, rest, rfl⟩ := (stmts_cons_eq_ok describes.distinct).1 checked
    obtain ⟨stack', typed, inScope'⟩ := typed_of_stmt describes resolved a first opened inScope
    exact .cons typed (typed_of_stmts describes resolved as rest
      ((BodyState.Grows.of_stmt first).scopes_ne_nil opened) inScope')

/-- A chain that is accepted is typed, its blocks in scopes of their own. -/
theorem typed_of_conditional (describes : Describes p host g)
    (resolved : g.types.names.resolve? returns = some expected) :
    ∀ (c : Conditional) {s s' : BodyState} {r : Analyzed Checked.Chain} {stack : List Scope},
      conditional g expected c s = (.ok r, s') → s.scopes ≠ [] →
      InScope g.types.names s.locals s.scopes stack →
      ConditionalTyped (.of p host) returns stack c
  | .mk e body rest span, s, s', r, stack, checked, opened, inScope => by
    obtain ⟨c, b, o, s₁, ok, int, block, others, rfl⟩ := conditional_eq_ok.1 checked
    have kept := BodyState.Keeps.of_block block
    obtain ⟨type, typed, found⟩ := @hasType_of_expr _ _ (s.env g) _ describes inScope e _ ok
    rw [int] at found
    rw [TypeNames.resolve?_inj found describes.int] at typed
    obtain ⟨as, s₂, ran, _, _⟩ := block_eq_ok.1 block
    refine .mk typed ?_ ?_
    · exact typed_of_stmts describes resolved body ran (List.cons_ne_nil _ _) inScope.enter
    · exact typed_of_otherwise describes resolved rest others (kept.grows.scopes_ne_nil opened)
        (inScope.grow kept)

/-- What follows a block is typed if it is accepted. -/
theorem typed_of_otherwise (describes : Describes p host g)
    (resolved : g.types.names.resolve? returns = some expected) :
    ∀ (o : Otherwise) {s s' : BodyState} {r : Analyzed Checked.Chain} {stack : List Scope},
      otherwise g expected o s = (.ok r, s') → s.scopes ≠ [] →
      InScope g.types.names s.locals s.scopes stack →
      OtherwiseTyped (.of p host) returns stack o
  | .nothing, s, s', r, stack, checked, opened, inScope => .nothing
  | .elseIf c, s, s', r, stack, checked, opened, inScope =>
    .elseIf (typed_of_conditional describes resolved c
      ((otherwise_elseIf_eq_ok describes.distinct).1 checked) opened inScope)
  | .block body, s, s', r, stack, checked, opened, inScope => by
    obtain ⟨b, block, rfl⟩ := otherwise_block_eq_ok.1 checked
    obtain ⟨as, s₂, ran, _, _⟩ := block_eq_ok.1 block
    exact .block (typed_of_stmts describes resolved body ran (List.cons_ne_nil _ _) inScope.enter)

end

/-! ## From the rules to checking -/

mutual

/-- A typed statement is accepted, and the state behind it holds the names and types of the
scopes there. -/
theorem stmt_of_typed (describes : Describes p host g)
    (resolved : g.types.names.resolve? returns = some expected) :
    ∀ (a : Stmt) {s : BodyState} {stack stack' : List Scope},
      StmtTyped (.of p host) returns stack a stack' →
      InScope g.types.names s.locals s.scopes stack →
      ∃ r s', stmt g expected a s = (.ok r, s') ∧
        InScope g.types.names s'.locals s'.scopes stack'
  | .expr e, s, stack, stack', typed, inScope => by
    cases typed with
    | expr typed =>
      obtain ⟨c, ok, _⟩ := @expr_of_hasType _ _ (s.env g) _ describes inScope e _ typed
      exact ⟨_, s, stmt_expr_eq_ok.2 ⟨c, ok, rfl, rfl⟩, inScope⟩
  | .cond c, s, stack, stack', typed, inScope => by
    cases typed with
    | cond typed =>
      obtain ⟨r, s', ok⟩ := conditional_of_typed describes resolved c typed inScope
      exact ⟨_, s', stmt_cond_eq_ok.2 ⟨r, ok, rfl⟩, inScope.grow (.of_conditional ok)⟩
  | .ret value span, s, stack, stack', typed, inScope => by
    cases typed with
    | ret typed =>
      obtain ⟨c, ok, found⟩ := @expr_of_hasType _ _ (s.env g) _ describes inScope _ _ typed
      have same : c.type = expected := Option.some.inj (found.symm.trans resolved)
      exact ⟨_, s, stmt_ret_eq_ok.2 ⟨_, returned_some_eq_ok.2 ⟨c, ok, same, rfl⟩, rfl, rfl⟩,
        inScope⟩
    | retVoid void =>
      subst void
      have same : g.types.void = expected := Option.some.inj (describes.void.symm.trans resolved)
      exact ⟨_, s, stmt_ret_eq_ok.2 ⟨_, returned_none_eq_ok.2 ⟨same, rfl⟩, rfl, rfl⟩, inScope⟩
  | .bind ident stated value span, s, stack, stack', typed, inScope => by
    cases typed with
    | bind typed annotated new =>
      obtain ⟨c, ok, found⟩ := @expr_of_hasType _ _ (s.env g) _ describes inScope value _ typed
      have made : boundValue (s.env g) ident stated value = .ok c := by
        refine boundValue_eq_ok.2 ⟨ok, fun a written => ?_⟩
        rw [annotated a written]
        exact found
      exact ⟨_, _, stmt_bind_eq_ok.2 ⟨c, made, inScope.isBoundHere.2 new, rfl, rfl⟩,
        inScope.bind new found⟩

/-- Typed statements are accepted one after the other, those that cannot be reached too. -/
theorem stmts_of_typed (describes : Describes p host g)
    (resolved : g.types.names.resolve? returns = some expected) :
    ∀ (as : List Stmt) {s : BodyState} {stack : List Scope},
      StmtsTyped (.of p host) returns stack as → InScope g.types.names s.locals s.scopes stack →
      ∃ rs s', stmts g expected as s = (.ok rs, s')
  | [], s, stack, typed, inScope => ⟨[], s, stmts_nil_eq_ok.2 ⟨rfl, rfl⟩⟩
  | a :: as, s, stack, typed, inScope => by
    cases typed with
    | cons first rest =>
      obtain ⟨x, s₁, ok, inScope'⟩ := stmt_of_typed describes resolved a first inScope
      obtain ⟨xs, s', ok'⟩ := stmts_of_typed describes resolved as rest inScope'
      exact ⟨x :: xs, s', (stmts_cons_eq_ok describes.distinct).2 ⟨x, xs, s₁, ok, ok', rfl⟩⟩

/-- A typed chain is accepted: each part starts from the state that the part before it has left. -/
theorem conditional_of_typed (describes : Describes p host g)
    (resolved : g.types.names.resolve? returns = some expected) :
    ∀ (c : Conditional) {s : BodyState} {stack : List Scope},
      ConditionalTyped (.of p host) returns stack c →
      InScope g.types.names s.locals s.scopes stack →
      ∃ r s', conditional g expected c s = (.ok r, s')
  | .mk e body rest span, s, stack, typed, inScope => by
    cases typed with
    | mk typed inner others =>
      obtain ⟨c, ok, found⟩ := @expr_of_hasType _ _ (s.env g) _ describes inScope e _ typed
      have int : c.type = g.types.int := Option.some.inj (found.symm.trans describes.int)
      obtain ⟨rs, s₁, ran⟩ := stmts_of_typed describes resolved body inner inScope.enter
      have block : Check.block g expected body s = _ := block_eq_ok.2 ⟨rs, s₁, ran, rfl, rfl⟩
      obtain ⟨o, s', ok'⟩ := otherwise_of_typed describes resolved rest others
        (inScope.grow (.of_block block))
      exact ⟨_, s', conditional_eq_ok.2 ⟨c, _, o, _, ok, int, block, ok', rfl⟩⟩

/-- What follows a block is accepted if it is typed. -/
theorem otherwise_of_typed (describes : Describes p host g)
    (resolved : g.types.names.resolve? returns = some expected) :
    ∀ (o : Otherwise) {s : BodyState} {stack : List Scope},
      OtherwiseTyped (.of p host) returns stack o →
      InScope g.types.names s.locals s.scopes stack →
      ∃ r s', otherwise g expected o s = (.ok r, s')
  | .nothing, s, stack, typed, inScope => ⟨_, s, otherwise_nothing_eq_ok.2 ⟨rfl, rfl⟩⟩
  | .elseIf c, s, stack, typed, inScope => by
    cases typed with
    | elseIf typed =>
      obtain ⟨r, s', ok⟩ := conditional_of_typed describes resolved c typed inScope
      exact ⟨r, s', (otherwise_elseIf_eq_ok describes.distinct).2 ok⟩
  | .block body, s, stack, typed, inScope => by
    cases typed with
    | block typed =>
      obtain ⟨rs, s₁, ran⟩ := stmts_of_typed describes resolved body typed inScope.enter
      exact ⟨_, _, otherwise_block_eq_ok.2 ⟨_, block_eq_ok.2 ⟨rs, s₁, ran, rfl, rfl⟩, rfl⟩⟩

end

/-! ## Paths -/

mutual

/-- Checking says that a statement returns unless some path falls through it. -/
theorem stmt_returns (distinct : FieldsDistinct g.types) :
    ∀ (a : Stmt) {s s' : BodyState} {r : Analyzed Checked.Stmt},
      stmt g expected a s = (.ok r, s') → (r.returns = false ↔ FallsThrough a)
  | .expr e, s, s', r, checked => by
    obtain ⟨c, _, rfl, _⟩ := stmt_expr_eq_ok.1 checked
    exact ⟨fun _ => .expr, fun _ => rfl⟩
  | .cond c, s, s', r, checked => by
    obtain ⟨b, ok, rfl⟩ := stmt_cond_eq_ok.1 checked
    have inner := conditional_returns distinct c ok
    refine ⟨fun falls => .cond (inner.1 falls), fun falls => ?_⟩
    cases falls with
    | cond falls => exact inner.2 falls
  | .ret value span, s, s', r, checked => by
    obtain ⟨n, _, rfl, _⟩ := stmt_ret_eq_ok.1 checked
    exact ⟨fun returns => (nomatch returns), fun falls => (nomatch falls)⟩
  | .bind ident stated value span, s, s', r, checked => by
    obtain ⟨c, _, _, rfl, _⟩ := stmt_bind_eq_ok.1 checked
    exact ⟨fun _ => .bind, fun _ => rfl⟩

/-- None of the statements returns on all paths just when control falls through each of them. -/
theorem stmts_return (distinct : FieldsDistinct g.types) :
    ∀ (as : List Stmt) {s s' : BodyState} {rs : List (Analyzed Checked.Stmt)},
      stmts g expected as s = (.ok rs, s') → (rs.any Analyzed.returns = false ↔ AllFallThrough as)
  | [], s, s', rs, checked => by
    obtain ⟨rfl, _⟩ := stmts_nil_eq_ok.1 checked
    exact ⟨fun _ => .nil, fun _ => rfl⟩
  | a :: as, s, s', rs, checked => by
    obtain ⟨x, xs, s₁, first, rest, rfl⟩ := (stmts_cons_eq_ok distinct).1 checked
    have here := stmt_returns distinct a first
    have later := stmts_return distinct as rest
    rw [List.any_cons, Bool.or_eq_false_iff]
    refine ⟨fun falls => .cons (here.1 falls.1) (later.1 falls.2), fun falls => ?_⟩
    cases falls with
    | cons falls falls' => exact ⟨here.2 falls, later.2 falls'⟩

/-- A chain returns on all paths just when none of its paths falls through. -/
theorem conditional_returns (distinct : FieldsDistinct g.types) :
    ∀ (c : Conditional) {s s' : BodyState} {r : Analyzed Checked.Chain},
      conditional g expected c s = (.ok r, s') → (r.returns = false ↔ ConditionalFallsThrough c)
  | .mk e body rest span, s, s', r, checked => by
    obtain ⟨c, b, o, s₁, _, _, block, others, rfl⟩ := conditional_eq_ok.1 checked
    obtain ⟨as, s₂, ran, rfl, _⟩ := block_eq_ok.1 block
    have inner : (closeBlock body as).1.returns = false ↔ AllFallThrough body :=
      stmts_return distinct body ran
    have other := otherwise_returns distinct rest others
    rw [Bool.and_eq_false_iff]
    refine ⟨fun falls => ?_, fun falls => ?_⟩
    · rcases falls with falls | falls
      · exact .holds (inner.1 falls)
      · exact .fails (other.1 falls)
    · cases falls with
      | holds falls => exact .inl (inner.2 falls)
      | fails falls => exact .inr (other.2 falls)

/-- What follows a block falls through where nothing follows, for then the block may be passed
over. -/
theorem otherwise_returns (distinct : FieldsDistinct g.types) :
    ∀ (o : Otherwise) {s s' : BodyState} {r : Analyzed Checked.Chain},
      otherwise g expected o s = (.ok r, s') → (r.returns = false ↔ OtherwiseFallsThrough o)
  | .nothing, s, s', r, checked => by
    obtain ⟨rfl, _⟩ := otherwise_nothing_eq_ok.1 checked
    exact ⟨fun _ => .nothing, fun _ => rfl⟩
  | .elseIf c, s, s', r, checked => by
    have inner := conditional_returns distinct c ((otherwise_elseIf_eq_ok distinct).1 checked)
    refine ⟨fun falls => .elseIf (inner.1 falls), fun falls => ?_⟩
    cases falls with
    | elseIf falls => exact inner.2 falls
  | .block body, s, s', r, checked => by
    obtain ⟨b, block, rfl⟩ := otherwise_block_eq_ok.1 checked
    obtain ⟨as, s₂, ran, rfl, _⟩ := block_eq_ok.1 block
    have inner : (closeBlock body as).1.returns = false ↔ AllFallThrough body :=
      stmts_return distinct body ran
    refine ⟨fun falls => .block (inner.1 falls), fun falls => ?_⟩
    cases falls with
    | block falls => exact inner.2 falls

end

/-! ## Functions -/

/-- The parameters, in scope around the body. -/
theorem inScope_bindAll {names : TypeNames} {ds : List Binding} {ps : List Field}
    (declared : List.Forall₂ (BindingFor names) ds ps) :
    ∀ {s : BodyState} {scope : Scope} {outer : List Scope},
      InScope names s.locals s.scopes (scope :: outer) →
      (ds.map (·.ident.name)).Nodup → (∀ d ∈ ds, d.ident.name ∉ scope.map Prod.fst) →
      InScope names (s.bindAll ps).locals (s.bindAll ps).scopes
        ((ds.reverse.map (fun b => (b.ident.name, b.type.name)) ++ scope) :: outer) := by
  induction declared with
  | nil =>
    intro s scope outer inScope _ _
    exact inScope
  | @cons d f ds ps bound _ ih =>
    intro s scope outer inScope distinct new
    obtain ⟨apart, distinct⟩ := List.nodup_cons.1 distinct
    obtain ⟨here, later⟩ := List.forall_mem_cons.1 new
    have step : InScope names (s.bind f.name f.type).locals (s.bind f.name f.type).scopes
        (((d.ident.name, d.type.name) :: scope) :: outer) := by
      rw [bound.1]
      exact inScope.bind here bound.2
    have rest := ih step distinct fun d' mem => by
      rw [List.map_cons, List.mem_cons, not_or]
      refine ⟨fun same => apart ?_, later d' mem⟩
      exact List.mem_map.2 ⟨d', mem, same⟩
    have unfolded : s.bindAll (f :: ps) = (s.bind f.name f.type).bindAll ps := rfl
    rw [unfolded]
    simpa using rest

/-- A function passes the check just when its body is typed and all paths that
must return do. -/
theorem fn_iff (describes : Describes p host g) {d : FnDecl} {signature : Signature}
    (declared : SignatureFor g.types.names d signature)
    (params : (d.params.map (·.ident.name)).Nodup) :
    (∃ r, fn g d signature = .ok r) ↔
      StmtsTyped (.of p host) d.returnName [[], paramScope d] d.body ∧
        (d.returnName = "Void" ∨ ¬ AllFallThrough d.body) := by
  have inScope : InScope g.types.names (BodyState.start.bindAll signature.params).enter.locals
      (BodyState.start.bindAll signature.params).enter.scopes [[], paramScope d] := by
    apply InScope.enter
    have start : InScope g.types.names BodyState.start.locals BodyState.start.scopes [[]] :=
      ⟨.cons .nil .nil, by simp⟩
    simpa [paramScope] using inScope_bindAll declared.params start params (by simp)
  have void : signature.returnType = g.types.void ↔ d.returnName = "Void" := by
    refine ⟨?_, ?_⟩
    · intro same
      exact TypeNames.resolve?_inj declared.returns (same ▸ describes.void)
    · intro same
      have returns := declared.returns
      rw [same, describes.void] at returns
      exact (Option.some.inj returns).symm
  refine ⟨?_, ?_⟩
  · intro ⟨r, checked⟩
    obtain ⟨b, s, block, returns, _⟩ := fn_eq_ok.1 checked
    obtain ⟨as, s₁, ran, rfl, _⟩ := block_eq_ok.1 block
    refine ⟨typed_of_stmts describes declared.returns d.body ran (List.cons_ne_nil _ _) inScope,
      returns.imp void.1 fun out falls => ?_⟩
    have silent : (closeBlock d.body as).1.returns = false :=
      (stmts_return describes.distinct d.body ran).2 falls
    rw [silent] at out
    cases out
  · intro ⟨typed, returns⟩
    obtain ⟨as, s₁, ran⟩ := stmts_of_typed describes declared.returns d.body typed inScope
    refine ⟨_, fn_eq_ok.2 ⟨_, _, block_eq_ok.2 ⟨as, s₁, ran, rfl, rfl⟩,
      returns.imp void.2 fun out => ?_, rfl⟩⟩
    by_contra silent
    exact out ((stmts_return describes.distinct d.body ran).1 (Bool.eq_false_iff.2 silent))

end Bodies

end NominalScript.Typing
