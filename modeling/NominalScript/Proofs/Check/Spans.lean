import NominalScript.Check
import NominalScript.Proofs.Parse.Erase

/-!
# Checking does not look at spans

A check of two trees that are equal up to spans has the same result, or the same faults
in the same order.  `bare` is what a check says apart from the spans of its errors, and
each function of the checker says the same of a tree and of the erased tree.
-/

namespace NominalScript

namespace Check

open Syntax
open Checked (Signature)

variable {α β : Type}

/-! ## Checks without spans -/

/-- The result, or the faults. -/
def bare (a : Check α) : Except (List CheckFault) α := a.mapError (List.map CheckError.fault)

theorem bare_fail (fault : CheckFault) (span span' : Span) :
    (fail fault span : Check α).bare = (fail fault span').bare := rfl

theorem bare_error {es es' : List CheckError}
    (same : es.map CheckError.fault = es'.map CheckError.fault) :
    bare (.error es : Check α) = bare (.error es') :=
  congrArg Except.error same

/-- Either both checks have the same result, or their faults are the same. -/
theorem bare_cases {a a' : Check α} (same : a.bare = a'.bare) :
    (∃ x, a = .ok x ∧ a' = .ok x) ∨
      ∃ es es', a = .error es ∧ a' = .error es' ∧
        es.map CheckError.fault = es'.map CheckError.fault := by
  match a, a', same with
  | .ok x, .ok _, rfl => exact .inl ⟨x, rfl, rfl⟩
  | .error es, .error es', same => exact .inr ⟨es, es', rfl, rfl, Except.error.inj same⟩

theorem faults_errors {a a' : Check α} (same : a.bare = a'.bare) :
    a.errors.map CheckError.fault = a'.errors.map CheckError.fault := by
  obtain ⟨x, rfl, rfl⟩ | ⟨es, es', rfl, rfl, faults⟩ := bare_cases same
  · rfl
  · exact faults

theorem bare_bind {a a' : Check α} {f f' : α → Check β} (first : a.bare = a'.bare)
    (then_ : ∀ x, (f x).bare = (f' x).bare) : (a >>= f).bare = (a' >>= f').bare := by
  obtain ⟨x, rfl, rfl⟩ | ⟨es, es', rfl, rfl, faults⟩ := bare_cases first
  · exact then_ x
  · exact bare_error faults

theorem bare_map {a a' : Check α} (f : α → β) (same : a.bare = a'.bare) :
    bare (a.map f) = bare (a'.map f) := by
  obtain ⟨x, rfl, rfl⟩ | ⟨es, es', rfl, rfl, faults⟩ := bare_cases same
  · rfl
  · exact bare_error faults

theorem bare_map_bind {γ : Type} {a a' : Check α} {f f' : α → Check β} {h : β → γ}
    (first : a.bare = a'.bare) (then_ : ∀ x, bare ((f x).map h) = bare ((f' x).map h)) :
    bare ((a >>= f).map h) = bare ((a' >>= f').map h) := by
  obtain ⟨x, rfl, rfl⟩ | ⟨es, es', rfl, rfl, faults⟩ := bare_cases first
  · exact then_ x
  · exact bare_error faults

theorem bare_both {a a' : Check α} {b b' : Check β} (first : a.bare = a'.bare)
    (second : b.bare = b'.bare) : (both a b).bare = (both a' b').bare := by
  obtain ⟨x, rfl, rfl⟩ | ⟨es, es', rfl, rfl, faults⟩ := bare_cases first <;>
    obtain ⟨y, rfl, rfl⟩ | ⟨fs, fs', rfl, rfl, faults'⟩ := bare_cases second
  · rfl
  · exact bare_error faults'
  · exact bare_error faults
  · exact bare_error (by rw [List.map_append, List.map_append, faults, faults'])

theorem bare_before {a a' : Check α} {b b' : Check β} (add : α → β → β) (first : a.bare = a'.bare)
    (rest : b.bare = b'.bare) : (before add a b).bare = (before add a' b').bare := by
  obtain ⟨x, rfl, rfl⟩ | ⟨es, es', rfl, rfl, faults⟩ := bare_cases first
  · exact bare_map (add x) rest
  · match es, es', faults with
    | [], [], _ => exact rest
    | _ :: _, _ :: _, faults =>
      refine bare_error ?_
      rw [List.map_append, List.map_append, faults, faults_errors rest]

theorem bare_cons {a a' : Check α} {as as' : Check (List α)} (first : a.bare = a'.bare)
    (rest : as.bare = as'.bare) : (cons a as).bare = (cons a' as').bare :=
  bare_before _ first rest

theorem bare_collect_map {f f' : β → Check α} (bs : List β)
    (each : ∀ b ∈ bs, (f b).bare = (f' b).bare) :
    (collect (bs.map f)).bare = (collect (bs.map f')).bare := by
  induction bs with
  | nil => rfl
  | cons b bs ih =>
    obtain ⟨first, rest⟩ := List.forall_mem_cons.1 each
    exact bare_cons first (ih rest)

theorem bare_unlessAny {es es' : List CheckError}
    (same : es.map CheckError.fault = es'.map CheckError.fault) :
    (unlessAny es).bare = (unlessAny es').bare := by
  match es, es', same with
  | [], [], _ => rfl
  | _ :: _, _ :: _, same => exact bare_error same

theorem isEmpty_of_faults {es es' : List CheckError}
    (same : es.map CheckError.fault = es'.map CheckError.fault) : es.isEmpty = es'.isEmpty := by
  match es, es', same with
  | [], [], _ => rfl
  | _ :: _, _ :: _, _ => rfl

/-! ## Lists of declarations -/

theorem withEarlierFrom_map (f : α → β) (earlier as : List α) :
    withEarlierFrom (earlier.map f) (as.map f) =
      (withEarlierFrom earlier as).map fun p => (p.1.map f, f p.2) := by
  induction as generalizing earlier with
  | nil => rfl
  | cons a as ih =>
    have longer := ih (earlier ++ [a])
    rw [List.map_append, List.map_singleton] at longer
    simp [withEarlierFrom, longer]

theorem withEarlier_map (f : α → β) (as : List α) :
    withEarlier (as.map f) = (withEarlier as).map fun p => (p.1.map f, f p.2) :=
  withEarlierFrom_map f [] as

/-- Declarations that are checked one by one, each against those before it. -/
theorem bare_collect_withEarlier {f : List α → α → Check β} (erase : α → α)
    (as : List α)
    (each : ∀ earlier a, (f (earlier.map erase) (erase a)).bare = (f earlier a).bare) :
    (collect ((withEarlier (as.map erase)).map fun p => f p.1 p.2)).bare =
      (collect ((withEarlier as).map fun p => f p.1 p.2)).bare := by
  rw [withEarlier_map, List.map_map]
  exact bare_collect_map _ fun p _ => each p.1 p.2

theorem resolve_erase (names : TypeNames) (type : Ident) :
    (resolve names type.erase).bare = (resolve names type).bare := by
  unfold resolve
  cases found : names.resolve? type.name <;>
    simp [Ident.erase, found, bare_fail _ .erased type.span]

theorem any_ident_erase (earlier : List Binding) (name : String) :
    ((earlier.map Binding.erase).any fun e => e.ident.name == name) =
      earlier.any fun e => e.ident.name == name := by
  rw [List.any_map]
  rfl

theorem structField_erase (names : TypeNames) (struct : String) (earlier : List Binding)
    (b : Binding) :
    (structField names struct (earlier.map Binding.erase) b.erase).bare =
      (structField names struct earlier b).bare := by
  have name : b.erase.ident.name = b.ident.name := rfl
  unfold structField
  rw [name, any_ident_erase]
  split
  · exact bare_fail ..
  · exact bare_map _ (resolve_erase names b.type)

/-- A struct declaration is checked against the names and the structs before it, which erasing
keeps. -/
theorem structType_erase (names : TypeNames) (earlier : List StructDecl) (d : StructDecl) :
    (structType names (earlier.map StructDecl.erase) d.erase).bare =
      (structType names earlier d).bare := by
  have name : d.erase.ident.name = d.ident.name := rfl
  have taken : ((earlier.map StructDecl.erase).any fun e => e.ident.name == d.ident.name) =
      earlier.any fun e => e.ident.name == d.ident.name := by
    rw [List.any_map]
    rfl
  unfold structType
  rw [name, taken]
  split
  · exact bare_fail ..
  · split
    · exact bare_fail ..
    · exact bare_map _ (bare_collect_withEarlier Binding.erase d.fields
        (structField_erase names d.ident.name))

theorem cycleError?_erase (builtinCount : Nat) (decls : List StructDecl) (start : Nat)
    (cycle : Path String) :
    (cycleError? builtinCount (decls.map StructDecl.erase) start cycle).map CheckError.fault =
      (cycleError? builtinCount decls start cycle).map CheckError.fault := by
  unfold cycleError?
  split
  · rfl
  · rw [List.getElem?_map]
    cases decls[start - builtinCount]? <;> rfl

/-- The reports on cycles are erased one by one, along the recursion that passes over structs
reported already. -/
theorem cycleErrors_erase (builtinCount : Nat) (decls : List StructDecl) (reported : List Nat)
    (cycles : List (Path String)) :
    (cycleErrors builtinCount (decls.map StructDecl.erase) reported cycles).map CheckError.fault =
      (cycleErrors builtinCount decls reported cycles).map CheckError.fault := by
  fun_induction cycleErrors builtinCount decls reported cycles with
  | case1 => rfl
  | case2 reported cycles ih => rwa [cycleErrors]
  | case3 reported e p cycles known ih => rwa [cycleErrors, if_pos known]
  | case4 reported e p cycles new none ih =>
    have same := cycleError?_erase builtinCount decls e.source (e :: p)
    rw [none] at same
    rwa [cycleErrors, if_neg new, Option.map_eq_none_iff.1 same]
  | case5 reported e p cycles new error some ih =>
    have same := cycleError?_erase builtinCount decls e.source (e :: p)
    rw [some] at same
    obtain ⟨error', found, fault⟩ := Option.map_eq_some_iff.1 same
    rw [cycleErrors, if_neg new, found, List.map_cons, List.map_cons, ih, fault]

theorem structTypes_erase (names : TypeNames) (decls : List StructDecl) :
    (structTypes names (decls.map StructDecl.erase)).bare = (structTypes names decls).bare := by
  unfold structTypes
  refine bare_bind (bare_collect_withEarlier StructDecl.erase decls (structType_erase names)) ?_
  intro structs
  refine bare_bind ?_ fun _ => rfl
  unfold finiteStructs
  dsimp only
  split
  · rfl
  · exact bare_error (cycleErrors_erase ..)

/-! ## Signatures -/

theorem param_erase (names : TypeNames) (earlier : List Binding) (b : Binding) :
    (param names (earlier.map Binding.erase) b.erase).bare = (param names earlier b).bare := by
  have name : b.erase.ident.name = b.ident.name := rfl
  unfold param
  rw [name, any_ident_erase]
  split
  · exact bare_fail ..
  · exact bare_map _ (resolve_erase names b.type)

theorem returnType_erase (types : TypeTable) (type : Option Ident) :
    (returnType types (type.map Ident.erase)).bare = (returnType types type).bare := by
  cases type with
  | none => rfl
  | some type => exact resolve_erase types.names type

theorem newSignature_erase (types : TypeTable) (taken : List Signature) (d : FnDecl) :
    (newSignature types taken d.erase).bare = (newSignature types taken d).bare := by
  have params := bare_collect_withEarlier Binding.erase d.params (param_erase types.names)
  refine bare_bind (bare_map _ (bare_both params (returnType_erase types d.returnType))) ?_
  intro s
  split <;> rfl

/-- Signatures are compared by names and types, which erasing keeps. -/
theorem signaturesFrom_erase (types : TypeTable) (taken : List Signature) (ds : List FnDecl) :
    (signaturesFrom types taken (ds.map FnDecl.erase)).bare =
      (signaturesFrom types taken ds).bare := by
  induction ds generalizing taken with
  | nil => rfl
  | cons d ds ih =>
    rw [List.map_cons, signaturesFrom, signaturesFrom]
    obtain ⟨s, left, right⟩ | ⟨es, es', left, right, faults⟩ :=
      bare_cases (newSignature_erase types taken d)
    · rw [left, right]
      exact bare_cons rfl (ih (taken ++ [s]))
    · rw [left, right]
      exact bare_cons (bare_error faults) (ih taken)

/-! ## Expressions -/

theorem literalStruct_erase (types : TypeTable) (type : Ident) :
    (literalStruct types type.erase).bare = (literalStruct types type).bare := by
  unfold literalStruct
  refine bare_bind (resolve_erase types.names type) ?_
  intro t
  cases t with
  | builtin i => exact bare_fail ..
  | struct i =>
    simp only
    cases types.structs[i]? with
    | none => exact bare_fail ..
    | some s => rfl

section

variable (s : StructType) (given : List Ident)

theorem repeatedFields_erase :
    (repeatedFields s (given.map Ident.erase)).map CheckError.fault =
      (repeatedFields s given).map CheckError.fault := by
  unfold repeatedFields
  rw [withEarlier_map, List.filterMap_map, List.map_filterMap, List.map_filterMap]
  congr 1
  funext p
  simp only [Function.comp_apply, List.any_map, Ident.erase, Function.comp_def]
  split <;> rfl

theorem missingFields_erase (span : Span) :
    (missingFields s (given.map Ident.erase) .erased).map CheckError.fault =
      (missingFields s given span).map CheckError.fault := by
  unfold missingFields
  rw [List.map_filterMap, List.map_filterMap]
  congr 1
  funext f
  simp only [List.any_map, Ident.erase, Function.comp_def]
  split <;> rfl

theorem unexpectedFields_erase :
    (unexpectedFields s (given.map Ident.erase)).map CheckError.fault =
      (unexpectedFields s given).map CheckError.fault := by
  unfold unexpectedFields
  rw [List.filterMap_map, List.map_filterMap, List.map_filterMap]
  congr 1
  funext g
  have name : g.erase.name = g.name := rfl
  simp only [Function.comp_apply, name]
  split <;> rfl

theorem misplacedField_erase :
    (misplacedField s (given.map Ident.erase)).map CheckError.fault =
      (misplacedField s given).map CheckError.fault := by
  unfold misplacedField
  rw [List.zip_map_left, List.find?_map]
  have same : ((fun p : Ident × Field => p.1.name != p.2.name) ∘ Prod.map Ident.erase id) =
      fun p => p.1.name != p.2.name := rfl
  rw [same]
  cases (given.zip s.fields).find? fun p => p.1.name != p.2.name <;> rfl

theorem mismatchErrors_erase (span : Span) :
    (mismatchErrors s (given.map Ident.erase) .erased).map CheckError.fault =
      (mismatchErrors s given span).map CheckError.fault := by
  have strange : (missingFields s (given.map Ident.erase) .erased ++
      unexpectedFields s (given.map Ident.erase)).map CheckError.fault =
      (missingFields s given span ++ unexpectedFields s given).map CheckError.fault := by
    rw [List.map_append, List.map_append, missingFields_erase s given span,
      unexpectedFields_erase]
  unfold mismatchErrors
  simp only [isEmpty_of_faults strange]
  split
  · exact strange
  · exact misplacedField_erase s given

theorem fieldNames_erase (span : Span) :
    (fieldNames s (given.map Ident.erase) .erased).bare = (fieldNames s given span).bare := by
  have names : (given.map Ident.erase).map Ident.name = given.map Ident.name := by
    rw [List.map_map]
    rfl
  unfold fieldNames
  refine bare_bind (bare_unlessAny (repeatedFields_erase s given)) fun _ => ?_
  rw [names]
  split
  · rfl
  · exact bare_error (mismatchErrors_erase s given span)

end

theorem fieldTypeErrors_erase (fields : List (FieldInit Expr)) (values : List Checked.Expr)
    (declared : List Field) :
    (fieldTypeErrors (fields.map FieldInit.erase) values declared).map CheckError.fault =
      (fieldTypeErrors fields values declared).map CheckError.fault := by
  unfold fieldTypeErrors
  rw [List.zip_map_left, List.zip_map_left, List.filterMap_map, List.map_filterMap,
    List.map_filterMap]
  congr 1
  funext p
  simp only [Function.comp_apply, Prod.map_fst, Prod.map_snd, id_eq]
  split <;> rfl

theorem call_erase (g : Globals) (name : String) (args : List Checked.Expr) (span span' : Span) :
    (call g name args span).bare = (call g name args span').bare := by
  refine bare_map _ ?_
  unfold resolveFn
  split <;> rfl

theorem localVar_erase (env : Env) (name : String) (span span' : Span) :
    (localVar env name span).bare = (localVar env name span').bare := by
  unfold localVar
  cases env.slot? name with
  | none => rfl
  | some i =>
    simp only
    cases env.locals[i]? <;> rfl

theorem member_erase (types : TypeTable) (base : Checked.Expr) (field : String)
    (span span' : Span) :
    (member types base field span).bare = (member types base field span').bare := by
  unfold member
  cases types.struct? base.type with
  | none => rfl
  | some s =>
    simp only
    cases s.field? field <;> rfl

theorem exprs_erase {env : Env} {es : List Expr}
    (each : ∀ e ∈ es, (expr env e.erase).bare = (expr env e).bare) :
    (exprs env (Expr.eraseAll es)).bare = (exprs env es).bare := by
  induction es with
  | nil => rfl
  | cons e es ih =>
    obtain ⟨first, rest⟩ := List.forall_mem_cons.1 each
    rw [Expr.eraseAll, exprs, exprs]
    exact bare_cons first (ih rest)

theorem fieldValues_erase {env : Env} {fields : List (FieldInit Expr)}
    (each : ∀ f ∈ fields, (expr env f.value.erase).bare = (expr env f.value).bare) :
    (fieldValues env (Expr.eraseFields fields)).bare = (fieldValues env fields).bare := by
  induction fields with
  | nil => rfl
  | cons f fields ih =>
    obtain ⟨first, rest⟩ := List.forall_mem_cons.1 each
    rw [Expr.eraseFields, fieldValues, fieldValues]
    exact bare_cons first (ih rest)

theorem idents_erase (fields : List (FieldInit Expr)) :
    (Expr.eraseFields fields).map FieldInit.ident =
      (fields.map FieldInit.ident).map Ident.erase := by
  rw [Expr.eraseFields_eq_map, List.map_map, List.map_map]
  rfl

/-- An erased expression has the same checked form or the same faults, which are raised at the
same nodes. -/
theorem expr_erase (env : Env) (e : Expr) : (expr env e.erase).bare = (expr env e).bare := by
  induction e using Expr.inductOn with
  | str value span =>
    rw [Expr.erase, expr, expr]
  | int value span =>
    rw [Expr.erase, expr, expr]
  | call fn args span ih =>
    rw [Expr.erase, expr, expr]
    exact bare_bind (exprs_erase ih) fun args => call_erase ..
  | var name span =>
    rw [Expr.erase, expr, expr]
    exact localVar_erase ..
  | unary op operand span ih =>
    rw [Expr.erase, expr, expr]
    exact bare_bind ih fun e => call_erase ..
  | binary op left right span ihl ihr =>
    rw [Expr.erase, expr, expr]
    exact bare_bind (bare_cons ihl (bare_cons ihr rfl)) fun operands => call_erase ..
  | paren inner span ih =>
    rw [Expr.erase, expr, expr]
    exact ih
  | init type fields fieldsSpan span ih =>
    rw [Expr.erase, expr, expr, idents_erase]
    refine bare_bind (literalStruct_erase env.types type) ?_
    rintro ⟨i, s⟩
    refine bare_bind (fieldNames_erase s _ span) fun _ => ?_
    refine bare_bind (fieldValues_erase ih) fun values => ?_
    rw [Expr.eraseFields_eq_map]
    exact bare_bind (bare_unlessAny (fieldTypeErrors_erase ..)) fun _ => rfl
  | member base field span ih =>
    rw [Expr.erase, expr, expr]
    exact bare_bind ih fun e => member_erase ..

theorem condition_erase (env : Env) (e : Expr) :
    (condition env e.erase).bare = (condition env e).bare := by
  unfold condition
  refine bare_bind (expr_erase env e) ?_
  intro c
  split <;> rfl

/-! ## Bodies -/

/-- The same slots and scopes, and as many warnings. -/
structure BodyState.Alike (s s' : BodyState) : Prop where
  locals : s.locals = s'.locals
  scopes : s.scopes = s'.scopes
  warnings : s.warnings.length = s'.warnings.length

namespace BodyState.Alike

variable {s s' : BodyState}

theorem refl (s : BodyState) : s.Alike s := ⟨rfl, rfl, rfl⟩

theorem env (alike : s.Alike s') (g : Globals) : s.env g = s'.env g := by
  rw [BodyState.env, BodyState.env, alike.locals, alike.scopes]

theorem isBoundHere (alike : s.Alike s') (name : String) :
    s.isBoundHere name = s'.isBoundHere name := by
  rw [BodyState.isBoundHere, BodyState.isBoundHere, alike.scopes]

theorem bind (alike : s.Alike s') (name : String) (type : TypeId) :
    (s.bind name type).Alike (s'.bind name type) where
  locals := by rw [BodyState.bind, BodyState.bind, alike.locals]
  scopes := by simp only [BodyState.bind, alike.locals, alike.scopes]
  warnings := alike.warnings

theorem enter (alike : s.Alike s') : s.enter.Alike s'.enter where
  locals := alike.locals
  scopes := by rw [BodyState.enter, BodyState.enter, alike.scopes]
  warnings := alike.warnings

theorem leave (alike : s.Alike s') : s.leave.Alike s'.leave where
  locals := alike.locals
  scopes := by rw [BodyState.leave, BodyState.leave, alike.scopes]
  warnings := alike.warnings

theorem warn (alike : s.Alike s') {ws ws' : List Warning} (same : ws.length = ws'.length) :
    (s.warn ws).Alike (s'.warn ws') where
  locals := alike.locals
  scopes := alike.scopes
  warnings := by simp [BodyState.warn, alike.warnings, same]

end BodyState.Alike

/-- Two checks of a part of a body come out the same apart from spans. -/
structure SameOutcome (x y : Check α × BodyState) : Prop where
  result : x.1.bare = y.1.bare
  state : x.2.Alike y.2

section

variable {g : Globals} {expected : TypeId} {s s' : BodyState}

theorem SameOutcome.map {x y : Check α × BodyState} (same : SameOutcome x y) (f : α → β) :
    SameOutcome (x.1.map f, x.2) (y.1.map f, y.2) :=
  ⟨bare_map f same.result, same.state⟩

theorem returned_erase (env : Env) (expected : TypeId) (value : Option Expr) (span span' : Span) :
    (returned env expected (value.map Expr.erase) span).bare =
      (returned env expected value span').bare := by
  cases value with
  | none =>
    simp only [returned, Option.map_none]
    split <;> rfl
  | some e =>
    refine bare_bind (expr_erase env e) ?_
    intro c
    split <;> rfl

theorem boundValue_erase (env : Env) (ident : Ident) (type : Option Ident) (value : Expr) :
    (boundValue env ident.erase (type.map Ident.erase) value.erase).bare =
      (boundValue env ident type value).bare := by
  cases type with
  | none => exact expr_erase env value
  | some t =>
    refine bare_bind (resolve_erase env.types.names t) fun expected => ?_
    refine bare_bind (expr_erase env value) fun c => ?_
    split <;> rfl

/-- A `let` comes out the same: it looks at names only, of types and of the innermost scope. -/
theorem bound_erase (alike : s.Alike s') (ident : Ident) (type : Option Ident) (value : Expr) :
    SameOutcome (bound g s ident.erase (type.map Ident.erase) value.erase)
      (bound g s' ident type value) := by
  have name : ident.erase.name = ident.name := rfl
  unfold bound
  rw [alike.env g, alike.isBoundHere, name, alike.locals]
  obtain ⟨c, left, right⟩ | ⟨es, es', left, right, faults⟩ :=
    bare_cases (boundValue_erase (s'.env g) ident type value)
  · rw [left, right]
    simp only
    split
    · exact ⟨rfl, alike⟩
    · exact ⟨rfl, alike.bind ident.name c.type⟩
  · rw [left, right]
    exact ⟨bare_error faults, alike⟩

theorem unreachable_erase (analyzed : List (Analyzed Checked.Stmt)) (ss : List Stmt) :
    unreachable analyzed (ss.map Stmt.erase) = (unreachable analyzed ss).map Stmt.erase := by
  induction analyzed generalizing ss with
  | nil => rfl
  | cons a as ih =>
    cases ss with
    | nil => rfl
    | cons s ss =>
      simp only [List.map_cons, unreachable, ih]
      split <;> rfl

/-- Whether a block has unreachable statements does not depend on spans, so there are as many
warnings. -/
theorem finishBlock_erase {x y : Check (List (Analyzed Checked.Stmt)) × BodyState}
    (same : SameOutcome x y) (ss : List Stmt) :
    SameOutcome (finishBlock (ss.map Stmt.erase) x) (finishBlock ss y) := by
  rcases x with ⟨r, s⟩
  rcases y with ⟨r', s'⟩
  obtain ⟨result, state⟩ := same
  obtain ⟨analyzed, left, right⟩ | ⟨es, es', left, right, faults⟩ := bare_cases result
  · cases left
    cases right
    refine ⟨rfl, state.leave.warn ?_⟩
    simp only [unreachable_erase]
    cases unreachable analyzed ss <;> rfl
  · cases left
    cases right
    exact ⟨bare_error faults, state.leave⟩

theorem SameOutcome.branch {c c' : Check Checked.Expr}
    {x y : Check (Analyzed (List Checked.Stmt)) × BodyState}
    {z w : Check (Analyzed Checked.Chain) × BodyState} (condition : c.bare = c'.bare)
    (block : SameOutcome x y) (rest : SameOutcome z w) :
    SameOutcome (Check.branch c x.1 z.1, z.2) (Check.branch c' y.1 w.1, w.2) :=
  ⟨bare_map _ (bare_both condition (bare_both block.result rest.result)), rest.state⟩

mutual

/-- A statement comes out the same as the erased one, from states that are alike. -/
theorem stmt_erase : ∀ (a : Stmt) {s s' : BodyState}, s.Alike s' →
    SameOutcome (stmt g expected a.erase s) (stmt g expected a s')
  | .expr e, s, s', alike => by
    rw [Stmt.erase, stmt, stmt, alike.env g]
    exact ⟨bare_map _ (expr_erase _ e), alike⟩
  | .cond c, s, s', alike => by
    rw [Stmt.erase, stmt, stmt]
    exact (conditional_erase c alike).map _
  | .ret value span, s, s', alike => by
    rw [Stmt.erase, stmt, stmt, alike.env g]
    exact ⟨bare_map _ (returned_erase ..), alike⟩
  | .bind ident type value span, s, s', alike => by
    rw [Stmt.erase, stmt, stmt]
    exact (bound_erase alike ident type value).map _

theorem stmts_erase : ∀ (as : List Stmt) {s s' : BodyState}, s.Alike s' →
    SameOutcome (stmts g expected (Stmt.eraseAll as) s) (stmts g expected as s')
  | [], s, s', alike => by
    rw [Stmt.eraseAll, stmts, stmts]
    exact ⟨rfl, alike⟩
  | a :: as, s, s', alike => by
    rw [Stmt.eraseAll, stmts, stmts]
    have first := stmt_erase a alike
    have rest := stmts_erase as first.state
    exact ⟨bare_cons first.result rest.result, rest.state⟩

theorem conditional_erase : ∀ (c : Conditional) {s s' : BodyState}, s.Alike s' →
    SameOutcome (conditional g expected c.erase s) (conditional g expected c s')
  | .mk c block rest span, s, s', alike => by
    rw [Conditional.erase, conditional, conditional, alike.env g]
    have inside := stmts_erase block alike.enter
    have finished := finishBlock_erase inside block
    rw [← Stmt.eraseAll_eq_map] at finished
    exact .branch (condition_erase _ c) finished (otherwise_erase rest finished.state)

/-- What follows a block comes out the same, also where the condition of an `else if` fails and
its block is passed over. -/
theorem otherwise_erase : ∀ (o : Otherwise) {s s' : BodyState}, s.Alike s' →
    SameOutcome (otherwise g expected o.erase s) (otherwise g expected o s')
  | .nothing, s, s', alike => by
    rw [Otherwise.erase, otherwise, otherwise]
    exact ⟨rfl, alike⟩
  | .block block, s, s', alike => by
    rw [Otherwise.erase, otherwise, otherwise]
    have inside := stmts_erase block alike.enter
    have finished := finishBlock_erase inside block
    rw [← Stmt.eraseAll_eq_map] at finished
    exact finished.map _
  | .elseIf (.mk c block rest span), s, s', alike => by
    rw [Otherwise.erase, Conditional.erase, otherwise, otherwise, alike.env g]
    obtain ⟨e, left, right⟩ | ⟨es, es', left, right, faults⟩ :=
      bare_cases (condition_erase (s'.env g) c)
    · rw [left, right]
      have inside := stmts_erase block alike.enter
      have finished := finishBlock_erase inside block
      rw [← Stmt.eraseAll_eq_map] at finished
      have later := otherwise_erase rest finished.state
      exact ⟨bare_before _ (bare_map _ finished.result) later.result, later.state⟩
    · rw [left, right]
      have later := otherwise_erase rest alike
      exact ⟨bare_before _ (bare_error faults) later.result, later.state⟩

end

/-- A checked function, and the number of its warnings. -/
def fnOutcome (r : Checked.Fn × List Warning) : Checked.Fn × Nat := (r.1, r.2.length)

/-- The function's outcome comes from that of its body and the state behind it, and both are the
same up to spans. -/
theorem fn_erase (g : Globals) (d : FnDecl) (signature : Signature) :
    bare ((fn g d.erase signature).map fnOutcome) = bare ((fn g d signature).map fnOutcome) := by
  have alike := BodyState.Alike.refl (BodyState.start.bindAll signature.params)
  have inside : SameOutcome (stmts g signature.returnType (Stmt.eraseAll d.body) _)
      (stmts g signature.returnType d.body _) := stmts_erase d.body alike.enter
  have finished := finishBlock_erase inside d.body
  rw [Stmt.eraseAll_eq_map] at finished
  change SameOutcome (block g signature.returnType d.erase.body _)
    (block g signature.returnType d.body _) at finished
  unfold fn
  revert finished
  generalize block g signature.returnType d.erase.body _ = x
  generalize block g signature.returnType d.body _ = y
  rcases x with ⟨r, s⟩
  rcases y with ⟨r', s'⟩
  rintro ⟨result, state⟩
  obtain ⟨b, left, right⟩ | ⟨es, es', left, right, faults⟩ := bare_cases result
  · cases left
    cases right
    simp only
    split
    · refine congrArg Except.ok ?_
      rw [fnOutcome, fnOutcome, state.locals, state.warnings]
    · rfl
  · cases left
    cases right
    exact bare_error faults

/-- What is done to each result may be done to all of them in the end. -/
theorem collect_map {f : α → β} (cs : List (Check α)) :
    (collect cs).map (List.map f) = collect (cs.map (Except.map f)) := by
  induction cs with
  | nil => rfl
  | cons c cs ih =>
    rw [List.map_cons, collect, collect, ← ih]
    cases c with
    | ok a => cases collect cs <;> rfl
    | error es =>
      cases es with
      | nil => rfl
      | cons e es => cases collect cs <;> rfl

end

end Check

/-! ## Programs -/

/-- An accepted program, and the number of its warnings. -/
def Accepted.outcome (a : Accepted) : Checked.Program × Nat := (a.program, a.warnings.length)

theorem Syntax.Program.typeNames_erase (p : Syntax.Program) (builtins : List String) :
    p.erase.typeNames builtins = p.typeNames builtins := by
  unfold typeNames
  rw [Program.erase, List.map_map]
  rfl

namespace Check

open Syntax

/-- The bodies of declared functions. -/
theorem fns_erase (g : Globals) (ds : List FnDecl) (users : List Checked.Signature) :
    bare ((collect (((ds.map FnDecl.erase).zip users).map fun f => fn g f.1 f.2)).map
        (List.map fnOutcome)) =
      bare ((collect ((ds.zip users).map fun f => fn g f.1 f.2)).map (List.map fnOutcome)) := by
  rw [collect_map, collect_map, List.zip_map_left, List.map_map, List.map_map, List.map_map]
  exact bare_collect_map _ fun f _ => fn_erase g f.1 f.2

theorem map_bind_pure {γ δ : Type} (x : Check (List α)) (view : α → β) (f : List α → γ)
    (h : γ → δ) (k : List β → δ) (same : ∀ as, h (f as) = k (as.map view)) :
    (x >>= fun as => (pure (f as) : Check γ)).map h = (x.map (List.map view)).map k := by
  cases x with
  | error es => rfl
  | ok as => exact congrArg Except.ok (same as)

end Check

open NominalScript.Check in
/-- A program and the erased one are both accepted, as the same checked program with as
many warnings, or have the same faults. -/
theorem Syntax.Program.check_erase (p : Syntax.Program) (host : Builtins) :
    bare ((p.erase.check host).map Accepted.outcome) =
      bare ((p.check host).map Accepted.outcome) := by
  unfold check
  rw [typeNames_erase]
  refine bare_map_bind (structTypes_erase _ p.structs) fun structs => ?_
  refine bare_map_bind rfl fun types => ?_
  refine bare_map_bind rfl fun builtins => ?_
  refine bare_map_bind (signaturesFrom_erase types builtins p.fns) fun users => ?_
  -- Only the number of warnings is counted, so those of each function may be counted first.
  let count (fns : List (Checked.Fn × Nat)) : Checked.Program × Nat :=
    (⟨types, host.fns, fns.map Prod.fst⟩, (fns.map Prod.snd).sum)
  have counted : ∀ fns : List (Checked.Fn × List Warning),
      Accepted.outcome ⟨⟨types, host.fns, fns.map Prod.fst⟩, fns.flatMap Prod.snd⟩ =
        count (fns.map fnOutcome) := by
    intro fns
    simp [count, Accepted.outcome, fnOutcome, List.length_flatMap, Function.comp_def]
  rw [map_bind_pure _ fnOutcome _ _ count counted, map_bind_pure _ fnOutcome _ _ count counted]
  exact bare_map _ (fns_erase _ p.fns users)

end NominalScript
