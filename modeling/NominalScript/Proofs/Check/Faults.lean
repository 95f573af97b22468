import NominalScript.Proofs.Check.Literals
import NominalScript.Proofs.Check.Tables
import NominalScript.Proofs.Check.WellTyped
import NominalScript.Proofs.Checked.InRange
import NominalScript.Proofs.Containment

/-!
# Errors about what is there

An error refers to types by number, and its message looks up their names.  Where checking
itself looks up a slot or a struct, it has an error for a number without an entry.
`CheckFault.InRange` says that an error has none of this: all types in it have names, and
it is not about a missing entry.

The judgment `Check.ErrorsInRange` is followed through the checker.  A body is checked in
states in which every variable in scope has a slot and every slot a type with a name
(`Env.InRange`); checking a statement leads from such a state to such a state even when it
fails.
-/

namespace NominalScript

open Syntax
open Checked (Signature)

/-- The types that a message describes. -/
def CheckFault.types : CheckFault → List TypeId
  | .duplicateFn _ params => params
  | .returnedType expected got => [expected, got]
  | .returnedNothing expected void => [expected, void]
  | .bindingType _ expected got => [expected, got]
  | .conditionType expected got => [expected, got]
  | .noSuchFn _ params _ => params
  | .memberOfBuiltin type => [type]
  | .fieldType _ expected got => [expected, got]
  | _ => []

/-- A message looks up the names of its types and no others. -/
theorem CheckFault.message_congr {names names' : TypeNames} {fault : CheckFault}
    (same : ∀ t ∈ fault.types, names.describe t = names'.describe t) :
    fault.message names = fault.message names' := by
  have list : ∀ {ts : List TypeId}, (∀ t ∈ ts, names.describe t = names'.describe t) →
      names.describeList ts = names'.describeList ts := by
    intro ts each
    rw [TypeNames.describeList, TypeNames.describeList, List.map_congr_left each]
  have pair : ∀ {t u : TypeId}, (∀ v ∈ [t, u], names.describe v = names'.describe v) →
      names.describe t = names'.describe t ∧ names.describe u = names'.describe u :=
    fun each => ⟨each _ (by simp), each _ (by simp)⟩
  cases fault with
  | duplicateFn name params | noSuchFn name params others =>
    unfold message
    dsimp only
    have params' : names.describeList params = names'.describeList params := list same
    rw [params']
  | returnedType expected got | returnedNothing expected got | bindingType name expected got
  | conditionType expected got | fieldType name expected got =>
    unfold message
    dsimp only
    rw [(pair same).1, (pair same).2]
  | memberOfBuiltin type =>
    unfold message
    dsimp only
    rw [same type (List.mem_singleton_self type)]
  | dangling ref => cases ref <;> rfl
  | _ => rfl

/-- The types that the message describes have names, and what was looked up was found. -/
structure CheckFault.InRange (names : TypeNames) (fault : CheckFault) : Prop where
  types : ∀ t ∈ fault.types, names.Has t
  found : ∀ ref, fault ≠ .dangling ref

/-- An error that describes no type. -/
theorem CheckFault.InRange.plain {names : TypeNames} {fault : CheckFault}
    (none : fault.types = []) (found : ∀ ref, fault ≠ .dangling ref) : fault.InRange names :=
  ⟨none ▸ List.forall_mem_nil _, found⟩

namespace Check

variable {α β : Type} {names : TypeNames}

/-- All errors are about what is there. -/
def ErrorsInRange (names : TypeNames) (a : Check α) : Prop :=
  ∀ e ∈ a.errors, e.fault.InRange names

/-! ## Combinators -/

theorem forall_mem_pair {holds : α → Prop} {x y : α} (first : holds x) (second : holds y) :
    ∀ z ∈ [x, y], holds z :=
  List.forall_mem_cons.2 ⟨first, List.forall_mem_singleton.2 second⟩

theorem errorsInRange_ok (x : α) : ErrorsInRange names (.ok x : Check α) :=
  List.forall_mem_nil _

theorem errorsInRange_fail {fault : CheckFault} {span : Span} (here : fault.InRange names) :
    ErrorsInRange names (fail fault span : Check α) :=
  List.forall_mem_singleton.2 here

theorem ErrorsInRange.bind {a : Check α} {f : α → Check β} (first : ErrorsInRange names a)
    (rest : ∀ x, a = .ok x → ErrorsInRange names (f x)) : ErrorsInRange names (a >>= f) := by
  cases a with
  | ok x => exact rest x rfl
  | error es => exact first

theorem ErrorsInRange.map {a : Check α} {f : α → β} (inRange : ErrorsInRange names a) :
    ErrorsInRange names (a.map f) := by
  rw [ErrorsInRange, errors_map]
  exact inRange

theorem ErrorsInRange.both {a : Check α} {b : Check β} (first : ErrorsInRange names a)
    (second : ErrorsInRange names b) : ErrorsInRange names (both a b) := by
  rw [ErrorsInRange, errors_both]
  exact List.forall_mem_append.2 ⟨first, second⟩

theorem ErrorsInRange.before {a : Check α} {b : Check β} {add : α → β → β}
    (first : ErrorsInRange names a) (rest : ErrorsInRange names b) :
    ErrorsInRange names (before add a b) := by
  rw [ErrorsInRange, errors_before]
  exact List.forall_mem_append.2 ⟨first, rest⟩

theorem errorsInRange_collect {cs : List (Check α)} (each : ∀ c ∈ cs, ErrorsInRange names c) :
    ErrorsInRange names (collect cs) := by
  rw [ErrorsInRange, errors_collect]
  exact List.forall_mem_flatMap.2 each

theorem errorsInRange_unlessAny {es : List CheckError} (each : ∀ e ∈ es, e.fault.InRange names) :
    ErrorsInRange names (unlessAny es) := by
  cases es with
  | nil => exact errorsInRange_ok ()
  | cons e es => exact each

theorem resolve_errorsInRange (type : Ident) : ErrorsInRange names (resolve names type) := by
  unfold resolve
  split
  · exact errorsInRange_ok _
  · exact errorsInRange_fail (.plain rfl (by simp))

/-! ## Expressions -/

/-- The types of the program and of the slots have names, and every variable in scope has a
slot. -/
structure Env.InRange (env : Env) : Prop where
  globals : env.globals.InRange
  locals : ∀ t ∈ env.locals, env.types.names.Has t
  scopes : ∀ i ∈ Scope.slots env.scopes, i < env.locals.length

section Expressions

variable {env : Env} {g : Globals} {types : TypeTable} {span : Span}

theorem expr_has_type (distinct : FieldsDistinct env.types) (inRange : env.InRange) {e : Expr}
    {c : Checked.Expr} (checked : expr env e = .ok c) : env.types.names.Has c.type := by
  have typed : c.WellTyped ⟨env.globals, env.locals, env.types.void⟩ (Scope.slots env.scopes) :=
    expr_wellTyped env distinct List.prefix_rfl e checked
  exact typed.has_type inRange.globals fun _ _ t entry =>
    inRange.locals t (List.mem_of_getElem? entry)

theorem call_errorsInRange {name : String} {args : List Checked.Expr}
    (each : ∀ a ∈ args, g.types.names.Has a.type) :
    ErrorsInRange g.types.names (call g name args span) := by
  unfold call resolveFn
  split
  · exact errorsInRange_ok _
  · exact errorsInRange_fail ⟨List.forall_mem_map.2 each, by simp⟩

theorem localVar_errorsInRange (inRange : env.InRange) (name : String) :
    ErrorsInRange env.types.names (localVar env name span) := by
  unfold localVar
  split
  · exact errorsInRange_fail (.plain rfl (by simp))
  · next i found =>
    have bound := inRange.scopes i (Env.mem_slots found)
    rw [List.getElem?_eq_getElem bound]
    exact errorsInRange_ok _

theorem member_errorsInRange {base : Checked.Expr} (known : types.names.Has base.type)
    (field : String) : ErrorsInRange types.names (member types base field span) := by
  unfold member
  split
  · exact errorsInRange_fail ⟨List.forall_mem_singleton.2 known, by simp⟩
  · split
    · exact errorsInRange_fail (.plain rfl (by simp))
    · exact errorsInRange_ok _

/-- A name that resolves to a struct has an entry, so looking up its fields does not fail. -/
theorem literalStruct_errorsInRange (type : Ident) :
    ErrorsInRange types.names (literalStruct types type) := by
  unfold literalStruct
  refine (resolve_errorsInRange type).bind fun t resolved => ?_
  split
  · exact errorsInRange_fail (.plain rfl (by simp))
  · next i =>
    have known := TypeNames.has_of_resolve? (resolve_eq_ok.1 resolved)
    have bound : i < types.structs.length := by
      simpa [TypeNames.Has, TypeTable.names] using known
    rw [List.getElem?_eq_getElem bound]
    exact errorsInRange_ok _

/-- What is wrong with the names of a literal is said without types. -/
theorem mismatchErrors_inRange {s : StructType} {given : List Ident} :
    ∀ e ∈ mismatchErrors s given span, e.fault.InRange names := by
  simp only [mismatchErrors]
  split
  · rw [missingFields_eq, unexpectedFields_eq, List.forall_mem_append, List.forall_mem_map,
      List.forall_mem_map]
    exact ⟨fun _ _ => .plain rfl (by simp), fun _ _ => .plain rfl (by simp)⟩
  · unfold misplacedField
    split
    · exact List.forall_mem_singleton.2 (.plain rfl (by simp))
    · exact List.forall_mem_nil _

theorem fieldNames_errorsInRange (s : StructType) (given : List Ident) :
    ErrorsInRange names (fieldNames s given span) := by
  unfold fieldNames
  refine (errorsInRange_unlessAny ?_).bind fun _ _ => ?_
  · rw [repeatedFields_eq, List.forall_mem_map]
    exact fun _ _ => .plain rfl (by simp)
  · split
    · exact errorsInRange_ok _
    · exact mismatchErrors_inRange

theorem fieldTypeErrors_inRange {fields : List (FieldInit Expr)} {values : List Checked.Expr}
    {declared : List Field} (known : ∀ v ∈ values, names.Has v.type)
    (wanted : ∀ f ∈ declared, names.Has f.type) :
    ∀ e ∈ fieldTypeErrors fields values declared, e.fault.InRange names := by
  rw [fieldTypeErrors_eq, List.forall_mem_map]
  intro p differs
  obtain ⟨pair, isDeclared⟩ := List.of_mem_zip (List.mem_filter.1 differs).1
  have isValue := (List.of_mem_zip pair).2
  exact ⟨forall_mem_pair (wanted p.2 isDeclared) (known p.1.2 isValue), by simp⟩

/-- The types in an error of an expression are those of literals, slots and signatures, so they
all have names. -/
theorem expr_errorsInRange (env : Env) (distinct : FieldsDistinct env.types)
    (inRange : env.InRange) (e : Expr) : ErrorsInRange env.types.names (expr env e) := by
  induction e using Expr.inductOn with
  | str value span =>
    rw [expr]
    exact errorsInRange_ok _
  | int value span =>
    rw [expr]
    exact errorsInRange_ok _
  | call fn args span ih =>
    have arguments : ErrorsInRange env.types.names (exprs env args) := by
      rw [exprs_eq_collect]
      exact errorsInRange_collect (List.forall_mem_map.2 ih)
    rw [expr]
    refine arguments.bind fun cs checked => call_errorsInRange fun c mem => ?_
    obtain ⟨e, _, ok⟩ := Aligned.mem_right ((exprs_eq_ok distinct).1 checked) mem
    exact expr_has_type distinct inRange ok
  | var name span =>
    rw [expr]
    exact localVar_errorsInRange inRange name
  | unary op operand span ih =>
    rw [expr]
    refine ih.bind fun c checked => call_errorsInRange (List.forall_mem_singleton.2 ?_)
    exact expr_has_type distinct inRange checked
  | binary op left right span ihl ihr =>
    rw [expr]
    refine (errorsInRange_collect (forall_mem_pair ihl ihr)).bind fun cs checked =>
      call_errorsInRange fun c mem => ?_
    have reports : ∀ r ∈ [expr env left, expr env right], r.Reports :=
      forall_mem_pair (expr_reports distinct left) (expr_reports distinct right)
    obtain ⟨r, listed, ok⟩ := Aligned.mem_right ((collect_eq_ok reports).1 checked) mem
    rcases List.mem_pair.1 listed with rfl | rfl
    · exact expr_has_type distinct inRange ok
    · exact expr_has_type distinct inRange ok
  | paren inner span ih =>
    rw [expr]
    exact ih
  | init type fields fieldsSpan span ih =>
    have given : ErrorsInRange env.types.names (fieldValues env fields) := by
      rw [fieldValues_eq_collect]
      exact errorsInRange_collect (List.forall_mem_map.2 ih)
    rw [expr]
    refine (literalStruct_errorsInRange type).bind fun r found => ?_
    have listed := List.mem_of_getElem? (literalStruct_eq_ok.1 found).2
    refine (fieldNames_errorsInRange _ _).bind fun _ _ => ?_
    refine given.bind fun values checked => ?_
    refine (errorsInRange_unlessAny (fieldTypeErrors_inRange (fun v mem => ?_) ?_)).bind
      fun _ _ => errorsInRange_ok _
    · obtain ⟨f, _, ok⟩ := Aligned.mem_right ((fieldValues_eq_ok distinct).1 checked) mem
      exact expr_has_type distinct inRange ok
    · exact inRange.globals.types.fields _ listed
  | member base field span ih =>
    rw [expr]
    exact ih.bind fun c checked => member_errorsInRange (expr_has_type distinct inRange checked) _

theorem condition_errorsInRange (env : Env) (distinct : FieldsDistinct env.types)
    (inRange : env.InRange) (e : Expr) : ErrorsInRange env.types.names (condition env e) := by
  unfold condition
  refine (expr_errorsInRange env distinct inRange e).bind fun c checked => ?_
  split
  · exact errorsInRange_ok c
  · have got := expr_has_type distinct inRange checked
    exact errorsInRange_fail ⟨forall_mem_pair inRange.globals.types.int got, by simp⟩

end Expressions

/-! ## Bodies -/

section Bodies

variable {g : Globals} {expected : TypeId} {s : BodyState}

/-- A part of a body is checked: its errors are about what is there, and so is what may be
referred to afterwards. -/
structure BodyInRange (g : Globals) (x : Check α × BodyState) : Prop where
  result : ErrorsInRange g.types.names x.1
  state : (x.2.env g).InRange

theorem BodyInRange.map {x : Check α × BodyState} {f : α → β} (inRange : BodyInRange g x) :
    BodyInRange g (x.1.map f, x.2) :=
  ⟨inRange.result.map, inRange.state⟩

theorem Env.InRange.enter (inRange : (s.env g).InRange) : (s.enter.env g).InRange :=
  ⟨inRange.globals, inRange.locals, inRange.scopes⟩

theorem Env.InRange.leave (inRange : (s.env g).InRange) : (s.leave.env g).InRange := by
  refine ⟨inRange.globals, inRange.locals, fun i mem => inRange.scopes i ?_⟩
  obtain ⟨scope, open_, here⟩ := List.mem_flatMap.1 mem
  exact List.mem_flatMap.2 ⟨scope, List.mem_of_mem_tail open_, here⟩

/-- Binding a name to a slot whose type has a name keeps the state in range. -/
theorem Env.InRange.bind (inRange : (s.env g).InRange) (name : String) {type : TypeId}
    (known : g.types.names.Has type) : ((s.bind name type).env g).InRange := by
  refine ⟨inRange.globals, ?_, fun i mem => ?_⟩
  · exact List.forall_mem_append.2 ⟨inRange.locals, List.forall_mem_singleton.2 known⟩
  · have count : ((s.bind name type).env g).locals.length = s.locals.length + 1 := by
      simp [BodyState.env, BodyState.bind]
    rw [count]
    by_cases opened : s.scopes = []
    · simp [BodyState.env, BodyState.bind, opened, Scope.slots] at mem
    · have live : i ∈ s.locals.length :: s.live := live_bind opened name type ▸ mem
      rcases List.mem_cons.1 live with rfl | before
      · exact Nat.lt_succ_self _
      · exact Nat.lt_succ_of_lt (inRange.scopes i before)

/-- A return reports the type of its value and the one expected, and both have names. -/
theorem returned_errorsInRange (env : Env) (distinct : FieldsDistinct env.types)
    (inRange : env.InRange) (known : env.types.names.Has expected) (value : Option Expr)
    (span : Span) : ErrorsInRange env.types.names (returned env expected value span) := by
  cases value with
  | some e =>
    refine (expr_errorsInRange env distinct inRange e).bind fun c checked => ?_
    split
    · exact errorsInRange_ok _
    · have got := expr_has_type distinct inRange checked
      exact errorsInRange_fail ⟨forall_mem_pair known got, by simp⟩
  | none =>
    rw [returned]
    split
    · exact errorsInRange_ok _
    · exact errorsInRange_fail ⟨forall_mem_pair known inRange.globals.types.void, by simp⟩

/-- A value of the wrong type is reported with the two types that differ. -/
theorem boundValue_errorsInRange (env : Env) (distinct : FieldsDistinct env.types)
    (inRange : env.InRange) (ident : Ident) (type : Option Ident) (value : Expr) :
    ErrorsInRange env.types.names (boundValue env ident type value) := by
  cases type with
  | none => exact expr_errorsInRange env distinct inRange value
  | some t =>
    refine (resolve_errorsInRange t).bind fun u resolved => ?_
    refine (expr_errorsInRange env distinct inRange value).bind fun c checked => ?_
    split
    · exact errorsInRange_ok c
    · have wanted := TypeNames.has_of_resolve? (resolve_eq_ok.1 resolved)
      have got := expr_has_type distinct inRange checked
      exact errorsInRange_fail ⟨forall_mem_pair wanted got, by simp⟩

/-- A `let` reports the two types that differ, and its slot has a type with a name. -/
theorem bound_inRange (distinct : FieldsDistinct g.types) (inRange : (s.env g).InRange)
    (ident : Ident) (type : Option Ident) (value : Expr) :
    BodyInRange g (bound g s ident type value) := by
  have errors := boundValue_errorsInRange (s.env g) distinct inRange ident type value
  unfold bound
  split
  · next es failed =>
    rw [failed] at errors
    exact ⟨errors, inRange⟩
  · next c checked =>
    split
    · exact ⟨errorsInRange_fail (.plain rfl (by simp)), inRange⟩
    · have ok := (boundValue_eq_ok.1 checked).1
      have known : g.types.names.Has c.type :=
        @expr_has_type (s.env g) distinct inRange value c ok
      exact ⟨errorsInRange_ok _, inRange.bind ident.name known⟩

theorem finishBlock_inRange (body : List Stmt)
    {x : Check (List (Analyzed Checked.Stmt)) × BodyState} (inRange : BodyInRange g x) :
    BodyInRange g (finishBlock body x) := by
  rcases x with ⟨r, s⟩
  cases r with
  | error es => exact ⟨inRange.result, inRange.state.leave⟩
  | ok analyzed => exact ⟨errorsInRange_ok _, inRange.state.leave⟩

mutual

/-- A statement leads from a state in range to a state in range, and its errors describe types
with names. -/
theorem stmt_inRange (distinct : FieldsDistinct g.types) (known : g.types.names.Has expected) :
    ∀ (a : Stmt) {s : BodyState}, (s.env g).InRange → BodyInRange g (stmt g expected a s)
  | .expr e, s, inRange => by
    rw [stmt]
    exact ⟨(expr_errorsInRange (s.env g) distinct inRange e).map, inRange⟩
  | .cond c, s, inRange => by
    rw [stmt]
    exact (conditional_inRange distinct known c inRange).map
  | .ret value span, s, inRange => by
    rw [stmt]
    exact ⟨(returned_errorsInRange (s.env g) distinct inRange known value span).map, inRange⟩
  | .bind ident type value span, s, inRange => by
    rw [stmt]
    exact (bound_inRange distinct inRange ident type value).map

theorem stmts_inRange (distinct : FieldsDistinct g.types) (known : g.types.names.Has expected) :
    ∀ (as : List Stmt) {s : BodyState}, (s.env g).InRange → BodyInRange g (stmts g expected as s)
  | [], s, inRange => by
    rw [stmts]
    exact ⟨errorsInRange_ok [], inRange⟩
  | a :: as, s, inRange => by
    rw [stmts]
    have first := stmt_inRange distinct known a inRange
    have rest := stmts_inRange distinct known as first.state
    exact ⟨first.result.before rest.result, rest.state⟩

theorem conditional_inRange (distinct : FieldsDistinct g.types)
    (known : g.types.names.Has expected) : ∀ (c : Conditional) {s : BodyState},
    (s.env g).InRange → BodyInRange g (conditional g expected c s)
  | .mk c block rest span, s, inRange => by
    rw [conditional]
    have condition := condition_errorsInRange (s.env g) distinct inRange c
    have finished := finishBlock_inRange block (stmts_inRange distinct known block inRange.enter)
    have others := otherwise_inRange distinct known rest finished.state
    exact ⟨(condition.both (finished.result.both others.result)).map, others.state⟩

/-- What follows a block is checked from a state in range to a state in range, whether it fails
or not. -/
theorem otherwise_inRange (distinct : FieldsDistinct g.types)
    (known : g.types.names.Has expected) : ∀ (o : Otherwise) {s : BodyState},
    (s.env g).InRange → BodyInRange g (otherwise g expected o s)
  | .nothing, s, inRange => by
    rw [otherwise]
    exact ⟨errorsInRange_ok _, inRange⟩
  | .block block, s, inRange => by
    rw [otherwise]
    exact (finishBlock_inRange block (stmts_inRange distinct known block inRange.enter)).map
  | .elseIf (.mk c block rest span), s, inRange => by
    have first : ErrorsInRange g.types.names (condition (s.env g) c) :=
      condition_errorsInRange (s.env g) distinct inRange c
    rw [otherwise]
    split
    · next es failed =>
      have others := otherwise_inRange distinct known rest inRange
      have reported : ∀ e ∈ es, e.fault.InRange g.types.names := by
        rw [failed] at first
        exact first
      exact ⟨ErrorsInRange.before (a := .error es) reported others.result, others.state⟩
    · have finished := finishBlock_inRange block (stmts_inRange distinct known block inRange.enter)
      have others := otherwise_inRange distinct known rest finished.state
      exact ⟨finished.result.map.before others.result, others.state⟩

end

theorem bindAll_inRange {params : List Field}
    (known : ∀ t ∈ params.map Field.type, g.types.names.Has t) (inRange : (s.env g).InRange) :
    ((s.bindAll params).env g).InRange := by
  induction params generalizing s with
  | nil => exact inRange
  | cons p params ih =>
    obtain ⟨first, rest⟩ := List.forall_mem_cons.1 known
    exact ih rest (inRange.bind p.name first)

/-- The types in an error of a function have names: those of its parameters do, and its body
starts from these. -/
theorem fn_errorsInRange (distinct : FieldsDistinct g.types) (inRange : g.InRange) (d : FnDecl)
    {signature : Signature} (known : signature.InRange g.types.names) :
    ErrorsInRange g.types.names (fn g d signature) := by
  have start : (BodyState.start.env g).InRange :=
    ⟨inRange, List.forall_mem_nil _, by simp [BodyState.env, BodyState.start, Scope.slots]⟩
  have params := bindAll_inRange known.params start
  have body := finishBlock_inRange d.body
    (stmts_inRange distinct known.returns d.body params.enter)
  rw [← block] at body
  unfold fn
  split
  · next es s failed =>
    rw [failed] at body
    exact body.result
  · split
    · exact errorsInRange_ok _
    · exact errorsInRange_fail (.plain rfl (by simp))

end Bodies

/-! ## Declarations -/

section Declarations

variable {types : TypeTable}

theorem newBinding_errorsInRange {b : Binding} {fault : CheckFault} {taken : Bool}
    (here : fault.InRange names) :
    ErrorsInRange names (if taken then fail fault b.span
      else (resolve names b.type).map fun t => (⟨b.ident.name, t⟩ : Field)) := by
  split
  · exact errorsInRange_fail here
  · exact (resolve_errorsInRange b.type).map

theorem structType_errorsInRange (earlier : List StructDecl) (d : StructDecl) :
    ErrorsInRange names (structType names earlier d) := by
  unfold structType
  split
  · exact errorsInRange_fail (.plain rfl (by simp))
  · split
    · exact errorsInRange_fail (.plain rfl (by simp))
    · refine (errorsInRange_collect (List.forall_mem_map.2 fun f _ => ?_)).map
      exact newBinding_errorsInRange (.plain rfl (by simp))

/-- A report on a chain of containment describes no type by number. -/
theorem cycleErrors_inRange (builtinCount : Nat) (decls : List StructDecl) (reported : List Nat)
    (cycles : List (Path String)) :
    ∀ e ∈ cycleErrors builtinCount decls reported cycles, e.fault.InRange names := by
  induction cycles generalizing reported with
  | nil => exact List.forall_mem_nil _
  | cons q cycles ih =>
    cases q with
    | nil => exact ih reported
    | cons e q =>
      rw [cycleErrors]
      split
      · exact ih reported
      · split
        · exact ih reported
        · next error made =>
          refine List.forall_mem_cons.2 ⟨?_, ih (e.source :: reported)⟩
          unfold cycleError? at made
          split at made
          · cases made
          · obtain ⟨d, _, rfl⟩ := Option.map_eq_some_iff.1 made
            exact .plain rfl (by simp)

theorem structTypes_errorsInRange (decls : List StructDecl) :
    ErrorsInRange names (structTypes names decls) := by
  unfold structTypes
  refine (errorsInRange_collect (List.forall_mem_map.2 fun d _ => ?_)).bind fun structs _ => ?_
  · exact structType_errorsInRange d.1 d.2
  · refine ErrorsInRange.bind ?_ fun _ _ => errorsInRange_ok _
    rw [ErrorsInRange, errors_finiteStructs]
    exact cycleErrors_inRange _ _ _ _

theorem typeTable_errorsInRange (builtins : List String) (structs : List StructType) :
    ErrorsInRange names (typeTable builtins structs) := by
  have needed : ∀ name, ErrorsInRange names (neededBuiltin builtins name) := by
    intro name
    unfold neededBuiltin
    split
    · exact errorsInRange_ok _
    · exact errorsInRange_fail (.plain rfl (by simp))
  exact ((needed "Void").both ((needed "Int").both (needed "String"))).map

theorem duplicateFn_errorsInRange {s : Signature} {span : Span} (known : s.InRange names) :
    ErrorsInRange names (duplicateFn s span : Check α) :=
  errorsInRange_fail ⟨known.params, by simp⟩

/-- A signature whose types were all resolved from names. -/
theorem inRange_of_resolved {R : α → Field → Prop} {written : List α} {s : Signature}
    {name : String}
    (params : List.Forall₂ R written s.params)
    (resolved : ∀ w f, R w f → ∃ typeName, names.resolve? typeName = some f.type)
    (returns : names.resolve? name = some s.returnType) : s.InRange names := by
  refine ⟨List.forall_mem_map.2 fun f mem => ?_, TypeNames.has_of_resolve? returns⟩
  obtain ⟨w, _, entry⟩ := Aligned.mem_right params mem
  obtain ⟨_, found⟩ := resolved w f entry
  exact TypeNames.has_of_resolve? found

theorem HostSignatureFor.inRange {b : Builtin} {s : Signature}
    (made : HostSignatureFor names b s) : s.InRange names :=
  inRange_of_resolved made.params (fun p _ entry => ⟨p.typeName, entry.2⟩) made.returns

theorem SignatureFor.inRange {d : FnDecl} {s : Signature} (made : SignatureFor names d s) :
    s.InRange names :=
  inRange_of_resolved made.params (fun b _ entry => ⟨b.type.name, entry.2⟩) made.returns

/-- A builtin that overlaps one taken before is reported with parameter types that were found. -/
theorem builtinSignaturesFrom_errorsInRange (taken : List Signature) (bs : List Builtin) :
    ErrorsInRange types.names (builtinSignaturesFrom types taken bs) := by
  induction bs generalizing taken with
  | nil => exact errorsInRange_ok taken
  | cons b bs ih =>
    have declared : ErrorsInRange types.names (builtinSignature types b) :=
      ((errorsInRange_collect (List.forall_mem_map.2 fun p _ => (resolve_errorsInRange _).map)).both
        (resolve_errorsInRange _)).map
    refine declared.bind fun s made => ?_
    split
    · exact duplicateFn_errorsInRange (builtinSignature_eq_ok.1 made).inRange
    · exact ih (taken ++ [s])

/-- The first line of a function reports its parameter types only when all of them were found. -/
theorem newSignature_errorsInRange (void : types.names.resolve? "Void" = some types.void)
    (taken : List Signature) (d : FnDecl) :
    ErrorsInRange types.names (newSignature types taken d) := by
  have returned : ErrorsInRange types.names (returnType types d.returnType) := by
    unfold returnType
    split
    · exact resolve_errorsInRange _
    · exact errorsInRange_ok _
  have params : ErrorsInRange types.names
      (collect ((withEarlier d.params).map fun p => param types.names p.1 p.2)) :=
    errorsInRange_collect (List.forall_mem_map.2 fun p _ =>
      newBinding_errorsInRange (.plain rfl (by simp)))
  have declared : ErrorsInRange types.names (declaredSignature types d) :=
    (params.both returned).map
  unfold newSignature
  refine declared.bind fun s made => ?_
  split
  · exact duplicateFn_errorsInRange ((declaredSignature_eq_ok void).1 made).2.inRange
  · exact errorsInRange_ok s

/-- The errors of first lines describe parameter types, which were all found. -/
theorem signaturesFrom_errorsInRange (void : types.names.resolve? "Void" = some types.void)
    (taken : List Signature) (ds : List FnDecl) :
    ErrorsInRange types.names (signaturesFrom types taken ds) := by
  induction ds generalizing taken with
  | nil => exact errorsInRange_ok []
  | cons d ds ih =>
    have first := newSignature_errorsInRange void taken d
    rw [signaturesFrom]
    split
    · exact (errorsInRange_ok _).before (ih _)
    · next es failed =>
      rw [failed] at first
      exact first.before (ih taken)

end Declarations

/-! ## Programs -/

section Programs

variable {p : Syntax.Program} {host : Builtins} {types : TypeTable}
  {builtins users : List Signature}

/-- The tables of a program refer to types and fields that they have themselves. -/
theorem Tables.inRange (tables : Tables p host types builtins users) :
    (⟨types, fnTable builtins users⟩ : Globals).InRange := by
  refine ⟨⟨TypeNames.has_of_resolve? tables.void, TypeNames.has_of_resolve? tables.int,
    TypeNames.has_of_resolve? tables.string, fun s mem f declared => ?_⟩, fun f mem => ?_⟩
  · obtain ⟨_, _, entry⟩ := Aligned.mem_right tables.structs mem
    obtain ⟨_, _, bound⟩ := Aligned.mem_right entry.fields declared
    exact TypeNames.has_of_resolve? bound.2
  · rcases f with ⟨i | i, s⟩
    · obtain ⟨_, _, made⟩ := Aligned.getElem?_right tables.hostFns (mem_fnTable_builtin.1 mem)
      exact made.inRange
    · obtain ⟨_, _, made⟩ := Aligned.getElem?_right tables.fns (mem_fnTable_user.1 mem)
      exact made.inRange

/-- The types in an error of a program have names, stage by stage: each stage is given what the
one before it has made. -/
theorem check_errorsInRange (p : Syntax.Program) (host : Builtins) :
    ErrorsInRange (p.typeNames host.types) (p.check host) := by
  unfold Syntax.Program.check
  refine (structTypes_errorsInRange p.structs).bind fun structs madeStructs => ?_
  refine (typeTable_errorsInRange host.types structs).bind fun types madeTypes => ?_
  obtain ⟨_, builtinTypes, rfl, void, _⟩ := typeTable_eq_ok.1 madeTypes
  obtain ⟨_, _, entries, _⟩ := structTypes_eq_ok.1 madeStructs
  have names : types.names = p.typeNames host.types := by
    rw [← typeNames_eq entries, ← builtinTypes]
    rfl
  rw [← names]
  refine (builtinSignaturesFrom_errorsInRange [] host.fns).bind fun builtins madeBuiltins => ?_
  refine (signaturesFrom_errorsInRange void builtins p.fns).bind fun users madeUsers => ?_
  have tables : Tables p host types builtins users :=
    tables_iff.2 ⟨madeStructs, madeTypes, madeBuiltins, madeUsers⟩
  refine (errorsInRange_collect (List.forall_mem_map.2 fun f paired => ?_)).bind
    fun fns _ => errorsInRange_ok _
  obtain ⟨_, _, made⟩ := Aligned.mem_right tables.fns (List.of_mem_zip paired).2
  exact fn_errorsInRange tables.fieldsDistinct tables.inRange f.1 made.inRange

end Programs

end Check

end NominalScript
