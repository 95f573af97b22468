import NominalScript.Check
import NominalScript.Proofs.Check.Combinators
import NominalScript.Proofs.Syntax.Spans

/-!
# What a failed check reports

A check that fails reports at least one error, and every error it reports stands at a
span of the tree, or at no place in the text when the host is at fault.  The same is
said of warnings, which stand at the span from one statement to another.

The judgment `Check.Blames` is followed through the checker function by function.  What
it rests on is that no struct declares a field twice: only then is a literal with the
wrong names always one with a name to complain of (`mismatchErrors_ne_nil`).
-/

namespace NominalScript

open Syntax
open Checked (Signature)

namespace Check

variable {α β : Type} {blame : Span → Prop}

/-- No struct has two fields of one name. -/
def FieldsDistinct (types : TypeTable) : Prop :=
  ∀ s ∈ types.structs, (s.fields.map Field.name).Nodup

/-! ## Expressions -/

section Expressions

variable {env : Env} {g : Globals} {types : TypeTable} {span : Span}

theorem call_blames {name : String} {args : List Checked.Expr} (here : blame span) :
    Blames blame (call g name args span) := by
  unfold call resolveFn
  split
  · exact blames_ok _
  · exact blames_fail here

theorem localVar_blames {name : String} (here : blame span) :
    Blames blame (localVar env name span) := by
  unfold localVar
  split
  · exact blames_fail here
  · split
    · exact blames_ok _
    · exact blames_fail here

theorem member_blames {base : Checked.Expr} {field : String} (here : blame span) :
    Blames blame (member types base field span) := by
  unfold member
  split
  · exact blames_fail here
  · split
    · exact blames_fail here
    · exact blames_ok _

theorem literalStruct_blames {type : Ident} (here : blame type.span) :
    Blames blame (literalStruct types type) := by
  unfold literalStruct
  refine (resolve_blames here).bind fun t _ => ?_
  split
  · exact blames_fail here
  · split
    · exact blames_ok _
    · exact blames_fail here

/-- The type of a struct literal is right when its name resolves to a struct that has an entry. -/
theorem literalStruct_eq_ok {type : Ident} {i : Nat} {s : StructType} :
    literalStruct types type = .ok (i, s) ↔
      types.names.resolve? type.name = some (.struct i) ∧ types.structs[i]? = some s := by
  unfold literalStruct
  rw [bind_eq_ok]
  refine ⟨?_, ?_⟩
  · intro ⟨t, resolved, rest⟩
    rw [resolve_eq_ok] at resolved
    cases t with
    | builtin j => cases rest
    | struct j =>
      dsimp only at rest
      split at rest
      · next found => cases rest; exact ⟨resolved, found⟩
      · cases rest
  · intro ⟨resolved, found⟩
    refine ⟨.struct i, resolve_eq_ok.2 resolved, ?_⟩
    simp only [found]
    rfl

theorem repeatedFields_eq_nil {s : StructType} {given : List Ident} :
    repeatedFields s given = [] ↔ (given.map Ident.name).Nodup := by
  rw [← forall_fresh_withEarlier]
  simp [repeatedFields]

theorem missingFields_eq_nil {s : StructType} {given : List Ident} :
    missingFields s given span = [] ↔ s.fields.map Field.name ⊆ given.map Ident.name := by
  simp [missingFields, List.subset_def]

theorem unexpectedFields_eq_nil {s : StructType} {given : List Ident} :
    unexpectedFields s given = [] ↔ given.map Ident.name ⊆ s.fields.map Field.name := by
  simp [unexpectedFields, List.subset_def]

/-- As many fields as declared, but not the declared names in their order, differ from these at
some place. -/
theorem misplacedField_ne_nil {s : StructType} {given : List Ident}
    (length : given.length = s.fields.length)
    (differ : given.map Ident.name ≠ s.fields.map Field.name) : misplacedField s given ≠ [] := by
  unfold misplacedField
  split
  · simp
  · next agree =>
    refine absurd (List.ext_getElem (by simpa using length) fun i hi hj => ?_) differ
    rw [List.length_map] at hi hj
    have pair : (given[i], s.fields[i]) ∈ given.zip s.fields :=
      List.mem_iff_getElem.2 ⟨i, by rw [List.length_zip]; omega, by simp⟩
    simpa using List.find?_eq_none.1 agree _ pair

/-- Names that are not those declared are never passed over in silence, as long as no name
is declared twice. -/
theorem mismatchErrors_ne_nil {s : StructType} {given : List Ident}
    (declared : (s.fields.map Field.name).Nodup) (distinct : (given.map Ident.name).Nodup)
    (differ : given.map Ident.name ≠ s.fields.map Field.name) :
    mismatchErrors s given span ≠ [] := by
  unfold mismatchErrors
  dsimp only
  split
  · next strange => simpa using strange
  · next strange =>
    -- Neither a name missing nor one unknown: the two lists are permutations.
    have none : missingFields s given span = [] ∧ unexpectedFields s given = [] := by
      simpa using strange
    have perm : (given.map Ident.name).Perm (s.fields.map Field.name) :=
      (List.perm_ext_iff_of_nodup distinct declared).2 fun name =>
        ⟨fun given => unexpectedFields_eq_nil.1 none.2 given,
          fun wanted => missingFields_eq_nil.1 none.1 wanted⟩
    exact misplacedField_ne_nil (by simpa using perm.length_eq) differ

theorem repeatedFields_span {s : StructType} {given : List Ident} {e : CheckError}
    (reported : e ∈ repeatedFields s given) : ∃ ident ∈ given, e.span = ident.span := by
  obtain ⟨f, listed, found⟩ := List.mem_filterMap.1 reported
  split at found
  · cases found
    exact ⟨f.2, snd_mem_of_mem_withEarlierFrom listed, rfl⟩
  · cases found

/-- A mismatch is told of one of the names, or of the literal as a whole when a name is
missing. -/
theorem mismatchErrors_span {s : StructType} {given : List Ident} {e : CheckError}
    (reported : e ∈ mismatchErrors s given span) :
    e.span = span ∨ ∃ ident ∈ given, e.span = ident.span := by
  simp only [mismatchErrors] at reported
  split at reported
  · rcases List.mem_append.1 reported with missing | unexpected
    · obtain ⟨f, _, found⟩ := List.mem_filterMap.1 missing
      split at found
      · cases found
      · cases found
        exact .inl rfl
    · obtain ⟨ident, listed, found⟩ := List.mem_filterMap.1 unexpected
      split at found
      · cases found
      · cases found
        exact .inr ⟨ident, listed, rfl⟩
  · unfold misplacedField at reported
    split at reported
    · next ident f first =>
      cases List.mem_singleton.1 reported
      exact .inr ⟨ident, (List.of_mem_zip (List.mem_of_find?_eq_some first)).1, rfl⟩
    · exact absurd reported List.not_mem_nil

/-- Field names that repeat or are not as declared are reported; of missing, unexpected and
misplaced names one always applies. -/
theorem fieldNames_blames {s : StructType} {given : List Ident}
    (declared : (s.fields.map Field.name).Nodup) (here : blame span)
    (named : ∀ ident ∈ given, blame ident.span) : Blames blame (fieldNames s given span) := by
  unfold fieldNames
  refine (blames_unlessAny fun e reported => ?_).bind fun _ once => ?_
  · obtain ⟨ident, mem, part⟩ := repeatedFields_span reported
    exact part ▸ named ident mem
  · split
    · exact blames_ok ()
    · next differ =>
      have distinct := repeatedFields_eq_nil.1 (unlessAny_eq_ok.1 once)
      refine blames_error (mismatchErrors_ne_nil declared distinct differ) fun e reported => ?_
      rcases mismatchErrors_span reported with whole | ⟨ident, mem, part⟩
      · exact whole ▸ here
      · exact part ▸ named ident mem

theorem fieldTypeErrors_span {fields : List (FieldInit Expr)} {values : List Checked.Expr}
    {declared : List Field} {e : CheckError}
    (reported : e ∈ fieldTypeErrors fields values declared) :
    ∃ f ∈ fields, e.span = f.value.span := by
  obtain ⟨⟨⟨f, v⟩, d⟩, listed, found⟩ := List.mem_filterMap.1 reported
  split at found
  · cases found
  · cases found
    exact ⟨f, (List.of_mem_zip (List.of_mem_zip listed).1).1, rfl⟩

theorem exprs_eq_collect (env : Env) (es : List Expr) :
    exprs env es = collect (es.map (expr env)) := by
  induction es with
  | nil => rw [exprs, List.map_nil, collect]
  | cons e es ih => rw [exprs, List.map_cons, collect, ih]

theorem fieldValues_eq_collect (env : Env) (fields : List (FieldInit Expr)) :
    fieldValues env fields = collect (fields.map fun f => expr env f.value) := by
  induction fields with
  | nil => rw [fieldValues, List.map_nil, collect]
  | cons f fields ih => rw [fieldValues, List.map_cons, collect, ih]

theorem exprs_blames {es : List Expr} (each : ∀ e ∈ es, Blames blame (expr env e)) :
    Blames blame (exprs env es) := by
  rw [exprs_eq_collect]
  exact blames_collect (List.forall_mem_map.2 each)

theorem fieldValues_blames {fields : List (FieldInit Expr)}
    (each : ∀ f ∈ fields, Blames blame (expr env f.value)) :
    Blames blame (fieldValues env fields) := by
  rw [fieldValues_eq_collect]
  exact blames_collect (List.forall_mem_map.2 each)

/-- What is wrong with an expression is reported at the span of one of its nodes. -/
theorem expr_blames (env : Env) (distinct : FieldsDistinct env.types) (e : Expr)
    (spans : ∀ s ∈ e.spans, blame s) :
    Blames blame (expr env e) := by
  induction e using Expr.inductOn with
  | str value span =>
    rw [expr]
    exact blames_ok _
  | int value span =>
    rw [expr]
    exact blames_ok _
  | call fn args span ih =>
    simp only [Expr.spans, Expr.spansOfAll_eq_flatMap, List.forall_mem_cons,
      List.forall_mem_flatMap] at spans
    rw [expr]
    exact (exprs_blames fun e mem => ih e mem (spans.2.2 e mem)).bind
      fun args _ => call_blames spans.1
  | var name span =>
    rw [expr]
    exact localVar_blames (spans span (by simp [Expr.spans]))
  | unary op operand span ih =>
    simp only [Expr.spans, List.forall_mem_cons] at spans
    rw [expr]
    exact (ih spans.2.2).bind fun e _ => call_blames spans.1
  | binary op left right span ihl ihr =>
    simp only [Expr.spans, List.forall_mem_cons, List.forall_mem_append] at spans
    rw [expr]
    refine (blames_collect ?_).bind fun operands _ => call_blames spans.1
    exact List.forall_mem_cons.2 ⟨ihl spans.2.2.1, List.forall_mem_singleton.2 (ihr spans.2.2.2)⟩
  | paren inner span ih =>
    simp only [Expr.spans, List.forall_mem_cons] at spans
    rw [expr]
    exact ih spans.2
  | init type fields fieldsSpan span ih =>
    simp only [Expr.spans, Expr.spansOfFields_eq_flatMap, List.forall_mem_cons,
      List.forall_mem_flatMap, FieldInit.spans] at spans
    obtain ⟨here, named, _, inside⟩ := spans
    rw [expr]
    refine (literalStruct_blames named).bind fun s found => ?_
    have declared := distinct s.2 (List.mem_of_getElem? (literalStruct_eq_ok.1 found).2)
    refine (fieldNames_blames declared here fun ident given => ?_).bind fun _ _ => ?_
    · obtain ⟨f, mem, rfl⟩ := List.mem_map.1 given
      exact (inside f mem).2.1
    · refine (fieldValues_blames fun f mem => ih f mem (inside f mem).2.2).bind fun values _ => ?_
      refine (blames_unlessAny fun e reported => ?_).bind fun _ _ => blames_ok _
      obtain ⟨f, mem, part⟩ := fieldTypeErrors_span reported
      exact part ▸ (inside f mem).2.2 _ f.value.span_mem_spans
  | member base field span ih =>
    simp only [Expr.spans, List.forall_mem_cons] at spans
    rw [expr]
    exact (ih spans.2.2).bind fun e _ => member_blames spans.1

theorem condition_blames (env : Env) (distinct : FieldsDistinct env.types) (e : Expr)
    (spans : ∀ s ∈ e.spans, blame s) :
    Blames blame (condition env e) := by
  unfold condition
  refine (expr_blames env distinct e spans).bind fun c _ => ?_
  split
  · exact blames_ok c
  · exact blames_fail (spans _ e.span_mem_spans)

end Expressions

/-! ## Bodies -/

section Bodies

variable {g : Globals} {expected : TypeId}

/-- A return of the wrong type is reported at its value, and one that lacks its value at itself. -/
theorem returned_blames (env : Env) (distinct : FieldsDistinct env.types) {value : Option Expr}
    {span : Span} (spans : ∀ s ∈ (Stmt.ret value span).spans, blame s) :
    Blames blame (returned env expected value span) := by
  cases value with
  | some e =>
    simp only [Stmt.spans, List.forall_mem_cons] at spans
    refine (expr_blames env distinct e spans.2).bind fun c _ => ?_
    split
    · exact blames_ok _
    · exact blames_fail (spans.2 _ e.span_mem_spans)
  | none =>
    rw [returned]
    split
    · exact blames_ok _
    · exact blames_fail (spans span (by simp [Stmt.spans]))

/-- What is wrong with the value of a `let` is reported at one of its spans, or at that of the
type written for it. -/
theorem boundValue_blames (env : Env) (distinct : FieldsDistinct env.types) {ident : Ident}
    {type : Option Ident} {value : Expr} (typed : ∀ s ∈ Ident.spanIfAny type, blame s)
    (spans : ∀ s ∈ value.spans, blame s) :
    Blames blame (boundValue env ident type value) := by
  cases type with
  | none => exact expr_blames env distinct value spans
  | some t =>
    refine (resolve_blames (typed t.span (by simp [Ident.spanIfAny]))).bind fun u _ => ?_
    refine (expr_blames env distinct value spans).bind fun c _ => ?_
    split
    · exact blames_ok c
    · exact blames_fail (spans _ value.span_mem_spans)

/-- A part of a body is checked: what it reports is at spans to blame, and so are all
warnings so far. -/
structure BodyBlames (blame : Span → Prop) (x : Check α × BodyState) : Prop where
  result : Blames blame x.1
  warnings : ∀ w ∈ x.2.warnings, blame w.span

theorem BodyBlames.map {x : Check α × BodyState} {f : α → β} (blames : BodyBlames blame x) :
    BodyBlames blame (x.1.map f, x.2) :=
  ⟨blames.result.map, blames.warnings⟩

/-- What is wrong with a `let` is reported at a span in it. -/
theorem bound_blames (distinct : FieldsDistinct g.types) {s : BodyState} {ident : Ident}
    {type : Option Ident} {value : Expr} {span : Span}
    (spans : ∀ s ∈ (Stmt.bind ident type value span).spans, blame s)
    (warned : ∀ w ∈ s.warnings, blame w.span) :
    BodyBlames blame (bound g s ident type value) := by
  simp only [Stmt.spans, List.forall_mem_cons, List.forall_mem_append] at spans
  obtain ⟨_, named, typed, valued⟩ := spans
  have blames : Blames blame (boundValue (s.env g) ident type value) :=
    boundValue_blames (s.env g) distinct typed valued
  unfold bound
  split
  · next es failed =>
    have reports := blames es failed
    exact ⟨blames_error reports.1 reports.2, warned⟩
  · split
    · exact ⟨blames_fail named, warned⟩
    · exact ⟨blames_ok _, warned⟩

/-- The statements that are left out are some of the last of their block. -/
theorem unreachable_suffix (analyzed : List (Analyzed Checked.Stmt)) (body : List Stmt) :
    unreachable analyzed body <:+ body := by
  induction analyzed generalizing body with
  | nil => exact List.nil_suffix
  | cons a as ih =>
    cases body with
    | nil => exact List.nil_suffix
    | cons s body =>
      rw [unreachable]
      split
      · exact List.suffix_cons s body
      · exact (ih body).trans (List.suffix_cons s body)

/-- With two spans, the span around both is one to blame too. -/
def JoinsBlame (blame : Span → Prop) : Prop := ∀ s t, blame s → blame t → blame (s.join t)

theorem joinsBlame_true : JoinsBlame fun _ => True := fun _ _ _ _ => trivial

theorem spanOf_blames (joins : JoinsBlame blame) {body : List Stmt} {span : Span}
    (joined : spanOf body = some span) (spans : ∀ s ∈ body, blame s.span) : blame span := by
  cases body with
  | nil => cases joined
  | cons first rest =>
    cases joined
    exact joins _ _ (spans first List.mem_cons_self) (spans _ (List.getLast_mem _))

/-- Closing a block adds at most one warning, at the span around its last statements. -/
theorem finishBlock_blames (joins : JoinsBlame blame) {body : List Stmt}
    {x : Check (List (Analyzed Checked.Stmt)) × BodyState}
    (spans : ∀ s ∈ Stmt.spansOfAll body, blame s) (blames : BodyBlames blame x) :
    BodyBlames blame (finishBlock body x) := by
  rcases x with ⟨r, s⟩
  cases r with
  | error es =>
    exact ⟨blames_error (blames.result es rfl).1 (blames.result es rfl).2, blames.warnings⟩
  | ok analyzed =>
    refine ⟨blames_ok _, ?_⟩
    refine List.forall_mem_append.2 ⟨blames.warnings, fun w mem => ?_⟩
    obtain ⟨span, joined, rfl⟩ := Option.map_eq_some_iff.1 (Option.mem_toList.1 mem)
    refine spanOf_blames joins joined fun s left => ?_
    have listed := (unreachable_suffix analyzed body).subset left
    rw [Stmt.spansOfAll_eq_flatMap] at spans
    exact spans _ (List.mem_flatMap.2 ⟨s, listed, s.span_mem_spans⟩)

mutual

/-- What is wrong with a statement is reported at one of its spans, and the warnings are at such
spans too. -/
theorem stmt_blames (distinct : FieldsDistinct g.types) (joins : JoinsBlame blame) :
    ∀ (a : Stmt) {s : BodyState}, (∀ s ∈ a.spans, blame s) →
    (∀ w ∈ s.warnings, blame w.span) → BodyBlames blame (stmt g expected a s)
  | .expr e, s, spans, warned => by
    rw [stmt]
    exact ⟨(expr_blames (s.env g) distinct e spans).map, warned⟩
  | .cond c, s, spans, warned => by
    rw [stmt]
    exact (conditional_blames distinct joins c spans warned).map
  | .ret value span, s, spans, warned => by
    rw [stmt]
    exact ⟨(returned_blames (s.env g) distinct spans).map, warned⟩
  | .bind ident type value span, s, spans, warned => by
    rw [stmt]
    exact (bound_blames distinct spans warned).map

theorem stmts_blames (distinct : FieldsDistinct g.types) (joins : JoinsBlame blame) :
    ∀ (as : List Stmt) {s : BodyState}, (∀ s ∈ Stmt.spansOfAll as, blame s) →
    (∀ w ∈ s.warnings, blame w.span) → BodyBlames blame (stmts g expected as s)
  | [], s, spans, warned => by
    rw [stmts]
    exact ⟨blames_ok [], warned⟩
  | a :: as, s, spans, warned => by
    simp only [Stmt.spansOfAll, List.forall_mem_append] at spans
    rw [stmts]
    have first := stmt_blames distinct joins a spans.1 warned
    have rest := stmts_blames distinct joins as spans.2 first.warnings
    exact ⟨first.result.before rest.result, rest.warnings⟩

/-- The condition, the block and what follows are all checked, and what is wrong with each is
reported. -/
theorem conditional_blames (distinct : FieldsDistinct g.types) (joins : JoinsBlame blame) :
    ∀ (c : Conditional) {s : BodyState}, (∀ s ∈ c.spans, blame s) →
    (∀ w ∈ s.warnings, blame w.span) → BodyBlames blame (conditional g expected c s)
  | .mk c block rest span, s, spans, warned => by
    simp only [Conditional.spans, List.forall_mem_cons, List.forall_mem_append] at spans
    obtain ⟨_, condition, inside, after⟩ := spans
    rw [conditional]
    have finished := finishBlock_blames joins inside
      (stmts_blames distinct joins block (s := s.enter) inside warned)
    have others := otherwise_blames distinct joins rest after finished.warnings
    exact ⟨((condition_blames (s.env g) distinct c condition).both
        (finished.result.both others.result)).map,
      others.warnings⟩

/-- What is wrong behind a block is reported at a span there.  When the condition of an
`else if` fails, its block is passed over, and what follows is checked all the same. -/
theorem otherwise_blames (distinct : FieldsDistinct g.types) (joins : JoinsBlame blame) :
    ∀ (o : Otherwise) {s : BodyState}, (∀ s ∈ o.spans, blame s) →
    (∀ w ∈ s.warnings, blame w.span) → BodyBlames blame (otherwise g expected o s)
  | .nothing, s, spans, warned => by
    rw [otherwise]
    exact ⟨blames_ok _, warned⟩
  | .block block, s, spans, warned => by
    rw [otherwise]
    exact (finishBlock_blames joins spans
      (stmts_blames distinct joins block (s := s.enter) spans warned)).map
  | .elseIf (.mk c block rest span), s, spans, warned => by
    simp only [Otherwise.spans, Conditional.spans, List.forall_mem_cons,
      List.forall_mem_append] at spans
    obtain ⟨_, condition, inside, after⟩ := spans
    have first := condition_blames (s.env g) distinct c condition
    rw [otherwise]
    split
    · next es failed =>
      have others := otherwise_blames distinct joins rest after warned
      have reports := first es failed
      exact ⟨(blames_error reports.1 reports.2).before others.result, others.warnings⟩
    · have finished := finishBlock_blames joins inside
        (stmts_blames distinct joins block (s := s.enter) inside warned)
      have others := otherwise_blames distinct joins rest after finished.warnings
      exact ⟨finished.result.map.before others.result, others.warnings⟩

end

theorem warnings_bindAll (params : List Field) (s : BodyState) :
    (s.bindAll params).warnings = s.warnings := by
  induction params generalizing s with
  | nil => rfl
  | cons p params ih => exact ih (s.bind p.name p.type)

/-- What a function reports, warnings included, is at spans of its body or around statements of
it, or at its own. -/
theorem fn_blames (distinct : FieldsDistinct g.types) (joins : JoinsBlame blame) {d : FnDecl}
    {signature : Signature}
    (here : blame d.span) (spans : ∀ s ∈ Stmt.spansOfAll d.body, blame s) :
    Blames blame (fn g d signature) ∧
      ∀ r, fn g d signature = .ok r → ∀ w ∈ r.2, blame w.span := by
  have fresh : ∀ w ∈ (BodyState.start.bindAll signature.params).enter.warnings, blame w.span := by
    intro w mem
    rw [BodyState.enter, warnings_bindAll] at mem
    exact absurd mem List.not_mem_nil
  have body : BodyBlames blame (block g signature.returnType d.body
      (BodyState.start.bindAll signature.params)) :=
    finishBlock_blames joins spans (stmts_blames distinct joins d.body spans fresh)
  unfold fn
  split
  · next es s failed =>
    rw [failed] at body
    have reports := body.result es rfl
    exact ⟨blames_error reports.1 reports.2, nofun⟩
  · next b s checked =>
    rw [checked] at body
    split
    · refine ⟨blames_ok _, fun r made => ?_⟩
      cases made
      exact body.warnings
    · exact ⟨blames_fail here, nofun⟩

end Bodies

/-! ## Declarations -/

section Declarations

variable {names : TypeNames} {types : TypeTable}

/-- A field or parameter that must have a new name and a type that exists. -/
theorem newBinding_blames {b : Binding} {fault : CheckFault} {taken : Bool}
    (spans : ∀ s ∈ b.spans, blame s) :
    Blames blame (if taken then fail fault b.span
      else (resolve names b.type).map fun t => (⟨b.ident.name, t⟩ : Field)) := by
  simp only [Binding.spans, List.forall_mem_cons] at spans
  split
  · exact blames_fail spans.1
  · exact (resolve_blames spans.2.2.1).map

theorem structType_blames {earlier : List StructDecl} {d : StructDecl}
    (spans : ∀ s ∈ d.spans, blame s) : Blames blame (structType names earlier d) := by
  simp only [StructDecl.spans, List.forall_mem_cons, List.forall_mem_flatMap] at spans
  unfold structType
  split
  · exact blames_fail spans.2.1
  · split
    · exact blames_fail spans.2.1
    · refine (blames_collect_withEarlier fun b mem earlier => ?_).map
      exact newBinding_blames (spans.2.2 b mem)

/-- What is wrong with the first line of a function is reported at a span of it. -/
theorem newSignature_blames {taken : List Signature} {d : FnDecl}
    (spans : ∀ s ∈ d.spans, blame s) : Blames blame (newSignature types taken d) := by
  simp only [FnDecl.spans, List.forall_mem_cons, List.forall_mem_append,
    List.forall_mem_flatMap] at spans
  obtain ⟨_, _, named, params, returns, _⟩ := spans
  have returned : Blames blame (returnType types d.returnType) := by
    cases written : d.returnType with
    | none => exact blames_ok _
    | some type => exact resolve_blames (returns type.span (by simp [written, Ident.spanIfAny]))
  have each : Blames blame
      (collect ((withEarlier d.params).map fun p => param types.names p.1 p.2)) :=
    blames_collect_withEarlier fun b mem earlier => newBinding_blames (params b mem)
  have declared : Blames blame (declaredSignature types d) := (each.both returned).map
  unfold newSignature
  refine declared.bind fun s _ => ?_
  split
  · exact blames_fail named
  · exact blames_ok s

/-- Every function without a signature is reported; it takes none, and the later ones are
checked all the same. -/
theorem signaturesFrom_blames {taken : List Signature} {ds : List FnDecl}
    (spans : ∀ d ∈ ds, ∀ s ∈ d.spans, blame s) :
    Blames blame (signaturesFrom types taken ds) := by
  induction ds generalizing taken with
  | nil => exact blames_ok []
  | cons d ds ih =>
    obtain ⟨here, later⟩ := List.forall_mem_cons.1 spans
    have first : Blames blame (newSignature types taken d) := newSignature_blames here
    rw [signaturesFrom]
    split
    · next s _ => exact (blames_ok s).before (ih later)
    · next es failed =>
      have reports := first es failed
      exact (blames_error reports.1 reports.2).before (ih later)

variable (host : blame .builtin)

include host

theorem neededBuiltin_blames {builtins : List String} {name : String} :
    Blames blame (neededBuiltin builtins name) := by
  unfold neededBuiltin
  split
  · exact blames_ok _
  · exact blames_fail host

theorem typeTable_blames {builtins : List String} {structs : List StructType} :
    Blames blame (typeTable builtins structs) :=
  ((neededBuiltin_blames host).both
    ((neededBuiltin_blames host).both (neededBuiltin_blames host))).map

theorem builtinSignature_blames {b : Builtin} : Blames blame (builtinSignature types b) := by
  have resolved : ∀ name, Blames blame (resolve types.names (hostIdent name)) :=
    fun name => resolve_blames host
  refine ((blames_collect fun c mem => ?_).both (resolved b.returnType)).map
  obtain ⟨p, _, rfl⟩ := List.mem_map.1 mem
  exact (resolved p.typeName).map

theorem builtinSignaturesFrom_blames {taken : List Signature} {bs : List Builtin} :
    Blames blame (builtinSignaturesFrom types taken bs) := by
  induction bs generalizing taken with
  | nil => exact blames_ok taken
  | cons b bs ih =>
    refine (builtinSignature_blames host).bind fun s _ => ?_
    split
    · exact blames_fail host
    · exact ih

end Declarations

end Check

end NominalScript
