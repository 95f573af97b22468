import NominalScript.Proofs.Aligned
import NominalScript.Proofs.Check.Success

/-!
# What is said of a struct literal

A struct literal is held against the declaration of its struct in stages, and each stage is
reached only when the one before it has nothing to say: fields given twice, fields missing or
unknown, fields out of order, and then the values and their types.
`expr_init_diagnosed` says which errors are reported, for every literal of a struct whose
field names are distinct.

The third stage looks for the first place at which the two orders differ.  That there is
one, and that the field declared there really comes later in the literal, is
`exists_first_difference`: two lists without repetition and with the same members.
-/

namespace NominalScript.Check

open Syntax

/-! ## Lists of names -/

/-- Lists without repetition that have the same members and differ do so first where each
of the two elements comes later in the other list. -/
theorem exists_first_difference {α : Type} {as bs : List α} (once : as.Nodup) (once' : bs.Nodup)
    (same : ∀ x, x ∈ as ↔ x ∈ bs) (differ : as ≠ bs) :
    ∃ common a as' b bs', as = common ++ a :: as' ∧ bs = common ++ b :: bs' ∧
      a ≠ b ∧ b ∈ as' ∧ a ∈ bs' := by
  induction as generalizing bs with
  | nil =>
    refine absurd (List.eq_nil_iff_forall_not_mem.2 fun x mem => ?_).symm differ
    exact List.not_mem_nil ((same x).2 mem)
  | cons a as ih =>
    cases bs with
    | nil => exact absurd ((same a).1 List.mem_cons_self) List.not_mem_nil
    | cons b bs =>
      by_cases first : a = b
      · subst first
        obtain ⟨new, once⟩ := List.nodup_cons.1 once
        obtain ⟨new', once'⟩ := List.nodup_cons.1 once'
        have rest : ∀ x, x ∈ as ↔ x ∈ bs := by
          intro x
          by_cases here : x = a
          · subst here
            simp [new, new']
          · simpa [here] using same x
        obtain ⟨common, c, as', d, bs', rfl, rfl, apart, later, later'⟩ :=
          ih once once' rest fun equal => differ (congrArg _ equal)
        exact ⟨a :: common, c, as', d, bs', rfl, rfl, apart, later, later'⟩
      · have ahead := (same b).2 List.mem_cons_self
        have behind := (same a).1 List.mem_cons_self
        exact ⟨[], a, as, b, bs, rfl, rfl, first,
          (List.mem_cons.1 ahead).resolve_left (Ne.symm first),
          (List.mem_cons.1 behind).resolve_left first⟩

/-- What stands before an element, by its position. -/
theorem withEarlier_eq_zipIdx {α : Type} (as : List α) :
    withEarlier as = as.zipIdx.map fun p => (as.take p.2, p.1) := by
  have run : ∀ earlier : List α, withEarlierFrom earlier as =
      as.zipIdx.map fun p => (earlier ++ as.take p.2, p.1) := by
    induction as with
    | nil => exact fun _ => rfl
    | cons a as ih =>
      intro earlier
      rw [withEarlierFrom, ih, List.zipIdx_cons, List.map_cons, List.zipIdx_succ, List.map_map]
      simp
  exact run []

theorem any_named {α : Type} (key : α → String) (name : String) (as : List α) :
    (as.any fun a => key a == name) = decide (name ∈ as.map key) := by
  rw [Bool.eq_iff_iff]
  simp

theorem filterMap_unless {α β : Type} (p : α → Bool) (f : α → β) (as : List α) :
    (as.filterMap fun a => if p a then none else some (f a)) =
      (as.filter fun a => !p a).map f := by
  induction as with
  | nil => rfl
  | cons a as ih => by_cases holds : p a <;> simp [holds, ih]

/-! ## Stages -/

/-- The fields of a literal that were given before, once for each time. -/
def givenBefore (given : List Ident) : List Ident :=
  (given.zipIdx.filter fun g => g.1.name ∈ (given.take g.2).map Ident.name).map Prod.fst

/-- The declared fields that a literal does not give. -/
def notGiven (s : StructType) (given : List Ident) : List Field :=
  s.fields.filter fun f => f.name ∉ given.map Ident.name

/-- The fields of a literal that are not declared. -/
def notDeclared (s : StructType) (given : List Ident) : List Ident :=
  given.filter fun g => g.name ∉ s.fields.map Field.name

section Names

variable {s : StructType} {given : List Ident} {span : Span}

theorem repeatedFields_eq : repeatedFields s given =
    (givenBefore given).map fun g => ⟨.repeatedField s.name g.name, g.span⟩ := by
  rw [repeatedFields, withEarlier_eq_zipIdx, List.filterMap_map, givenBefore, List.map_map,
    ← List.filterMap_eq_map, List.filterMap_filter]
  refine List.filterMap_congr fun g _ => ?_
  simp only [Function.comp_apply, any_named Ident.name]

theorem missingFields_eq : missingFields s given span =
    (notGiven s given).map fun f => ⟨.missingField s.name f.name, span⟩ := by
  simp only [missingFields, filterMap_unless, notGiven, any_named Ident.name, decide_not]

theorem unexpectedFields_eq : unexpectedFields s given =
    (notDeclared s given).map fun g => ⟨.unexpectedField s.name g.name, g.span⟩ := by
  simp only [unexpectedFields, filterMap_unless, notDeclared, any_named Field.name, decide_not]

/-- Names that are those declared, in another order, differ from them at a first place, where
each of the two comes later in the other order. -/
theorem exists_misplaced (declared : (s.fields.map Field.name).Nodup)
    (once : (given.map Ident.name).Nodup)
    (same : ∀ n, n ∈ given.map Ident.name ↔ n ∈ s.fields.map Field.name)
    (differ : given.map Ident.name ≠ s.fields.map Field.name) :
    ∃ before y rest agreed x later, given = before ++ y :: rest ∧
      s.fields = agreed ++ x :: later ∧ before.map Ident.name = agreed.map Field.name ∧
      y.name ≠ x.name ∧ y.name ∈ later.map Field.name ∧ x.name ∈ rest.map Ident.name := by
  obtain ⟨common, _, _, _, _, given_eq, fields_eq, apart, behind, ahead⟩ :=
    exists_first_difference once declared same differ
  obtain ⟨before, tail, rfl, beforeNames, tailNames⟩ := List.map_eq_append_iff.1 given_eq
  obtain ⟨y, rest, rfl, rfl, rfl⟩ := List.map_eq_cons_iff.1 tailNames
  obtain ⟨agreed, tail', fields, agreedNames, tailNames'⟩ := List.map_eq_append_iff.1 fields_eq
  obtain ⟨x, later, rfl, rfl, rfl⟩ := List.map_eq_cons_iff.1 tailNames'
  exact ⟨before, y, rest, agreed, x, later, rfl, fields, beforeNames.trans agreedNames.symm, apart,
    ahead, behind⟩

/-- The fields are compared from the left, so what is reported is the first place where the
names differ. -/
theorem misplacedField_eq {before rest : List Ident} {y : Ident} {agreed later : List Field}
    {x : Field} (fields : s.fields = agreed ++ x :: later)
    (agree : before.map Ident.name = agreed.map Field.name) (differ : y.name ≠ x.name) :
    misplacedField s (before ++ y :: rest) =
      [⟨.misplacedField s.name x.name y.name, y.span⟩] := by
  have length : before.length = agreed.length := by simpa using congrArg List.length agree
  have quiet : (before.zip agreed).find? (fun p => p.1.name != p.2.name) = none := by
    refine List.find?_eq_none.2 fun p mem => ?_
    simpa using List.forall₂_zip (Aligned.of_map_eq agree) mem
  have found : ((before ++ y :: rest).zip s.fields).find? (fun p => p.1.name != p.2.name) =
      some (y, x) := by
    rw [fields, List.zip_append length, List.find?_append, quiet, List.zip_cons_cons]
    simp [differ]
  rw [misplacedField, found]

theorem fieldNames_of_repeated (repeated : ¬ (given.map Ident.name).Nodup) :
    fieldNames s given span = .error (repeatedFields s given) := by
  have some : repeatedFields s given ≠ [] := mt repeatedFields_eq_nil.1 repeated
  rw [fieldNames, unlessAny, if_neg (by simpa using some)]
  rfl

theorem fieldNames_of_differ (once : (given.map Ident.name).Nodup)
    (differ : given.map Ident.name ≠ s.fields.map Field.name) :
    fieldNames s given span = .error (mismatchErrors s given span) := by
  rw [fieldNames, repeatedFields_eq_nil.2 once, if_neg differ]
  rfl

theorem fieldNames_of_eq (declared : (s.fields.map Field.name).Nodup)
    (same : given.map Ident.name = s.fields.map Field.name) :
    fieldNames s given span = .ok () :=
  (fieldNames_eq_ok declared).2 same

/-- A name is missing or unknown as soon as the two sets of names differ. -/
theorem strange_iff : notGiven s given ≠ [] ∨ notDeclared s given ≠ [] ↔
    ¬ ∀ n, n ∈ given.map Ident.name ↔ n ∈ s.fields.map Field.name := by
  rw [← not_and_or, not_iff_not, notGiven, notDeclared]
  simp only [List.filter_eq_nil_iff, decide_eq_true_eq, not_not]
  refine ⟨?_, ?_⟩
  · intro ⟨wanted, known⟩ n
    refine ⟨fun mem => ?_, fun mem => ?_⟩
    · obtain ⟨g, listed, rfl⟩ := List.mem_map.1 mem
      exact known g listed
    · obtain ⟨f, listed, rfl⟩ := List.mem_map.1 mem
      exact wanted f listed
  · intro same
    exact ⟨fun f mem => (same f.name).2 (List.mem_map_of_mem mem),
      fun g mem => (same g.name).1 (List.mem_map_of_mem mem)⟩

theorem mismatchErrors_of_strange
    (strange : notGiven s given ≠ [] ∨ notDeclared s given ≠ []) :
    mismatchErrors s given span = missingFields s given span ++ unexpectedFields s given := by
  have some : missingFields s given span ++ unexpectedFields s given ≠ [] := by
    rw [missingFields_eq, unexpectedFields_eq]
    simpa [imp_iff_not_or] using strange
  simp only [mismatchErrors]
  rw [if_pos (by simpa using some)]

theorem mismatchErrors_of_not_strange
    (usual : ¬ (notGiven s given ≠ [] ∨ notDeclared s given ≠ [])) :
    mismatchErrors s given span = misplacedField s given := by
  obtain ⟨none, none'⟩ := not_or.1 usual
  simp only [mismatchErrors]
  rw [missingFields_eq, unexpectedFields_eq, not_not.1 none, not_not.1 none']
  rfl

end Names

/-! ## Values -/

section Values

variable {env : Env} {s : StructType} {fields : List (FieldInit Expr)}

/-- The fields of a literal whose values have another type than declared, each with its
value and its declaration. -/
def illTyped (fields : List (FieldInit Expr)) (values : List Checked.Expr)
    (declared : List Field) : List ((FieldInit Expr × Checked.Expr) × Field) :=
  ((fields.zip values).zip declared).filter fun p => p.1.2.type ≠ p.2.type

theorem fieldTypeErrors_eq (fields : List (FieldInit Expr)) (values : List Checked.Expr)
    (declared : List Field) : fieldTypeErrors fields values declared =
      (illTyped fields values declared).map fun p =>
        ⟨.fieldType p.1.1.ident.name p.2.type p.1.2.type, p.1.1.value.span⟩ := by
  simpa [fieldTypeErrors, illTyped] using filterMap_unless
    (fun p : (FieldInit Expr × Checked.Expr) × Field => decide (p.1.2.type = p.2.type)) _ _

/-- All values are checked, and all that is wrong with any of them is reported. -/
theorem fieldValues_eq_error (wrong : ∃ f ∈ fields, (expr env f.value).errors ≠ []) :
    fieldValues env fields = .error (fields.flatMap fun f => (expr env f.value).errors) := by
  have all : (fieldValues env fields).errors =
      fields.flatMap fun f => (expr env f.value).errors := by
    rw [fieldValues_eq_collect, errors_collect, List.flatMap_map]
  obtain ⟨f, mem, reported⟩ := wrong
  rw [← all]
  cases checked : fieldValues env fields with
  | error es => rfl
  | ok values =>
    rw [checked, errors, eq_comm, List.flatMap_eq_nil_iff] at all
    exact absurd (all f mem) reported

theorem fieldValues_eq_values {values : List Checked.Expr}
    (checked : List.Forall₂ (fun f c => expr env f.value = .ok c) fields values) :
    fieldValues env fields = .ok values := by
  induction checked with
  | nil => rw [fieldValues]
  | cons first _ ih =>
    rw [fieldValues, first, ih]
    rfl

end Values

/-! ## Literals -/

section Literals

variable {α : Type} {env : Env} {type : Ident} {fields : List (FieldInit Expr)}
  {fieldsSpan span : Span} {i : Nat} {s : StructType}

/-- Checking fails, with these diagnostics and no others; there is one at least. -/
def FailsWith (names : TypeNames) (diagnostics : List Diagnostic) (r : Check α) : Prop :=
  ∃ errors, r = .error errors ∧ errors ≠ [] ∧ errors.map (·.diagnostic names) = diagnostics

theorem failsWith_error {names : TypeNames} {diagnostics : List Diagnostic}
    {errors : List CheckError} (some : errors ≠ [])
    (same : errors.map (·.diagnostic names) = diagnostics) :
    FailsWith names diagnostics (.error errors : Check α) :=
  ⟨errors, rfl, some, same⟩

/-- A literal of a struct is checked in stages. -/
theorem expr_init_eq (named : env.types.names.resolve? type.name = some (.struct i))
    (entry : env.types.structs[i]? = some s) :
    expr env (.init type fields fieldsSpan span) = (do
      fieldNames s (fields.map FieldInit.ident) span
      let values ← fieldValues env fields
      unlessAny (fieldTypeErrors fields values s.fields)
      return .init i values (.struct i)) := by
  rw [expr, literalStruct_eq_ok.2 ⟨named, entry⟩]
  rfl

/-- What is reported of a literal of a struct whose field names are distinct.

If a name comes again, each field that gives it again is reported.  Otherwise, if the
names are not those declared, each declared name that is missing is reported, in declared
order, and then each name that is not declared, in the order of the literal.  Otherwise, if
the order is another one, the first place where the two orders differ is reported: the
name declared there must precede the one given there, which the declaration has later, as
the literal has the other.  Only if names and order agree are the values looked at: all
errors in them are reported, and if there are none, each value of another type than
declared is. -/
theorem expr_init_diagnosed (named : env.types.names.resolve? type.name = some (.struct i))
    (entry : env.types.structs[i]? = some s) (declared : (s.fields.map Field.name).Nodup) :
    let given := fields.map FieldInit.ident
    let names := given.map Ident.name
    let wanted := s.fields.map Field.name
    let result := expr env (.init type fields fieldsSpan span)
    (¬ names.Nodup → FailsWith env.types.names ((givenBefore given).map fun g => .errorOver
      ("Duplicate field '" ++ g.name ++ "' in initialization of struct '" ++ s.name ++ "'")
        g.span) result) ∧
    (names.Nodup → (¬ ∀ n, n ∈ names ↔ n ∈ wanted) → FailsWith env.types.names
      (((notGiven s given).map fun f => .errorOver
        ("Missing field '" ++ f.name ++ "' in initialization of struct '" ++ s.name ++ "'") span) ++
      (notDeclared s given).map fun g => .errorOver
        ("Unexpected field '" ++ g.name ++ "' in initialization of struct '" ++ s.name ++ "'")
          g.span) result) ∧
    (names.Nodup → (∀ n, n ∈ names ↔ n ∈ wanted) → names ≠ wanted →
      ∃ before y rest agreed x later, given = before ++ y :: rest ∧
        s.fields = agreed ++ x :: later ∧ before.map Ident.name = agreed.map Field.name ∧
        y.name ≠ x.name ∧ y.name ∈ later.map Field.name ∧ x.name ∈ rest.map Ident.name ∧
        FailsWith env.types.names [.errorOver ("'" ++ x.name ++ "' must precede '" ++ y.name ++
          "' in initialization of '" ++ s.name ++ "'") y.span] result) ∧
    (names = wanted →
      ((∃ f ∈ fields, (expr env f.value).errors ≠ []) →
        result = .error (fields.flatMap fun f => (expr env f.value).errors)) ∧
      ∀ values, List.Forall₂ (fun f c => expr env f.value = .ok c) fields values →
        (illTyped fields values s.fields = [] → result = .ok (.init i values (.struct i))) ∧
        (illTyped fields values s.fields ≠ [] → FailsWith env.types.names
          ((illTyped fields values s.fields).map fun p => .errorOver
            ("Expected expression of type '" ++ env.types.names.describe p.2.type ++
              "' for field '" ++ p.1.1.ident.name ++ "', got '" ++
              env.types.names.describe p.1.2.type ++ "'") p.1.1.value.span) result)) := by
  intro given names wanted result
  have stages : result = _ := expr_init_eq named entry
  -- Names that fail are all there is to report.
  have failed : ∀ {es}, fieldNames s given span = .error es → result = .error es := by
    intro es found
    rw [stages, found]
    rfl
  refine ⟨fun again => ?_, fun once differ => ?_, fun once same differ => ?_, fun same => ?_⟩
  · rw [failed (fieldNames_of_repeated again)]
    refine failsWith_error (mt repeatedFields_eq_nil.1 again) ?_
    rw [repeatedFields_eq, List.map_map]
    rfl
  · have strange := strange_iff.2 differ
    have other : names ≠ wanted := fun equal => differ fun n => by rw [equal]
    rw [failed (fieldNames_of_differ once other)]
    refine failsWith_error (mismatchErrors_ne_nil declared once other) ?_
    rw [mismatchErrors_of_strange strange, missingFields_eq, unexpectedFields_eq, List.map_append,
      List.map_map, List.map_map]
    rfl
  · have usual := mt strange_iff.1 (not_not.2 same)
    obtain ⟨before, y, rest, agreed, x, later, split, fieldsSplit, agree, apart, behind, ahead⟩ :=
      exists_misplaced declared once same differ
    refine ⟨before, y, rest, agreed, x, later, split, fieldsSplit, agree, apart, behind, ahead, ?_⟩
    rw [failed (fieldNames_of_differ once differ), mismatchErrors_of_not_strange usual, split,
      misplacedField_eq fieldsSplit agree apart]
    exact failsWith_error (List.cons_ne_nil _ _) rfl
  · rw [fieldNames_of_eq declared same] at stages
    refine ⟨fun wrong => ?_, fun values checked => ?_⟩
    · rw [stages, fieldValues_eq_error wrong]
      rfl
    · have compared : result = (do
          unlessAny (fieldTypeErrors fields values s.fields)
          return .init i values (.struct i)) := by
        rw [stages, fieldValues_eq_values checked]
        rfl
      rw [fieldTypeErrors_eq] at compared
      refine ⟨fun right => ?_, fun wrong => ?_⟩
      · rw [compared, right]
        rfl
      · rw [compared, unlessAny, if_neg (by simpa using wrong)]
        refine failsWith_error (by simpa using wrong) ?_
        rw [List.map_map]
        rfl

end Literals

/-! ## Points -/

namespace Points

/-- A stretch of the seventh line. -/
def stretch (first last : Nat) : Span := .source ⟨7, first⟩ ⟨7, last⟩

def int : TypeId := .builtin 1

def point : StructType := ⟨"Point", [⟨"x", int⟩, ⟨"y", int⟩, ⟨"z", int⟩]⟩

/-- A program with one struct and no functions, and no variables in scope. -/
def env : Env :=
  ⟨⟨⟨["Void", "Int", "String"], [point], .builtin 0, int, .builtin 2⟩, []⟩, [], []⟩

def field (name : String) (first : Nat) (value : Expr) : FieldInit Expr :=
  ⟨⟨name, stretch first (first + 1)⟩, value, stretch first (first + 1)⟩

def literal (fields : List (FieldInit Expr)) : Expr :=
  .init ⟨"Point", stretch 5 10⟩ fields (stretch 11 40) (stretch 5 40)

/-- The fields of `Point { z: 1, w: 2, x: 3 }`. -/
def misspelt : List (FieldInit Expr) :=
  [field "z" 13 (.int 1 (stretch 16 17)), field "w" 19 (.int 2 (stretch 22 23)),
    field "x" 25 (.int 3 (stretch 28 29))]

/-- The fields of `Point { x: gone, y: "two", z: 3 }`. -/
def unbound : List (FieldInit Expr) :=
  [field "x" 13 (.var "gone" (stretch 16 20)), field "y" 22 (.str "two" (stretch 25 30)),
    field "z" 32 (.int 3 (stretch 35 36))]

end Points

/-- A name too few and a name too many are both reported, the missing one at the whole literal. -/
theorem expr_init_diagnosed_misspelt :
    Points.env.types.names.resolve? "Point" = some (.struct 0) ∧
      Points.env.types.structs[0]? = some Points.point ∧
      (Points.point.fields.map Field.name).Nodup ∧
      FailsWith Points.env.types.names
        [.errorOver "Missing field 'y' in initialization of struct 'Point'" (Points.stretch 5 40),
          .errorOver "Unexpected field 'w' in initialization of struct 'Point'"
            (Points.stretch 19 20)]
        (expr Points.env (Points.literal Points.misspelt)) := by
  have declared : (Points.point.fields.map Field.name).Nodup := by decide
  obtain ⟨_, strange, _⟩ := @expr_init_diagnosed Points.env ⟨"Point", Points.stretch 5 10⟩
    Points.misspelt (Points.stretch 11 40) (Points.stretch 5 40) 0 Points.point rfl rfl declared
  have unknown : ¬ ("w" ∈ (Points.misspelt.map FieldInit.ident).map Ident.name ↔
      "w" ∈ Points.point.fields.map Field.name) := by decide
  exact ⟨rfl, rfl, declared, strange (by decide) fun same => unknown (same "w")⟩

/-- A value that checks and has another type than declared is not reported while another
value of the literal does not check: types are compared once all values are right. -/
theorem illTyped_value_unreported :
    ¬ ∀ p ∈ Points.unbound.zip Points.point.fields, ∀ c, expr Points.env p.1.value = .ok c →
      c.type ≠ p.2.type →
        ∃ e ∈ (expr Points.env (Points.literal Points.unbound)).errors,
          e.span = p.1.value.span := by
  intro reported
  have only : (expr Points.env (Points.literal Points.unbound)).errors =
      [⟨.noSuchVariable "gone", Points.stretch 16 20⟩] := by decide +kernel
  obtain ⟨e, mem, here⟩ := reported
    (Points.field "y" 22 (.str "two" (Points.stretch 25 30)), ⟨"y", Points.int⟩)
    (by simp [Points.unbound, Points.point]) _ rfl (by decide)
  rw [only, List.mem_singleton] at mem
  rw [mem] at here
  revert here
  decide

end NominalScript.Check
