import NominalScript.Diagnostic
import NominalScript.Types

/-!
# What checking reports

Checking goes on after an error wherever it can, so it ends with a list of
errors.  An error says what is wrong and where; types stand in it by number and
get their names only in the message.

`Check.cons` and `Check.collect` put independent parts together: all errors of
all parts are kept, in order.  It is the errors that make a list of parts fail, so a
part that fails has to report one.
-/

namespace NominalScript

/-- Something that stands in a table by number. -/
inductive TableRef where
  | slot (index : Nat)
  | struct (index : Nat)
deriving DecidableEq, Repr

/-- What is wrong with a program. -/
inductive CheckFault where
  | missingBuiltinType (name : String)
  | noSuchType (name : String)
  | duplicateBuiltinType (name : String)
  | duplicateStruct (name : String)
  | duplicateField (struct field : String)
  /-- The struct contains itself through this chain of fields. -/
  | selfContaining (struct : String) (chain : List String)
  | duplicateParam (name : String)
  | duplicateFn (name : String) (params : List TypeId)
  | missingReturn
  | returnedType (expected got : TypeId)
  | returnedNothing (expected void : TypeId)
  | bindingType (name : String) (expected got : TypeId)
  | duplicateBinding (name : String)
  | conditionType (expected got : TypeId)
  | noSuchVariable (name : String)
  /-- `others` is the number of functions with the name. -/
  | noSuchFn (name : String) (params : List TypeId) (others : Nat)
  | memberOfBuiltin (type : TypeId)
  | noSuchMember (struct field : String)
  | literalOfBuiltin (name : String)
  | repeatedField (struct field : String)
  | missingField (struct field : String)
  | unexpectedField (struct field : String)
  /-- `declared` should stand where `given` does. -/
  | misplacedField (struct declared given : String)
  | fieldType (field : String) (expected got : TypeId)
  /-- A number without an entry in its table; no program leads to it. -/
  | dangling (ref : TableRef)
deriving DecidableEq, Repr

/-- What is said of functions of the right name but other parameters. -/
def otherFnsText : Nat → String
  | 0 => ""
  | 1 => ". Found 1 function with the same name but incompatible parameter types"
  | n => ". Found " ++ toString n ++
      " functions with the same name but incompatible parameter types"

/-- The message of a fault, with types called by the given names. -/
def CheckFault.message (names : TypeNames) : CheckFault → String
  | .missingBuiltinType name => "Expected to find builtin type named '" ++ name ++ "'"
  | .noSuchType name => "No such type '" ++ name ++ "'"
  | .duplicateBuiltinType name => "Duplicate definition of builtin type '" ++ name ++ "'"
  | .duplicateStruct name => "Duplicate definition of struct '" ++ name ++ "'"
  | .duplicateField struct field =>
    "Duplicate definition of field '" ++ struct ++ "." ++ field ++ "'"
  | .selfContaining struct chain =>
    "Struct '" ++ struct ++ "' references itself via '" ++ struct ++ "." ++
      ".".intercalate chain ++ "'"
  | .duplicateParam name => "Duplicate definition of parameter '" ++ name ++ "'"
  | .duplicateFn name params =>
    "Duplicate definition of function '" ++ name ++ "' with parameter types '(" ++
      names.describeList params ++ ")'"
  | .missingReturn => "Non-void function must return on all paths"
  | .returnedType expected got =>
    "Function expected to return '" ++ names.describe expected ++
      "', got expression of type '" ++ names.describe got ++ "'"
  | .returnedNothing expected void =>
    "Function expected to return '" ++ names.describe expected ++ "', got '" ++
      names.describe void ++ "'"
  | .bindingType name expected got =>
    "Let binding '" ++ name ++ "' expected expression of type '" ++ names.describe expected ++
      "', got expression of type '" ++ names.describe got ++ "'"
  | .duplicateBinding name => "Duplicate definition of '" ++ name ++ "' within current scope"
  | .conditionType expected got =>
    "If statement condition must be of type '" ++ names.describe expected ++ "', got '" ++
      names.describe got ++ "'"
  | .noSuchVariable name => "No such variable '" ++ name ++ "'"
  | .noSuchFn name params others =>
    "No such function '" ++ name ++ "' with parameters '(" ++ names.describeList params ++ ")'" ++
      otherFnsText others
  | .memberOfBuiltin type =>
    "Member accesses cannot be performed on builtin types, got type '" ++
      names.describe type ++ "'"
  | .noSuchMember struct field =>
    "Value of type '" ++ struct ++ "' has no such field '" ++ field ++ "'"
  | .literalOfBuiltin name =>
    "Struct initialization syntax can only be used for struct types, got '" ++ name ++ "'"
  | .repeatedField struct field =>
    "Duplicate field '" ++ field ++ "' in initialization of struct '" ++ struct ++ "'"
  | .missingField struct field =>
    "Missing field '" ++ field ++ "' in initialization of struct '" ++ struct ++ "'"
  | .unexpectedField struct field =>
    "Unexpected field '" ++ field ++ "' in initialization of struct '" ++ struct ++ "'"
  | .misplacedField struct declared given =>
    "'" ++ declared ++ "' must precede '" ++ given ++ "' in initialization of '" ++ struct ++ "'"
  | .fieldType field expected got =>
    "Expected expression of type '" ++ names.describe expected ++ "' for field '" ++ field ++
      "', got '" ++ names.describe got ++ "'"
  | .dangling (.slot i) => "No local slot " ++ toString i
  | .dangling (.struct i) => "No struct " ++ toString i

/-- A fault, and the stretch it is about. -/
structure CheckError where
  fault : CheckFault
  span : Span
deriving DecidableEq, Repr

/-- The error as a diagnostic. -/
def CheckError.diagnostic (names : TypeNames) (e : CheckError) : Diagnostic :=
  .errorOver (e.fault.message names) e.span

/-- Statements that never run, because one before them in the block always
returns. -/
structure Warning where
  span : Span
deriving DecidableEq, Repr

/-- The warning as a diagnostic. -/
def Warning.diagnostic (w : Warning) : Diagnostic :=
  .warningOver "Unreachable statements" w.span

/-! ## Keeping all errors -/

/-- A result, or everything that is wrong. -/
abbrev Check (α : Type) := Except (List CheckError) α

namespace Check

variable {α β γ : Type}

/-- One error. -/
def fail (fault : CheckFault) (span : Span) : Check α := .error [⟨fault, span⟩]

/-- The errors, of which a success has none. -/
def errors : Check α → List CheckError
  | .ok _ => []
  | .error es => es

/-- Two independent parts: both results, or the errors of both. -/
def both : Check α → Check β → Check (α × β)
  | .ok a, .ok b => .ok (a, b)
  | .ok _, .error es => .error es
  | .error es, .ok _ => .error es
  | .error es, .error fs => .error (es ++ fs)

/-- One more independent part in front of others, whose result `add` puts there.
A part that failed without an error of its own is passed over. -/
def before (add : α → β → β) : Check α → Check β → Check β
  | .ok a, rest => rest.map (add a)
  | .error [], rest => rest
  | .error es, rest => .error (es ++ rest.errors)

/-- One more independent part in front of a list of others. -/
def cons (first : Check α) (rest : Check (List α)) : Check (List α) :=
  before List.cons first rest

/-- Independent parts: all results, or the errors of all. -/
def collect : List (Check α) → Check (List α)
  | [] => .ok []
  | c :: cs => cons c (collect cs)

/-- Fail with some errors, if there are any. -/
def unlessAny (es : List CheckError) : Check Unit :=
  if es.isEmpty then .ok () else .error es

theorem errors_both (a : Check α) (b : Check β) : (both a b).errors = a.errors ++ b.errors := by
  match a, b with
  | .ok _, .ok _ => rfl
  | .ok _, .error _ => rfl
  | .error _, .ok _ => simp [both, errors]
  | .error _, .error _ => rfl

theorem errors_map (f : α → β) (a : Check α) : errors (a.map f) = a.errors := by
  cases a <;> rfl

theorem errors_before (add : α → β → β) (a : Check α) (rest : Check β) :
    (before add a rest).errors = a.errors ++ rest.errors := by
  match a, rest with
  | .ok _, .ok _ => rfl
  | .ok _, .error _ => rfl
  | .error [], _ => rfl
  | .error (_ :: _), _ => rfl

theorem errors_collect (cs : List (Check α)) : (collect cs).errors = cs.flatMap errors := by
  induction cs with
  | nil => rfl
  | cons c cs ih => rw [collect, cons, errors_before, ih, List.flatMap_cons]

end Check

/-- Every element together with those before it. -/
def withEarlierFrom {α : Type} (earlier : List α) : List α → List (List α × α)
  | [] => []
  | a :: as => (earlier, a) :: withEarlierFrom (earlier ++ [a]) as

/-- Every element of a list together with those before it. -/
def withEarlier {α : Type} (as : List α) : List (List α × α) := withEarlierFrom [] as

end NominalScript
