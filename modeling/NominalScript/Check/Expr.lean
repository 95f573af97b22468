import NominalScript.Check.Signatures

/-!
# Checking expressions

An expression is checked against all types and functions of the program and the
variables in scope.  Calls and operators are resolved by name and the exact
types of their arguments.  Arguments are independent of each other, so the
errors of all of them are kept; a call is resolved once its arguments are right.

The fields of a struct literal are all those of the struct, in declared order.
Their names are checked before their values, and in three stages: a name given
twice, then names missing or unknown, then names out of order.
-/

namespace NominalScript.Check

open Syntax
open Checked (Signature)

/-! ## What is known -/

/-- The types and functions of a program. -/
structure Globals where
  types : TypeTable
  fns : List (FnId × Signature)

/-- The variables of one block, the latest first, each with its slot. -/
abbrev Scope := List (String × Nat)

/-- What an expression may refer to: the program's types and functions, the type
of every slot, and the open scopes from the innermost on. -/
structure Env where
  globals : Globals
  locals : List TypeId
  scopes : List Scope

namespace Env

/-- The types of the program. -/
def types (env : Env) : TypeTable := env.globals.types

/-- The slot of the variable of a name in the innermost scope that has one. -/
def slot? (env : Env) (name : String) : Option Nat :=
  env.scopes.findSome? fun scope => scope.lookup name

end Env

/-- The function of a name and exactly these parameter types, and what it
returns. -/
def resolveFn (g : Globals) (name : String) (args : List TypeId) (span : Span) :
    Check (FnId × TypeId) :=
  match g.fns.find? fun f => f.2.answers name args with
  | some f => .ok (f.1, f.2.returnType)
  | none => fail (.noSuchFn name args (g.fns.countP fun f => f.2.name == name)) span

/-- A call with checked arguments. -/
def call (g : Globals) (name : String) (args : List Checked.Expr) (span : Span) :
    Check Checked.Expr :=
  (resolveFn g name (args.map Checked.Expr.type) span).map fun f => .call f.1 args f.2

/-- A variable. -/
def localVar (env : Env) (name : String) (span : Span) : Check Checked.Expr :=
  match env.slot? name with
  | none => fail (.noSuchVariable name) span
  | some i =>
    match env.locals[i]? with
    | some t => .ok (.slot i t)
    | none => fail (.dangling (.slot i)) span

/-- A field of a checked expression. -/
def member (types : TypeTable) (base : Checked.Expr) (field : String) (span : Span) :
    Check Checked.Expr :=
  match types.struct? base.type with
  | none => fail (.memberOfBuiltin base.type) span
  | some s =>
    match s.field? field with
    | none => fail (.noSuchMember s.name field) span
    | some (i, t) => .ok (.field base i t)

/-! ## Struct literals -/

/-- The struct that a literal names, with its number. -/
def literalStruct (types : TypeTable) (type : Ident) : Check (Nat × StructType) := do
  match ← resolve types.names type with
  | .builtin _ => fail (.literalOfBuiltin type.name) type.span
  | .struct i =>
    match types.structs[i]? with
    | some s => return (i, s)
    | none => fail (.dangling (.struct i)) type.span

/-- The fields of a literal that were given before. -/
def repeatedFields (s : StructType) (given : List Ident) : List CheckError :=
  (withEarlier given).filterMap fun f =>
    if f.1.any fun e => e.name == f.2.name then
      some ⟨.repeatedField s.name f.2.name, f.2.span⟩
    else none

/-- The declared fields that a literal does not give. -/
def missingFields (s : StructType) (given : List Ident) (span : Span) : List CheckError :=
  s.fields.filterMap fun f =>
    if given.any fun g => g.name == f.name then none
    else some ⟨.missingField s.name f.name, span⟩

/-- The fields of a literal that are not declared. -/
def unexpectedFields (s : StructType) (given : List Ident) : List CheckError :=
  given.filterMap fun g =>
    if s.fields.any fun f => f.name == g.name then none
    else some ⟨.unexpectedField s.name g.name, g.span⟩

/-- The first field of a literal that stands in the place of another. -/
def misplacedField (s : StructType) (given : List Ident) : List CheckError :=
  match (given.zip s.fields).find? fun p => p.1.name != p.2.name with
  | some (g, f) => [⟨.misplacedField s.name f.name g.name, g.span⟩]
  | none => []

/-- Why the names of the fields of a literal are not those declared: some are
missing or unknown, or else one is out of order. -/
def mismatchErrors (s : StructType) (given : List Ident) (span : Span) : List CheckError :=
  let strange := missingFields s given span ++ unexpectedFields s given
  if !strange.isEmpty then strange else misplacedField s given

/-- The names of the fields of a literal: none twice, and then those declared, in
order. -/
def fieldNames (s : StructType) (given : List Ident) (span : Span) : Check Unit := do
  unlessAny (repeatedFields s given)
  if given.map Ident.name = s.fields.map Field.name then return ()
  else .error (mismatchErrors s given span)

/-- The fields of a literal whose values have another type than declared. -/
def fieldTypeErrors (fields : List (FieldInit Expr)) (values : List Checked.Expr)
    (declared : List Field) : List CheckError :=
  ((fields.zip values).zip declared).filterMap fun p =>
    if p.1.2.type = p.2.type then none
    else some ⟨.fieldType p.1.1.ident.name p.2.type p.1.2.type, p.1.1.value.span⟩

/-! ## Expressions -/

mutual

/-- Check an expression. -/
def expr (env : Env) : Expr → Check Checked.Expr
  | .str value _ => .ok (.const (.str value) env.types.string)
  | .int value _ => .ok (.const (.int value) env.types.int)
  | .call fn args span => do
    let args ← exprs env args
    call env.globals fn.name args span
  | .var name span => localVar env name span
  | .unary op operand span => do
    let e ← expr env operand
    call env.globals op.name [e] span
  | .binary op left right span => do
    let operands ← collect [expr env left, expr env right]
    call env.globals op.name operands span
  | .paren inner _ => expr env inner
  | .init type fields _ span => do
    let (i, s) ← literalStruct env.types type
    fieldNames s (fields.map FieldInit.ident) span
    let values ← fieldValues env fields
    unlessAny (fieldTypeErrors fields values s.fields)
    return .init i values (.struct i)
  | .member base field span => do
    let e ← expr env base
    member env.types e field.name span

/-- Check independent expressions. -/
def exprs (env : Env) : List Expr → Check (List Checked.Expr)
  | [] => .ok []
  | e :: es => cons (expr env e) (exprs env es)

/-- Check the values of the fields of a literal. -/
def fieldValues (env : Env) : List (FieldInit Expr) → Check (List Checked.Expr)
  | [] => .ok []
  | ⟨_, e, _⟩ :: fs => cons (expr env e) (fieldValues env fs)

end

/-- Check a condition, which must be an integer. -/
def condition (env : Env) (e : Expr) : Check Checked.Expr := do
  let c ← expr env e
  if c.type = env.types.int then return c
  else fail (.conditionType env.types.int c.type) e.span

end NominalScript.Check
