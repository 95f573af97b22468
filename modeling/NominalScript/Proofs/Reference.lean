import NominalScript.Builtin
import NominalScript.Proofs.Syntax

/-!
# Running a source tree directly

A second semantics, of the tree as it was written, that knows no slots and no
numbers.  An environment is a stack of scopes from names to values; a block opens
a scope of its own and closes it again.  A call selects a function by its name and
the names of the static types of its arguments, and a field is selected by its
name.  Statements are run one by one, and `else if` is a conditional in the `else`
of another.

A tree need not make sense here: whatever does not resolve is `stuck`.
-/

namespace NominalScript.Reference

open Syntax

/-- Why a run ends without a value: an error, calls nested too deep, or a name
that stands for nothing. -/
inductive Halt where
  | error (e : RuntimeError)
  | tooDeep
  | stuck
deriving DecidableEq, Repr

/-! ## Static types -/

/-- A variable: the name of its type, and its value. -/
structure Var where
  type : String
  value : Value

/-- The variables of one block, the latest first. -/
abbrev Scope := List (String × Var)

/-- The variable of a name in the innermost scope that has one. -/
def var? (scopes : List Scope) (name : String) : Option Var :=
  scopes.findSome? fun scope => scope.lookup name

/-- A function: one of the host, or a declaration. -/
inductive Callee where
  | builtin (b : Builtin)
  | user (d : FnDecl)

namespace Callee

/-- What a function is called by. -/
def name : Callee → String
  | .builtin b => b.name
  | .user d => d.ident.name

/-- The names of the types of its parameters. -/
def paramTypes : Callee → List String
  | .builtin b => b.params.map BuiltinParam.typeName
  | .user d => d.params.map fun b => b.type.name

/-- The name of the type that it returns. -/
def returnType : Callee → String
  | .builtin b => b.returnType
  | .user d => d.returnName

end Callee

/-- What code may refer to besides variables. -/
structure Code where
  structs : List StructDecl
  callees : List Callee

/-- The structs of a program, and its functions with those of the host first. -/
def Code.of (p : Program) (host : Builtins) : Code :=
  ⟨p.structs, host.fns.map .builtin ++ p.fns.map .user⟩

/-- The function of a name and exactly these parameter types. -/
def Code.callee? (code : Code) (name : String) (types : List String) : Option Callee :=
  code.callees.find? fun c => c.name == name && c.paramTypes == types

/-- The position of a field, and the name of its type. -/
def Code.field? (code : Code) (type field : String) : Option (Nat × String) := do
  let d ← code.structs.find? fun d => d.ident.name == type
  let i ← d.fields.findIdx? fun b => b.ident.name == field
  let b ← d.fields[i]?
  return (i, b.type.name)

mutual

/-- The name of the type of an expression. -/
def typeOf (code : Code) (scopes : List Scope) : Expr → Option String
  | .str _ _ => some "String"
  | .int _ _ => some "Int"
  | .call fn args _ => do
    let types ← typesOf code scopes args
    (code.callee? fn.name types).map Callee.returnType
  | .var name _ => (var? scopes name).map Var.type
  | .unary op operand _ => do
    let t ← typeOf code scopes operand
    (code.callee? op.name [t]).map Callee.returnType
  | .binary op left right _ => do
    let t ← typeOf code scopes left
    let u ← typeOf code scopes right
    (code.callee? op.name [t, u]).map Callee.returnType
  | .paren inner _ => typeOf code scopes inner
  | .init type _ _ _ => some type.name
  | .member base field _ => do
    let t ← typeOf code scopes base
    (code.field? t field.name).map Prod.snd

/-- The names of the types of expressions. -/
def typesOf (code : Code) (scopes : List Scope) : List Expr → Option (List String)
  | [] => some []
  | e :: es => do
    let t ← typeOf code scopes e
    let ts ← typesOf code scopes es
    return t :: ts

end

/-- The function that is called with arguments. -/
def calleeOf (code : Code) (scopes : List Scope) (name : String) (args : List Expr) :
    Option Callee := do
  let types ← typesOf code scopes args
  code.callee? name types

/-- The position of a field of an expression. -/
def fieldOf (code : Code) (scopes : List Scope) (base : Expr) (field : String) : Option Nat := do
  let t ← typeOf code scopes base
  (code.field? t field).map Prod.fst

/-! ## Expressions -/

/-- A way to call functions. -/
abbrev Invoke := Callee → List Value → Outcome Halt Value

mutual

/-- Run an expression. -/
def eval (code : Code) (invoke : Invoke) (scopes : List Scope) : Expr → Outcome Halt Value
  | .str s _ => pure (.str s)
  | .int n _ => pure (.int n)
  | .call fn args _ => do
    let f ← .ofOption .stuck (calleeOf code scopes fn.name args)
    let vs ← evalAll code invoke scopes args
    invoke f vs
  | .var name _ => .ofOption .stuck ((var? scopes name).map Var.value)
  | .unary op operand _ => do
    let f ← .ofOption .stuck (calleeOf code scopes op.name [operand])
    let v ← eval code invoke scopes operand
    invoke f [v]
  | .binary op left right _ => do
    let f ← .ofOption .stuck (calleeOf code scopes op.name [left, right])
    let v ← eval code invoke scopes left
    let w ← eval code invoke scopes right
    invoke f [v, w]
  | .paren inner _ => eval code invoke scopes inner
  | .init _ fields _ _ => do
    let vs ← evalFields code invoke scopes fields
    return .struct vs
  | .member base field _ => do
    let i ← .ofOption .stuck (fieldOf code scopes base field.name)
    let v ← eval code invoke scopes base
    .ofOption (.error (.precondition (.field i v))) (v.field? i)

/-- Run expressions one after the other. -/
def evalAll (code : Code) (invoke : Invoke) (scopes : List Scope) :
    List Expr → Outcome Halt (List Value)
  | [] => pure []
  | e :: es => do
    let v ← eval code invoke scopes e
    let vs ← evalAll code invoke scopes es
    return v :: vs

/-- Run the values of fields one after the other. -/
def evalFields (code : Code) (invoke : Invoke) (scopes : List Scope) :
    List (FieldInit Expr) → Outcome Halt (List Value)
  | [] => pure []
  | ⟨_, e, _⟩ :: fields => do
    let v ← eval code invoke scopes e
    let vs ← evalFields code invoke scopes fields
    return v :: vs

end

/-! ## Statements -/

/-- What a statement leads to: the next one, with the scopes as they are then, or
out of the function with a value. -/
inductive Flow where
  | onward (scopes : List Scope)
  | returned (value : Value)

/-- Close the innermost scope. -/
def Flow.leave : Flow → Flow
  | .onward scopes => .onward scopes.tail
  | .returned v => .returned v

/-- The value that a body ended with, which is `Void` if nothing returned. -/
def Flow.value : Flow → Value
  | .onward _ => .void
  | .returned v => v

/-- Add a variable to the innermost scope. -/
def bind (scopes : List Scope) (name : String) (var : Var) : List Scope :=
  match scopes with
  | scope :: outer => ((name, var) :: scope) :: outer
  | [] => []

mutual

/-- Run a statement. -/
def exec (code : Code) (invoke : Invoke) : Stmt → List Scope → Outcome Halt Flow
  | .expr e, scopes => do
    let _ ← eval code invoke scopes e
    return .onward scopes
  | .cond c, scopes => execConditional code invoke c scopes
  | .ret (some e) _, scopes => do
    let v ← eval code invoke scopes e
    return .returned v
  | .ret none _, _ => pure (.returned .void)
  | .bind ident _ value _, scopes => do
    let type ← .ofOption .stuck (typeOf code scopes value)
    let v ← eval code invoke scopes value
    return .onward (bind scopes ident.name ⟨type, v⟩)

/-- Run statements until one returns. -/
def execAll (code : Code) (invoke : Invoke) : List Stmt → List Scope → Outcome Halt Flow
  | [], scopes => pure (.onward scopes)
  | s :: rest, scopes => do
    match ← exec code invoke s scopes with
    | .onward scopes => execAll code invoke rest scopes
    | .returned v => return .returned v

/-- Run the block of a conditional, or what is to be done otherwise. -/
def execConditional (code : Code) (invoke : Invoke) :
    Conditional → List Scope → Outcome Halt Flow
  | .mk c block rest _, scopes => do
    let v ← eval code invoke scopes c
    if v.isTruthy then do
      let flow ← execAll code invoke block ([] :: scopes)
      return flow.leave
    else execOtherwise code invoke rest scopes

/-- Run what is to be done when a condition does not hold. -/
def execOtherwise (code : Code) (invoke : Invoke) : Otherwise → List Scope → Outcome Halt Flow
  | .nothing, scopes => pure (.onward scopes)
  | .elseIf c, scopes => execConditional code invoke c scopes
  | .block block, scopes => do
    let flow ← execAll code invoke block ([] :: scopes)
    return flow.leave

end

/-! ## Functions -/

/-- The parameters of a call, bound in order. -/
def bindAll (scopes : List Scope) (params : List (Binding × Value)) : List Scope :=
  params.foldl (fun scopes p => bind scopes p.1.ident.name ⟨p.1.type.name, p.2⟩) scopes

/-- Run a declared function on arguments, its body in a scope within that of the
parameters. -/
def run (code : Code) (invoke : Invoke) (d : FnDecl) (args : List Value) : Outcome Halt Value :=
  if args.length = d.params.length then do
    let flow ← execAll code invoke d.body ([] :: bindAll [[]] (d.params.zip args))
    return flow.value
  else .fail (.error (.arityMismatch d.ident.name d.params.length args.length))

/-- Call a function, with calls of declared functions nested at most `depth`
deep. -/
def invoke (code : Code) : Nat → Invoke
  | _, .builtin b, args => (b.call args).mapError .error
  | 0, .user _, _ => .fail .tooDeep
  | depth + 1, .user d, args => run code (invoke code depth) d args

/-- Running a declared function of a program on arguments ends with an outcome. -/
def Evaluates (p : Program) (host : Builtins) (d : FnDecl) (args : List Value)
    (o : Outcome RuntimeError Value) : Prop :=
  ∃ depth, run (.of p host) (invoke (.of p host) depth) d args = o.mapError .error

end NominalScript.Reference
