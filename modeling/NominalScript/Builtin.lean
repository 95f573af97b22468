import NominalScript.Outcome

/-!
# Functions and types of the host

A script is checked and run against the types and functions that its host
supplies, the builtins.  A builtin function has a signature in terms of type
names and a native that runs it.  The signature of a typed builtin follows from
the host types of its native, which then refuses a value of any other type.
Operators are builtin functions that are named by the operator.
-/

namespace NominalScript

/-- A parameter of a builtin: a label for messages and the name of its type. -/
structure BuiltinParam where
  label : String
  typeName : String
deriving DecidableEq, Repr

/-- A function of the host. -/
structure Builtin where
  name : String
  params : List BuiltinParam
  returnType : String
  /-- Runs the function; only ever given as many values as there are `params`. -/
  native : List Value → Outcome RuntimeError Value

namespace Builtin

/-- How many arguments a builtin takes. -/
def arity (b : Builtin) : Nat := b.params.length

/-- Call a builtin: the number of arguments is checked first. -/
def call (b : Builtin) (args : List Value) : Outcome RuntimeError Value :=
  if args.length = b.arity then b.native args
  else .fail (.arityMismatch b.name b.arity args.length)

/-! ## Typed builtins -/

/-- The argument at a position, as an element of a host type. -/
def argument (α : Type) [HostType α] (fn : String) (args : List Value) (index : Nat) :
    Outcome RuntimeError α :=
  .ofOption (.argumentType fn index (HostType.typeName α))
    (args[index]?.bind HostType.ofValue?)

variable {α β γ : Type} [HostType α] [HostType β] [HostType γ]

/-- A builtin of one argument. -/
def oneArg (name label : String) (f : α → Outcome RuntimeError β) : Builtin where
  name := name
  params := [⟨label, HostType.typeName α⟩]
  returnType := HostType.typeName β
  native args := do
    let a ← argument α name args 0
    let r ← f a
    return HostType.toValue r

/-- A builtin of two arguments, the first being looked at first. -/
def twoArgs (name label₁ label₂ : String) (f : α → β → Outcome RuntimeError γ) : Builtin where
  name := name
  params := [⟨label₁, HostType.typeName α⟩, ⟨label₂, HostType.typeName β⟩]
  returnType := HostType.typeName γ
  native args := do
    let a ← argument α name args 0
    let b ← argument β name args 1
    let r ← f a b
    return HostType.toValue r

/-- An operator that stands before its operand. -/
def unaryOp (op : String) (f : α → β) : Builtin :=
  oneArg op "operand" fun a => pure (f a)

/-- An operator that stands between its operands. -/
def binaryOp (op : String) (f : α → β → γ) : Builtin :=
  twoArgs op "lhs" "rhs" fun a b => pure (f a b)

/-- An operator between operands for which it may fail. -/
def fallibleBinaryOp (op : String) (f : α → β → Except RuntimeError γ) : Builtin :=
  twoArgs op "lhs" "rhs" fun a b => .ofExcept (f a b)

end Builtin

/-- The types and functions that a host supplies. -/
structure Builtins where
  types : List String
  fns : List Builtin

/-- The builtin functions of a name, in order. -/
def Builtins.named (b : Builtins) (name : String) : List Builtin :=
  b.fns.filter fun f => f.name == name

/-! ## The standard builtins -/

/-- A comparison gives one or zero. -/
def flag (b : Bool) : Int64 := if b then 1 else 0

/-- The quotient, rounded toward zero and wrapped around. -/
def quotient (a b : Int64) : Except RuntimeError Int64 :=
  if b = 0 then .error .divisionByZero else .ok (a / b)

/-- The functions that every script may use. -/
def standardFns : List Builtin := [
  .binaryOp "+" fun a b : Int64 => a + b,
  .binaryOp "-" fun a b : Int64 => a - b,
  .binaryOp "*" fun a b : Int64 => a * b,
  .fallibleBinaryOp "/" quotient,
  .binaryOp "==" fun a b : Int64 => flag (a == b),
  .binaryOp "||" fun a b : Int64 => flag (a != 0 || b != 0),
  .binaryOp "&&" fun a b : Int64 => flag (a != 0 && b != 0),
  .unaryOp "!" fun a : Int64 => flag (a == 0),
  .unaryOp "-" fun a : Int64 => -a,
  .binaryOp ">" fun a b : Int64 => flag (b < a),
  .binaryOp "<" fun a b : Int64 => flag (a < b),
  .binaryOp ">=" fun a b : Int64 => flag (b ≤ a),
  .binaryOp "<=" fun a b : Int64 => flag (a ≤ b),
  .oneArg "print" "value" fun n : Int64 => .print (integerText n),
  .oneArg "print" "value" fun s : String => .print s]

/-- The builtins of a host that adds none of its own. -/
def Builtins.standard : Builtins where
  types := ["Void", "Int", "Bool", "String"]
  fns := standardFns

end NominalScript
