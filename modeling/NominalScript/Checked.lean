import NominalScript.Builtin
import NominalScript.Types

/-!
# Checked programs

A checked program refers to everything by number: to types, to functions, to
fields, and to variables by the slot that holds them.  Nothing is looked up by
name while it runs.  A conditional is a chain of branches that ends with a block
or with nothing.
-/

namespace NominalScript

/-- A function, by its number among the builtins or among the functions of the
script. -/
inductive FnId where
  | builtin (index : Nat)
  | user (index : Nat)
deriving DecidableEq, Repr

namespace Checked

/-- An expression, with its type. -/
inductive Expr where
  | const (value : Value) (type : TypeId)
  | call (fn : FnId) (args : List Expr) (type : TypeId)
  | slot (index : Nat) (type : TypeId)
  | init (struct : Nat) (fields : List Expr) (type : TypeId)
  | field (base : Expr) (index : Nat) (type : TypeId)
deriving Repr

/-- The type of an expression. -/
def Expr.type : Expr → TypeId
  | .const _ t => t
  | .call _ _ t => t
  | .slot _ t => t
  | .init _ _ t => t
  | .field _ _ t => t

mutual

/-- A statement. -/
inductive Stmt where
  | expr (e : Expr)
  | cond (chain : Chain)
  /-- Without a value, `Void` is returned. -/
  | ret (value : Option Expr)
  | bind (slot : Nat) (value : Expr)

/-- The branches of a conditional, tried in order. -/
inductive Chain where
  | nothing
  | otherwise (block : List Stmt)
  | branch (condition : Expr) (block : List Stmt) (rest : Chain)

end

/-- What a function is called by and with, and what it returns. -/
structure Signature where
  name : String
  params : List Field
  returnType : TypeId
deriving DecidableEq, Repr

namespace Signature

/-- The types of the parameters. -/
def paramTypes (s : Signature) : List TypeId := s.params.map Field.type

/-- Is this the function of a name and exactly these parameter types? -/
def answers (s : Signature) (name : String) (types : List TypeId) : Bool :=
  s.name == name && s.paramTypes == types

/-- Are there as many parameters as types, each of the type in its place? -/
def takes (s : Signature) (types : List TypeId) : Bool :=
  s.params.length == types.length && (s.params.zip types).all fun p => p.1.type == p.2

/-- Would a call be ambiguous between the two?  What they return plays no
part. -/
def overlaps (s t : Signature) : Bool := s.name == t.name && s.takes t.paramTypes

end Signature

/-- A function of the script. -/
structure Fn where
  signature : Signature
  /-- The parameters, and one slot for every `let` of the body. -/
  localCount : Nat
  body : List Stmt

/-- A checked program, with the builtins it was checked against. -/
structure Program where
  types : TypeTable
  builtins : List Builtin
  fns : List Fn

namespace Program

/-- The function of a name and exactly these parameter types, with its
number. -/
def fnNamed? (p : Program) (name : String) (types : List TypeId) : Option (Fn × Nat) :=
  p.fns.zipIdx.find? fun f => f.1.signature.name == name && f.1.signature.takes types

/-- All functions of a name, in order. -/
def fnsNamed (p : Program) (name : String) : List Fn :=
  p.fns.filter fun f => f.signature.name == name

end Program

end Checked

end NominalScript
