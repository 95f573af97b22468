import NominalScript.Location

/-!
# The tree of a source text

A program is a list of struct declarations and a list of function declarations.
Names of variables, functions and types are kept as they are written, and every
node keeps the span it was read from.  An operator takes all that follows it as
its right operand, so the tree of `a + b * c` leans to the right whatever the
operators are.
-/

namespace NominalScript.Syntax

/-- A name, and where it is written. -/
structure Ident where
  name : String
  span : Span
deriving DecidableEq, Repr

/-- A name with the name of its type: a field of a struct or a parameter of a
function. -/
structure Binding where
  ident : Ident
  type : Ident
  span : Span
deriving DecidableEq, Repr

/-- A field of a struct literal. -/
structure FieldInit (ε : Type) where
  ident : Ident
  value : ε
  span : Span
deriving Repr

/-- An expression. -/
inductive Expr where
  | str (value : String) (span : Span)
  | int (value : Int64) (span : Span)
  | call (fn : Ident) (args : List Expr) (span : Span)
  | var (name : String) (span : Span)
  | unary (op : Ident) (operand : Expr) (span : Span)
  | binary (op : Ident) (left right : Expr) (span : Span)
  | paren (inner : Expr) (span : Span)
  | init (type : Ident) (fields : List (FieldInit Expr)) (fieldsSpan span : Span)
  | member (base : Expr) (field : Ident) (span : Span)
deriving Repr

/-- Where an expression stands. -/
def Expr.span : Expr → Span
  | .str _ s => s
  | .int _ s => s
  | .call _ _ s => s
  | .var _ s => s
  | .unary _ _ s => s
  | .binary _ _ _ s => s
  | .paren _ s => s
  | .init _ _ _ s => s
  | .member _ _ s => s

mutual

/-- A statement. -/
inductive Stmt where
  | expr (e : Expr)
  | cond (c : Conditional)
  | ret (value : Option Expr) (span : Span)
  | bind (ident : Ident) (type : Option Ident) (value : Expr) (span : Span)

/-- A condition, the block that runs when it holds, and what to do when it does
not. -/
inductive Conditional where
  | mk (condition : Expr) (block : List Stmt) (otherwise : Otherwise) (span : Span)

/-- What to do when a condition does not hold: nothing, another conditional, or
a block. -/
inductive Otherwise where
  | nothing
  | elseIf (c : Conditional)
  | block (stmts : List Stmt)

end

/-- Where a conditional stands, all its branches included. -/
def Conditional.span : Conditional → Span
  | .mk _ _ _ s => s

/-- Where a statement stands. -/
def Stmt.span : Stmt → Span
  | .expr e => e.span
  | .cond c => c.span
  | .ret _ s => s
  | .bind _ _ _ s => s

/-- Does a statement end with a block?  No newline is needed after it then. -/
def Stmt.endsWithBlock : Stmt → Bool
  | .cond _ => true
  | _ => false

/-- A struct declaration. -/
structure StructDecl where
  ident : Ident
  fields : List Binding
  span : Span
deriving DecidableEq, Repr

/-- A function declaration.  A function without a return type returns `Void`. -/
structure FnDecl where
  ident : Ident
  params : List Binding
  returnType : Option Ident
  signatureSpan : Span
  body : List Stmt
  span : Span

/-- All declarations of a source text, those of each sort in the order in which
they are written. -/
structure Program where
  structs : List StructDecl
  fns : List FnDecl

end NominalScript.Syntax
