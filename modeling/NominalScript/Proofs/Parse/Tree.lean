import NominalScript.Syntax
import NominalScript.Token

/-!
# The tokens of a tree

A tree is written out again as the kinds of its tokens, without trivia and with a
comma between two items of a list but none behind the last.  `meaningful` brings the
tokens of a text into the same form.

The shapes of trees: an operator takes all that follows it, so what stands to its
left, or before a period, is no operation (`Expr.RightNested`); and a condition has no
struct literal but inside parentheses or arguments (`Expr.LiteralFree`).
-/

namespace NominalScript

/-! ## Tokens without trivia -/

/-- A closing parenthesis or brace. -/
def Kind.closes : Kind → Bool
  | .rightParen => true
  | .rightBrace => true
  | _ => false

/-- Leave out every comma right before a closing parenthesis or brace. -/
def dropTrailingCommas : List Kind → List Kind
  | [] => []
  | k :: ks =>
    if k = .comma ∧ (ks.head?.map Kind.closes).getD false then dropTrailingCommas ks
    else k :: dropTrailingCommas ks

/-- The kinds that matter: neither trivia nor a comma behind the last item of a
list. -/
def meaningful (kinds : List Kind) : List Kind :=
  dropTrailingCommas (kinds.filter fun k => !k.isTrivia)

namespace Syntax

/-! ## Trees as kinds -/

/-- Items with commas between. -/
def commas : List (List Kind) → List Kind := List.intercalate [.comma]

mutual

/-- The kinds of an expression. -/
def Expr.kinds : Expr → List Kind
  | .str value _ => [.str value]
  | .int value _ => [.int value]
  | .call fn args _ =>
    .ident fn.name :: .leftParen :: (commas (Expr.kindsOfAll args) ++ [.rightParen])
  | .var name _ => [.ident name]
  | .unary op operand _ => .op op.name :: operand.kinds
  | .binary op left right _ => left.kinds ++ .op op.name :: right.kinds
  | .paren inner _ => .leftParen :: (inner.kinds ++ [.rightParen])
  | .init type fields _ _ =>
    .ident type.name :: .leftBrace :: (commas (Expr.kindsOfFields fields) ++ [.rightBrace])
  | .member base field _ => base.kinds ++ [.period, .ident field.name]

/-- The kinds of each expression. -/
def Expr.kindsOfAll : List Expr → List (List Kind)
  | [] => []
  | e :: es => e.kinds :: Expr.kindsOfAll es

/-- The kinds of each field of a struct literal. -/
def Expr.kindsOfFields : List (FieldInit Expr) → List (List Kind)
  | [] => []
  | ⟨ident, value, _⟩ :: fields =>
    (.ident ident.name :: .colon :: value.kinds) :: Expr.kindsOfFields fields

end

/-- The kinds of the type of a `let`. -/
def annotationKinds : Option Ident → List Kind
  | some type => [.colon, .ident type.name]
  | none => []

mutual

/-- The kinds of a statement. -/
def Stmt.kinds : Stmt → List Kind
  | .expr e => e.kinds
  | .cond c => c.kinds
  | .ret (some e) _ => .keyword .kwReturn :: e.kinds
  | .ret none _ => [.keyword .kwReturn]
  | .bind ident type value _ =>
    .keyword .kwLet :: .ident ident.name :: (annotationKinds type ++ .op "=" :: value.kinds)

/-- The kinds of statements. -/
def Stmt.kindsOfAll : List Stmt → List Kind
  | [] => []
  | s :: rest => s.kinds ++ Stmt.kindsOfAll rest

/-- The kinds of a conditional. -/
def Conditional.kinds : Conditional → List Kind
  | .mk c block rest _ =>
    .keyword .kwIf ::
      (c.kinds ++ .leftBrace :: (Stmt.kindsOfAll block ++ .rightBrace :: rest.kinds))

/-- The kinds of what is done otherwise. -/
def Otherwise.kinds : Otherwise → List Kind
  | .nothing => []
  | .elseIf c => .keyword .kwElse :: c.kinds
  | .block block =>
    .keyword .kwElse :: .leftBrace :: (Stmt.kindsOfAll block ++ [.rightBrace])

end

/-- The kinds of a field or parameter. -/
def Binding.kinds (b : Binding) : List Kind := [.ident b.ident.name, .colon, .ident b.type.name]

/-- The kinds of a struct declaration. -/
def StructDecl.kinds (d : StructDecl) : List Kind :=
  .keyword .kwStruct :: .ident d.ident.name :: .leftBrace ::
    (commas (d.fields.map Binding.kinds) ++ [.rightBrace])

/-- The kinds of the return type of a function. -/
def returnTypeKinds : Option Ident → List Kind
  | some type => [.op "->", .ident type.name]
  | none => []

/-- The kinds of a function declaration. -/
def FnDecl.kinds (d : FnDecl) : List Kind :=
  .keyword .kwFn :: .ident d.ident.name :: .leftParen ::
    (commas (d.params.map Binding.kinds) ++ .rightParen :: (returnTypeKinds d.returnType ++
      .leftBrace :: (Stmt.kindsOfAll d.body ++ [.rightBrace])))

/-- Two lists merged into one that keeps the order of each. -/
inductive Merged {α : Type} : List α → List α → List α → Prop
  | nil : Merged [] [] []
  | left {a : α} {as bs cs : List α} : Merged as bs cs → Merged (a :: as) bs (a :: cs)
  | right {b : α} {as bs cs : List α} : Merged as bs cs → Merged as (b :: bs) (b :: cs)

/-- The kinds of a program's declarations, those of structs and of functions merged in
some order. -/
def Program.Spells (p : Program) (kinds : List Kind) : Prop :=
  ∃ order, Merged (p.structs.map StructDecl.kinds) (p.fns.map FnDecl.kinds) order ∧
    order.flatten = kinds

/-! ## Shapes -/

/-- Is an operator at the root? -/
def Expr.isOperation : Expr → Bool
  | .unary _ _ _ => true
  | .binary _ _ _ _ => true
  | _ => false

/-- Nowhere in the expression does an operation stand to the left of an operator or
before a period. -/
inductive Expr.RightNested : Expr → Prop
  | str {value : String} {span : Span} : RightNested (.str value span)
  | int {value : Int64} {span : Span} : RightNested (.int value span)
  | call {fn : Ident} {args : List Expr} {span : Span} :
    (∀ a ∈ args, RightNested a) → RightNested (.call fn args span)
  | var {name : String} {span : Span} : RightNested (.var name span)
  | unary {op : Ident} {operand : Expr} {span : Span} :
    RightNested operand → RightNested (.unary op operand span)
  | binary {op : Ident} {left right : Expr} {span : Span} :
    left.isOperation = false → RightNested left → RightNested right →
    RightNested (.binary op left right span)
  | paren {inner : Expr} {span : Span} : RightNested inner → RightNested (.paren inner span)
  | init {type : Ident} {fields : List (FieldInit Expr)} {fieldsSpan span : Span} :
    (∀ f ∈ fields, RightNested f.value) → RightNested (.init type fields fieldsSpan span)
  | member {base : Expr} {field : Ident} {span : Span} :
    base.isOperation = false → RightNested base → RightNested (.member base field span)

/-- No struct literal but inside parentheses or the arguments of a call. -/
def Expr.LiteralFree : Expr → Prop
  | .unary _ operand _ => operand.LiteralFree
  | .binary _ left right _ => left.LiteralFree ∧ right.LiteralFree
  | .member base _ _ => base.LiteralFree
  | .init _ _ _ _ => False
  | _ => True

mutual

/-- All expressions of the statement are of the right shape, and so are its
conditions. -/
inductive Stmt.Shaped : Stmt → Prop
  | expr {e : Expr} : e.RightNested → Stmt.Shaped (.expr e)
  | cond {c : Conditional} : Conditional.Shaped c → Stmt.Shaped (.cond c)
  | ret {value : Option Expr} {span : Span} :
    (∀ e, value = some e → e.RightNested) → Stmt.Shaped (.ret value span)
  | bind {ident : Ident} {type : Option Ident} {value : Expr} {span : Span} :
    value.RightNested → Stmt.Shaped (.bind ident type value span)

inductive Conditional.Shaped : Conditional → Prop
  | mk {c : Expr} {block : List Stmt} {rest : Otherwise} {span : Span} :
    c.RightNested → c.LiteralFree → (∀ s ∈ block, Stmt.Shaped s) → Otherwise.Shaped rest →
    Conditional.Shaped (.mk c block rest span)

inductive Otherwise.Shaped : Otherwise → Prop
  | nothing : Otherwise.Shaped .nothing
  | elseIf {c : Conditional} : Conditional.Shaped c → Otherwise.Shaped (.elseIf c)
  | block {block : List Stmt} : (∀ s ∈ block, Stmt.Shaped s) → Otherwise.Shaped (.block block)

end

end Syntax

end NominalScript
