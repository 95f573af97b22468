import NominalScript.Proofs.Parse.Expr
import NominalScript.Proofs.Token.Render

/-!
# Printing programs

`Program.print` writes a program with one declaration or statement on a line, a space
on both sides of an operator between operands and none behind one before its operand,
and a space behind every reserved word but a `return` without a value.  What is printed
is first a list of kinds, blanks included, which is then rendered: strings with their
escapes, integers in decimal.
-/

namespace NominalScript

namespace Syntax

/-- Items with commas and spaces between. -/
def spaced : List (List Kind) → List Kind := List.intercalate [.comma, .blank .space]

mutual

/-- An expression as it is printed. -/
def Expr.printed : Expr → List Kind
  | .str value _ => [.str value]
  | .int value _ => [.int value]
  | .call fn args _ =>
    .ident fn.name :: .leftParen :: (spaced (Expr.printedAll args) ++ [.rightParen])
  | .var name _ => [.ident name]
  | .unary op operand _ => .op op.name :: operand.printed
  | .binary op left right _ =>
    left.printed ++ .blank .space :: .op op.name :: .blank .space :: right.printed
  | .paren inner _ => .leftParen :: (inner.printed ++ [.rightParen])
  | .init type fields _ _ =>
    .ident type.name :: .blank .space :: .leftBrace ::
      (spaced (Expr.printedFields fields) ++ [.rightBrace])
  | .member base field _ => base.printed ++ [.period, .ident field.name]

/-- Each expression as it is printed. -/
def Expr.printedAll : List Expr → List (List Kind)
  | [] => []
  | e :: es => e.printed :: Expr.printedAll es

/-- Each field of a struct literal as it is printed. -/
def Expr.printedFields : List (FieldInit Expr) → List (List Kind)
  | [] => []
  | ⟨ident, value, _⟩ :: fields =>
    (.ident ident.name :: .colon :: .blank .space :: value.printed) :: Expr.printedFields fields

end

/-- The type of a `let` as it is printed. -/
def annotationPrinted : Option Ident → List Kind
  | some type => [.colon, .blank .space, .ident type.name]
  | none => []

mutual

/-- A statement as it is printed. -/
def Stmt.printed : Stmt → List Kind
  | .expr e => e.printed
  | .cond c => c.printed
  | .ret (some e) _ => .keyword .kwReturn :: .blank .space :: e.printed
  | .ret none _ => [.keyword .kwReturn]
  | .bind ident type value _ =>
    .keyword .kwLet :: .blank .space :: .ident ident.name ::
      (annotationPrinted type ++ .blank .space :: .op "=" :: .blank .space :: value.printed)

/-- Statements as they are printed, each on a line. -/
def Stmt.printedAll : List Stmt → List Kind
  | [] => []
  | s :: rest => s.printed ++ .blank .newline :: Stmt.printedAll rest

/-- A conditional as it is printed. -/
def Conditional.printed : Conditional → List Kind
  | .mk c block rest _ =>
    .keyword .kwIf :: .blank .space :: (c.printed ++ .blank .space :: .leftBrace ::
      .blank .newline :: (Stmt.printedAll block ++ .rightBrace :: rest.printed))

/-- What is done otherwise as it is printed. -/
def Otherwise.printed : Otherwise → List Kind
  | .nothing => []
  | .elseIf c => .blank .space :: .keyword .kwElse :: .blank .space :: c.printed
  | .block block =>
    .blank .space :: .keyword .kwElse :: .blank .space :: .leftBrace :: .blank .newline ::
      (Stmt.printedAll block ++ [.rightBrace])

end

/-- A field or parameter as it is printed. -/
def Binding.printed (b : Binding) : List Kind :=
  [.ident b.ident.name, .colon, .blank .space, .ident b.type.name]

/-- A struct declaration as it is printed. -/
def StructDecl.printed (d : StructDecl) : List Kind :=
  .keyword .kwStruct :: .blank .space :: .ident d.ident.name :: .blank .space :: .leftBrace ::
    (spaced (d.fields.map Binding.printed) ++ [.rightBrace])

/-- The return type of a function as it is printed. -/
def returnTypePrinted : Option Ident → List Kind
  | some type => [.blank .space, .op "->", .blank .space, .ident type.name]
  | none => []

/-- A function declaration as it is printed. -/
def FnDecl.printed (d : FnDecl) : List Kind :=
  .keyword .kwFn :: .blank .space :: .ident d.ident.name :: .leftParen ::
    (spaced (d.params.map Binding.printed) ++ .rightParen :: (returnTypePrinted d.returnType ++
      .blank .space :: .leftBrace :: .blank .newline ::
        (Stmt.printedAll d.body ++ [.rightBrace])))

/-- A program as it is printed, each declaration from the start of a line. -/
def Program.printed (p : Program) : List Kind :=
  (p.structs.map StructDecl.printed ++ p.fns.map FnDecl.printed).flatMap (· ++ [.blank .newline])

/-- The text of a program. -/
def Program.print (p : Program) : String := render p.printed

theorem Expr.printedAll_eq_map (es : List Expr) : Expr.printedAll es = es.map Expr.printed := by
  induction es with
  | nil => rfl
  | cons e es ih => rw [Expr.printedAll, ih, List.map_cons]

/-- A field of a struct literal as it is printed. -/
def FieldInit.printed (f : FieldInit Expr) : List Kind :=
  .ident f.ident.name :: .colon :: .blank .space :: f.value.printed

theorem Expr.printedFields_eq_map (fields : List (FieldInit Expr)) :
    Expr.printedFields fields = fields.map FieldInit.printed := by
  induction fields with
  | nil => rfl
  | cons f fields ih => rw [Expr.printedFields, ih, List.map_cons, FieldInit.printed]

theorem spaced_singleton (ks : List Kind) : spaced [ks] = ks := by
  simp [spaced, List.intercalate]

theorem spaced_cons_cons (ks ks' : List Kind) (rest : List (List Kind)) :
    spaced (ks :: ks' :: rest) = ks ++ .comma :: .blank .space :: spaced (ks' :: rest) := by
  simp [spaced, List.intercalate, List.intersperse]

end Syntax

/-! ## How printed trees start -/

/-- A kind that an expression starts with. -/
def Kind.startsExpr : Kind → Bool
  | .ident _ => true
  | .str _ => true
  | .int _ => true
  | .op _ => true
  | .leftParen => true
  | _ => false

namespace Syntax

/-- The kinds start with one that an expression starts with. -/
def Starts (ks : List Kind) : Prop := ∃ k ks', ks = k :: ks' ∧ k.startsExpr = true

theorem Starts.append {ks : List Kind} (starts : Starts ks) (more : List Kind) :
    Starts (ks ++ more) := by
  obtain ⟨k, ks', rfl, first⟩ := starts
  exact ⟨k, ks' ++ more, rfl, first⟩

theorem Expr.starts_printed (e : Expr) : Starts e.printed := by
  induction e using Expr.inductOn with
  | binary op left right span ihl _ =>
    rw [Expr.printed]
    exact ihl.append _
  | member base field span ih =>
    rw [Expr.printed]
    exact ih.append _
  | _ => exact ⟨_, _, rfl, rfl⟩

end Syntax

end NominalScript
