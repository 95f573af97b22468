import NominalScript.Proofs.Syntax

/-!
# The spans of a tree

Every node of a tree keeps the span it was read from.  `Program.spans` is the list of
them all, a node before its parts, so that what holds of every span of a tree is said
of the members of a list.
-/

namespace NominalScript.Syntax

mutual

/-- The spans of an expression. -/
def Expr.spans : Expr → List Span
  | .str _ span => [span]
  | .int _ span => [span]
  | .call fn args span => span :: fn.span :: Expr.spansOfAll args
  | .var _ span => [span]
  | .unary op operand span => span :: op.span :: operand.spans
  | .binary op left right span => span :: op.span :: (left.spans ++ right.spans)
  | .paren inner span => span :: inner.spans
  | .init type fields fieldsSpan span =>
    span :: type.span :: fieldsSpan :: Expr.spansOfFields fields
  | .member base field span => span :: field.span :: base.spans

/-- The spans of some expressions. -/
def Expr.spansOfAll : List Expr → List Span
  | [] => []
  | e :: es => e.spans ++ Expr.spansOfAll es

/-- The spans of the fields of a struct literal. -/
def Expr.spansOfFields : List (FieldInit Expr) → List Span
  | [] => []
  | ⟨ident, value, span⟩ :: fields =>
    span :: ident.span :: (value.spans ++ Expr.spansOfFields fields)

end

/-- The span of a name that may be left out. -/
def Ident.spanIfAny : Option Ident → List Span
  | some ident => [ident.span]
  | none => []

mutual

/-- The spans of a statement. -/
def Stmt.spans : Stmt → List Span
  | .expr e => e.spans
  | .cond c => c.spans
  | .ret (some e) span => span :: e.spans
  | .ret none span => [span]
  | .bind ident type value span => span :: ident.span :: (Ident.spanIfAny type ++ value.spans)

/-- The spans of some statements. -/
def Stmt.spansOfAll : List Stmt → List Span
  | [] => []
  | s :: rest => s.spans ++ Stmt.spansOfAll rest

/-- The spans of a conditional. -/
def Conditional.spans : Conditional → List Span
  | .mk c block rest span => span :: (c.spans ++ (Stmt.spansOfAll block ++ rest.spans))

/-- The spans of what is done otherwise. -/
def Otherwise.spans : Otherwise → List Span
  | .nothing => []
  | .elseIf c => c.spans
  | .block block => Stmt.spansOfAll block

end

/-- The spans of a field or parameter. -/
def Binding.spans (b : Binding) : List Span := [b.span, b.ident.span, b.type.span]

/-- The spans of a struct declaration. -/
def StructDecl.spans (d : StructDecl) : List Span :=
  d.span :: d.ident.span :: d.fields.flatMap Binding.spans

/-- The spans of a function declaration. -/
def FnDecl.spans (d : FnDecl) : List Span :=
  d.span :: d.signatureSpan :: d.ident.span ::
    (d.params.flatMap Binding.spans ++ (Ident.spanIfAny d.returnType ++ Stmt.spansOfAll d.body))

/-- The spans of a program. -/
def Program.spans (p : Program) : List Span :=
  p.structs.flatMap StructDecl.spans ++ p.fns.flatMap FnDecl.spans

/-! ## Nodes and their parts -/

theorem Expr.span_mem_spans (e : Expr) : e.span ∈ e.spans := by
  cases e <;> simp [Expr.span, Expr.spans]

theorem Conditional.span_mem_spans (c : Conditional) : c.span ∈ c.spans := by
  rcases c with ⟨_, _, _, span⟩
  simp [Conditional.span, Conditional.spans]

theorem Stmt.span_mem_spans (s : Stmt) : s.span ∈ s.spans := by
  cases s with
  | expr e => exact e.span_mem_spans
  | cond c => exact c.span_mem_spans
  | ret value span => cases value <;> simp [Stmt.span, Stmt.spans]
  | bind ident type value span => simp [Stmt.span, Stmt.spans]

theorem Expr.spansOfAll_eq_flatMap (es : List Expr) :
    Expr.spansOfAll es = es.flatMap Expr.spans := by
  induction es with
  | nil => rfl
  | cons e es ih => rw [Expr.spansOfAll, ih, List.flatMap_cons]

/-- The spans of a field of a struct literal. -/
def FieldInit.spans (f : FieldInit Expr) : List Span := f.span :: f.ident.span :: f.value.spans

theorem Expr.spansOfFields_eq_flatMap (fields : List (FieldInit Expr)) :
    Expr.spansOfFields fields = fields.flatMap FieldInit.spans := by
  induction fields with
  | nil => rfl
  | cons f fields ih =>
    rw [Expr.spansOfFields, ih, List.flatMap_cons]
    rfl

theorem Stmt.spansOfAll_eq_flatMap (ss : List Stmt) :
    Stmt.spansOfAll ss = ss.flatMap Stmt.spans := by
  induction ss with
  | nil => rfl
  | cons s ss ih => rw [Stmt.spansOfAll, ih, List.flatMap_cons]

end NominalScript.Syntax
