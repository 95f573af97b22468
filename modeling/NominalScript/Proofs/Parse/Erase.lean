import NominalScript.Proofs.Syntax

/-!
# Trees up to spans

`erase` puts the same span at every node of a tree, so two trees are equal up to spans
when they are equal once erased.
-/

namespace NominalScript

/-- The span that stands for every other. -/
def Span.erased : Span := Location.origin.until .origin

namespace Syntax

/-! ## Expressions -/

/-- A name, written anywhere. -/
def Ident.erase (i : Ident) : Ident := ⟨i.name, .erased⟩

@[simp]
theorem Ident.erase_erase (i : Ident) : i.erase.erase = i.erase := rfl

mutual

/-- An expression, written anywhere. -/
def Expr.erase : Expr → Expr
  | .str value _ => .str value .erased
  | .int value _ => .int value .erased
  | .call fn args _ => .call fn.erase (Expr.eraseAll args) .erased
  | .var name _ => .var name .erased
  | .unary op operand _ => .unary op.erase operand.erase .erased
  | .binary op left right _ => .binary op.erase left.erase right.erase .erased
  | .paren inner _ => .paren inner.erase .erased
  | .init type fields _ _ => .init type.erase (Expr.eraseFields fields) .erased .erased
  | .member base field _ => .member base.erase field.erase .erased

/-- Expressions, written anywhere. -/
def Expr.eraseAll : List Expr → List Expr
  | [] => []
  | e :: es => e.erase :: Expr.eraseAll es

/-- The fields of a struct literal, written anywhere. -/
def Expr.eraseFields : List (FieldInit Expr) → List (FieldInit Expr)
  | [] => []
  | ⟨ident, value, _⟩ :: fields => ⟨ident.erase, value.erase, .erased⟩ :: Expr.eraseFields fields

end

/-- A field of a struct literal, written anywhere. -/
def FieldInit.erase (f : FieldInit Expr) : FieldInit Expr :=
  ⟨f.ident.erase, f.value.erase, .erased⟩

theorem Expr.eraseAll_eq_map (es : List Expr) : Expr.eraseAll es = es.map Expr.erase := by
  induction es with
  | nil => rfl
  | cons e es ih => rw [Expr.eraseAll, ih, List.map_cons]

theorem Expr.eraseFields_eq_map (fields : List (FieldInit Expr)) :
    Expr.eraseFields fields = fields.map FieldInit.erase := by
  induction fields with
  | nil => rfl
  | cons f fields ih => rw [Expr.eraseFields, ih, List.map_cons, FieldInit.erase]

@[simp]
theorem Expr.erase_erase (e : Expr) : e.erase.erase = e.erase := by
  induction e using Expr.inductOn with
  | call fn args span ih =>
    simp only [Expr.erase, Expr.eraseAll_eq_map, List.map_map]
    exact congrArg (Expr.call _ · _) (List.map_congr_left ih)
  | init type fields fieldsSpan span ih =>
    simp only [Expr.erase, Expr.eraseFields_eq_map, List.map_map]
    refine congrArg (Expr.init _ · _ _) (List.map_congr_left fun f mem => ?_)
    exact congrArg (FieldInit.mk _ · _) (ih f mem)
  | unary op operand span ih => simp only [Expr.erase, Ident.erase_erase, ih]
  | binary op left right span ihl ihr => simp only [Expr.erase, Ident.erase_erase, ihl, ihr]
  | paren inner span ih => simp only [Expr.erase, ih]
  | member base field span ih => simp only [Expr.erase, Ident.erase_erase, ih]
  | _ => simp only [Expr.erase]

/-! ## Statements -/

mutual

/-- A statement, written anywhere. -/
def Stmt.erase : Stmt → Stmt
  | .expr e => .expr e.erase
  | .cond c => .cond c.erase
  | .ret value _ => .ret (value.map Expr.erase) .erased
  | .bind ident type value _ => .bind ident.erase (type.map Ident.erase) value.erase .erased

/-- Statements, written anywhere. -/
def Stmt.eraseAll : List Stmt → List Stmt
  | [] => []
  | s :: rest => s.erase :: Stmt.eraseAll rest

/-- A conditional, written anywhere. -/
def Conditional.erase : Conditional → Conditional
  | .mk c block rest _ => .mk c.erase (Stmt.eraseAll block) rest.erase .erased

/-- What is done otherwise, written anywhere. -/
def Otherwise.erase : Otherwise → Otherwise
  | .nothing => .nothing
  | .elseIf c => .elseIf c.erase
  | .block block => .block (Stmt.eraseAll block)

end

theorem Stmt.eraseAll_eq_map (ss : List Stmt) : Stmt.eraseAll ss = ss.map Stmt.erase := by
  induction ss with
  | nil => rfl
  | cons s ss ih => rw [Stmt.eraseAll, ih, List.map_cons]

mutual

theorem Stmt.erase_erase : ∀ s : Stmt, s.erase.erase = s.erase
  | .expr e => by simp only [Stmt.erase, Expr.erase_erase]
  | .cond c => by simp only [Stmt.erase, Conditional.erase_erase c]
  | .ret value span => by cases value <;> simp [Stmt.erase]
  | .bind ident type value span => by cases type <;> simp [Stmt.erase]

theorem Stmt.eraseAll_eraseAll : ∀ ss : List Stmt,
    Stmt.eraseAll (Stmt.eraseAll ss) = Stmt.eraseAll ss
  | [] => by simp only [Stmt.eraseAll]
  | s :: ss => by simp only [Stmt.eraseAll, Stmt.erase_erase s, Stmt.eraseAll_eraseAll ss]

theorem Conditional.erase_erase : ∀ c : Conditional, c.erase.erase = c.erase
  | .mk c block rest span => by
    simp only [Conditional.erase, Expr.erase_erase, Stmt.eraseAll_eraseAll block,
      Otherwise.erase_erase rest]

theorem Otherwise.erase_erase : ∀ o : Otherwise, o.erase.erase = o.erase
  | .nothing => by simp only [Otherwise.erase]
  | .elseIf c => by simp only [Otherwise.erase, Conditional.erase_erase c]
  | .block block => by simp only [Otherwise.erase, Stmt.eraseAll_eraseAll block]

end

@[simp]
theorem Stmt.endsWithBlock_erase (s : Stmt) : s.erase.endsWithBlock = s.endsWithBlock := by
  cases s <;> simp [Stmt.erase, Stmt.endsWithBlock]

/-! ## Declarations -/

/-- A field or parameter, written anywhere. -/
def Binding.erase (b : Binding) : Binding := ⟨b.ident.erase, b.type.erase, .erased⟩

@[simp]
theorem Binding.erase_erase (b : Binding) : b.erase.erase = b.erase := rfl

/-- A struct declaration, written anywhere. -/
def StructDecl.erase (d : StructDecl) : StructDecl :=
  ⟨d.ident.erase, d.fields.map Binding.erase, .erased⟩

/-- A function declaration, written anywhere. -/
def FnDecl.erase (d : FnDecl) : FnDecl :=
  ⟨d.ident.erase, d.params.map Binding.erase, d.returnType.map Ident.erase, .erased,
    d.body.map Stmt.erase, .erased⟩

/-- A program, written anywhere. -/
def Program.erase (p : Program) : Program :=
  ⟨p.structs.map StructDecl.erase, p.fns.map FnDecl.erase⟩

theorem StructDecl.erase_erase (d : StructDecl) : d.erase.erase = d.erase := by
  simp [StructDecl.erase]

theorem FnDecl.erase_erase (d : FnDecl) : d.erase.erase = d.erase := by
  have body : (d.body.map Stmt.erase).map Stmt.erase = d.body.map Stmt.erase := by
    rw [← Stmt.eraseAll_eq_map, ← Stmt.eraseAll_eq_map, Stmt.eraseAll_eraseAll]
  rw [FnDecl.erase, FnDecl.erase, body]
  simp [Function.comp_def]

theorem Program.erase_erase (p : Program) : p.erase.erase = p.erase := by
  simp [Program.erase, StructDecl.erase_erase, FnDecl.erase_erase]

end Syntax

end NominalScript
