import NominalScript.Syntax

/-!
# Reading a tree

What is left unsaid in a tree, and induction on it.  The arguments of a call and
the field values of a literal stand in lists: `Expr.inductOn` is induction on
expressions with a hypothesis for each member of such a list.
-/

namespace NominalScript.Syntax

/-- The name of the type that a function returns. -/
def FnDecl.returnName (d : FnDecl) : String := (d.returnType.map Ident.name).getD "Void"

/-- Induction on expressions, with a hypothesis for each argument of a call and each field of a
literal. -/
@[elab_as_elim]
theorem Expr.inductOn {motive : Expr → Prop} (e : Expr)
    (str : ∀ value span, motive (.str value span))
    (int : ∀ value span, motive (.int value span))
    (call : ∀ fn args span, (∀ a ∈ args, motive a) → motive (.call fn args span))
    (var : ∀ name span, motive (.var name span))
    (unary : ∀ op operand span, motive operand → motive (.unary op operand span))
    (binary : ∀ op left right span, motive left → motive right →
      motive (.binary op left right span))
    (paren : ∀ inner span, motive inner → motive (.paren inner span))
    (init : ∀ type fields fieldsSpan span, (∀ f ∈ fields, motive f.value) →
      motive (.init type fields fieldsSpan span))
    (member : ∀ base field span, motive base → motive (.member base field span)) : motive e := by
  refine @Expr.rec motive (fun es => ∀ a ∈ es, motive a) (fun fs => ∀ f ∈ fs, motive f.value)
    (fun f => motive f.value) str int call var unary binary paren init member ?_ ?_ ?_ ?_ ?_ e
  · exact fun a mem => absurd mem List.not_mem_nil
  · exact fun a as first rest => List.forall_mem_cons.2 ⟨first, rest⟩
  · exact fun f mem => absurd mem List.not_mem_nil
  · exact fun f fs first rest => List.forall_mem_cons.2 ⟨first, rest⟩
  · exact fun ident value span inside => inside

end NominalScript.Syntax
