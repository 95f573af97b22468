import NominalScript.Proofs.Parse.Expr
import NominalScript.Proofs.Syntax.Spans

/-!
# The nodes of a tree

Every part of a tree that has a span is a `Node`, whatever sort it is of: the kinds it is
written with, its span, and the nodes it is made of, in source order.  What is said of
the spans of a tree can so be said of all nodes alike, and no span is left out
(`Program.spans_subset`).
-/

namespace NominalScript.Syntax

/-- A part of a tree: the kinds of its tokens, its span and its own parts. -/
inductive Node where
  | mk (kinds : List Kind) (span : Span) (parts : List Node)

namespace Node

def kinds : Node → List Kind
  | .mk kinds _ _ => kinds

def span : Node → Span
  | .mk _ span _ => span

def parts : Node → List Node
  | .mk _ _ parts => parts

/-- A node that is one token. -/
def leaf (kind : Kind) (span : Span) : Node := .mk [kind] span []

mutual

/-- A node and all nodes within it. -/
def all : Node → List Node
  | .mk kinds span parts => .mk kinds span parts :: allOf parts

/-- Some nodes and all nodes within them. -/
def allOf : List Node → List Node
  | [] => []
  | n :: ns => n.all ++ allOf ns

end

theorem allOf_append (ns ms : List Node) : allOf (ns ++ ms) = allOf ns ++ allOf ms := by
  induction ns with
  | nil => rfl
  | cons n ns ih => rw [List.cons_append, allOf, allOf, ih, List.append_assoc]

theorem allOf_eq_flatMap (ns : List Node) : allOf ns = ns.flatMap all := by
  induction ns with
  | nil => rfl
  | cons n ns ih => rw [allOf, ih, List.flatMap_cons]

end Node

/-! ## Names and expressions -/

/-- A name. -/
def Ident.node (i : Ident) : Node := .leaf (.ident i.name) i.span

/-- An operator. -/
def Ident.operatorNode (i : Ident) : Node := .leaf (.op i.name) i.span

/-- A name that may be left out. -/
def Ident.nodeIfAny : Option Ident → List Node
  | some i => [i.node]
  | none => []

/-- The kinds of the fields of a struct literal, braces included. -/
def fieldsKinds (fields : List (FieldInit Expr)) : List Kind :=
  .leftBrace :: (commas (fields.map FieldInit.kinds) ++ [.rightBrace])

mutual

/-- An expression. -/
def Expr.node : Expr → Node
  | .str value span => .leaf (.str value) span
  | .int value span => .leaf (.int value) span
  | .call fn args span => .mk (Expr.call fn args span).kinds span (fn.node :: Expr.nodesOfAll args)
  | .var name span => .leaf (.ident name) span
  | .unary op operand span =>
    .mk (Expr.unary op operand span).kinds span [op.operatorNode, operand.node]
  | .binary op left right span =>
    .mk (Expr.binary op left right span).kinds span [left.node, op.operatorNode, right.node]
  | .paren inner span => .mk (Expr.paren inner span).kinds span [inner.node]
  | .init type fields fieldsSpan span =>
    .mk (Expr.init type fields fieldsSpan span).kinds span
      [type.node, .mk (fieldsKinds fields) fieldsSpan (Expr.nodesOfFields fields)]
  | .member base field span =>
    .mk (Expr.member base field span).kinds span [base.node, field.node]

/-- Expressions, in order. -/
def Expr.nodesOfAll : List Expr → List Node
  | [] => []
  | e :: es => e.node :: Expr.nodesOfAll es

/-- The fields of a struct literal, in order. -/
def Expr.nodesOfFields : List (FieldInit Expr) → List Node
  | [] => []
  | ⟨ident, value, span⟩ :: fields =>
    .mk (.ident ident.name :: .colon :: value.kinds) span [ident.node, value.node] ::
      Expr.nodesOfFields fields

end

/-- A field of a struct literal. -/
def FieldInit.node (f : FieldInit Expr) : Node := .mk f.kinds f.span [f.ident.node, f.value.node]

theorem Expr.nodesOfAll_eq_map (es : List Expr) : Expr.nodesOfAll es = es.map Expr.node := by
  induction es with
  | nil => rfl
  | cons e es ih => rw [Expr.nodesOfAll, ih, List.map_cons]

theorem Expr.nodesOfFields_eq_map (fields : List (FieldInit Expr)) :
    Expr.nodesOfFields fields = fields.map FieldInit.node := by
  induction fields with
  | nil => rfl
  | cons f fields ih =>
    rw [Expr.nodesOfFields, ih, List.map_cons]
    rfl

theorem Expr.node_span (e : Expr) : e.node.span = e.span := by
  cases e <;> rfl

theorem Expr.node_kinds (e : Expr) : e.node.kinds = e.kinds := by
  cases e <;> rfl

/-! ## Statements -/

mutual

/-- A statement.  What an expression or a conditional is to itself as a statement is a
node of its own. -/
def Stmt.node : Stmt → Node
  | .expr e => .mk e.kinds e.span [e.node]
  | .cond c => .mk c.kinds c.span [c.node]
  | .ret (some e) span => .mk (Stmt.ret (some e) span).kinds span [e.node]
  | .ret none span => .mk (Stmt.ret none span).kinds span []
  | .bind ident type value span =>
    .mk (Stmt.bind ident type value span).kinds span
      (ident.node :: (Ident.nodeIfAny type ++ [value.node]))

/-- Statements, in order. -/
def Stmt.nodesOfAll : List Stmt → List Node
  | [] => []
  | s :: rest => s.node :: Stmt.nodesOfAll rest

/-- A conditional: its condition, its block, and what follows. -/
def Conditional.node : Conditional → Node
  | .mk c block rest span =>
    .mk (Conditional.mk c block rest span).kinds span
      (c.node :: (Stmt.nodesOfAll block ++ rest.nodes))

/-- What is done otherwise: another conditional, or the statements of a block. -/
def Otherwise.nodes : Otherwise → List Node
  | .nothing => []
  | .elseIf c => [c.node]
  | .block block => Stmt.nodesOfAll block

end

theorem Conditional.node_span (c : Conditional) : c.node.span = c.span := by
  cases c
  rfl

theorem Conditional.node_kinds (c : Conditional) : c.node.kinds = c.kinds := by
  cases c
  rfl

/-! ## Declarations -/

/-- A field or parameter. -/
def Binding.node (b : Binding) : Node := .mk b.kinds b.span [b.ident.node, b.type.node]

/-- A struct declaration. -/
def StructDecl.node (d : StructDecl) : Node :=
  .mk d.kinds d.span (d.ident.node :: d.fields.map Binding.node)

/-- The kinds of the signature of a function. -/
def FnDecl.signatureKinds (d : FnDecl) : List Kind :=
  .keyword .kwFn :: .ident d.ident.name :: .leftParen ::
    (commas (d.params.map Binding.kinds) ++ .rightParen :: returnTypeKinds d.returnType)

/-- The signature of a function. -/
def FnDecl.signatureNode (d : FnDecl) : Node :=
  .mk d.signatureKinds d.signatureSpan
    (d.ident.node :: (d.params.map Binding.node ++ Ident.nodeIfAny d.returnType))

/-- A function declaration. -/
def FnDecl.node (d : FnDecl) : Node :=
  .mk d.kinds d.span (d.signatureNode :: Stmt.nodesOfAll d.body)

/-- All nodes of a program. -/
def Program.nodes (p : Program) : List Node :=
  Node.allOf (p.structs.map StructDecl.node ++ p.fns.map FnDecl.node)

/-! ## No span is left out -/

namespace Node

/-- The spans of a node and of all nodes within it. -/
def spans (n : Node) : List Span := n.all.map Node.span

/-- The spans of some nodes and of all nodes within them. -/
def spansOf (ns : List Node) : List Span := (allOf ns).map Node.span

@[simp]
theorem spans_mk (kinds : List Kind) (span : Span) (parts : List Node) :
    (Node.mk kinds span parts).spans = span :: spansOf parts := by
  rw [spans, all, List.map_cons]
  rfl

@[simp]
theorem spansOf_nil : spansOf [] = [] := rfl

@[simp]
theorem spansOf_cons (n : Node) (ns : List Node) : spansOf (n :: ns) = n.spans ++ spansOf ns := by
  rw [spansOf, allOf, List.map_append]
  rfl

@[simp]
theorem spansOf_append (ns ms : List Node) : spansOf (ns ++ ms) = spansOf ns ++ spansOf ms := by
  rw [spansOf, allOf_append, List.map_append]
  rfl

/-- The nodes of a list leave no span out if that of no member does. -/
theorem flatMap_subset_spansOf {α : Type} {as : List α} {f : α → List Span} {node : α → Node}
    (each : ∀ a ∈ as, f a ⊆ (node a).spans) : as.flatMap f ⊆ spansOf (as.map node) := by
  induction as with
  | nil => exact List.nil_subset _
  | cons a as ih =>
    obtain ⟨first, rest⟩ := List.forall_mem_cons.1 each
    rw [List.flatMap_cons, List.map_cons, spansOf_cons]
    exact List.append_subset.2 ⟨List.subset_append_of_subset_left _ first,
      List.subset_append_of_subset_right _ (ih rest)⟩

end Node

@[simp]
theorem Node.leaf_spans (kind : Kind) (span : Span) : (Node.leaf kind span).spans = [span] := by
  rw [Node.leaf, Node.spans_mk, Node.spansOf_nil]

@[simp]
theorem Ident.node_spans (i : Ident) : i.node.spans = [i.span] := Node.leaf_spans _ _

@[simp]
theorem Ident.operatorNode_spans (i : Ident) : i.operatorNode.spans = [i.span] :=
  Node.leaf_spans _ _

@[simp]
theorem Ident.nodeIfAny_spans (i : Option Ident) :
    Node.spansOf (Ident.nodeIfAny i) = Ident.spanIfAny i := by
  cases i <;> simp [Ident.nodeIfAny, Ident.spanIfAny]

/-- No span of an expression is left out of its node. -/
theorem Expr.spans_subset (e : Expr) : e.spans ⊆ e.node.spans := by
  induction e using Expr.inductOn with
  | str value span => simp [Expr.spans, Expr.node]
  | int value span => simp [Expr.spans, Expr.node]
  | call fn args span ih =>
    have inside := Node.flatMap_subset_spansOf ih
    rw [← Expr.spansOfAll_eq_flatMap, ← Expr.nodesOfAll_eq_map] at inside
    simp only [Expr.spans, Expr.node, Node.spans_mk, Node.spansOf_cons, Ident.node_spans]
    grind
  | var name span => simp [Expr.spans, Expr.node]
  | unary op operand span ih =>
    simp only [Expr.spans, Expr.node, Node.spans_mk, Node.spansOf_cons, Ident.operatorNode_spans]
    grind
  | binary op left right span ihl ihr =>
    simp only [Expr.spans, Expr.node, Node.spans_mk, Node.spansOf_cons, Ident.operatorNode_spans]
    grind
  | paren inner span ih =>
    simp only [Expr.spans, Expr.node, Node.spans_mk, Node.spansOf_cons]
    grind
  | init type fields fieldsSpan span ih =>
    have inside : fields.flatMap FieldInit.spans ⊆ Node.spansOf (fields.map FieldInit.node) := by
      refine Node.flatMap_subset_spansOf fun f mem => ?_
      have value := ih f mem
      simp only [FieldInit.spans, FieldInit.node, Node.spans_mk, Node.spansOf_cons,
        Ident.node_spans]
      grind
    rw [← Expr.spansOfFields_eq_flatMap, ← Expr.nodesOfFields_eq_map] at inside
    simp only [Expr.spans, Expr.node, Node.spans_mk, Node.spansOf_cons, Ident.node_spans]
    grind
  | member base field span ih =>
    simp only [Expr.spans, Expr.node, Node.spans_mk, Node.spansOf_cons, Ident.node_spans]
    grind

mutual

/-- No span of a statement is left out of its node. -/
theorem Stmt.spans_subset : ∀ s : Stmt, s.spans ⊆ s.node.spans
  | .expr e => by
    have inside := e.spans_subset
    simp only [Stmt.spans, Stmt.node, Node.spans_mk, Node.spansOf_cons]
    grind
  | .cond c => by
    have inside := Conditional.spans_subset c
    simp only [Stmt.spans, Stmt.node, Node.spans_mk, Node.spansOf_cons]
    grind
  | .ret (some e) span => by
    have inside := e.spans_subset
    simp only [Stmt.spans, Stmt.node, Node.spans_mk, Node.spansOf_cons]
    grind
  | .ret none span => by simp [Stmt.spans, Stmt.node]
  | .bind ident type value span => by
    have inside := value.spans_subset
    simp only [Stmt.spans, Stmt.node, Node.spans_mk, Node.spansOf_cons, Node.spansOf_append,
      Ident.node_spans, Ident.nodeIfAny_spans]
    grind

theorem Stmt.spansOfAll_subset : ∀ ss : List Stmt,
    Stmt.spansOfAll ss ⊆ Node.spansOf (Stmt.nodesOfAll ss)
  | [] => List.nil_subset _
  | s :: ss => by
    have first := Stmt.spans_subset s
    have rest := Stmt.spansOfAll_subset ss
    simp only [Stmt.spansOfAll, Stmt.nodesOfAll, Node.spansOf_cons]
    grind

theorem Conditional.spans_subset : ∀ c : Conditional, c.spans ⊆ c.node.spans
  | .mk e block rest span => by
    have condition := e.spans_subset
    have inside := Stmt.spansOfAll_subset block
    have others := Otherwise.spans_subset rest
    simp only [Conditional.spans, Conditional.node, Node.spans_mk, Node.spansOf_cons,
      Node.spansOf_append]
    grind

theorem Otherwise.spans_subset : ∀ o : Otherwise, o.spans ⊆ Node.spansOf o.nodes
  | .nothing => List.nil_subset _
  | .elseIf c => by
    have inside := Conditional.spans_subset c
    simp only [Otherwise.spans, Otherwise.nodes, Node.spansOf_cons]
    grind
  | .block block => Stmt.spansOfAll_subset block

end

theorem Binding.spans_subset (b : Binding) : b.spans ⊆ b.node.spans := by
  simp [Binding.spans, Binding.node]

theorem StructDecl.spans_subset (d : StructDecl) : d.spans ⊆ d.node.spans := by
  have inside := Node.flatMap_subset_spansOf fun b (_ : b ∈ d.fields) => b.spans_subset
  simp only [StructDecl.spans, StructDecl.node, Node.spans_mk, Node.spansOf_cons, Ident.node_spans]
  grind

theorem FnDecl.spans_subset (d : FnDecl) : d.spans ⊆ d.node.spans := by
  have params := Node.flatMap_subset_spansOf fun b (_ : b ∈ d.params) => b.spans_subset
  have inside := Stmt.spansOfAll_subset d.body
  simp only [FnDecl.spans, FnDecl.node, FnDecl.signatureNode, Node.spans_mk, Node.spansOf_cons,
    Node.spansOf_append, Ident.node_spans, Ident.nodeIfAny_spans]
  grind

/-- Every span of a program is that of some node. -/
theorem Program.spans_subset (p : Program) : p.spans ⊆ p.nodes.map Node.span := by
  have structs := Node.flatMap_subset_spansOf fun d (_ : d ∈ p.structs) => d.spans_subset
  have fns := Node.flatMap_subset_spansOf fun d (_ : d ∈ p.fns) => d.spans_subset
  have nodes : p.nodes.map Node.span = Node.spansOf (p.structs.map StructDecl.node) ++
      Node.spansOf (p.fns.map FnDecl.node) := Node.spansOf_append _ _
  rw [nodes]
  exact List.append_subset.2 ⟨List.subset_append_of_subset_left _ structs,
    List.subset_append_of_subset_right _ fns⟩

end NominalScript.Syntax
