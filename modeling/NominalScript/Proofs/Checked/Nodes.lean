import NominalScript.Checked

/-!
# The expressions of a checked body

Everything that a checked body refers to by number stands in one of its expressions: the
functions it calls, the slots it reads, the structs it builds and the fields it takes.
`Expr.nodes` lists an expression with all its parts, and `Stmt.nodes` the expressions of a
statement with theirs, so that a fact about all references of a body is one about the
members of a list.
-/

namespace NominalScript.Checked

mutual

/-- An expression and all its parts. -/
def Expr.nodes : Expr → List Expr
  | .const v t => [.const v t]
  | .call f args t => .call f args t :: Expr.nodesOfAll args
  | .slot i t => [.slot i t]
  | .init i fields t => .init i fields t :: Expr.nodesOfAll fields
  | .field base i t => .field base i t :: base.nodes

/-- Some expressions and all their parts. -/
def Expr.nodesOfAll : List Expr → List Expr
  | [] => []
  | e :: es => e.nodes ++ Expr.nodesOfAll es

end

mutual

/-- The expressions of a statement and all their parts. -/
def Stmt.nodes : Stmt → List Expr
  | .expr e => e.nodes
  | .cond chain => chain.nodes
  | .ret (some e) => e.nodes
  | .ret none => []
  | .bind _ value => value.nodes

/-- The expressions of some statements and all their parts. -/
def Stmt.nodesOfAll : List Stmt → List Expr
  | [] => []
  | s :: rest => s.nodes ++ Stmt.nodesOfAll rest

/-- The expressions in the branches of a conditional and all their parts. -/
def Chain.nodes : Chain → List Expr
  | .nothing => []
  | .otherwise block => Stmt.nodesOfAll block
  | .branch c block rest => c.nodes ++ (Stmt.nodesOfAll block ++ rest.nodes)

end

/-- Every expression of the body of a function and all their parts. -/
def Fn.nodes (f : Fn) : List Expr := Stmt.nodesOfAll f.body

theorem Expr.nodesOfAll_eq_flatMap (es : List Expr) :
    Expr.nodesOfAll es = es.flatMap Expr.nodes := by
  induction es with
  | nil => rfl
  | cons e es ih => rw [Expr.nodesOfAll, ih, List.flatMap_cons]

end NominalScript.Checked
