import NominalScript.Check.Expr

/-!
# Checking function bodies

Checking a body hands out a slot to every `let` and keeps the open scopes, a new
one for each block.  Statements of a block are independent: after an error
checking goes on with the next one, in the scopes as they are.

A statement *returns* when every way through it meets a `return`.  What stands
after such a statement in its block never runs; it is checked all the same, then
left out with a warning.
-/

namespace NominalScript.Check

open Syntax
open Checked (Signature)

/-! ## State -/

/-- The slots handed out so far, by their types, the open scopes from the
innermost on, and the warnings found. -/
structure BodyState where
  locals : List TypeId
  scopes : List Scope
  warnings : List Warning
deriving DecidableEq, Repr

namespace BodyState

/-- Before anything is bound, in the outermost scope. -/
def start : BodyState := ⟨[], [[]], []⟩

/-- What an expression may refer to at this point. -/
def env (s : BodyState) (g : Globals) : Env := ⟨g, s.locals, s.scopes⟩

/-- Bind a name in the innermost scope to the next slot. -/
def bind (s : BodyState) (name : String) (type : TypeId) : BodyState :=
  { s with
    locals := s.locals ++ [type]
    scopes := match s.scopes with
      | scope :: outer => ((name, s.locals.length) :: scope) :: outer
      | [] => [] }

/-- Bind parameters, in order. -/
def bindAll (s : BodyState) (params : List Field) : BodyState :=
  params.foldl (fun s p => s.bind p.name p.type) s

/-- Is the name bound in the innermost scope? -/
def isBoundHere (s : BodyState) (name : String) : Bool :=
  match s.scopes with
  | scope :: _ => (scope.lookup name).isSome
  | [] => false

/-- Open a scope. -/
def enter (s : BodyState) : BodyState := { s with scopes := [] :: s.scopes }

/-- Close the innermost scope. -/
def leave (s : BodyState) : BodyState := { s with scopes := s.scopes.tail }

/-- Add warnings. -/
def warn (s : BodyState) (ws : List Warning) : BodyState :=
  { s with warnings := s.warnings ++ ws }

end BodyState

/-- A checked piece of a body, and whether it always returns. -/
structure Analyzed (α : Type) where
  node : α
  returns : Bool

/-! ## Single statements -/

/-- A `return`, which is written at `span`. -/
def returned (env : Env) (expected : TypeId) (value : Option Expr) (span : Span) :
    Check Checked.Stmt :=
  match value with
  | some e => do
    let c ← expr env e
    if c.type = expected then return .ret (some c)
    else fail (.returnedType expected c.type) e.span
  | none =>
    if env.types.void = expected then .ok (.ret none)
    else fail (.returnedNothing expected env.types.void) span

/-- The value of a `let`, which has the annotated type if there is one. -/
def boundValue (env : Env) (ident : Ident) (type : Option Ident) (value : Expr) :
    Check Checked.Expr :=
  match type with
  | none => expr env value
  | some t => do
    let expected ← resolve env.types.names t
    let c ← expr env value
    if c.type = expected then return c
    else fail (.bindingType ident.name expected c.type) value.span

/-- A `let`. -/
def bound (g : Globals) (s : BodyState) (ident : Ident) (type : Option Ident) (value : Expr) :
    Check Checked.Stmt × BodyState :=
  match boundValue (s.env g) ident type value with
  | .error es => (.error es, s)
  | .ok c =>
    if s.isBoundHere ident.name then
      (fail (.duplicateBinding ident.name) ident.span, s)
    else (.ok (.bind s.locals.length c), s.bind ident.name c.type)

/-! ## Blocks -/

/-- The statements up to the first that returns. -/
def reachable : List (Analyzed Checked.Stmt) → List Checked.Stmt
  | [] => []
  | a :: as => if a.returns then [a.node] else a.node :: reachable as

/-- The span of statements that stand one after the other. -/
def spanOf : List Stmt → Option Span
  | [] => none
  | first :: rest => some (first.span.join ((first :: rest).getLast (by simp)).span)

/-- The statements after the first that returns. -/
def unreachable : List (Analyzed Checked.Stmt) → List Stmt → List Stmt
  | a :: as, _ :: stmts => if a.returns then stmts else unreachable as stmts
  | _, _ => []

/-- A block of checked statements: what of it runs, and the warning about the
rest. -/
def closeBlock (stmts : List Stmt) (analyzed : List (Analyzed Checked.Stmt)) :
    Analyzed (List Checked.Stmt) × List Warning :=
  (⟨reachable analyzed, analyzed.any Analyzed.returns⟩,
    ((spanOf (unreachable analyzed stmts)).map Warning.mk).toList)

/-- Leave the scope of a block whose statements were checked. -/
def finishBlock (stmts : List Stmt) :
    Check (List (Analyzed Checked.Stmt)) × BodyState →
      Check (Analyzed (List Checked.Stmt)) × BodyState
  | (.error es, s) => (.error es, s.leave)
  | (.ok analyzed, s) =>
    let (block, warnings) := closeBlock stmts analyzed
    (.ok block, s.leave.warn warnings)

/-! ## Conditionals -/

/-- Put a branch in front of the rest of its chain. -/
def addBranch (b : Checked.Expr × Analyzed (List Checked.Stmt)) (rest : Analyzed Checked.Chain) :
    Analyzed Checked.Chain :=
  ⟨.branch b.1 b.2.node rest.node, b.2.returns && rest.returns⟩

/-- The first branch of a conditional in front of the rest of its chain. -/
def branch (c : Check Checked.Expr) (block : Check (Analyzed (List Checked.Stmt)))
    (rest : Check (Analyzed Checked.Chain)) : Check (Analyzed Checked.Chain) :=
  (both c (both block rest)).map fun p => addBranch (p.1, p.2.1) p.2.2

mutual

/-- Check a statement of a function that returns `expected`. -/
def stmt (g : Globals) (expected : TypeId) :
    Stmt → BodyState → Check (Analyzed Checked.Stmt) × BodyState
  | .expr e, s => ((expr (s.env g) e).map fun c => ⟨.expr c, false⟩, s)
  | .cond c, s =>
    let (r, s) := conditional g expected c s
    (r.map fun a => ⟨.cond a.node, a.returns⟩, s)
  | .ret value span, s => ((returned (s.env g) expected value span).map fun c => ⟨c, true⟩, s)
  | .bind ident type value _, s =>
    let (r, s) := bound g s ident type value
    (r.map fun c => ⟨c, false⟩, s)

/-- Check statements one after the other. -/
def stmts (g : Globals) (expected : TypeId) :
    List Stmt → BodyState → Check (List (Analyzed Checked.Stmt)) × BodyState
  | [], s => (.ok [], s)
  | a :: as, s =>
    let (r, s) := stmt g expected a s
    let (rs, s) := stmts g expected as s
    (cons r rs, s)

/-- Check a conditional: its first condition and its first block both. -/
def conditional (g : Globals) (expected : TypeId) :
    Conditional → BodyState → Check (Analyzed Checked.Chain) × BodyState
  | .mk c block rest _, s =>
    let c := condition (s.env g) c
    let (b, s) := finishBlock block (stmts g expected block s.enter)
    let (r, s) := otherwise g expected rest s
    (branch c b r, s)

/-- Check what follows a branch.  A further block is checked only if its
condition is right. -/
def otherwise (g : Globals) (expected : TypeId) :
    Otherwise → BodyState → Check (Analyzed Checked.Chain) × BodyState
  | .nothing, s => (.ok ⟨.nothing, false⟩, s)
  | .block block, s =>
    let (b, s) := finishBlock block (stmts g expected block s.enter)
    (b.map fun b => ⟨.otherwise b.node, b.returns⟩, s)
  | .elseIf (.mk c block rest _), s =>
    match condition (s.env g) c with
    | .error es =>
      let (r, s) := otherwise g expected rest s
      (before addBranch (.error es) r, s)
    | .ok c =>
      let (b, s) := finishBlock block (stmts g expected block s.enter)
      let (r, s) := otherwise g expected rest s
      (before addBranch (b.map fun b => (c, b)) r, s)

end

/-- Check a block in a scope of its own. -/
def block (g : Globals) (expected : TypeId) (body : List Stmt) (s : BodyState) :
    Check (Analyzed (List Checked.Stmt)) × BodyState :=
  finishBlock body (stmts g expected body s.enter)

/-! ## Functions -/

/-- Check the body of a function with its parameters in the first slots.  Unless
it returns `Void`, every way through it must meet a `return`. -/
def fn (g : Globals) (d : FnDecl) (signature : Signature) :
    Check (Checked.Fn × List Warning) :=
  match block g signature.returnType d.body (BodyState.start.bindAll signature.params) with
  | (.error es, _) => .error es
  | (.ok b, s) =>
    if signature.returnType = g.types.void ∨ b.returns then
      .ok (⟨signature, s.locals.length, b.node⟩, s.warnings)
    else fail .missingReturn d.span

end NominalScript.Check
