import NominalScript.Proofs.Typing

/-!
# Paths and blocks of a body

What control flow may do in a body, said of the source alone.  `Stmt.paths` are the
ways through a statement: a condition goes either way, whatever the others do, and a
path ends where it returns.  `Stmt.liveCount` and `Stmt.dead` divide a block after its
first statement all of whose paths return, and `FnDecl.blocks` are all blocks of a
function, each after those within it.
-/

namespace NominalScript.Syntax

open Typing

/-- Is the statement a `return`? -/
def Stmt.isReturn : Stmt → Bool
  | .ret _ _ => true
  | _ => false

/-! ## Paths -/

mutual

/-- The control-flow paths through a statement, each as the statements that run on it
in turn.  A conditional does not stand on a path itself. -/
def Stmt.paths : Stmt → List (List Stmt)
  | .cond c => c.paths
  | .expr e => [[.expr e]]
  | .ret value span => [[.ret value span]]
  | .bind ident type value span => [[.bind ident type value span]]

/-- The paths through statements that stand one after the other.  What comes after a
`return` is not on the path. -/
def Stmt.pathsOfAll : List Stmt → List (List Stmt)
  | [] => [[]]
  | a :: as => a.paths.flatMap fun p =>
    if p.any Stmt.isReturn then [p] else (Stmt.pathsOfAll as).map (p ++ ·)

/-- The paths on which the condition holds, and those on which it does not. -/
def Conditional.paths : Conditional → List (List Stmt)
  | .mk _ block rest _ => Stmt.pathsOfAll block ++ rest.paths

/-- The paths of a condition that does not hold; with nothing to do, control goes
straight on. -/
def Otherwise.paths : Otherwise → List (List Stmt)
  | .nothing => [[]]
  | .elseIf c => c.paths
  | .block block => Stmt.pathsOfAll block

end

/-- Does every path through the statement meet a `return`? -/
def Stmt.alwaysReturns (a : Stmt) : Bool := a.paths.all (·.any Stmt.isReturn)

/-- A path through a block that meets no `return` is one through its first statement, followed
by one through the rest. -/
theorem Stmt.exists_pathsOfAll_cons {a : Stmt} {as : List Stmt} :
    (∃ p ∈ pathsOfAll (a :: as), p.any isReturn = false) ↔
      (∃ p ∈ a.paths, p.any isReturn = false) ∧
        ∃ q ∈ pathsOfAll as, q.any isReturn = false := by
  rw [pathsOfAll]
  refine ⟨?_, ?_⟩
  · intro ⟨r, mem, silent⟩
    obtain ⟨p, first, mem⟩ := List.mem_flatMap.1 mem
    split at mem
    · next returns =>
      rw [List.mem_singleton.1 mem, returns] at silent
      cases silent
    · obtain ⟨q, rest, rfl⟩ := List.mem_map.1 mem
      rw [List.any_append, Bool.or_eq_false_iff] at silent
      exact ⟨⟨p, first, silent.1⟩, q, rest, silent.2⟩
  · intro ⟨⟨p, first, silent⟩, q, rest, silent'⟩
    refine ⟨p ++ q, List.mem_flatMap.2 ⟨p, first, ?_⟩, ?_⟩
    · rw [silent]
      exact List.mem_map.2 ⟨q, rest, rfl⟩
    · rw [List.any_append, silent, silent']
      rfl

theorem exists_mem_append_iff {α : Type} {as bs : List α} {P : α → Prop} :
    (∃ a ∈ as ++ bs, P a) ↔ (∃ a ∈ as, P a) ∨ ∃ b ∈ bs, P b := by
  simp only [List.mem_append, or_and_right, exists_or]

mutual

/-- Control falls through a statement on a path without a `return`. -/
theorem fallsThrough_iff : ∀ a : Stmt,
    FallsThrough a ↔ ∃ p ∈ a.paths, p.any Stmt.isReturn = false
  | .expr e => ⟨fun _ => ⟨[.expr e], by simp [Stmt.paths], rfl⟩, fun _ => .expr⟩
  | .cond c => by
    rw [Stmt.paths, ← conditionalFallsThrough_iff c]
    refine ⟨fun falls => ?_, .cond⟩
    cases falls with
    | cond falls => exact falls
  | .ret value span => by
    refine ⟨fun falls => (nomatch falls), fun ⟨p, mem, silent⟩ => ?_⟩
    rw [Stmt.paths, List.mem_singleton] at mem
    subst mem
    cases silent
  | .bind ident type value span =>
    ⟨fun _ => ⟨[.bind ident type value span], by simp [Stmt.paths], rfl⟩, fun _ => .bind⟩

theorem allFallThrough_iff : ∀ as : List Stmt,
    AllFallThrough as ↔ ∃ p ∈ Stmt.pathsOfAll as, p.any Stmt.isReturn = false
  | [] => ⟨fun _ => ⟨[], by simp [Stmt.pathsOfAll], rfl⟩, fun _ => .nil⟩
  | a :: as => by
    rw [Stmt.exists_pathsOfAll_cons, ← fallsThrough_iff a, ← allFallThrough_iff as]
    refine ⟨fun falls => ?_, fun ⟨first, rest⟩ => .cons first rest⟩
    cases falls with
    | cons first rest => exact ⟨first, rest⟩

theorem conditionalFallsThrough_iff : ∀ c : Conditional,
    ConditionalFallsThrough c ↔ ∃ p ∈ c.paths, p.any Stmt.isReturn = false
  | .mk e block rest span => by
    rw [Conditional.paths, exists_mem_append_iff, ← allFallThrough_iff block,
      ← otherwiseFallsThrough_iff rest]
    refine ⟨fun falls => ?_, fun falls => falls.elim .holds .fails⟩
    cases falls with
    | holds falls => exact .inl falls
    | fails falls => exact .inr falls

/-- Control falls through what follows a block just when a path through it meets no `return`. -/
theorem otherwiseFallsThrough_iff : ∀ o : Otherwise,
    OtherwiseFallsThrough o ↔ ∃ p ∈ o.paths, p.any Stmt.isReturn = false
  | .nothing => ⟨fun _ => ⟨[], by simp [Otherwise.paths], rfl⟩, fun _ => .nothing⟩
  | .elseIf c => by
    rw [Otherwise.paths, ← conditionalFallsThrough_iff c]
    refine ⟨fun falls => ?_, .elseIf⟩
    cases falls with
    | elseIf falls => exact falls
  | .block block => by
    rw [Otherwise.paths, ← allFallThrough_iff block]
    refine ⟨fun falls => ?_, .block⟩
    cases falls with
    | block falls => exact falls

end

theorem all_return_iff {paths : List (List Stmt)} :
    (∀ p ∈ paths, ∃ a ∈ p, a.isReturn = true) ↔
      ¬ ∃ p ∈ paths, p.any Stmt.isReturn = false := by
  simp only [not_exists, not_and, Bool.not_eq_false, List.any_eq_true]

theorem Stmt.alwaysReturns_eq_false {a : Stmt} : a.alwaysReturns = false ↔ FallsThrough a := by
  simp [fallsThrough_iff, alwaysReturns]

/-! ## Blocks -/

/-- So many statements of a block may run at most: those up to the first all of whose
paths return, this one included. -/
def Stmt.liveCount (block : List Stmt) : Nat := block.findIdx Stmt.alwaysReturns + 1

/-- The statements of a block that no path comes to. -/
def Stmt.dead (block : List Stmt) : List Stmt := block.drop (Stmt.liveCount block)

/-- From the first statement of a block that no path comes to until its last. -/
def Stmt.deadSpan? (block : List Stmt) : Option Span := do
  let first ← (Stmt.dead block).head?
  let last ← block.getLast?
  return first.span.join last.span

mutual

/-- The blocks within a statement, each after those within it. -/
def Stmt.blocks : Stmt → List (List Stmt)
  | .expr _ => []
  | .cond c => c.blocks
  | .ret _ _ => []
  | .bind _ _ _ _ => []

/-- The blocks within some statements. -/
def Stmt.blocksOfAll : List Stmt → List (List Stmt)
  | [] => []
  | a :: as => a.blocks ++ Stmt.blocksOfAll as

/-- The blocks of a conditional, in the order of its branches. -/
def Conditional.blocks : Conditional → List (List Stmt)
  | .mk _ block rest _ => (Stmt.blocksOfAll block ++ [block]) ++ rest.blocks

/-- The blocks of what is done otherwise. -/
def Otherwise.blocks : Otherwise → List (List Stmt)
  | .nothing => []
  | .elseIf c => c.blocks
  | .block block => Stmt.blocksOfAll block ++ [block]

end

/-- All blocks of a function, each after those within it; the body is the last. -/
def FnDecl.blocks (d : FnDecl) : List (List Stmt) := Stmt.blocksOfAll d.body ++ [d.body]

end NominalScript.Syntax
