import NominalScript.Proofs.Parse.Rounds

/-!
# Reading makes progress

Whatever tokens a parser is given, from a text or not, whole or cut off anywhere, and wherever
among them it starts, it comes to an end.

* The parsers of the parts of a program take at least one token when they succeed, and no
  parser moves back or beyond the last token (`Advances`, `Stays`).
* Each loop and each recursion goes round again with fewer tokens left than before, so it does
  so no more often than there are tokens, and the bounds that they are written with are never
  reached before that (`LoopsEnd`).
* Reading a program ends behind the last token, or with an error where one of the tokens starts
  or the last one ends.
-/

namespace NominalScript.Syntax

open NominalScript.Syntax.Parser

/-- The parsers that take a token when they succeed. -/
structure Advances (tokens : List Token) : Prop where
  structDecl : Moves tokens 1 structDecl
  fnDecl : Moves tokens 1 fnDecl
  typedName : Moves tokens 1 typedName
  block : Moves tokens 1 (block statement)
  statement : Moves tokens 1 statement
  returnValue : Moves tokens 1 returnValue
  binding : ∀ start, Moves tokens 1 (binding start)
  conditional : Moves tokens 1 conditional
  arguments : Moves tokens 1 (delimited .leftParen .rightParen (expression .literal))
  fieldInits : Moves tokens 1 (do
    let _ ← skipTrivia
    delimited .leftBrace .rightBrace (fieldInit (expression .literal)))
  fieldInit : Moves tokens 1 (fieldInit (expression .literal))
  expression : ∀ role, Moves tokens 1 (expression role)
  expect : ∀ kind, Moves tokens 1 (expect kind)
  expectIdent : Moves tokens 1 expectIdent

/-- The parsers that may take no token, but do not move back or beyond the last one either. -/
structure Stays (tokens : List Token) : Prop where
  next : Moves tokens 0 next
  skipTrivia : Moves tokens 0 skipTrivia
  skipToLineEnd : Moves tokens 0 skipToLineEnd
  skipComma : Moves tokens 0 skipComma
  expectBlank : Moves tokens 0 expectBlank
  expectNewline : Moves tokens 0 expectNewline
  named : ∀ role t name, Moves tokens 0 (named expression role t name)
  primary : ∀ role, ∀ t ∈ tokens, Moves tokens 0 (primary expression role t)
  members : ∀ start rounds e, Moves tokens 0 (members start rounds e)
  operation : ∀ role start e, Moves tokens 0 (operation (expression role) start e)
  annotation : Moves tokens 0 annotation
  otherwise : Moves tokens 0 (otherwise conditional)
  returnType : Moves tokens 0 returnType
  program : Moves tokens 0 program

/-- The loops and recursions, each with its round. -/
structure LoopsEnd (tokens : List Token) : Prop where
  skipTrivia : skipTrivia = skipFurther ⟨false, false⟩
  trivia : Terminates tokens triviaRound skipFurther
  lineEnd : Terminates tokens lineEndRound fun _ => skipToLineEnd
  typedNames : ∀ close, Terminates tokens (itemsRound close typedName)
    fun _ c => items close typedName c.rest.length c
  arguments : Terminates tokens (itemsRound .rightParen (expression .literal))
    fun _ c => items .rightParen (expression .literal) c.rest.length c
  fieldInits : Terminates tokens (itemsRound .rightBrace (fieldInit (expression .literal)))
    fun _ c => items .rightBrace (fieldInit (expression .literal)) c.rest.length c
  members : ∀ start, Terminates tokens (membersRound start)
    fun e c => members start c.rest.length e c
  expression : Terminates tokens expressionRound expression
  statements : Terminates tokens (statementsRound statement)
    fun _ c => statements statement c.rest.length c
  conditional : Terminates tokens conditionalRound fun _ => conditional
  declarations : Terminates tokens declarationsRound fun _ c => declarations c.rest.length c

variable {tokens : List Token}

/-- Each of these parsers takes a token or fails. -/
theorem advances : Advances tokens where
  structDecl := structDecl_moves
  fnDecl := fnDecl_moves
  typedName := typedName_moves
  block := block_moves statement_moves.inside
  statement := statement_moves
  returnValue := returnValue_moves
  binding := binding_moves
  conditional := conditional_moves
  expression := expression_moves
  arguments := delimited_moves (expression_moves .literal).inside _ _
  fieldInits := by
    have each : Moves tokens 1 (fieldInit (expression .literal)) :=
      fieldInit_moves (expression_moves .literal).inside
    exact skipTrivia_moves.before fun _ => delimited_moves each.inside _ _
  fieldInit := fieldInit_moves (expression_moves .literal).inside
  expect := expect_moves
  expectIdent := expectIdent_moves

/-- Each of these parsers may end where it started, but none moves back or beyond the last
token. -/
theorem stays : Stays tokens where
  next := next_moves
  skipTrivia := skipTrivia_moves
  skipToLineEnd := skipToLineEnd_moves
  skipComma := skipComma_moves
  expectBlank := expectBlank_moves
  expectNewline := expectNewline_moves
  named := named_moves fun role => (expression_moves role).inside
  primary := by
    intro role t mem
    rcases List.getElem?_of_mem mem with ⟨i, token⟩
    exact primary_moves (fun role => (expression_moves role).inside) role token
  members := members_moves
  operation := fun role => operation_moves (expression_moves role).inside
  annotation := annotation_moves
  otherwise := otherwise_moves conditional_moves.inside
  returnType := returnType_moves
  program := program_moves

/-- Each loop or recursion ends by the same argument: its rounds shrink, for each takes a token. -/
theorem loopsEnd : LoopsEnd tokens where
  skipTrivia := skipTrivia_eq
  trivia := trivia_terminates
  lineEnd := lineEnd_terminates
  typedNames := items_terminates typedName_moves
  arguments := items_terminates (expression_moves .literal) _
  fieldInits := items_terminates (fieldInit_moves (expression_moves .literal).inside) _
  members := members_terminates
  expression := expression_terminates
  statements := statements_terminates statement_moves
  conditional := conditional_terminates
  declarations := declarations_terminates

/-- Reading any list of tokens makes progress and ends.  The parsers of the parts of a program
take a token, no parser moves beyond the last, each loop ends after a round for each token left
and one more, and the whole either reads to the end or fails at one of the tokens. -/
theorem Program.parse_progress (tokens : List Token) :
    Advances tokens ∧ Stays tokens ∧ LoopsEnd tokens ∧
      ((∃ p, Program.parse tokens = .ok p ∧
          program ⟨tokens, .origin⟩ = .ok (p, .past tokens tokens.length)) ∨
        ∃ e, ∃ i ≤ tokens.length, Program.parse tokens = .error e ∧
          e.location = (Cursor.past tokens i).here) := by
  refine ⟨advances, stays, loopsEnd, ?_⟩
  have lands := program_lands (Nat.zero_le tokens.length)
  change Lands tokens tokens.length (program ⟨tokens, .origin⟩) at lands
  unfold Program.parse StateT.run
  generalize program ⟨tokens, .origin⟩ = r at lands
  cases lands with
  | ok reached inside =>
    rw [Nat.le_antisymm inside reached]
    exact .inl ⟨_, rfl, rfl⟩
  | error inside located => exact .inr ⟨_, _, inside, rfl, located⟩

/-- A declaration that is cut off behind its name. -/
example :
    let tokens : List Token :=
      [⟨.keyword .kwFn, .origin, ⟨1, 2⟩⟩, ⟨.blank .space, ⟨1, 3⟩, ⟨1, 1⟩⟩,
        ⟨.ident "f", ⟨1, 4⟩, ⟨1, 1⟩⟩]
    Program.parse tokens = .error ⟨.expected .leftParen none, (Cursor.past tokens 3).here⟩ :=
  rfl

end NominalScript.Syntax
