import NominalScript.Diagnostic
import NominalScript.Syntax
import NominalScript.Token

/-!
# Reading tokens one after the other

A `Cursor` is the tokens still to be read, and where the last one that was read
ends.  A `Parser` reads some tokens off a cursor and either succeeds or stops
with a `ParseError`.  The parsers of this module are the steps all others are
made of: look at the next token, take it, skip trivia, and insist on a kind.
-/

namespace NominalScript.Syntax

/-! ## Errors -/

/-- Why tokens cannot be read as a program. -/
inductive ParseFault where
  | expected (kind : Kind) (got : Option Kind)
  | expectedIdent (got : Option Kind)
  | expectedBlank (got : Option Kind)
  | expectedNewline (got : Option Kind)
  | expectedBranch (got : Option Kind)
  | expectedExpr (got : Kind)
  | endInExpr
  | unexpectedAtTop (got : Kind)
  /-- An operator before its operand, with trivia between the two. -/
  | detachedOperator
  /-- An operator between operands, with a blank on one side only. -/
  | lopsidedOperator
deriving DecidableEq, Repr

/-- The message of a fault. -/
def ParseFault.message : ParseFault → String
  | .expected kind got => "Expected " ++ kind.noun ++ ", got " ++ Kind.nounOrEnd got
  | .expectedIdent got => "Expected an ident, got " ++ Kind.nounOrEnd got
  | .expectedBlank got => "Expected whitespace, got " ++ Kind.nounOrEnd got
  | .expectedNewline got => "Expected a newline, got " ++ Kind.nounOrEnd got
  | .expectedBranch got => "Expected 'if' or '\x7b', got " ++ Kind.nounOrEnd got
  | .expectedExpr got => "Expected an expression, got " ++ got.noun
  | .endInExpr => "Unexpected EOF while parsing expression"
  | .unexpectedAtTop got =>
    "Unexpected token " ++ got.noun ++ " while parsing top-level declarations"
  | .detachedOperator => "A prefix unary operator must not be separated from its operand"
  | .lopsidedOperator =>
    "A binary operator must either have whitespace on both sides or none at all"

/-- A fault, and where it is. -/
structure ParseError where
  fault : ParseFault
  location : Location
deriving DecidableEq, Repr

/-- The error as a diagnostic. -/
def ParseError.diagnostic (e : ParseError) : Diagnostic :=
  .errorAt e.fault.message e.location

/-! ## Cursors -/

/-- The tokens still to be read, and the end of the last one that was. -/
structure Cursor where
  rest : List Token
  lastEnd : Location
deriving DecidableEq, Repr

namespace Cursor

/-- The kind of the next token. -/
def kind? (c : Cursor) : Option Kind := c.rest.head?.map Token.kind

/-- Where the next token starts, or else where the last one ends. -/
def here (c : Cursor) : Location :=
  match c.rest with
  | t :: _ => t.start
  | [] => c.lastEnd

/-- The cursor after the leading tokens of a class of kinds. -/
def afterRun (p : Kind → Bool) : List Token → Location → Cursor
  | [], lastEnd => ⟨[], lastEnd⟩
  | t :: rest, lastEnd => if p t.kind then afterRun p rest t.stop else ⟨t :: rest, lastEnd⟩

/-- Read past tokens while a class of kinds lasts. -/
def skipWhile (p : Kind → Bool) (c : Cursor) : Cursor := afterRun p c.rest c.lastEnd

/-- The kind of the next token that is not trivia. -/
def kindPastTrivia? (c : Cursor) : Option Kind :=
  (c.rest.find? fun t => !t.kind.isTrivia).map Token.kind

/-- The trivia right ahead. -/
def trivia (c : Cursor) : List Token := c.rest.takeWhile fun t => t.kind.isTrivia

end Cursor

/-! ## Parsers -/

/-- Reads tokens off a cursor. -/
abbrev Parser (α : Type) := StateT Cursor (Except ParseError) α

namespace Parser

/-- Stop with an error at a location. -/
def fail {α : Type} (fault : ParseFault) (l : Location) : Parser α :=
  fun _ => .error ⟨fault, l⟩

/-- The kind of the next token, which is not taken. -/
def peek : Parser (Option Kind) := fun c => .ok (c.kind?, c)

/-- The kind of the next token that is not trivia; nothing is taken. -/
def peekPastTrivia : Parser (Option Kind) := fun c => .ok (c.kindPastTrivia?, c)

/-- Where the next token starts. -/
def here : Parser Location := fun c => .ok (c.here, c)

/-- The span from a location until the end of the last token read. -/
def spanFrom (start : Location) : Parser Span := fun c => .ok (start.until c.lastEnd, c)

/-- Take the next token. -/
def next : Parser (Option Token) := fun c =>
  match c.rest with
  | t :: rest => .ok (some t, ⟨rest, t.stop⟩)
  | [] => .ok (none, c)

/-- What was skipped: a blank of any sort, and a newline. -/
structure Skipped where
  blank : Bool
  newline : Bool
deriving DecidableEq, Repr

/-- Skip the trivia ahead. -/
def skipTrivia : Parser Skipped := fun c =>
  .ok (⟨c.trivia.any (·.kind.isBlank), c.trivia.any (·.kind == .blank .newline)⟩,
    c.skipWhile Kind.isTrivia)

/-- Skip the trivia ahead up to the end of the line. -/
def skipToLineEnd : Parser Unit := fun c =>
  .ok ((), c.skipWhile fun k => k.isTrivia && k != .blank .newline)

/-- Insist on a token of a kind. -/
def expect (kind : Kind) : Parser Unit := do
  let l ← here
  let t ← next
  if t.map Token.kind = some kind then return ()
  else fail (.expected kind (t.map Token.kind)) l

/-- Insist on a name. -/
def expectIdent : Parser Ident := do
  let l ← here
  match ← next with
  | some ⟨.ident name, _, _⟩ => return ⟨name, ← spanFrom l⟩
  | t => fail (.expectedIdent (t.map Token.kind)) l

/-- Skip trivia and insist on a blank in it, as after a reserved word. -/
def expectBlank : Parser Unit := do
  let skipped ← skipTrivia
  if skipped.blank then return ()
  else fail (.expectedBlank (← peek)) (← here)

/-- Skip trivia and insist on a newline in it, as after a statement; the last
statement of a block needs none. -/
def expectNewline : Parser Unit := do
  let skipped ← skipTrivia
  let k ← peek
  if skipped.newline ∨ k = some .rightBrace then return ()
  else fail (.expectedNewline k) (← here)

/-- Skip trivia, a comma if there is one, and the trivia after it; tells whether
there was a comma. -/
def skipComma : Parser Bool := do
  let _ ← skipTrivia
  if (← peek) = some .comma then
    let _ ← next
    let _ ← skipTrivia
    return true
  else return false

/-! ## Repetition

Each item takes at least one token, so as many rounds as there are tokens left
are enough. -/

/-- Items with commas between, up to the closing kind; a comma may follow the
last of them. -/
def items {α : Type} (close : Kind) (item : Parser α) : Nat → Parser (List α)
  | 0 => pure []
  | rounds + 1 => do
    let k ← peek
    if k = none ∨ k = some close then return []
    else
      let a ← item
      if ← skipComma then return a :: (← items close item rounds)
      else return [a]

/-- Items with commas between, inside an opening and a closing token. -/
def delimited {α : Type} (opening close : Kind) (item : Parser α) : Parser (List α) := do
  expect opening
  let _ ← skipTrivia
  let as ← items close item (← get).rest.length
  expect close
  return as

end Parser

end NominalScript.Syntax
