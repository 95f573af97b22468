import NominalScript.Token.Lexeme
import NominalScript.Diagnostic

/-!
# Cutting a text into tokens

`Token.scan` cuts a text into its tokens, trivia included, and stops at the
first lexeme that cannot be completed.  Each token starts where the lexemes
before it end, so locations need no state of their own: they are
`Location.advance` of the characters already cut off.
-/

namespace NominalScript

/-- The fault that stopped the cutting, and where it is. -/
structure LexError where
  fault : LexFault
  location : Location
deriving DecidableEq, Repr

/-- The error as a diagnostic. -/
def LexError.diagnostic (e : LexError) : Diagnostic :=
  .errorAt e.fault.message e.location

/-- The tokens of a text whose first character stands at `l`. -/
def Token.scanFrom (l : Location) : List Char → Except LexError (List Token)
  | [] => .ok []
  | c :: cs =>
    match Lexeme.first c cs with
    | .error failure => .error ⟨failure.fault, l.advance failure.skipped⟩
    | .ok x =>
      match Token.scanFrom (l.advance x.text) x.rest with
      | .error e => .error e
      | .ok tokens => .ok (⟨x.kind, l, Size.of x.text⟩ :: tokens)
termination_by chars => chars.length
decreasing_by exact x.length_rest

/-- The tokens of a source text. -/
def Token.scan (source : String) : Except LexError (List Token) :=
  Token.scanFrom .origin source.toList

end NominalScript
