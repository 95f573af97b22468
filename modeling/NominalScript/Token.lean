import NominalScript.Location

/-!
# Tokens

A token is a kind together with the location of its first character and its
size.  Blanks and comments are tokens too, the *trivia*: whether a blank stands
between two tokens decides how some of them are read.
-/

namespace NominalScript

/-- The reserved words. -/
inductive Keyword where
  | kwFn
  | kwIf
  | kwElse
  | kwReturn
  | kwLet
  | kwStruct
deriving DecidableEq, Repr

/-- How a reserved word is spelt. -/
def Keyword.text : Keyword → String
  | .kwFn => "fn"
  | .kwIf => "if"
  | .kwElse => "else"
  | .kwReturn => "return"
  | .kwLet => "let"
  | .kwStruct => "struct"

/-- All reserved words. -/
def Keyword.all : List Keyword := [.kwFn, .kwIf, .kwElse, .kwReturn, .kwLet, .kwStruct]

/-- The reserved word of a spelling. -/
def Keyword.ofText? (word : String) : Option Keyword :=
  Keyword.all.find? fun k => k.text == word

/-- The blanks a text may hold between its words. -/
inductive Blank where
  | space
  | tab
  | newline
deriving DecidableEq, Repr

/-- What a token is. -/
inductive Kind where
  /-- A word that is not reserved. -/
  | ident (name : String)
  | leftParen
  | rightParen
  | leftBrace
  | rightBrace
  | colon
  | comma
  | period
  | keyword (word : Keyword)
  /-- A string literal, by the text it stands for. -/
  | str (value : String)
  | int (value : Int64)
  | blank (b : Blank)
  /-- A comment, without the two slashes that open it. -/
  | comment (text : String)
  /-- A run of operator characters. -/
  | op (text : String)
deriving DecidableEq, Repr

namespace Kind

/-- Blanks and comments. -/
def isTrivia : Kind → Bool
  | .blank _ => true
  | .comment _ => true
  | _ => false

/-- A blank of any sort; comments do not count. -/
def isBlank : Kind → Bool
  | .blank _ => true
  | _ => false

/-- How a message refers to a token of this kind. -/
def noun : Kind → String
  | .ident _ => "an ident"
  | .leftParen => "'('"
  | .rightParen => "')'"
  | .leftBrace => "'\x7b'"
  | .rightBrace => "'\x7d'"
  | .colon => "':'"
  | .comma => "','"
  | .period => "'.'"
  | .keyword word => "'" ++ word.text ++ "'"
  | .str _ => "a string literal"
  | .int _ => "an integer literal"
  | .blank .space => "a space"
  | .blank .tab => "a tab"
  | .blank .newline => "a newline"
  | .comment _ => "a comment"
  | .op text => "'" ++ text ++ "'"

/-- How a message refers to the next token, or to the end of the text. -/
def nounOrEnd : Option Kind → String
  | some k => k.noun
  | none => "an EOF"

end Kind

/-- A token: its kind, where it starts, and its extent. -/
structure Token where
  kind : Kind
  start : Location
  size : Size
deriving DecidableEq, Repr

/-- The location just after the last character. -/
def Token.stop (t : Token) : Location := t.start.plus t.size

/-- The stretch a token takes up. -/
def Token.span (t : Token) : Span := t.start.until t.stop

/-! ## Reserved words and their spellings -/

theorem Keyword.ofText?_text (k : Keyword) : Keyword.ofText? k.text = some k := by
  cases k <;> rfl

theorem Keyword.text_of_ofText? {word : String} {k : Keyword}
    (h : Keyword.ofText? word = some k) : k.text = word := by
  simpa using List.find?_some h

end NominalScript
