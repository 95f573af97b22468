import NominalScript.Token
import NominalScript.Text.Shown

/-!
# Lexemes

A lexeme is the piece of text that one token is written with.  `Lexeme.first`
cuts the first lexeme off a text that is not empty; what it returns carries the
proof that nothing is lost, so that a text is the concatenation of its lexemes.

Words, numbers and operators are as long as their characters go on; a comment
ends before the line does; a string ends at the first quote that no backslash
stands before.
-/

namespace NominalScript

/-! ## Classes of characters -/

/-- May a word start with it? -/
def Text.startsWord (c : Char) : Bool := c.isAlpha || c == '_'

/-- May a word go on with it? -/
def Text.continuesWord (c : Char) : Bool := Text.startsWord c || c.isDigit

/-- The characters that operators are made of. -/
def Text.operatorChars : List Char :=
  ['+', '-', '*', '/', '>', '<', '=', '!', '%', '^', '&', '|', '?', '~']

/-- Is it part of an operator? -/
def Text.isOperator (c : Char) : Bool := Text.operatorChars.contains c

/-- Is it part of a comment, which ends before a line feed or carriage return? -/
def Text.inComment (c : Char) : Bool := c != '\n' && c != '\r'

/-- The kinds of token that are one fixed character. -/
def Kind.ofChar? : Char → Option Kind
  | '(' => some .leftParen
  | ')' => some .rightParen
  | '\x7b' => some .leftBrace
  | '\x7d' => some .rightBrace
  | ':' => some .colon
  | ',' => some .comma
  | '.' => some .period
  | ' ' => some (.blank .space)
  | '\t' => some (.blank .tab)
  | '\n' => some (.blank .newline)
  | _ => none

/-! ## Faults -/

/-- Why a text cannot be cut into tokens. -/
inductive LexFault where
  | unexpected (c : Char)
  | invalidEscape (c : Char)
  | unterminatedString
  | integerOutOfRange (digits : String)
deriving DecidableEq, Repr

/-- The message of a fault. -/
def LexFault.message : LexFault → String
  | .unexpected c => "Unexpected character '" ++ Text.shown c ++ "'"
  | .invalidEscape c => "Invalid escape sequence '\\" ++ Text.shown c ++ "'"
  | .unterminatedString => "Unterminated string literal"
  | .integerOutOfRange digits => "Integer literal '" ++ digits ++ "' is out of range"

/-- A fault, and the characters of the lexeme that stand before the place it is
reported at. -/
structure Lexeme.Failure where
  fault : LexFault
  skipped : List Char
deriving DecidableEq, Repr

/-! ## String literals -/

/-- What the character after a backslash stands for. -/
def unescape? : Char → Option Char
  | '\\' => some '\\'
  | '"' => some '"'
  | 'n' => some '\n'
  | 't' => some '\t'
  | 'r' => some '\r'
  | '0' => some '\x00'
  | _ => none

/-- The inside of a string literal: its value, the characters it is written with
up to and including the closing quote, and what comes after. -/
structure Quoted where
  value : List Char
  text : List Char
  rest : List Char
deriving DecidableEq, Repr

/-- Why the inside of a string literal cannot be read. -/
inductive Quoted.Fault where
  | unterminated
  /-- A backslash before `c`, after the characters `before`. -/
  | invalidEscape (before : List Char) (c : Char)
deriving DecidableEq, Repr

/-- Put one written piece, which stands for the character `v`, in front. -/
def Quoted.cons (v : Char) (piece : List Char) :
    Except Quoted.Fault Quoted → Except Quoted.Fault Quoted
  | .ok q => .ok ⟨v :: q.value, piece ++ q.text, q.rest⟩
  | .error .unterminated => .error .unterminated
  | .error (.invalidEscape before c) => .error (.invalidEscape (piece ++ before) c)

/-- Read what follows an opening quote.  A carriage return, alone or with the
line feed after it, stands for one line feed. -/
def Quoted.read : List Char → Except Quoted.Fault Quoted
  | [] => .error .unterminated
  | c :: cs =>
    if c = '"' then .ok ⟨[], ['"'], cs⟩
    else if c = '\\' then
      match cs with
      | [] => .error .unterminated
      | e :: cs =>
        match unescape? e with
        | none => .error (.invalidEscape [] e)
        | some v => Quoted.cons v ['\\', e] (Quoted.read cs)
    else if c = '\r' then
      match cs with
      | '\n' :: cs => Quoted.cons '\n' ['\r', '\n'] (Quoted.read cs)
      | cs => Quoted.cons '\n' ['\r'] (Quoted.read cs)
    else Quoted.cons c [c] (Quoted.read cs)

theorem Quoted.cons_eq_ok {v : Char} {piece : List Char} {r : Except Quoted.Fault Quoted}
    {q : Quoted} (h : Quoted.cons v piece r = .ok q) :
    ∃ q', r = .ok q' ∧ q = ⟨v :: q'.value, piece ++ q'.text, q'.rest⟩ := by
  match r, h with
  | .ok q', h => exact ⟨q', rfl, by simpa [Quoted.cons, eq_comm] using h⟩
  | .error .unterminated, h => simp [Quoted.cons] at h
  | .error (.invalidEscape b c), h => simp [Quoted.cons] at h

/-- Reading a string loses no character. -/
theorem Quoted.split {cs : List Char} {q : Quoted} (h : Quoted.read cs = .ok q) :
    q.text ++ q.rest = cs := by
  fun_induction Quoted.read cs generalizing q with
  | case1 => cases h
  | case2 => cases h; rfl
  | case3 => cases h
  | case4 => cases h
  | case5 _ _ _ _ _ ih => obtain ⟨_, hr, rfl⟩ := Quoted.cons_eq_ok h; simp [ih hr]
  | case6 _ _ _ ih => obtain ⟨_, hr, rfl⟩ := Quoted.cons_eq_ok h; simp [ih hr]
  | case7 _ _ _ _ ih => obtain ⟨_, hr, rfl⟩ := Quoted.cons_eq_ok h; simp [ih hr]
  | case8 _ _ _ _ _ ih => obtain ⟨_, hr, rfl⟩ := Quoted.cons_eq_ok h; simp [ih hr]

/-! ## Integer literals -/

/-- The number that decimal digits stand for. -/
def decimalValue (digits : List Char) : Nat :=
  digits.foldl (fun n c => 10 * n + (c.toNat - '0'.toNat)) 0

/-- The largest integer literal. -/
def maxInteger : Nat := 9223372036854775807

/-! ## The first lexeme of a text -/

/-- The first lexeme of a text: the kind of its token, the characters it is
written with, and what comes after them. -/
structure Lexeme (chars : List Char) where
  kind : Kind
  text : List Char
  rest : List Char
  split : text ++ rest = chars
  nonempty : text ≠ []

theorem Lexeme.length_rest {chars : List Char} (x : Lexeme chars) :
    x.rest.length < chars.length := by
  have h := congrArg List.length x.split
  have := List.length_pos_iff.2 x.nonempty
  simp at h
  omega

/-- The kind of a word: reserved or not. -/
def Kind.ofWord (word : String) : Kind :=
  match Keyword.ofText? word with
  | some k => .keyword k
  | none => .ident word

/-- The lexeme that goes on while a class of characters lasts. -/
def Lexeme.run (kind : List Char → Kind) (p : Char → Bool) (c : Char) (cs : List Char) :
    Lexeme (c :: cs) where
  kind := kind (c :: cs.takeWhile p)
  text := c :: cs.takeWhile p
  rest := cs.dropWhile p
  split := by simp
  nonempty := by simp

/-- The string literal that a quote opens. -/
def Lexeme.string (quote : Char) (cs : List Char) :
    Except Lexeme.Failure (Lexeme (quote :: cs)) :=
  match h : Quoted.read cs with
  | .ok q =>
    .ok ⟨.str (String.ofList q.value), quote :: q.text, q.rest, by simp [Quoted.split h], by simp⟩
  | .error .unterminated => .error ⟨.unterminatedString, []⟩
  | .error (.invalidEscape before e) => .error ⟨.invalidEscape e, quote :: before⟩

/-- An integer literal, if it is not too large. -/
def Lexeme.integer (c : Char) (cs : List Char) : Except Lexeme.Failure (Lexeme (c :: cs)) :=
  let digits := c :: cs.takeWhile Char.isDigit
  if decimalValue digits ≤ maxInteger then
    .ok (Lexeme.run (fun ds => .int (Int64.ofNat (decimalValue ds))) Char.isDigit c cs)
  else .error ⟨.integerOutOfRange (String.ofList digits), []⟩

/-- The first lexeme of a text that starts with `c`. -/
def Lexeme.first (c : Char) (cs : List Char) : Except Lexeme.Failure (Lexeme (c :: cs)) :=
  match Kind.ofChar? c with
  | some kind => .ok ⟨kind, [c], cs, rfl, by simp⟩
  | none =>
    if c = '"' then Lexeme.string c cs
    else if c.isDigit then Lexeme.integer c cs
    else if Text.startsWord c then
      .ok (Lexeme.run (fun word => .ofWord (String.ofList word)) Text.continuesWord c cs)
    else if c = '/' ∧ cs.head? = some '/' then
      .ok (Lexeme.run (fun text => .comment (String.ofList (text.drop 2))) Text.inComment c cs)
    else if Text.isOperator c then
      .ok (Lexeme.run (fun text => .op (String.ofList text)) Text.isOperator c cs)
    else if h : c = '\r' ∧ cs.head? = some '\n' then
      .ok ⟨.blank .newline, [c, '\n'], cs.tail, by
        obtain ⟨t, rfl⟩ := List.head?_eq_some_iff.1 h.2
        rfl, by simp⟩
    else .error ⟨.unexpected c, []⟩

end NominalScript
