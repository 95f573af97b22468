import NominalScript.Text.Hidden

/-!
# How a message shows a character

A message names a character of the source between quotes.  `Text.shown` is what
stands there: a backslash spelling for the characters that would end or break
the line or the quotes, the code point for the other hidden ones, and the
character itself for all else.
-/

namespace NominalScript.Text

/-- The digits of a code point, in base sixteen without leading zeros. -/
def hexDigits (n : Nat) : List Char := Nat.toDigits 16 n

/-- The characters that have a backslash spelling, each with the letter of it. -/
def backslashLetter? : Char → Option Char
  | '\x00' => some '0'
  | '\t' => some 't'
  | '\r' => some 'r'
  | '\n' => some 'n'
  | '\'' => some '\''
  | '"' => some '"'
  | '\\' => some '\\'
  | _ => none

/-- The spelling of a character between the quotes of a message. -/
def shown (c : Char) : String :=
  match backslashLetter? c with
  | some letter => String.ofList ['\\', letter]
  | none =>
    if isHidden c then String.ofList ("\\u\x7b".toList ++ hexDigits c.toNat ++ "\x7d".toList)
    else String.singleton c

/-- A plain space is shown as itself, the space that forbids a break is not. -/
example : shown ' ' = " " ∧ shown '\u00a0' = "\\u\x7ba0\x7d" := by decide +kernel

end NominalScript.Text
