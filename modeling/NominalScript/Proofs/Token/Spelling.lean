import Mathlib.Algebra.Group.Nat.Defs
import NominalScript.Token.Lexeme

/-!
# How tokens are written

`Kind.Writes k text` says how a token of kind `k` may be written, and
`Kind.EndsBefore k rest` that the text after it does not carry it on: words, numbers,
operators and comments are as long as they can be.  `LexFault.Found` says what stands in
a text where a token cannot be written to its end.

`Quoted.Stands` is the relation between the inside of a string literal and its value;
reading a string literal decides it, and when it fails it tells what was read so far.
-/

namespace NominalScript

/-! ## How tokens are written -/

/-- The characters that are tokens by themselves. -/
def marks : List (Char × Kind) :=
  [('(', .leftParen), (')', .rightParen), ('\x7b', .leftBrace), ('\x7d', .rightBrace),
    (':', .colon), (',', .comma), ('.', .period), (' ', .blank .space), ('\t', .blank .tab),
    ('\n', .blank .newline)]

/-- What may follow a backslash in a string, and what the two stand for. -/
def escapes : List (Char × Char) :=
  [('\\', '\\'), ('"', '"'), ('n', '\n'), ('t', '\t'), ('r', '\r'), ('0', '\x00')]

/-- The inside of a string literal as it is written, and its value.  A carriage return
is read as a line feed, together with the line feed after it if there is one. -/
inductive Quoted.Stands : List Char → List Char → Prop
  | nil : Stands [] []
  | plain {c : Char} {text value : List Char} :
    c ≠ '"' → c ≠ '\\' → c ≠ '\r' → Stands text value → Stands (c :: text) (c :: value)
  | escape {e c : Char} {text value : List Char} :
    (e, c) ∈ escapes → Stands text value → Stands ('\\' :: e :: text) (c :: value)
  | crlf {text value : List Char} :
    Stands text value → Stands ('\r' :: '\n' :: text) ('\n' :: value)
  | cr {text value : List Char} :
    text.head? ≠ some '\n' → Stands text value → Stands ('\r' :: text) ('\n' :: value)

/-- A word: a letter or underscore, then letters, digits and underscores. -/
def Text.isWord : List Char → Bool
  | [] => false
  | c :: cs => Text.startsWord c && cs.all Text.continuesWord

/-- A run of operator characters that does not start a comment. -/
def Text.isOperatorRun (text : List Char) : Bool :=
  !text.isEmpty && text.all Text.isOperator && !(['/', '/'].isPrefixOf text)

/-- A token of the kind may be written as the text. -/
inductive Kind.Writes : Kind → List Char → Prop
  | mark {c : Char} {k : Kind} : (c, k) ∈ marks → Writes k [c]
  | crlf : Writes (.blank .newline) ['\r', '\n']
  | ident {text : List Char} :
    Text.isWord text = true → (∀ k : Keyword, k.text ≠ String.ofList text) →
    Writes (.ident (String.ofList text)) text
  | keyword {k : Keyword} : Writes (.keyword k) k.text.toList
  | int {value : Int64} {text : List Char} :
    text ≠ [] → (∀ c ∈ text, c.isDigit = true) → Nat.ofDigitChars 10 text 0 < 2 ^ 63 →
    value.toInt = Nat.ofDigitChars 10 text 0 → Writes (.int value) text
  | str {text value : List Char} :
    Quoted.Stands text value → Writes (.str (String.ofList value)) ('"' :: (text ++ ['"']))
  | comment {text : List Char} :
    (∀ c ∈ text, Text.inComment c = true) →
    Writes (.comment (String.ofList text)) ('/' :: '/' :: text)
  | op {text : List Char} :
    Text.isOperatorRun text = true → Writes (.op (String.ofList text)) text

/-- Would a token of the kind go on with the character? -/
def Kind.continues : Kind → Char → Bool
  | .ident _ => Text.continuesWord
  | .keyword _ => Text.continuesWord
  | .int _ => Char.isDigit
  | .op _ => Text.isOperator
  | .comment _ => Text.inComment
  | _ => fun _ => false

/-- A token of the kind is not carried on by the text after it. -/
def Kind.EndsBefore (k : Kind) (rest : List Char) : Prop :=
  ∀ c, rest.head? = some c → k.continues c = false

/-- No token is written at the start of the text. -/
def Text.Unwritten (text : List Char) : Prop :=
  ∀ (k : Kind) (lexeme rest : List Char), lexeme ++ rest = text → k.Writes lexeme →
    ¬ k.EndsBefore rest

/-- A fault is found in the lexeme at the start of a text, behind the characters of it
that are skipped. -/
inductive LexFault.Found : LexFault → List Char → List Char → Prop
  | unexpected {c : Char} {cs : List Char} : Found (.unexpected c) (c :: cs) []
  | unterminated {text value tail : List Char} :
    Quoted.Stands text value → tail = [] ∨ tail = ['\\'] →
    Found .unterminatedString ('"' :: (text ++ tail)) []
  | invalidEscape {text value rest : List Char} {e : Char} :
    Quoted.Stands text value → (∀ c, (e, c) ∉ escapes) →
    Found (.invalidEscape e) ('"' :: (text ++ '\\' :: e :: rest)) ('"' :: text)
  | integerOutOfRange {digits rest : List Char} :
    digits ≠ [] → (∀ c ∈ digits, c.isDigit = true) →
    (∀ c, rest.head? = some c → c.isDigit = false) →
    2 ^ 63 ≤ Nat.ofDigitChars 10 digits 0 →
    Found (.integerOutOfRange (String.ofList digits)) (digits ++ rest) []

/-! ## Classes of characters

The classes that lexemes start with are disjoint. -/

theorem mem_marks_iff {c : Char} {k : Kind} : (c, k) ∈ marks ↔ Kind.ofChar? c = some k := by
  unfold Kind.ofChar?
  split <;> simp_all [marks, eq_comm]

theorem mem_escapes_iff {e c : Char} : (e, c) ∈ escapes ↔ unescape? e = some c := by
  unfold unescape?
  split <;> simp_all [escapes, eq_comm]

/-- What a character that is a token by itself is not. -/
theorem Text.classes_of_mark {c : Char} {k : Kind} (mark : Kind.ofChar? c = some k) :
    Text.startsWord c = false ∧ c.isDigit = false ∧ Text.isOperator c = false := by
  have all : ∀ m ∈ marks, Text.startsWord m.1 = false ∧ m.1.isDigit = false ∧
      Text.isOperator m.1 = false := by decide
  exact all (c, k) (mem_marks_iff.2 mark)

/-- What an operator character is not. -/
theorem Text.classes_of_isOperator {c : Char} (operator : Text.isOperator c = true) :
    Text.startsWord c = false ∧ c.isDigit = false ∧ c ≠ '"' := by
  have all : Text.operatorChars.all (fun c => !Text.startsWord c && (!c.isDigit && c != '"')) := by
    decide
  have plain := List.all_eq_true.1 all c (by simpa [Text.isOperator] using operator)
  simpa using plain

/-- No digit is a letter or an underscore. -/
theorem Text.not_startsWord_of_isDigit {c : Char} (digit : c.isDigit = true) :
    Text.startsWord c = false := by
  simp only [Char.isDigit, Bool.and_eq_true, decide_eq_true_eq] at digit
  have noUnderscore : c ≠ '_' := by
    rintro rfl
    exact absurd digit.2 (by decide)
  have noUpper : c.isUpper = false := by
    refine Bool.eq_false_iff.2 fun upper => ?_
    have bounds : 65 ≤ c.val ∧ c.val ≤ 90 := of_decide_eq_true upper
    exact absurd (UInt32.le_trans bounds.1 digit.2) (by decide)
  have noLower : c.isLower = false := by
    refine Bool.eq_false_iff.2 fun lower => ?_
    have atLeast : 97 ≤ c.val := of_decide_eq_true (Bool.and_eq_true_iff.1 lower).1
    exact absurd (UInt32.le_trans atLeast digit.2) (by decide)
  change (c.isUpper || c.isLower || c == '_') = false
  simp [noUpper, noLower, noUnderscore]

/-! ## Strings -/

namespace Quoted

theorem read_quote (cs : List Char) : Quoted.read ('"' :: cs) = .ok ⟨[], ['"'], cs⟩ := by
  rw [Quoted.read.eq_def]
  simp

theorem read_plain {c : Char} (cs : List Char) (noQuote : c ≠ '"') (noEscape : c ≠ '\\')
    (noReturn : c ≠ '\r') : Quoted.read (c :: cs) = Quoted.cons c [c] (Quoted.read cs) := by
  rw [Quoted.read.eq_def]
  simp [noQuote, noEscape, noReturn]

theorem read_escape {e c : Char} (cs : List Char) (known : (e, c) ∈ escapes) :
    Quoted.read ('\\' :: e :: cs) = Quoted.cons c ['\\', e] (Quoted.read cs) := by
  rw [Quoted.read.eq_def]
  simp [mem_escapes_iff.1 known]

theorem read_crlf (cs : List Char) :
    Quoted.read ('\r' :: '\n' :: cs) = Quoted.cons '\n' ['\r', '\n'] (Quoted.read cs) := by
  rw [Quoted.read.eq_def]
  simp

theorem read_cr {cs : List Char} (other : cs.head? ≠ some '\n') :
    Quoted.read ('\r' :: cs) = Quoted.cons '\n' ['\r'] (Quoted.read cs) := by
  rw [Quoted.read.eq_def]
  cases cs with
  | nil => simp
  | cons d cs =>
    have noNewline : d ≠ '\n' := by simpa using other
    simp [noNewline]

/-- A carriage return is read alone only if the text after it starts with no line
feed. -/
theorem head?_ne_newline {text tail cs : List Char} (split : text ++ tail = cs)
    (other : ∀ cs', cs = '\n' :: cs' → False) : text.head? ≠ some '\n' := by
  intro starts
  obtain ⟨text', rfl⟩ := List.head?_eq_some_iff.1 starts
  exact other _ split.symm

/-- What is read as a string literal is written as one. -/
theorem stands_of_read {cs : List Char} {q : Quoted} (read : Quoted.read cs = .ok q) :
    ∃ text, q.text = text ++ ['"'] ∧ Stands text q.value := by
  fun_induction Quoted.read cs generalizing q with
  | case1 => cases read
  | case2 =>
    cases read
    exact ⟨[], rfl, .nil⟩
  | case3 => cases read
  | case4 => cases read
  | case5 e cs v known _ ih =>
    obtain ⟨q', inside, rfl⟩ := Quoted.cons_eq_ok read
    obtain ⟨text, written, stands⟩ := ih inside
    exact ⟨'\\' :: e :: text, by simp [written], .escape (mem_escapes_iff.2 known) stands⟩
  | case6 cs _ _ ih =>
    obtain ⟨q', inside, rfl⟩ := Quoted.cons_eq_ok read
    obtain ⟨text, written, stands⟩ := ih inside
    exact ⟨'\r' :: '\n' :: text, by simp [written], .crlf stands⟩
  | case7 cs other _ _ ih =>
    obtain ⟨q', inside, rfl⟩ := Quoted.cons_eq_ok read
    obtain ⟨text, written, stands⟩ := ih inside
    have split : text ++ '"' :: q'.rest = cs := by simpa [written] using Quoted.split inside
    exact ⟨'\r' :: text, by simp [written], .cr (head?_ne_newline split other) stands⟩
  | case8 c cs noQuote noEscape noReturn ih =>
    obtain ⟨q', inside, rfl⟩ := Quoted.cons_eq_ok read
    obtain ⟨text, written, stands⟩ := ih inside
    exact ⟨c :: text, by simp [written], .plain noQuote noEscape noReturn stands⟩

/-- What is written as a string literal is read as one. -/
theorem read_of_stands {text value : List Char} (stands : Stands text value) (rest : List Char) :
    Quoted.read (text ++ '"' :: rest) = .ok ⟨value, text ++ ['"'], rest⟩ := by
  induction stands with
  | nil => exact read_quote rest
  | plain noQuote noEscape noReturn _ ih =>
    rw [List.cons_append, read_plain _ noQuote noEscape noReturn, ih]
    rfl
  | escape known _ ih =>
    rw [List.cons_append, List.cons_append, read_escape _ known, ih]
    rfl
  | crlf _ ih =>
    rw [List.cons_append, List.cons_append, read_crlf, ih]
    rfl
  | @cr text value other _ ih =>
    have noNewline : (text ++ '"' :: rest).head? ≠ some '\n' := by
      cases text with
      | nil => simp
      | cons d text => simpa using other
    rw [List.cons_append, read_cr noNewline, ih]
    rfl

theorem cons_eq_unterminated {v : Char} {piece : List Char} {r : Except Quoted.Fault Quoted}
    (failed : Quoted.cons v piece r = .error .unterminated) : r = .error .unterminated := by
  match r, failed with
  | .error .unterminated, _ => rfl

theorem cons_eq_invalidEscape {v e : Char} {piece before : List Char}
    {r : Except Quoted.Fault Quoted}
    (failed : Quoted.cons v piece r = .error (.invalidEscape before e)) :
    ∃ before', r = .error (.invalidEscape before' e) ∧ before = piece ++ before' := by
  match r, failed with
  | .error (.invalidEscape before' _), rfl => exact ⟨before', rfl, rfl⟩

/-- A string literal that does not end goes on to the end of the text. -/
theorem stands_of_unterminated {cs : List Char}
    (failed : Quoted.read cs = .error .unterminated) :
    ∃ text value tail, Stands text value ∧ (tail = [] ∨ tail = ['\\']) ∧ text ++ tail = cs := by
  fun_induction Quoted.read cs with
  | case1 => exact ⟨[], [], [], .nil, .inl rfl, rfl⟩
  | case2 => cases failed
  | case3 => exact ⟨[], [], ['\\'], .nil, .inr rfl, rfl⟩
  | case4 => cases failed
  | case5 e cs v known _ ih =>
    obtain ⟨text, value, tail, stands, ends, rfl⟩ := ih (cons_eq_unterminated failed)
    exact ⟨_, _, tail, .escape (mem_escapes_iff.2 known) stands, ends, rfl⟩
  | case6 cs _ _ ih =>
    obtain ⟨text, value, tail, stands, ends, rfl⟩ := ih (cons_eq_unterminated failed)
    exact ⟨_, _, tail, .crlf stands, ends, rfl⟩
  | case7 cs other _ _ ih =>
    obtain ⟨text, value, tail, stands, ends, split⟩ := ih (cons_eq_unterminated failed)
    exact ⟨_, _, tail, .cr (head?_ne_newline split other) stands, ends, by simp [split]⟩
  | case8 c cs noQuote noEscape noReturn ih =>
    obtain ⟨text, value, tail, stands, ends, rfl⟩ := ih (cons_eq_unterminated failed)
    exact ⟨_, _, tail, .plain noQuote noEscape noReturn stands, ends, rfl⟩

/-- An invalid escape is found behind characters that stand for themselves. -/
theorem stands_of_invalidEscape {cs before : List Char} {e : Char}
    (failed : Quoted.read cs = .error (.invalidEscape before e)) :
    ∃ value rest, Stands before value ∧ (∀ c, (e, c) ∉ escapes) ∧
      before ++ '\\' :: e :: rest = cs := by
  fun_induction Quoted.read cs generalizing before with
  | case1 => cases failed
  | case2 => cases failed
  | case3 => cases failed
  | case4 e cs unknown =>
    cases failed
    refine ⟨[], cs, .nil, ?_, rfl⟩
    intro c listed
    cases unknown.symm.trans (mem_escapes_iff.1 listed)
  | case5 e cs v known _ ih =>
    obtain ⟨before', inside, rfl⟩ := cons_eq_invalidEscape failed
    obtain ⟨value, rest, stands, unknown, rfl⟩ := ih inside
    exact ⟨_, rest, .escape (mem_escapes_iff.2 known) stands, unknown, rfl⟩
  | case6 cs _ _ ih =>
    obtain ⟨before', inside, rfl⟩ := cons_eq_invalidEscape failed
    obtain ⟨value, rest, stands, unknown, rfl⟩ := ih inside
    exact ⟨_, rest, .crlf stands, unknown, rfl⟩
  | case7 cs other _ _ ih =>
    obtain ⟨before', inside, rfl⟩ := cons_eq_invalidEscape failed
    obtain ⟨value, rest, stands, unknown, split⟩ := ih inside
    exact ⟨_, rest, .cr (head?_ne_newline split other) stands, unknown, by simp [split]⟩
  | case8 c cs noQuote noEscape noReturn ih =>
    obtain ⟨before', inside, rfl⟩ := cons_eq_invalidEscape failed
    obtain ⟨value, rest, stands, unknown, rfl⟩ := ih inside
    exact ⟨_, rest, .plain noQuote noEscape noReturn stands, unknown, rfl⟩

end Quoted

end NominalScript
