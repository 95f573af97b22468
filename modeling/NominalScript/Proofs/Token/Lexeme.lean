import Mathlib.Tactic.SplitIfs
import NominalScript.Proofs.Token.Spelling

/-!
# The first lexeme of a text

The first lexeme of a text is the one way to write a token at its start:

* `Lexeme.writes_of_first`: what is cut off is written so and ends where it must;
* `Lexeme.first_of_writes`: whatever is written so and ends there is cut off;
* `Lexeme.found_of_first` and `Lexeme.unwritten_of_first`: when nothing is cut off, the
  text starts with a lexeme that cannot be completed.
-/

namespace NominalScript

/-! ## Runs of characters -/

/-- The text that is left when a class of characters has run out does not start with
one. -/
theorem head?_dropWhile_eq_false {p : Char → Bool} {cs : List Char} {c : Char}
    (starts : (cs.dropWhile p).head? = some c) : p c = false := by
  have stops := List.head?_dropWhile_not p cs
  rwa [starts] at stops

/-- The characters of a class are taken up to the first that is not of it. -/
theorem takeWhile_dropWhile_append {p : Char → Bool} {cs rest : List Char}
    (inside : ∀ d ∈ cs, p d = true) (ends : ∀ d, rest.head? = some d → p d = false) :
    (cs ++ rest).takeWhile p = cs ∧ (cs ++ rest).dropWhile p = rest := by
  rw [List.takeWhile_append_of_pos inside, List.dropWhile_append_of_pos inside]
  cases rest with
  | nil => simp
  | cons d rest => simp [ends d rfl]

/-- All characters of the class and none after them make up the run. -/
theorem Lexeme.run_append {kind : List Char → Kind} {p : Char → Bool} {c : Char}
    {cs rest : List Char} (inside : ∀ d ∈ cs, p d = true)
    (ends : ∀ d, rest.head? = some d → p d = false) :
    (Lexeme.run kind p c (cs ++ rest)).kind = kind (c :: cs) ∧
      (Lexeme.run kind p c (cs ++ rest)).text = c :: cs ∧
      (Lexeme.run kind p c (cs ++ rest)).rest = rest := by
  obtain ⟨taken, left⟩ := takeWhile_dropWhile_append inside ends
  simp [Lexeme.run, taken, left]

theorem decimalValue_eq (digits : List Char) :
    decimalValue digits = Nat.ofDigitChars 10 digits 0 :=
  Nat.ofDigitChars_eq_foldl.symm

/-! ## Words -/

theorem Keyword.isWord_text (k : Keyword) : Text.isWord k.text.toList = true := by
  cases k <;> decide

theorem Keyword.ofText?_eq_none_iff {word : String} :
    Keyword.ofText? word = none ↔ ∀ k : Keyword, k.text ≠ word := by
  constructor
  · rintro unknown k rfl
    cases unknown.symm.trans k.ofText?_text
  · intro unreserved
    cases found : Keyword.ofText? word with
    | none => rfl
    | some k => exact absurd (Keyword.text_of_ofText? found) (unreserved k)

theorem Kind.ofWord_of_ne {word : String} (unreserved : ∀ k : Keyword, k.text ≠ word) :
    Kind.ofWord word = .ident word := by
  simp [Kind.ofWord, Keyword.ofText?_eq_none_iff.2 unreserved]

theorem Kind.ofWord_text (k : Keyword) : Kind.ofWord k.text = .keyword k := by
  simp [Kind.ofWord, Keyword.ofText?_text]

theorem Kind.writes_ofWord {text : List Char} (word : Text.isWord text = true) :
    (Kind.ofWord (String.ofList text)).Writes text ∧
      (Kind.ofWord (String.ofList text)).continues = Text.continuesWord := by
  unfold Kind.ofWord
  split
  case h_1 k found =>
    have spelt : k.text.toList = text := by simp [Keyword.text_of_ofText? found]
    exact ⟨spelt ▸ .keyword, rfl⟩
  case h_2 unknown => exact ⟨.ident word (Keyword.ofText?_eq_none_iff.1 unknown), rfl⟩

/-! ## The first lexeme -/

namespace Lexeme

theorem unmarked {c : Char}
    (other : Text.startsWord c = true ∨ c.isDigit = true ∨ Text.isOperator c = true) :
    Kind.ofChar? c = none := by
  cases mark : Kind.ofChar? c with
  | none => rfl
  | some k =>
    obtain ⟨noWord, noDigit, noOperator⟩ := Text.classes_of_mark mark
    simp [noWord, noDigit, noOperator] at other

theorem first_mark {c : Char} {k : Kind} (mark : Kind.ofChar? c = some k) (cs : List Char) :
    first c cs = .ok ⟨k, [c], cs, rfl, by simp⟩ := by
  unfold first
  split
  case h_1 k' found =>
    cases mark.symm.trans found
    rfl
  case h_2 found => cases mark.symm.trans found

theorem first_digit {c : Char} (digit : c.isDigit = true) (cs : List Char) :
    first c cs = integer c cs := by
  have noQuote : c ≠ '"' := by
    rintro rfl
    exact absurd digit (by decide)
  simp [first, unmarked (.inr (.inl digit)), noQuote, digit]

theorem first_startsWord {c : Char} (starts : Text.startsWord c = true) (cs : List Char) :
    first c cs =
      .ok (run (fun word => .ofWord (String.ofList word)) Text.continuesWord c cs) := by
  have noQuote : c ≠ '"' := by
    rintro rfl
    exact absurd starts (by decide)
  have noDigit : c.isDigit = false := by
    refine Bool.eq_false_iff.2 fun digit => ?_
    simp [Text.not_startsWord_of_isDigit digit] at starts
  simp [first, unmarked (.inl starts), noQuote, noDigit, starts]

theorem first_operator {c : Char} {cs : List Char} (operator : Text.isOperator c = true)
    (noComment : ¬ (c = '/' ∧ cs.head? = some '/')) :
    first c cs = .ok (run (fun text => .op (String.ofList text)) Text.isOperator c cs) := by
  obtain ⟨noWord, noDigit, noQuote⟩ := Text.classes_of_isOperator operator
  simp [first, unmarked (.inr (.inr operator)), noQuote, noDigit, noWord, noComment, operator]

theorem first_comment (cs : List Char) :
    first '/' ('/' :: cs) = .ok (run (fun text => .comment (String.ofList (text.drop 2)))
      Text.inComment '/' ('/' :: cs)) :=
  rfl

/-- The lexeme that is cut off, if one is. -/
def Cuts {chars : List Char} (r : Except Failure (Lexeme chars)) (k : Kind)
    (text rest : List Char) : Prop :=
  ∃ x, r = .ok x ∧ x.kind = k ∧ x.text = text ∧ x.rest = rest

theorem cuts_run {kind : List Char → Kind} {p : Char → Bool} {c : Char} {cs rest : List Char}
    {r : Except Failure (Lexeme (c :: (cs ++ rest)))} (cut : r = .ok (run kind p c (cs ++ rest)))
    (inside : ∀ d ∈ cs, p d = true) (ends : ∀ d, rest.head? = some d → p d = false) :
    Cuts r (kind (c :: cs)) (c :: cs) rest :=
  ⟨_, cut, run_append inside ends⟩

theorem cuts_word {c : Char} {cs rest : List Char} (word : Text.isWord (c :: cs) = true)
    (ends : ∀ d, rest.head? = some d → Text.continuesWord d = false) :
    Cuts (first c (cs ++ rest)) (.ofWord (String.ofList (c :: cs))) (c :: cs) rest := by
  obtain ⟨starts, inside⟩ := Bool.and_eq_true_iff.1 word
  exact cuts_run (first_startsWord starts _) (List.all_eq_true.1 inside) ends

theorem cuts_string {cs : List Char} {q : Quoted} (read : Quoted.read cs = .ok q) (quote : Char) :
    Cuts (string quote cs) (.str (String.ofList q.value)) (quote :: q.text) q.rest := by
  unfold string
  split
  case h_1 q' found =>
    cases read.symm.trans found
    exact ⟨_, rfl, rfl, rfl, rfl⟩
  case h_2 found => cases read.symm.trans found
  case h_3 found => cases read.symm.trans found

theorem integer_of_le {c : Char} {cs : List Char}
    (small : decimalValue (c :: cs.takeWhile Char.isDigit) ≤ maxInteger) :
    integer c cs =
      .ok (run (fun ds => .int (Int64.ofNat (decimalValue ds))) Char.isDigit c cs) := by
  simp [integer, small]

theorem le_maxInteger_iff {digits : List Char} :
    decimalValue digits ≤ maxInteger ↔ Nat.ofDigitChars 10 digits 0 < 2 ^ 63 := by
  rw [decimalValue_eq, maxInteger]
  omega

/-- The decimal value of the digits of an integer literal. -/
theorem toInt_ofNat_decimalValue {digits : List Char}
    (small : Nat.ofDigitChars 10 digits 0 < 2 ^ 63) :
    (Int64.ofNat (decimalValue digits)).toInt = Nat.ofDigitChars 10 digits 0 := by
  rw [decimalValue_eq, Int64.toInt_ofNat_of_lt small]

/-- Digits are cut up to the first character that is none, if their value is in range. -/
theorem cuts_integer {value : Int64} {c : Char} {cs rest : List Char}
    (digits : ∀ d ∈ c :: cs, d.isDigit = true) (small : Nat.ofDigitChars 10 (c :: cs) 0 < 2 ^ 63)
    (decimal : value.toInt = Nat.ofDigitChars 10 (c :: cs) 0)
    (ends : ∀ d, rest.head? = some d → d.isDigit = false) :
    Cuts (first c (cs ++ rest)) (.int value) (c :: cs) rest := by
  obtain ⟨first, inside⟩ := List.forall_mem_cons.1 digits
  have taken : (cs ++ rest).takeWhile Char.isDigit = cs :=
    (takeWhile_dropWhile_append inside ends).1
  have same : Int64.ofNat (decimalValue (c :: cs)) = value :=
    Int64.toInt.inj ((toInt_ofNat_decimalValue small).trans decimal.symm)
  rw [first_digit first, ← same]
  refine cuts_run (integer_of_le ?_) inside ends
  rwa [taken, le_maxInteger_iff]

theorem not_comment_of_isOperatorRun {c : Char} {cs rest : List Char}
    (operators : Text.isOperatorRun (c :: cs) = true)
    (ends : ∀ d, rest.head? = some d → Text.isOperator d = false) :
    ¬ (c = '/' ∧ (cs ++ rest).head? = some '/') := by
  rintro ⟨rfl, follows⟩
  cases cs with
  | nil => exact absurd (ends '/' follows) (by decide)
  | cons d cs =>
    have slash : d = '/' := by simpa using follows
    simp [Text.isOperatorRun, slash] at operators

/-- Whatever is written at the start of a text and ends there is cut off. -/
theorem first_of_writes {k : Kind} {c : Char} {cs rest : List Char} (writes : k.Writes (c :: cs))
    (ends : k.EndsBefore rest) : Cuts (first c (cs ++ rest)) k (c :: cs) rest := by
  generalize written : c :: cs = text at writes
  cases writes with
  | mark listed =>
    cases written
    exact ⟨_, first_mark (mem_marks_iff.1 listed) _, rfl, rfl, rfl⟩
  | crlf =>
    cases written
    exact ⟨_, rfl, rfl, rfl, rfl⟩
  | ident word unreserved =>
    subst written
    rw [← Kind.ofWord_of_ne unreserved]
    exact cuts_word word ends
  | @keyword k =>
    have word := k.isWord_text
    rw [← written] at word
    have cut := cuts_word word ends
    rwa [written, String.ofList_toList, Kind.ofWord_text] at cut
  | int _ digits small decimal =>
    subst written
    exact cuts_integer digits small decimal ends
  | @str text value stands =>
    cases written
    have read := Quoted.read_of_stands stands rest
    rw [List.append_assoc]
    exact cuts_string read '"'
  | @comment text inside =>
    cases written
    have slash : ∀ d ∈ '/' :: text, Text.inComment d = true :=
      List.forall_mem_cons.2 ⟨by decide, inside⟩
    exact cuts_run (first_comment _) slash ends
  | op operators =>
    subst written
    have noComment := not_comment_of_isOperatorRun operators ends
    simp only [Text.isOperatorRun, List.all_cons, Bool.and_eq_true] at operators
    obtain ⟨⟨_, first, inside⟩, _⟩ := operators
    exact cuts_run (first_operator first noComment) (List.all_eq_true.1 inside) ends

theorem endsBefore_of_mark {c : Char} {k : Kind} (mark : Kind.ofChar? c = some k)
    (rest : List Char) : k.EndsBefore rest := by
  have listed := mem_marks_iff.2 mark
  simp only [marks, List.mem_cons, Prod.mk.injEq, List.not_mem_nil, or_false] at listed
  rcases listed with ⟨_, rfl⟩ | ⟨_, rfl⟩ | ⟨_, rfl⟩ | ⟨_, rfl⟩ | ⟨_, rfl⟩ | ⟨_, rfl⟩ | ⟨_, rfl⟩ |
    ⟨_, rfl⟩ | ⟨_, rfl⟩ | ⟨_, rfl⟩ <;> exact fun _ _ => rfl

theorem all_takeWhile {p : Char → Bool} (cs : List Char) : ∀ d ∈ cs.takeWhile p, p d = true :=
  List.all_eq_true.1 List.all_takeWhile

theorem writes_of_string {cs : List Char} {x : Lexeme ('"' :: cs)}
    (cut : string '"' cs = .ok x) : x.kind.Writes x.text ∧ x.kind.EndsBefore x.rest := by
  unfold string at cut
  split at cut
  case h_1 q read =>
    cases cut
    obtain ⟨text, written, stands⟩ := Quoted.stands_of_read read
    simp only [written]
    exact ⟨.str stands, fun _ _ => rfl⟩
  case h_2 => cases cut
  case h_3 => cases cut

/-- An integer is written in digits, and the next character is none. -/
theorem writes_of_integer {c : Char} {cs : List Char} {x : Lexeme (c :: cs)}
    (digit : c.isDigit = true) (cut : integer c cs = .ok x) :
    x.kind.Writes x.text ∧ x.kind.EndsBefore x.rest := by
  simp only [integer] at cut
  split at cut
  case isTrue small =>
    cases cut
    have digits : ∀ d ∈ c :: cs.takeWhile Char.isDigit, d.isDigit = true :=
      List.forall_mem_cons.2 ⟨digit, all_takeWhile cs⟩
    have small := le_maxInteger_iff.1 small
    exact ⟨.int (List.cons_ne_nil _ _) digits small (toInt_ofNat_decimalValue small),
      fun _ starts => head?_dropWhile_eq_false starts⟩
  case isFalse => cases cut

/-- An operator is a run of operator characters that does not start a comment. -/
theorem isOperatorRun_takeWhile {c : Char} {cs : List Char} (operator : Text.isOperator c = true)
    (noComment : ¬ (c = '/' ∧ cs.head? = some '/')) :
    Text.isOperatorRun (c :: cs.takeWhile Text.isOperator) = true := by
  have noSlashes : ['/', '/'].isPrefixOf (c :: cs.takeWhile Text.isOperator) = false := by
    cases cs with
    | nil => simp [List.isPrefixOf]
    | cons d cs =>
      cases more : Text.isOperator d with
      | false => simp [List.isPrefixOf, more]
      | true =>
        have apart : '/' = c → ¬ '/' = d := by simpa [eq_comm] using noComment
        simpa [List.isPrefixOf, more] using apart
  simp [Text.isOperatorRun, operator, noSlashes, List.all_takeWhile]

/-- What is cut off is written so and ends where it must. -/
theorem writes_of_first {c : Char} {cs : List Char} {x : Lexeme (c :: cs)}
    (cut : first c cs = .ok x) : x.kind.Writes x.text ∧ x.kind.EndsBefore x.rest := by
  unfold first at cut
  split at cut
  case h_1 k mark =>
    cases cut
    exact ⟨.mark (mem_marks_iff.2 mark), endsBefore_of_mark mark _⟩
  split_ifs at cut with quote digit starts slashes operator ends
  · subst quote
    exact writes_of_string cut
  · exact writes_of_integer digit cut
  · cases cut
    have word : Text.isWord (c :: cs.takeWhile Text.continuesWord) = true :=
      Bool.and_eq_true_iff.2 ⟨starts, List.all_takeWhile⟩
    obtain ⟨writes, goesOn⟩ := Kind.writes_ofWord word
    refine ⟨writes, fun d follows => ?_⟩
    rw [Lexeme.run, goesOn]
    exact head?_dropWhile_eq_false follows
  · cases cut
    obtain ⟨rfl, follows⟩ := slashes
    obtain ⟨cs, rfl⟩ := List.head?_eq_some_iff.1 follows
    exact ⟨.comment (all_takeWhile cs), fun _ starts => head?_dropWhile_eq_false starts⟩
  · cases cut
    exact ⟨.op (isOperatorRun_takeWhile operator slashes),
      fun _ starts => head?_dropWhile_eq_false starts⟩
  · cases cut
    obtain ⟨rfl, _⟩ := ends
    exact ⟨.crlf, fun _ _ => rfl⟩

/-- A text from which nothing is cut off starts with a lexeme that cannot be
completed. -/
theorem found_of_first {c : Char} {cs : List Char} {f : Failure} (failed : first c cs = .error f) :
    f.fault.Found (c :: cs) f.skipped := by
  unfold first at failed
  split at failed
  case h_1 => cases failed
  split_ifs at failed with quote digit
  · subst quote
    unfold string at failed
    split at failed
    case h_1 => cases failed
    case h_2 read =>
      cases failed
      obtain ⟨text, value, tail, stands, ends, rfl⟩ := Quoted.stands_of_unterminated read
      exact .unterminated stands ends
    case h_3 before e read =>
      cases failed
      obtain ⟨value, rest, stands, unknown, rfl⟩ := Quoted.stands_of_invalidEscape read
      exact .invalidEscape stands unknown
  · simp only [integer] at failed
    split at failed
    case isTrue => cases failed
    case isFalse large =>
      cases failed
      have split : c :: cs = c :: cs.takeWhile Char.isDigit ++ cs.dropWhile Char.isDigit := by simp
      rw [split]
      refine .integerOutOfRange (by simp) (List.forall_mem_cons.2 ⟨digit, all_takeWhile cs⟩)
        (fun _ starts => head?_dropWhile_eq_false starts) ?_
      exact Nat.le_of_not_lt fun small => large (le_maxInteger_iff.2 small)
  · cases failed
    exact .unexpected

/-- Every token is written with at least one character. -/
theorem ne_nil_of_writes {k : Kind} {text : List Char} (writes : k.Writes text) : text ≠ [] := by
  cases writes with
  | mark => simp
  | crlf => simp
  | ident word =>
    rintro rfl
    cases word
  | @keyword k => cases k <;> decide
  | int nonempty => exact nonempty
  | str => simp
  | comment => simp
  | op operators =>
    rintro rfl
    cases operators

/-- No token is written where nothing is cut off. -/
theorem unwritten_of_first {c : Char} {cs : List Char} {f : Failure}
    (failed : first c cs = .error f) : Text.Unwritten (c :: cs) := by
  intro k lexeme rest split writes ends
  cases lexeme with
  | nil => exact ne_nil_of_writes writes rfl
  | cons d lexeme =>
    cases split
    obtain ⟨x, cut, _⟩ := first_of_writes writes ends
    cases failed.symm.trans cut

end Lexeme

end NominalScript
