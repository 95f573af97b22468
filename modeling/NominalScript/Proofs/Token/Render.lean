import Mathlib.Data.List.Chain
import NominalScript.Proofs.Token.Tiling

/-!
# Writing tokens out again

`render` writes the kinds of tokens in their plain spelling.  Two tokens may run
together when they are written side by side, so not every list of kinds is read back
as it was: the lists that are read back are the `Canonical` ones, and these are just
the lists of kinds that the tokens of a text have.

Both directions rest on the first character of a lexeme (`Kind.StartsWith`): a token
may stand before another exactly if it does not go on with that character.
-/

namespace NominalScript

/-! ## Spelling -/

/-- How a character is written in a string. -/
def escaped : Char → List Char
  | '\\' => ['\\', '\\']
  | '"' => ['\\', '"']
  | '\n' => ['\\', 'n']
  | '\t' => ['\\', 't']
  | '\r' => ['\\', 'r']
  | '\x00' => ['\\', '0']
  | c => [c]

/-- The plain spelling of a token. -/
def Kind.spelling : Kind → List Char
  | .ident name => name.toList
  | .leftParen => ['(']
  | .rightParen => [')']
  | .leftBrace => ['\x7b']
  | .rightBrace => ['\x7d']
  | .colon => [':']
  | .comma => [',']
  | .period => ['.']
  | .keyword word => word.text.toList
  | .str value => '"' :: (value.toList.flatMap escaped ++ ['"'])
  | .int value => (toString value.toInt).toList
  | .blank .space => [' ']
  | .blank .tab => ['\t']
  | .blank .newline => ['\n']
  | .comment text => '/' :: '/' :: text.toList
  | .op text => text.toList

/-- Tokens written one after the other. -/
def render (kinds : List Kind) : String := String.ofList (kinds.flatMap Kind.spelling)

/-! ## Canonical lists -/

/-- A token of the kind can be written at all. -/
def Kind.isCanonical : Kind → Bool
  | .ident name => Text.isWord name.toList && (Keyword.ofText? name).isNone
  | .int value => 0 ≤ value.toInt
  | .op text => Text.isOperatorRun text.toList
  | .comment text => text.toList.all Text.inComment
  | _ => true

/-- Words and numbers. -/
def Kind.isWordLike : Kind → Bool
  | .ident _ => true
  | .keyword _ => true
  | .int _ => true
  | _ => false

/-- Numbers. -/
def Kind.isNumber : Kind → Bool
  | .int _ => true
  | _ => false

/-- Operators and comments, which both start with operator characters. -/
def Kind.isOperatorLike : Kind → Bool
  | .op _ => true
  | .comment _ => true
  | _ => false

/-- The two kinds stay apart when they are written side by side. -/
def Kind.mayPrecede : Kind → Kind → Bool
  | .ident _, next => !next.isWordLike
  | .keyword _, next => !next.isWordLike
  | .int _, next => !next.isNumber
  | .op _, next => !next.isOperatorLike
  | .comment _, next => next == .blank .newline
  | _, _ => true

/-- Each of the kinds can be written, and each stays apart from the next. -/
def Canonical (kinds : List Kind) : Prop :=
  (∀ k ∈ kinds, k.isCanonical = true) ∧ kinds.IsChain fun k next => k.mayPrecede next = true

instance : DecidablePred Canonical := fun _ => inferInstanceAs (Decidable (_ ∧ _))

/-! ## Writing one token -/

theorem Quoted.stands_escaped (c : Char) {text value : List Char} (stands : Stands text value) :
    Stands (escaped c ++ text) (c :: value) := by
  unfold escaped
  split
  case h_7 noEscape noQuote _ _ noReturn _ => exact .plain noQuote noEscape noReturn stands
  all_goals exact .escape (by decide) stands

theorem Quoted.stands_flatMap_escaped (value : List Char) :
    Stands (value.flatMap escaped) value := by
  induction value with
  | nil => exact .nil
  | cons c value ih => exact stands_escaped c ih

theorem toList_toString_of_nonneg {n : Int} (nonneg : 0 ≤ n) :
    (toString n).toList = Nat.toDigits 10 n.toNat := by
  obtain ⟨m, rfl⟩ := Int.eq_ofNat_of_zero_le nonneg
  rw [Int.toString_eq_repr]
  change (Nat.repr m).toList = _
  simp [Nat.repr_eq_ofList_toDigits]

/-- The plain spelling is a way to write the token. -/
theorem Kind.writes_spelling {k : Kind} (canonical : k.isCanonical = true) :
    k.Writes k.spelling := by
  cases k with
  | ident name =>
    obtain ⟨word, unreserved⟩ := Bool.and_eq_true_iff.1 canonical
    have other := Keyword.ofText?_eq_none_iff.1 (Option.isNone_iff_eq_none.1 unreserved)
    have writes := Kind.Writes.ident word (by rwa [String.ofList_toList])
    rwa [String.ofList_toList] at writes
  | keyword word => exact .keyword
  | str value =>
    have writes := Kind.Writes.str (Quoted.stands_flatMap_escaped value.toList)
    rwa [String.ofList_toList] at writes
  | int value =>
    have nonneg : 0 ≤ value.toInt := of_decide_eq_true canonical
    have bound := value.toInt_lt
    have decimal : Nat.ofDigitChars 10 (Nat.toDigits 10 value.toInt.toNat) 0 = value.toInt.toNat :=
      Nat.ofDigitChars_toDigits (by decide) (by decide)
    rw [Kind.spelling, toList_toString_of_nonneg nonneg]
    refine .int Nat.toDigits_ne_nil ?_ ?_ ?_
    · intro c mem
      exact Nat.isDigit_of_mem_toDigits (by decide) (by decide) mem
    · rw [decimal]
      omega
    · rw [decimal]
      omega
  | comment text =>
    have writes := Kind.Writes.comment (List.all_eq_true.1 canonical)
    rwa [String.ofList_toList] at writes
  | op text =>
    have writes := Kind.Writes.op canonical
    rwa [String.ofList_toList] at writes
  | blank b => cases b <;> exact .mark (by decide)
  | _ => exact .mark (by decide)

/-- What is written somewhere can be written. -/
theorem Kind.isCanonical_of_writes {k : Kind} {text : List Char} (writes : k.Writes text) :
    k.isCanonical = true := by
  cases writes with
  | @mark c k listed =>
    have all : ∀ m ∈ marks, m.2.isCanonical = true := by decide
    exact all (c, k) listed
  | crlf => rfl
  | ident word unreserved =>
    simp [Kind.isCanonical, word, Keyword.ofText?_eq_none_iff.2 unreserved]
  | keyword => rfl
  | int _ _ _ decimal =>
    refine decide_eq_true ?_
    omega
  | str => rfl
  | comment inside =>
    simpa [Kind.isCanonical] using inside
  | op operators =>
    simpa [Kind.isCanonical] using operators

/-! ## Two tokens side by side -/

/-- The character is one that a token of the kind starts with: it goes on with what
others go on with. -/
structure Kind.StartsWith (k : Kind) (c : Char) : Prop where
  word : Text.continuesWord c = k.isWordLike
  digit : c.isDigit = k.isNumber
  operator : Text.isOperator c = k.isOperatorLike
  comment : Text.inComment c = (k != .blank .newline)

theorem Kind.mayPrecede_iff {k next : Kind} {c : Char} (starts : next.StartsWith c) :
    k.mayPrecede next = true ↔ k.continues c = false := by
  cases k <;> simp [Kind.mayPrecede, Kind.continues, starts.word, starts.digit, starts.operator,
    starts.comment]

theorem Text.inComment_of_continuesWord {c : Char} (word : Text.continuesWord c = true) :
    Text.inComment c = true := by
  have noFeed : c ≠ '\n' := by
    rintro rfl
    exact absurd word (by decide)
  have noReturn : c ≠ '\r' := by
    rintro rfl
    exact absurd word (by decide)
  simp [Text.inComment, noFeed, noReturn]

theorem Text.not_isOperator_of_continuesWord {c : Char} (word : Text.continuesWord c = true) :
    Text.isOperator c = false := by
  refine Bool.eq_false_iff.2 fun operator => ?_
  obtain ⟨noWord, noDigit, _⟩ := Text.classes_of_isOperator operator
  simp [Text.continuesWord, noWord, noDigit] at word

/-- A name or keyword starts like a word, which neither a number nor an operator does. -/
theorem Kind.startsWith_of_isWord {k : Kind} {text : List Char} (word : Text.isWord text = true)
    (like : k.isWordLike = true) (noNumber : k.isNumber = false) :
    ∃ c cs, text = c :: cs ∧ k.StartsWith c := by
  cases text with
  | nil => cases word
  | cons c cs =>
    have starts : Text.startsWord c = true := (Bool.and_eq_true_iff.1 word).1
    have goesOn : Text.continuesWord c = true := by simp [Text.continuesWord, starts]
    have noDigit : c.isDigit = false := by
      refine Bool.eq_false_iff.2 fun digit => ?_
      simp [Text.not_startsWord_of_isDigit digit] at starts
    refine ⟨c, cs, rfl, ?_, ?_, ?_, ?_⟩
    · rw [goesOn, like]
    · rw [noDigit, noNumber]
    · rw [Text.not_isOperator_of_continuesWord goesOn]
      cases k <;> simp_all [Kind.isWordLike, Kind.isOperatorLike]
    · rw [Text.inComment_of_continuesWord goesOn]
      cases k <;> simp_all [Kind.isWordLike]

/-- How the lexeme of a token starts. -/
theorem Kind.startsWith_of_writes {k : Kind} {text : List Char} (writes : k.Writes text) :
    ∃ c cs, text = c :: cs ∧ k.StartsWith c := by
  cases writes with
  | @mark c k listed =>
    have all : ∀ m ∈ marks, Text.continuesWord m.1 = m.2.isWordLike ∧
        m.1.isDigit = m.2.isNumber ∧ Text.isOperator m.1 = m.2.isOperatorLike ∧
        Text.inComment m.1 = (m.2 != .blank .newline) := by decide
    obtain ⟨word, digit, operator, comment⟩ := all (c, k) listed
    exact ⟨c, [], rfl, word, digit, operator, comment⟩
  | crlf => exact ⟨'\r', ['\n'], rfl, by decide, by decide, by decide, by decide⟩
  | ident word => exact Kind.startsWith_of_isWord word rfl rfl
  | @keyword k => exact Kind.startsWith_of_isWord k.isWord_text rfl rfl
  | int nonempty digits =>
    obtain ⟨c, cs, rfl⟩ := List.exists_cons_of_ne_nil nonempty
    have digit : c.isDigit = true := digits c List.mem_cons_self
    have goesOn : Text.continuesWord c = true := by simp [Text.continuesWord, digit]
    exact ⟨c, cs, rfl, goesOn, digit, Text.not_isOperator_of_continuesWord goesOn,
      Text.inComment_of_continuesWord goesOn⟩
  | str => exact ⟨'"', _, rfl, rfl, rfl, rfl, rfl⟩
  | comment => exact ⟨'/', _, rfl, rfl, rfl, rfl, rfl⟩
  | op operators =>
    cases text with
    | nil => cases operators
    | cons c cs =>
      have operator : Text.isOperator c = true := by
        simp only [Text.isOperatorRun, List.all_cons, Bool.and_eq_true] at operators
        exact operators.1.2.1
      have listed : c ∈ Text.operatorChars := by simpa [Text.isOperator] using operator
      have all : Text.operatorChars.all
          (fun c => !Text.continuesWord c && (!c.isDigit && Text.inComment c)) := by decide
      have plain := List.all_eq_true.1 all c listed
      simp only [Bool.and_eq_true, Bool.not_eq_true'] at plain
      obtain ⟨noWord, noDigit, comment⟩ := plain
      exact ⟨c, cs, rfl, noWord, noDigit, operator, comment⟩

theorem Kind.endsBefore_nil (k : Kind) : k.EndsBefore [] := nofun

/-- A token is not carried on by the next exactly if it may stand before it. -/
theorem Kind.endsBefore_iff {k next : Kind} {text : List Char} (writes : next.Writes text)
    (rest : List Char) : k.EndsBefore (text ++ rest) ↔ k.mayPrecede next = true := by
  obtain ⟨c, cs, rfl, starts⟩ := Kind.startsWith_of_writes writes
  rw [Kind.mayPrecede_iff starts]
  constructor
  · intro ends
    exact ends c rfl
  · intro ends d follows
    cases follows
    exact ends

/-! ## Reading back -/

/-- One token in front of a text, whether the rest of the text can be cut or not. -/
theorem Token.scanFrom_append {k : Kind} {text rest : List Char} {l : Location}
    (writes : k.Writes text) (ends : k.EndsBefore rest) :
    Token.scanFrom l (text ++ rest) =
      (Token.scanFrom (l.advance text) rest).map (⟨k, l, Size.of text⟩ :: ·) := by
  obtain ⟨c, cs, rfl, _⟩ := Kind.startsWith_of_writes writes
  obtain ⟨x, cut, kind, text, left⟩ := Lexeme.first_of_writes writes ends
  rw [List.cons_append, Token.scanFrom]
  simp only [cut, kind, text, left]
  cases Token.scanFrom (l.advance (c :: cs)) rest <;> rfl

/-- Canonical kinds are read back from their rendering, wherever it stands: each is cut off
where the next one starts. -/
theorem Token.scanFrom_render {kinds : List Kind} (canonical : Canonical kinds) (l : Location) :
    ∃ tokens, Token.scanFrom l (kinds.flatMap Kind.spelling) = .ok tokens ∧
      tokens.map Token.kind = kinds := by
  obtain ⟨each, apart⟩ := canonical
  induction kinds generalizing l with
  | nil => exact ⟨[], by simp [Token.scanFrom], rfl⟩
  | cons k kinds ih =>
    obtain ⟨first, rest⟩ := List.forall_mem_cons.1 each
    have writes := Kind.writes_spelling first
    obtain ⟨tokens, later, same⟩ := ih (l.advance k.spelling) rest apart.tail
    have ends : k.EndsBefore (kinds.flatMap Kind.spelling) := by
      cases kinds with
      | nil => exact k.endsBefore_nil
      | cons next kinds =>
        have nextWrites := Kind.writes_spelling (rest next List.mem_cons_self)
        exact (Kind.endsBefore_iff nextWrites _).2 (List.isChain_cons_cons.1 apart).1
    rw [List.flatMap_cons, Token.scanFrom_append writes ends, later]
    exact ⟨_, rfl, by simp [same]⟩

/-- The kinds of the tokens that tile a text are canonical. -/
theorem Token.Tiled.canonical {before tail : List Char} {tokens : List Token}
    {lexemes : List (List Char)} (tiled : Token.Tiled before tokens lexemes tail) :
    Canonical (tokens.map Token.kind) := by
  induction tiled with
  | nil => exact ⟨nofun, .nil⟩
  | cons writes ends _ _ later ih =>
    obtain ⟨each, apart⟩ := ih
    refine ⟨List.forall_mem_cons.2 ⟨Kind.isCanonical_of_writes writes, each⟩, ?_⟩
    cases later with
    | nil => exact .singleton _
    | cons nextWrites =>
      rw [List.flatten_cons, List.append_assoc] at ends
      exact .cons_cons ((Kind.endsBefore_iff nextWrites _).1 ends) apart

/-- The kinds of the tokens of a text, if it has any. -/
def kindsOf (source : String) : Except LexError (List Kind) :=
  (Token.scan source).map (List.map Token.kind)

theorem kindsOf_eq_ok {source : String} {kinds : List Kind} :
    kindsOf source = .ok kinds ↔
      ∃ tokens, Token.scan source = .ok tokens ∧ tokens.map Token.kind = kinds := by
  unfold kindsOf
  cases Token.scan source <;> simp [Except.map]

theorem kindsOf_render {kinds : List Kind} (canonical : Canonical kinds) :
    kindsOf (render kinds) = .ok kinds := by
  rw [kindsOf_eq_ok, Token.scan, render, String.toList_ofList]
  exact Token.scanFrom_render canonical .origin

theorem canonical_of_kindsOf {source : String} {kinds : List Kind}
    (scanned : kindsOf source = .ok kinds) : Canonical kinds := by
  obtain ⟨tokens, cut, rfl⟩ := kindsOf_eq_ok.1 scanned
  obtain ⟨lexemes, _, tiled⟩ := Token.tiled_of_scanFrom [] cut
  exact tiled.canonical

/-- A canonical list is read back as it was written, and every text has a canonical
list: cutting a text, writing its tokens out and cutting that gives the same kinds. -/
theorem scan_render :
    (∀ kinds, Canonical kinds → kindsOf (render kinds) = .ok kinds) ∧
      ∀ source kinds, kindsOf source = .ok kinds →
        Canonical kinds ∧ kindsOf (render kinds) = .ok kinds := by
  refine ⟨fun kinds canonical => kindsOf_render canonical, ?_⟩
  intro source kinds scanned
  have canonical := canonical_of_kindsOf scanned
  exact ⟨canonical, kindsOf_render canonical⟩

/-- Tokens that are told apart by nothing but their spelling, the last of them a comment
without a newline behind it. -/
def tight : List Kind :=
  [.keyword .kwReturn, .leftParen, .op "-/", .int 9223372036854775807, .ident "y1", .op "/",
    .str "\"\\\r\n\t\x00é", .op "=", .ident "iff", .period, .str "", .blank .tab, .op "/",
    .blank .space, .comment "/ \"", .blank .newline, .op "+", .blank .newline, .comment ""]

theorem scan_render_tight :
    kindsOf (render tight) = .ok tight ∧
      kindsOf (render [.keyword .kwFn, .blank .newline, .int 7, .str "\n"]) =
        kindsOf "fn\r\n007\"\r\"" := by
  have canonical : Canonical tight := by decide
  have scanned : kindsOf "fn\r\n007\"\r\"" =
      .ok [.keyword .kwFn, .blank .newline, .int 7, .str "\n"] := by decide +kernel
  exact ⟨scan_render.1 tight canonical, (scan_render.2 _ _ scanned).2.trans scanned.symm⟩

end NominalScript
