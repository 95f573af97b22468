import NominalScript.Syntax.Parse

/-!
# What a successful read says

Each lemma of this module reads the success of one step of a parser as the success
of its parts.  The parsers that never fail say what they return and where they leave
the cursor, so that `simp only` with these lemmas turns a success of a whole parser
into the successes of the parsers it is made of.
-/

namespace NominalScript.Syntax

variable {α β : Type} {c c' : Cursor}

namespace Cursor

/-- Skip the trivia ahead. -/
def pastTrivia (c : Cursor) : Cursor := c.skipWhile Kind.isTrivia

/-- What the trivia ahead holds. -/
def skipped (c : Cursor) : Parser.Skipped :=
  ⟨c.trivia.any (·.kind.isBlank), c.trivia.any (·.kind == .blank .newline)⟩

/-- A token is taken. -/
structure Takes (c : Cursor) (t : Token) (c' : Cursor) : Prop where
  rest : c.rest = t :: c'.rest
  lastEnd : c'.lastEnd = t.stop

theorem exists_takes {kind : Kind} (next : c.kind? = some kind) :
    ∃ t c', t.kind = kind ∧ c.Takes t c' := by
  unfold kind? at next
  cases tokens : c.rest with
  | nil => simp [tokens] at next
  | cons t rest => exact ⟨t, ⟨rest, t.stop⟩, by simpa [tokens] using next, tokens, rfl⟩

theorem kind?_eq_none : c.kind? = none ↔ c.rest = [] := by
  simp [kind?]

theorem Takes.kind? {t : Token} (takes : c.Takes t c') : c.kind? = some t.kind := by
  simp [Cursor.kind?, takes.rest]

theorem Takes.here {t : Token} (takes : c.Takes t c') : c.here = t.start := by
  simp [Cursor.here, takes.rest]

theorem kind?_afterRun (p : Kind → Bool) (tokens : List Token) (lastEnd : Location) :
    (afterRun p tokens lastEnd).kind? = (tokens.find? fun t => !p t.kind).map Token.kind := by
  induction tokens generalizing lastEnd with
  | nil => rfl
  | cons t rest ih =>
    cases run : p t.kind with
    | true => simp [afterRun, run, ih]
    | false => simp [afterRun, run, Cursor.kind?]

theorem kind?_pastTrivia (c : Cursor) : c.pastTrivia.kind? = c.kindPastTrivia? :=
  kind?_afterRun Kind.isTrivia c.rest c.lastEnd

end Cursor

namespace Parser

/-! ## Sequences -/

theorem bind_eq_ok {p : Parser α} {q : α → Parser β} {r : β × Cursor} :
    (p >>= q) c = .ok r ↔ ∃ a c₁, p c = .ok (a, c₁) ∧ q a c₁ = .ok r := by
  change (p c >>= fun s => q s.1 s.2) = .ok r ↔ _
  cases first : p c with
  | error e => exact ⟨fun h => (nomatch h), fun ⟨_, _, h, _⟩ => (nomatch h)⟩
  | ok s =>
    refine ⟨fun then_ => ⟨s.1, s.2, rfl, then_⟩, ?_⟩
    intro ⟨a, c₁, same, then_⟩
    cases same
    exact then_

theorem pure_eq_ok {a b : α} : (pure a : Parser α) c = .ok (b, c') ↔ a = b ∧ c = c' := by
  change Except.ok (a, c) = .ok (b, c') ↔ _
  simp

theorem fail_ne_ok {fault : ParseFault} {l : Location} {r : α × Cursor} :
    fail fault l c ≠ .ok r :=
  nofun

theorem get_eq_ok {s : Cursor} : (get : Parser Cursor) c = .ok (s, c') ↔ c = s ∧ c = c' := by
  change Except.ok (c, c) = .ok (s, c') ↔ _
  simp

/-! ## Looking ahead -/

theorem peek_eq_ok {k : Option Kind} : peek c = .ok (k, c') ↔ c.kind? = k ∧ c = c' := by
  simp [peek]

theorem peekPastTrivia_eq_ok {k : Option Kind} :
    peekPastTrivia c = .ok (k, c') ↔ c.pastTrivia.kind? = k ∧ c = c' := by
  simp [peekPastTrivia, Cursor.kind?_pastTrivia]

theorem here_eq_ok {l : Location} : here c = .ok (l, c') ↔ c.here = l ∧ c = c' := by
  simp [here]

theorem spanFrom_eq_ok {start : Location} {s : Span} :
    spanFrom start c = .ok (s, c') ↔ start.until c.lastEnd = s ∧ c = c' := by
  simp [spanFrom]

/-! ## Taking tokens -/

/-- The next token is taken, or there is none and the cursor stays. -/
theorem next_eq_ok {t : Option Token} :
    next c = .ok (t, c') ↔
      (c.rest = [] ∧ t = none ∧ c = c') ∨ ∃ token, t = some token ∧ c.Takes token c' := by
  rcases c' with ⟨rest', lastEnd'⟩
  unfold next
  split
  case h_1 token rest tokens =>
    simp only [Except.ok.injEq, Prod.mk.injEq, Cursor.mk.injEq, tokens, reduceCtorEq, false_and,
      false_or]
    refine ⟨?_, ?_⟩
    · intro ⟨taken, left, stop⟩
      exact ⟨token, taken.symm, by rw [tokens, left], stop.symm⟩
    · intro ⟨token', taken, left, stop⟩
      cases left.symm.trans tokens
      exact ⟨taken.symm, rfl, stop.symm⟩
  case h_2 tokens =>
    have none_taken : ∀ token, ¬ c.Takes token ⟨rest', lastEnd'⟩ := by
      intro token takes
      simp [takes.rest] at tokens
    simp [tokens, none_taken, eq_comm]

theorem takes_of_next {kind : Kind} {t : Option Token} (ahead : c.kind? = some kind)
    (taken : next c = .ok (t, c')) : ∃ token, token.kind = kind ∧ c.Takes token c' := by
  obtain ⟨ended, _⟩ | ⟨token, _, takes⟩ := next_eq_ok.1 taken
  · simp [Cursor.kind?_eq_none.2 ended] at ahead
  · exact ⟨token, Option.some.inj (takes.kind?.symm.trans ahead), takes⟩

theorem skipTrivia_eq_ok {s : Skipped} :
    skipTrivia c = .ok (s, c') ↔ c.skipped = s ∧ c.pastTrivia = c' := by
  simp [skipTrivia, Cursor.skipped, Cursor.pastTrivia]

theorem skipToLineEnd_eq_ok {u : Unit} :
    skipToLineEnd c = .ok (u, c') ↔
      (c.skipWhile fun k => k.isTrivia && k != .blank .newline) = c' := by
  simp [skipToLineEnd]

/-- A kind is found when the next token is of that kind, and this token is taken. -/
theorem expect_eq_ok {kind : Kind} {u : Unit} :
    expect kind c = .ok (u, c') ↔ ∃ t, t.kind = kind ∧ c.Takes t c' := by
  simp only [expect, bind_eq_ok, here_eq_ok, next_eq_ok]
  refine ⟨?_, ?_⟩
  · intro ⟨l, _, ⟨_, rfl⟩, t, c₁, taken, checked⟩
    split at checked
    case isTrue same =>
      obtain ⟨_, rfl⟩ := pure_eq_ok.1 checked
      obtain ⟨_, rfl, _⟩ | ⟨token, rfl, takes⟩ := taken
      · simp at same
      · exact ⟨token, by simpa using same, takes⟩
    case isFalse => exact absurd checked fail_ne_ok
  · intro ⟨t, same, takes⟩
    refine ⟨_, _, ⟨rfl, rfl⟩, some t, c', .inr ⟨t, rfl, takes⟩, ?_⟩
    simp [same, pure_eq_ok]

/-- A name is read when the next token is one; it has the span of the token. -/
theorem expectIdent_eq_ok {ident : Ident} :
    expectIdent c = .ok (ident, c') ↔
      ∃ t, t.kind = .ident ident.name ∧ ident.span = t.span ∧ c.Takes t c' := by
  simp only [expectIdent, bind_eq_ok, here_eq_ok, next_eq_ok]
  refine ⟨?_, ?_⟩
  · intro ⟨l, _, ⟨hl, rfl⟩, t, c₁, taken, checked⟩
    split at checked
    case h_1 name start size =>
      obtain ⟨_, _, built⟩ := bind_eq_ok.1 checked
      simp only [spanFrom_eq_ok, pure_eq_ok] at built
      obtain ⟨⟨rfl, rfl⟩, rfl, rfl⟩ := built
      obtain ⟨_, absent, _⟩ | ⟨token, same, takes⟩ := taken
      · cases absent
      · cases same
        exact ⟨_, rfl, by rw [← hl, takes.here, takes.lastEnd]; rfl, takes⟩
    case h_2 => exact absurd checked fail_ne_ok
  · intro ⟨⟨kind, start, size⟩, named, spanned, takes⟩
    simp only at named
    subst named
    refine ⟨_, _, ⟨rfl, rfl⟩, _, c', .inr ⟨_, rfl, takes⟩, ?_⟩
    simp only [bind_eq_ok, spanFrom_eq_ok, pure_eq_ok]
    refine ⟨_, _, ⟨rfl, rfl⟩, ?_, rfl⟩
    rw [takes.here, takes.lastEnd]
    exact congrArg (Ident.mk ident.name) spanned.symm

/-- A blank is found when the trivia ahead holds one, and all of that trivia is skipped. -/
theorem expectBlank_eq_ok {u : Unit} :
    expectBlank c = .ok (u, c') ↔ c.skipped.blank = true ∧ c.pastTrivia = c' := by
  simp only [expectBlank, bind_eq_ok, skipTrivia_eq_ok]
  refine ⟨?_, ?_⟩
  · intro ⟨_, _, ⟨rfl, rfl⟩, checked⟩
    split at checked
    case isTrue blank => exact ⟨blank, (pure_eq_ok.1 checked).2⟩
    case isFalse =>
      simp only [bind_eq_ok] at checked
      obtain ⟨_, _, _, _, _, _, failed⟩ := checked
      exact absurd failed fail_ne_ok
  · intro ⟨blank, moved⟩
    refine ⟨_, _, ⟨rfl, rfl⟩, ?_⟩
    rw [if_pos blank]
    exact pure_eq_ok.2 ⟨rfl, moved⟩

/-- A newline is found when the trivia ahead holds one or ends in front of a closing brace, and
all of it is skipped. -/
theorem expectNewline_eq_ok {u : Unit} :
    expectNewline c = .ok (u, c') ↔
      (c.skipped.newline = true ∨ c.pastTrivia.kind? = some .rightBrace) ∧ c.pastTrivia = c' := by
  simp only [expectNewline, bind_eq_ok, skipTrivia_eq_ok, peek_eq_ok]
  refine ⟨?_, ?_⟩
  · intro ⟨_, _, ⟨rfl, rfl⟩, _, _, ⟨rfl, rfl⟩, checked⟩
    split at checked
    case isTrue ended => exact ⟨ended, (pure_eq_ok.1 checked).2⟩
    case isFalse =>
      obtain ⟨_, _, _, failed⟩ := bind_eq_ok.1 checked
      exact absurd failed fail_ne_ok
  · intro ⟨ended, moved⟩
    refine ⟨_, _, ⟨rfl, rfl⟩, _, _, ⟨rfl, rfl⟩, ?_⟩
    rw [if_pos ended]
    exact pure_eq_ok.2 ⟨rfl, moved⟩

/-- Either there is no comma, or one is taken with the trivia around it. -/
theorem skipComma_eq_ok {comma : Bool} :
    skipComma c = .ok (comma, c') ↔
      (comma = false ∧ c.pastTrivia.kind? ≠ some .comma ∧ c.pastTrivia = c') ∨
      (comma = true ∧ ∃ t c₁, t.kind = .comma ∧ c.pastTrivia.Takes t c₁ ∧ c₁.pastTrivia = c') := by
  simp only [skipComma, bind_eq_ok, skipTrivia_eq_ok, peek_eq_ok]
  refine ⟨?_, ?_⟩
  · intro ⟨_, _, ⟨rfl, rfl⟩, _, _, ⟨rfl, rfl⟩, checked⟩
    split at checked
    case isTrue comma =>
      simp only [bind_eq_ok, skipTrivia_eq_ok, pure_eq_ok] at checked
      obtain ⟨_, c₁, taken, _, _, ⟨rfl, rfl⟩, rfl, rfl⟩ := checked
      obtain ⟨t, isComma, takes⟩ := takes_of_next comma taken
      exact .inr ⟨rfl, t, c₁, isComma, takes, rfl⟩
    case isFalse other =>
      obtain ⟨rfl, moved⟩ := pure_eq_ok.1 checked
      exact .inl ⟨rfl, other, moved⟩
  · intro cases
    refine ⟨_, _, ⟨rfl, rfl⟩, _, _, ⟨rfl, rfl⟩, ?_⟩
    obtain ⟨rfl, other, moved⟩ | ⟨rfl, t, c₁, comma, takes, moved⟩ := cases
    · rw [if_neg other]
      exact pure_eq_ok.2 ⟨rfl, moved⟩
    · rw [if_pos (takes.kind?.trans (congrArg some comma))]
      simp only [bind_eq_ok, next_eq_ok, skipTrivia_eq_ok, pure_eq_ok]
      exact ⟨_, c₁, .inr ⟨t, rfl, takes⟩, _, _, ⟨rfl, rfl⟩, trivial, moved⟩

/-! ## Lists -/

section

variable {item : Parser α} {opening close : Kind} {as : List α}

/-- There is no item, or one that is the last, or one with a comma behind it and then
what the remaining rounds read. -/
theorem items_succ_eq_ok {rounds : Nat} :
    items close item (rounds + 1) c = .ok (as, c') ↔
      ((c.kind? = none ∨ c.kind? = some close) ∧ as = [] ∧ c = c') ∨
      (¬ (c.kind? = none ∨ c.kind? = some close) ∧ ∃ a c₁, item c = .ok (a, c₁) ∧
        ((c₁.pastTrivia.kind? ≠ some .comma ∧ as = [a] ∧ c₁.pastTrivia = c') ∨
          ∃ t c₂ rest, t.kind = .comma ∧ c₁.pastTrivia.Takes t c₂ ∧
            items close item rounds c₂.pastTrivia = .ok (rest, c') ∧ as = a :: rest)) := by
  change (if c.kind? = none ∨ c.kind? = some close then pure [] else _ : Parser (List α)) c = _ ↔ _
  by_cases stop : c.kind? = none ∨ c.kind? = some close
  · rw [if_pos stop, pure_eq_ok, eq_comm]
    simp only [stop, true_and, not_true_eq_false, false_and, or_false]
  · rw [if_neg stop, bind_eq_ok]
    simp only [stop, false_and, false_or, not_false_eq_true, true_and, bind_eq_ok, skipComma_eq_ok]
    refine exists_congr fun a => exists_congr fun c₁ => and_congr_right fun _ => ⟨?_, ?_⟩
    · intro found
      obtain ⟨_, _, ⟨rfl, other, rfl⟩ | ⟨rfl, t, c₂, comma, takes, rfl⟩, read⟩ := found
      · obtain ⟨rfl, rfl⟩ := pure_eq_ok.1 read
        exact .inl ⟨other, rfl, rfl⟩
      · obtain ⟨rest, _, later, read⟩ := bind_eq_ok.1 read
        obtain ⟨rfl, rfl⟩ := pure_eq_ok.1 read
        exact .inr ⟨t, c₂, rest, comma, takes, later, rfl⟩
    · intro found
      obtain ⟨other, rfl, rfl⟩ | ⟨t, c₂, rest, comma, takes, later, rfl⟩ := found
      · exact ⟨false, _, .inl ⟨rfl, other, rfl⟩, pure_eq_ok.2 ⟨rfl, rfl⟩⟩
      · refine ⟨true, _, .inr ⟨rfl, t, c₂, comma, takes, rfl⟩, ?_⟩
        exact bind_eq_ok.2 ⟨rest, c', later, pure_eq_ok.2 ⟨rfl, rfl⟩⟩

/-- A list is read when its brackets are, with its items between them. -/
theorem delimited_eq_ok :
    delimited opening close item c = .ok (as, c') ↔
      ∃ t c₁ c₂ t', t.kind = opening ∧ c.Takes t c₁ ∧
        items close item c₁.pastTrivia.rest.length c₁.pastTrivia = .ok (as, c₂) ∧
        t'.kind = close ∧ c₂.Takes t' c' := by
  simp only [delimited, bind_eq_ok, expect_eq_ok, skipTrivia_eq_ok, get_eq_ok, pure_eq_ok]
  refine ⟨?_, ?_⟩
  · intro found
    obtain ⟨_, c₁, ⟨t, isOpening, opened⟩, _, _, ⟨_, rfl⟩, _, _, ⟨rfl, rfl⟩, as', c₂, inside, _, _,
      ⟨t', isClose, closed⟩, rfl, rfl⟩ := found
    exact ⟨t, c₁, c₂, t', isOpening, opened, inside, isClose, closed⟩
  · intro found
    obtain ⟨t, c₁, c₂, t', isOpening, opened, inside, isClose, closed⟩ := found
    exact ⟨(), c₁, ⟨t, isOpening, opened⟩, _, _, ⟨rfl, rfl⟩, _, _, ⟨rfl, rfl⟩, as, c₂, inside, (),
      c', ⟨t', isClose, closed⟩, rfl, rfl⟩

end

end Parser

/-! ## Operators -/

open NominalScript.Syntax.Parser

section

variable {right : Parser Expr} {start : Location} {e e' : Expr}

/-- Without an operator ahead nothing is read. -/
theorem operation_of_none (noOperator : ∀ op, c.pastTrivia.kind? ≠ some (.op op)) :
    operation right start e c = .ok (e, c) := by
  simp only [operation, bind_eq_ok, get_eq_ok, skipTrivia_eq_ok]
  refine ⟨_, _, ⟨rfl, rfl⟩, _, _, ⟨rfl, rfl⟩, _, _, ⟨rfl, rfl⟩, ?_⟩
  rcases tokens : c.pastTrivia.rest with _ | ⟨⟨kind, l, size⟩, rest⟩
  case nil => rfl
  case cons =>
    cases kind
    case op op => exact absurd (by simp [Cursor.kind?, tokens]) (noOperator op)
    all_goals rfl

/-- An operator ahead is taken with its right operand. -/
theorem operation_eq_ok {t : Token} {op : String} {c₁ : Cursor} (kind : t.kind = .op op)
    (takes : c.pastTrivia.Takes t c₁) :
    operation right start e c = .ok (e', c') ↔ c.skipped.blank = c₁.skipped.blank ∧
      ∃ r, right c₁.pastTrivia = .ok (r, c') ∧
        e' = .binary ⟨op, t.span⟩ e r (start.until c'.lastEnd) := by
  rcases t with ⟨_, l, size⟩
  cases kind
  have taken : next c.pastTrivia = .ok (some ⟨.op op, l, size⟩, c₁) :=
    next_eq_ok.2 (.inr ⟨_, rfl, takes⟩)
  simp only [operation, bind_eq_ok, get_eq_ok, skipTrivia_eq_ok, and_assoc, exists_and_left,
    exists_eq_left', takes.rest, taken, Except.ok.injEq, Prod.mk.injEq]
  by_cases blanks : c.skipped.blank = c₁.skipped.blank
  · rw [if_neg (not_not_intro blanks)]
    simp only [bind_eq_ok, spanFrom_eq_ok, pure_eq_ok, blanks, true_and]
    refine ⟨?_, ?_⟩
    · intro found
      obtain ⟨r, c₂, operand, _, _, ⟨rfl, rfl⟩, rfl, rfl⟩ := found
      exact ⟨r, operand, rfl⟩
    · intro ⟨r, operand, same⟩
      exact ⟨r, c', operand, _, _, ⟨rfl, rfl⟩, same.symm, rfl⟩
  · rw [if_pos blanks]
    exact ⟨fun failed => absurd failed fail_ne_ok, fun both => absurd both.1 blanks⟩

end

end NominalScript.Syntax
