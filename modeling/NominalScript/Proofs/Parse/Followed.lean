import NominalScript.Proofs.Parse.Reformat

/-!
# Tokens with more behind them

A parser looks ahead, past trivia, for an operator, a brace, an arrow or an `else`.  As
long as a token that is no trivia is left when it is done, it has never looked past the
last of the tokens, and it reads the same when more tokens stand behind them.  A
declaration needs no such token: it ends with its closing brace, and nothing is looked
for behind that.

`Extends` says this of one parser, for the cursors that it may end at.  The steps of a
sequence hand what is left on to each other, so there is one rule for sequences and
then one lemma for each parser.
-/

namespace NominalScript.Syntax

open NominalScript.Syntax.Parser

variable {α β : Type} {more : List Token} {c c' : Cursor}

/-! ## Cursors -/

namespace Cursor

/-- The same place, with more tokens behind those ahead. -/
def followedBy (c : Cursor) (more : List Token) : Cursor := ⟨c.rest ++ more, c.lastEnd⟩

/-- A token that is no trivia is ahead. -/
def Open (c : Cursor) : Prop := ∃ t ∈ c.rest, t.kind.isTrivia = false

/-- Any cursor. -/
def Any (_ : Cursor) : Prop := True

theorem Open.of_suffix (opened : c'.Open) (suffix : c'.rest <:+ c.rest) : c.Open := by
  obtain ⟨t, mem, other⟩ := opened
  exact ⟨t, suffix.mem mem, other⟩

theorem Takes.opened {t : Token} (takes : c.Takes t c') (other : t.kind.isTrivia = false) :
    c.Open :=
  ⟨t, by simp [takes.rest], other⟩

theorem Takes.followedBy {t : Token} (takes : c.Takes t c') (more : List Token) :
    (c.followedBy more).Takes t (c'.followedBy more) :=
  ⟨by simp [Cursor.followedBy, takes.rest], takes.lastEnd⟩

theorem Open.exists_takes (opened : c.Open) : ∃ t c', c.Takes t c' := by
  obtain ⟨t, mem, _⟩ := opened
  cases tokens : c.rest with
  | nil => simp [tokens] at mem
  | cons u rest => exact ⟨u, ⟨rest, u.stop⟩, tokens, rfl⟩

theorem Open.length_pos (opened : c.Open) : 0 < c.rest.length := by
  obtain ⟨t, mem, _⟩ := opened
  exact List.length_pos_of_mem mem

theorem Open.kind?_followedBy (opened : c.Open) (more : List Token) :
    (c.followedBy more).kind? = c.kind? := by
  obtain ⟨t, c', takes⟩ := opened.exists_takes
  rw [takes.kind?, (takes.followedBy more).kind?]

theorem Open.here_followedBy (opened : c.Open) (more : List Token) :
    (c.followedBy more).here = c.here := by
  obtain ⟨t, c', takes⟩ := opened.exists_takes
  rw [takes.here, (takes.followedBy more).here]

theorem Open.trivia_followedBy (opened : c.Open) (more : List Token) :
    (c.followedBy more).trivia = c.trivia := by
  have stops : c.trivia.length ≠ c.rest.length := by
    intro all
    obtain ⟨t, mem, other⟩ := opened
    have same : c.trivia = c.rest := (List.takeWhile_prefix _).eq_of_length all
    rw [← same] at mem
    simp [c.isTrivia_of_mem_trivia mem] at other
  unfold trivia at stops ⊢
  simp [followedBy, List.takeWhile_append, stops]

theorem Open.pastTrivia (opened : c.Open) : c.pastTrivia.Open := by
  obtain ⟨t, mem, other⟩ := opened
  rw [← c.trivia_append_pastTrivia] at mem
  rcases List.mem_append.1 mem with skipped | ahead
  · simp [c.isTrivia_of_mem_trivia skipped] at other
  · exact ⟨t, ahead, other⟩

theorem Open.skipped_followedBy (opened : c.Open) (more : List Token) :
    (c.followedBy more).skipped = c.skipped := by
  rw [skipped, skipped, opened.trivia_followedBy]

/-- A run of trivia ends before a token that is none. -/
theorem Open.skipWhile_followedBy (opened : c.Open) {p : Kind → Bool}
    (trivia : ∀ k, p k = true → k.isTrivia = true) (more : List Token) :
    (c.followedBy more).skipWhile p = (c.skipWhile p).followedBy more := by
  rcases c with ⟨tokens, lastEnd⟩
  simp only [Open] at opened
  simp only [skipWhile, followedBy]
  induction tokens generalizing lastEnd with
  | nil => simp at opened
  | cons t rest ih =>
    rw [List.cons_append, afterRun, afterRun]
    cases run : p t.kind with
    | true => simpa using ih t.stop (by simpa [trivia _ run] using opened)
    | false => rfl

theorem Open.pastTrivia_followedBy (opened : c.Open) (more : List Token) :
    (c.followedBy more).pastTrivia = c.pastTrivia.followedBy more :=
  opened.skipWhile_followedBy (fun _ trivia => trivia) more

theorem Open.toLineEnd_followedBy (opened : c.Open) (more : List Token) :
    (c.followedBy more).toLineEnd = c.toLineEnd.followedBy more :=
  opened.skipWhile_followedBy (fun _ both => (Bool.and_eq_true_iff.1 both).1) more

end Cursor

open Cursor (Open Any)

/-! ## Parsers -/

/-- A token is ahead, what is left is left of the tokens ahead, and with more behind
them the parser reads the same and leaves the same with more behind it. -/
structure ExtendsAt (more : List Token) (q : Parser α) (c : Cursor) (a : α) (c' : Cursor) :
    Prop where
  opened : c.Open
  suffix : c'.rest <:+ c.rest
  read : q (c.followedBy more) = .ok (a, c'.followedBy more)

/-- Whatever the first parser reads the second reads with more tokens behind, if the
first ends at a cursor of the given kind. -/
def Extends (more : List Token) (last : Cursor → Prop) (p q : Parser α) : Prop :=
  ∀ ⦃c a c'⦄, p c = .ok (a, c') → last c' → ExtendsAt more q c a c'

namespace Extends

variable {last : Cursor → Prop} {p q : Parser α} {f g : α → Parser β}

/-- What may end anywhere may end before a token. -/
theorem mono (extends_ : Extends more Any p q) : Extends more last p q :=
  fun _ _ _ read _ => extends_ read trivial

theorem bind (first : Extends more Open p q) (rest : ∀ a, Extends more last (f a) (g a)) :
    Extends more last (p >>= f) (q >>= g) := by
  intro c b c' read ends
  obtain ⟨a, c₁, read, then_⟩ := bind_eq_ok.1 read
  have later := rest a then_ ends
  have before := first read later.opened
  exact ⟨before.opened, later.suffix.trans before.suffix,
    by rw [bind_of_ok before.read, later.read]⟩

/-- A step that takes nothing and looks at nothing ahead may come at the end. -/
theorem finish (first : Extends more last p q)
    (stays : ∀ a c, ∃ b, f a c = .ok (b, c) ∧
      g a (c.followedBy more) = .ok (b, c.followedBy more)) :
    Extends more last (p >>= f) (q >>= g) := by
  intro c b c' read ends
  obtain ⟨a, c₁, read, then_⟩ := bind_eq_ok.1 read
  obtain ⟨b', here, there⟩ := stays a c₁
  cases then_.symm.trans here
  have before := first read ends
  exact ⟨before.opened, before.suffix, by rw [bind_of_ok before.read, there]⟩

theorem ite {P : Prop} [Decidable P] {p' q' : Parser α} (yes : Extends more last p q)
    (no : Extends more last p' q') :
    Extends more last (if P then p else p') (if P then q else q') := by
  split
  · exact yes
  · exact no

theorem fail (fault : ParseFault) (l : Location) (q : Parser α) :
    Extends more last (Parser.fail fault l) q :=
  fun _ _ _ read => absurd read fail_ne_ok

/-- A step that fails after some other step. -/
theorem bindFail {fault : ParseFault} {l : β → Location} (p : Parser β) (q : Parser α) :
    Extends more last (do Parser.fail fault (l (← p))) q := by
  intro c a c' read
  obtain ⟨_, _, _, failed⟩ := bind_eq_ok.1 read
  exact absurd failed fail_ne_ok

end Extends

/-- The same of parsers that recurse on a bound for the tokens left. -/
def ExtendsWithin (more : List Token) (F G : Nat → Parser α) : Prop :=
  ∀ ⦃m n c a c'⦄, F m c = .ok (a, c') → c'.Open → c.rest.length ≤ m →
    c.rest.length + more.length ≤ n → ExtendsAt more (G n) c a c'

/-- The bound is the number of tokens ahead. -/
theorem ExtendsWithin.bind {last : Cursor → Prop} {F G : Nat → Parser α} {f g : α → Parser β}
    (first : ExtendsWithin more F G) (rest : ∀ a, Extends more last (f a) (g a)) :
    Extends more last (do let c ← get; let a ← F c.rest.length; f a)
      (do let c ← get; let a ← G c.rest.length; g a) := by
  intro c b c' read ends
  rw [get_bind] at read
  obtain ⟨a, c₁, read, then_⟩ := bind_eq_ok.1 read
  have later := rest a then_ ends
  have size : (c.followedBy more).rest.length = c.rest.length + more.length := List.length_append
  have before := first read later.opened (Nat.le_refl _) (Nat.le_of_eq size.symm)
  refine ⟨before.opened, later.suffix.trans before.suffix, ?_⟩
  rw [get_bind, size, bind_of_ok (size ▸ before.read), later.read]

/-! ## Steps -/

theorem pure_extends (a : α) : Extends more Open (pure a) (pure a) := by
  intro c b c' read opened
  obtain ⟨rfl, rfl⟩ := pure_eq_ok.1 read
  exact ⟨opened, List.suffix_rfl, rfl⟩

theorem here_extends : Extends more Open here here := by
  intro c l c' read opened
  obtain ⟨rfl, rfl⟩ := here_eq_ok.1 read
  exact ⟨opened, List.suffix_rfl, here_eq_ok.2 ⟨opened.here_followedBy more, rfl⟩⟩

theorem spanFrom_extends (start : Location) :
    Extends more Open (spanFrom start) (spanFrom start) := by
  intro c s c' read opened
  obtain ⟨rfl, rfl⟩ := spanFrom_eq_ok.1 read
  exact ⟨opened, List.suffix_rfl, rfl⟩

theorem peek_extends : Extends more Open peek peek := by
  intro c k c' read opened
  obtain ⟨rfl, rfl⟩ := peek_eq_ok.1 read
  exact ⟨opened, List.suffix_rfl, peek_eq_ok.2 ⟨opened.kind?_followedBy more, rfl⟩⟩

theorem skipTrivia_extends : Extends more Open skipTrivia skipTrivia := by
  intro c s c' read opened
  obtain ⟨rfl, rfl⟩ := skipTrivia_eq_ok.1 read
  have suffix := c.reads_pastTrivia.suffix
  have opened := opened.of_suffix suffix
  exact ⟨opened, suffix, skipTrivia_eq_ok.2
    ⟨opened.skipped_followedBy more, opened.pastTrivia_followedBy more⟩⟩

theorem skipToLineEnd_extends : Extends more Open skipToLineEnd skipToLineEnd := by
  intro c s c' read opened
  cases skipToLineEnd_eq_ok.1 read
  have suffix := c.reads_toLineEnd.suffix
  have opened := opened.of_suffix suffix
  exact ⟨opened, suffix, skipToLineEnd_eq_ok.2 (opened.toLineEnd_followedBy more)⟩

theorem peekPastTrivia_extends : Extends more Open peekPastTrivia peekPastTrivia := by
  intro c k c' read opened
  obtain ⟨rfl, rfl⟩ := peekPastTrivia_eq_ok.1 read
  refine ⟨opened, List.suffix_rfl, peekPastTrivia_eq_ok.2 ⟨?_, rfl⟩⟩
  rw [opened.pastTrivia_followedBy, opened.pastTrivia.kind?_followedBy]

theorem next_extends : Extends more Open next next := by
  intro c t c' read opened
  obtain ⟨_, rfl, rfl⟩ | ⟨t, rfl, takes⟩ := next_eq_ok.1 read
  · obtain ⟨t, c', takes⟩ := opened.exists_takes
    simp [takes.rest] at *
  · exact ⟨opened.of_suffix takes.suffix, takes.suffix,
      next_eq_ok.2 (.inr ⟨t, rfl, takes.followedBy more⟩)⟩

theorem expect_extends {kind : Kind} (other : kind.isTrivia = false) :
    Extends more Any (expect kind) (expect kind) := by
  intro c u c' read _
  obtain ⟨t, rfl, takes⟩ := expect_eq_ok.1 read
  exact ⟨takes.opened other, takes.suffix, expect_eq_ok.2 ⟨t, rfl, takes.followedBy more⟩⟩

theorem expectIdent_extends : Extends more Any expectIdent expectIdent := by
  intro c ident c' read _
  obtain ⟨t, kind, span, takes⟩ := expectIdent_eq_ok.1 read
  exact ⟨takes.opened (by rw [kind]; rfl), takes.suffix,
    expectIdent_eq_ok.2 ⟨t, kind, span, takes.followedBy more⟩⟩

theorem expectBlank_extends : Extends more Open expectBlank expectBlank :=
  skipTrivia_extends.bind fun _ =>
    .ite (pure_extends _) (peek_extends.bind fun _ => .bindFail _ _)

theorem expectNewline_extends : Extends more Open expectNewline expectNewline :=
  skipTrivia_extends.bind fun _ => peek_extends.bind fun _ =>
    .ite (pure_extends _) (.bindFail _ _)

/-! ## Lists -/

/-- A list reads the same with more tokens behind it, if it ends in front of a token: no item
and no comma is looked for behind that. -/
theorem items_extends {item item' : Parser α} (each : Extends more Open item item')
    (close : Kind) : ExtendsWithin more (items close item) (items close item') := by
  intro m
  induction m with
  | zero =>
    intro n c as c' read opened enough
    obtain ⟨_, rfl⟩ := pure_eq_ok.1 read
    have := opened.length_pos
    omega
  | succ m ih =>
    intro n c as c' read opened enough enough'
    obtain ⟨stop, rfl, rfl⟩ | ⟨other, a, c₁, first, rest⟩ := items_succ_eq_ok.1 read
    · exact ⟨opened, List.suffix_rfl,
        items_of_stop (by rw [opened.kind?_followedBy more]; exact stop)⟩
    have past := c₁.reads_pastTrivia.suffix
    -- Behind the item only trivia and a comma are taken, so what is left was left there too.
    have opened₁ : c₁.Open := by
      obtain ⟨_, _, rfl⟩ | ⟨t, _, _, comma, takes, _⟩ := rest
      · exact opened.of_suffix past
      · exact (takes.opened (by rw [comma]; rfl)).of_suffix past
    have before := each first opened₁
    have size := before.opened.length_pos
    obtain _ | n := n
    · omega
    have other' := before.opened.kind?_followedBy more ▸ other
    have past' := opened₁.pastTrivia_followedBy more
    obtain ⟨noComma, rfl, rfl⟩ | ⟨t, c₂, as, comma, takes, later, rfl⟩ := rest
    · refine ⟨before.opened, past.trans before.suffix, items_succ_eq_ok.2
        (.inr ⟨other', a, _, before.read, .inl ⟨?_, rfl, past'⟩⟩)⟩
      rwa [past', opened.kind?_followedBy]
    · have shorter := takes.length_lt
      have suffix := past.trans before.suffix
      have suffix₂ := c₂.reads_pastTrivia.suffix
      have fewer := suffix.length_le
      have fewer₂ := suffix₂.length_le
      have further := ih (n := n) later opened (by omega) (by omega)
      refine ⟨before.opened,
        ((further.suffix.trans suffix₂).trans takes.suffix).trans suffix, items_succ_eq_ok.2
        (.inr ⟨other', a, _, before.read, .inr ⟨t, c₂.followedBy more, as, comma, ?_, ?_, rfl⟩⟩)⟩
      · rw [past']
        exact takes.followedBy more
      · rw [(further.opened.of_suffix suffix₂).pastTrivia_followedBy]
        exact further.read

theorem delimited_extends {item item' : Parser α} (each : Extends more Open item item')
    {opening close : Kind} (other : opening.isTrivia = false) (other' : close.isTrivia = false) :
    Extends more Any (delimited opening close item) (delimited opening close item') := by
  refine (expect_extends other).mono.bind fun _ => ?_
  refine skipTrivia_extends.bind fun _ => ?_
  refine (items_extends each close).bind fun as => ?_
  exact (expect_extends other').finish fun _ _ => ⟨as, rfl, rfl⟩

/-! ## Expressions -/

section

variable {sub sub' : BraceRole → Parser Expr}

theorem fieldInit_extends {value value' : Parser Expr} (each : Extends more Open value value') :
    Extends more Open (fieldInit value) (fieldInit value') := by
  refine here_extends.bind fun start => ?_
  refine expectIdent_extends.mono.bind fun ident => ?_
  refine skipTrivia_extends.bind fun _ => ?_
  refine (expect_extends rfl).mono.bind fun _ => ?_
  refine skipTrivia_extends.bind fun _ => ?_
  exact each.finish fun _ _ => ⟨_, rfl, rfl⟩

/-- Whether a name is a call, a literal or a variable is seen from the token behind it, past
trivia. -/
theorem named_extends (each : ∀ role, Extends more Open (sub role) (sub' role)) (role : BraceRole)
    (t : Token) (name : String) :
    Extends more Open (named sub role t name) (named sub' role t name) := by
  refine peek_extends.bind fun _ => .ite ?call
    (peekPastTrivia_extends.bind fun _ => .ite ?init ?var)
  case call =>
    exact (delimited_extends (each .literal) rfl rfl).mono.finish fun _ _ => ⟨_, rfl, rfl⟩
  case init =>
    refine skipTrivia_extends.bind fun _ => ?_
    refine here_extends.bind fun start => ?_
    exact (delimited_extends (fieldInit_extends (each .literal)) rfl rfl).mono.finish
      fun _ _ => ⟨_, rfl, rfl⟩
  case var => exact (spanFrom_extends _).finish fun _ _ => ⟨_, rfl, rfl⟩

/-- The first part of an expression reads the same with more tokens behind it. -/
theorem primary_extends (each : ∀ role, Extends more Open (sub role) (sub' role))
    (role : BraceRole) (t : Token) :
    Extends more Open (primary sub role t) (primary sub' role t) := by
  unfold primary
  cases t.kind with
  | ident name => exact named_extends each role t name
  | str value => exact (spanFrom_extends _).finish fun _ _ => ⟨_, rfl, rfl⟩
  | int value => exact (spanFrom_extends _).finish fun _ _ => ⟨_, rfl, rfl⟩
  | op op =>
    refine peek_extends.bind fun _ => .ite (.fail _ _ _) ?_
    exact (each role).finish fun _ _ => ⟨_, rfl, rfl⟩
  | leftParen =>
    refine skipTrivia_extends.bind fun _ => ?_
    refine (each .literal).bind fun inner => ?_
    refine skipTrivia_extends.bind fun _ => ?_
    exact (expect_extends rfl).mono.finish fun _ _ => ⟨_, rfl, rfl⟩
  | _ => exact .fail _ _ _

/-- Member accesses read the same with more tokens behind them: the next period is looked for
right ahead, where there is a token. -/
theorem members_extends (start : Location) (e : Expr) :
    ExtendsWithin more (fun m => members start m e) (fun m => members start m e) := by
  intro m
  induction m generalizing e with
  | zero =>
    intro n c e' c' read opened enough
    obtain ⟨_, rfl⟩ := pure_eq_ok.1 read
    have := opened.length_pos
    omega
  | succ m ih =>
    intro n c e' c' read opened enough enough'
    by_cases period : c.kind? = some .period
    · obtain ⟨t, c₁, kind, takes⟩ := Cursor.exists_takes period
      have shorter := takes.length_lt
      have opened₀ := takes.opened (by rw [kind]; rfl)
      obtain _ | n := n
      · omega
      have period' := (opened₀.kind?_followedBy more).trans period
      simp only [members, peek_bind, if_pos period, next_bind takes] at read
      obtain ⟨field, c₂, named, read⟩ := bind_eq_ok.1 read
      have before : ExtendsAt more expectIdent c₁ field c₂ := expectIdent_extends named trivial
      have fewer := before.suffix.length_le
      have later := ih _ (n := n) read opened (by omega) (by omega)
      refine ⟨opened₀, (later.suffix.trans before.suffix).trans takes.suffix, ?_⟩
      simp only [members, peek_bind, if_pos period', next_bind (takes.followedBy more),
        bind_of_ok before.read]
      exact later.read
    · cases (members_of_none period).symm.trans read
      exact ⟨opened, List.suffix_rfl,
        members_of_none (by rw [opened.kind?_followedBy]; exact period)⟩

/-- An operator and its operand read the same with more tokens behind them: the operator is
looked for past trivia, where there is a token. -/
theorem operation_extends {right right' : Parser Expr} (each : Extends more Open right right')
    (start : Location) (e : Expr) :
    Extends more Open (operation right start e) (operation right' start e) := by
  intro c e' c' read opened
  by_cases operator : ∃ op, c.pastTrivia.kind? = some (.op op)
  · obtain ⟨op, ahead⟩ := operator
    obtain ⟨t, c₁, kind, takes⟩ := Cursor.exists_takes ahead
    obtain ⟨blanks, r, operand, rfl⟩ := (operation_eq_ok kind takes).1 read
    have later := each operand opened
    have past := c.reads_pastTrivia.suffix
    have past₁ := c₁.reads_pastTrivia.suffix
    have opened₀ : c.Open := (takes.opened (by rw [kind]; rfl)).of_suffix past
    have opened₁ : c₁.Open := later.opened.of_suffix past₁
    have takes' := takes.followedBy more
    rw [← opened₀.pastTrivia_followedBy] at takes'
    refine ⟨opened₀, ((later.suffix.trans past₁).trans takes.suffix).trans past,
      (operation_eq_ok kind takes').2 ⟨?_, r, ?_, rfl⟩⟩
    · rw [opened₀.skipped_followedBy, opened₁.skipped_followedBy, blanks]
    · rw [opened₁.pastTrivia_followedBy, later.read]
  · -- The look past the trivia is all there is, and it ends at a token that was there.
    have noOperator : ∀ op, c.pastTrivia.kind? ≠ some (.op op) :=
      fun op ahead => operator ⟨op, ahead⟩
    cases (operation_of_none noOperator).symm.trans read
    refine ⟨opened, List.suffix_rfl, operation_of_none ?_⟩
    rwa [opened.pastTrivia_followedBy, opened.pastTrivia.kind?_followedBy]

/-- An expression reads the same with more tokens behind it and a bound that is no smaller. -/
theorem expressionWithin_extends {m n : Nat} (enough : m ≤ n) (role : BraceRole) :
    Extends more Open (expressionWithin m role) (expressionWithin n role) := by
  induction m generalizing n role with
  | zero => exact .bindFail _ _
  | succ m ih =>
    obtain _ | n := n
    · omega
    have each := fun role => ih (Nat.le_of_succ_le_succ enough) role
    refine here_extends.bind fun start => ?_
    refine next_extends.bind fun t => ?_
    cases t with
    | none => exact .fail _ _ _
    | some t =>
      refine (primary_extends each role t).bind fun e => ?_
      refine (members_extends start e).bind fun e => ?_
      exact operation_extends (each role) start e

theorem expression_extends (role : BraceRole) :
    Extends more Open (expression role) (expression role) := by
  intro c e c' read opened
  simp only [expression, get_bind] at read ⊢
  have size : c.rest.length ≤ (c.followedBy more).rest.length := by simp [Cursor.followedBy]
  have within : ExtendsAt more (expressionWithin (c.followedBy more).rest.length role) c e c' :=
    expressionWithin_extends size role read opened
  exact ⟨within.opened, within.suffix, by rw [get_bind]; exact within.read⟩

end

/-! ## Statements -/

section

variable {stmt stmt' : Parser Stmt} {cond cond' : Parser Conditional}

theorem separator_extends (s : Stmt) : Extends more Open (separator s) (separator s) := by
  unfold separator
  split
  · exact skipTrivia_extends.bind fun _ => pure_extends _
  · exact expectNewline_extends

/-- Statements read the same with more tokens behind them.  Each of them takes a token, so the
bound lasts for all. -/
theorem statements_extends (each : Extends more Open stmt stmt') (shortens : Shortens stmt) :
    ExtendsWithin more (statements stmt) (statements stmt') := by
  intro m
  induction m with
  | zero =>
    intro n c ss c' read opened enough
    obtain ⟨_, rfl⟩ := pure_eq_ok.1 read
    have := opened.length_pos
    omega
  | succ m ih =>
    intro n c ss c' read opened enough enough'
    by_cases stop : c.kind? = none ∨ c.kind? = some .rightBrace
    · cases (statements_of_stop stop).symm.trans read
      exact ⟨opened, List.suffix_rfl,
        statements_of_stop (by rw [opened.kind?_followedBy]; exact stop)⟩
    · rw [statements_of_some stop] at read
      obtain ⟨s, c₁, first, read⟩ := bind_eq_ok.1 read
      obtain ⟨_, c₂, parted, read⟩ := bind_eq_ok.1 read
      obtain ⟨ss, c₃, rest, read⟩ := bind_eq_ok.1 read
      obtain ⟨rfl, rfl⟩ := pure_eq_ok.1 read
      have shorter := shortens c s c₁ first
      cases pastTrivia_of_separator parted
      have fewer := c₁.reads_pastTrivia.suffix.length_le
      obtain _ | n := n
      · omega
      have later := ih (n := n) rest opened (by omega) (by omega)
      have between : ExtendsAt more (separator s) c₁ _ c₁.pastTrivia :=
        separator_extends s parted later.opened
      have before := each first between.opened
      refine ⟨before.opened, (later.suffix.trans between.suffix).trans before.suffix, ?_⟩
      rw [statements_of_some (before.opened.kind?_followedBy more ▸ stop), bind_of_ok before.read,
        bind_of_ok between.read, bind_of_ok later.read]
      rfl

theorem block_extends (each : Extends more Open stmt stmt') (shortens : Shortens stmt) :
    Extends more Any (block stmt) (block stmt') := by
  refine (expect_extends rfl).mono.bind fun _ => ?_
  refine skipTrivia_extends.bind fun _ => ?_
  refine (statements_extends each shortens).bind fun ss => ?_
  exact (expect_extends rfl).finish fun _ _ => ⟨ss, rfl, rfl⟩

theorem returnValue_extends : Extends more Open returnValue returnValue := by
  refine (expect_extends rfl).mono.bind fun _ => ?_
  refine skipToLineEnd_extends.bind fun _ => ?_
  refine peek_extends.bind fun _ => .ite (pure_extends _) ?_
  exact (expression_extends .literal).finish fun _ _ => ⟨_, rfl, rfl⟩

theorem annotation_extends : Extends more Open annotation annotation := by
  refine peek_extends.bind fun _ => .ite ?_ (pure_extends _)
  refine next_extends.bind fun _ => ?_
  refine skipTrivia_extends.bind fun _ => ?_
  refine expectIdent_extends.mono.bind fun type => ?_
  exact skipTrivia_extends.finish fun _ _ => ⟨_, rfl, rfl⟩

theorem binding_extends (start : Location) :
    Extends more Open (binding start) (binding start) := by
  refine (expect_extends rfl).mono.bind fun _ => ?_
  refine expectBlank_extends.bind fun _ => ?_
  refine expectIdent_extends.mono.bind fun ident => ?_
  refine skipTrivia_extends.bind fun _ => ?_
  refine annotation_extends.bind fun type => ?_
  refine (expect_extends rfl).mono.bind fun _ => ?_
  refine skipTrivia_extends.bind fun _ => ?_
  exact (expression_extends .literal).finish fun _ _ => ⟨_, rfl, rfl⟩

theorem statementWith_extends (each : Extends more Open cond cond') :
    Extends more Open (statementWith cond) (statementWith cond') := by
  refine here_extends.bind fun start => ?_
  refine peek_extends.bind fun k => ?_
  split
  · exact each.finish fun _ _ => ⟨_, rfl, rfl⟩
  · exact returnValue_extends.finish fun _ _ => ⟨_, rfl, rfl⟩
  · exact binding_extends start
  · exact (expression_extends .literal).finish fun _ _ => ⟨_, rfl, rfl⟩

/-- The `else` that would lengthen a chain is looked for past trivia, where there is a token. -/
theorem otherwise_extends (each : Extends more Open cond cond')
    (shortens : Shortens (statementWith cond)) :
    Extends more Open (otherwise cond) (otherwise cond') := by
  refine peekPastTrivia_extends.bind fun _ => .ite ?_ (pure_extends _)
  refine skipTrivia_extends.bind fun _ => ?_
  refine next_extends.bind fun _ => ?_
  refine skipTrivia_extends.bind fun _ => ?_
  refine peek_extends.bind fun k => ?_
  split
  · exact each.finish fun _ _ => ⟨_, rfl, rfl⟩
  · exact (block_extends (statementWith_extends each) shortens).mono.finish
      fun _ _ => ⟨_, rfl, rfl⟩
  · exact .bindFail _ _

/-- A conditional reads the same with more tokens behind it and a bound that is no smaller. -/
theorem conditionalWithin_extends {m n : Nat} (enough : m ≤ n) :
    Extends more Open (conditionalWithin m) (conditionalWithin n) := by
  induction m generalizing n with
  | zero => exact .bindFail _ _
  | succ m ih =>
    obtain _ | n := n
    · omega
    have each := ih (Nat.le_of_succ_le_succ enough)
    have shortens := shortens_statementWith m
    refine here_extends.bind fun start => ?_
    refine (expect_extends rfl).mono.bind fun _ => ?_
    refine expectBlank_extends.bind fun _ => ?_
    refine (expression_extends .block).bind fun condition => ?_
    refine skipTrivia_extends.bind fun _ => ?_
    refine (block_extends (statementWith_extends each) shortens).mono.bind fun ss => ?_
    exact (otherwise_extends each shortens).finish fun _ _ => ⟨_, rfl, rfl⟩

theorem conditional_extends : Extends more Open conditional conditional := by
  intro c i c' read opened
  simp only [conditional, get_bind] at read
  have size : c.rest.length ≤ (c.followedBy more).rest.length := by simp [Cursor.followedBy]
  have within : ExtendsAt more (conditionalWithin (c.followedBy more).rest.length) c i c' :=
    conditionalWithin_extends size read opened
  exact ⟨within.opened, within.suffix, within.read⟩

theorem statement_extends : Extends more Open statement statement :=
  statementWith_extends conditional_extends

end

/-! ## Declarations -/

theorem typedName_extends : Extends more Open typedName typedName := by
  refine here_extends.bind fun start => ?_
  refine expectIdent_extends.mono.bind fun ident => ?_
  refine skipTrivia_extends.bind fun _ => ?_
  refine (expect_extends rfl).mono.bind fun _ => ?_
  refine skipTrivia_extends.bind fun _ => ?_
  exact expectIdent_extends.mono.finish fun _ _ => ⟨_, rfl, rfl⟩

theorem structDecl_extends : Extends more Any structDecl structDecl := by
  refine here_extends.bind fun start => ?_
  refine (expect_extends rfl).mono.bind fun _ => ?_
  refine expectBlank_extends.bind fun _ => ?_
  refine expectIdent_extends.mono.bind fun ident => ?_
  refine skipTrivia_extends.bind fun _ => ?_
  exact (delimited_extends typedName_extends rfl rfl).finish fun _ _ => ⟨_, rfl, rfl⟩

theorem returnType_extends : Extends more Open returnType returnType := by
  refine peekPastTrivia_extends.bind fun _ => .ite ?_ (pure_extends _)
  refine skipTrivia_extends.bind fun _ => ?_
  refine next_extends.bind fun _ => ?_
  refine skipTrivia_extends.bind fun _ => ?_
  exact expectIdent_extends.mono.finish fun _ _ => ⟨_, rfl, rfl⟩

theorem fnDecl_extends : Extends more Any fnDecl fnDecl := by
  refine here_extends.bind fun start => ?_
  refine (expect_extends rfl).mono.bind fun _ => ?_
  refine expectBlank_extends.bind fun _ => ?_
  refine expectIdent_extends.mono.bind fun ident => ?_
  refine (delimited_extends typedName_extends rfl rfl).mono.bind fun params => ?_
  refine returnType_extends.bind fun type => ?_
  refine (spanFrom_extends start).bind fun signatureSpan => ?_
  refine skipTrivia_extends.bind fun _ => ?_
  exact (block_extends statement_extends (shortens_of_reads statement_reads)).finish
    fun _ _ => ⟨_, rfl, rfl⟩

end NominalScript.Syntax
