import NominalScript.Proofs.Parse.Run
import NominalScript.Proofs.Syntax.Spans
import NominalScript.Proofs.Token.Places

/-!
# Where a parser stands

The tokens of a text tile it, so the end of the last token read is where the next one
starts, and a cursor is always at a location of the text.  A parser that starts at such
a cursor ends at one that is no further back; every span of the tree it reads stands in
the text, and so does the location it fails at.

`Places` says this of one run, with the location `l` that the spans of the tree may
start at, and `Placed` of all runs of a parser.  There is a rule for a sequence, and
then one lemma for each parser.
-/

namespace NominalScript.Syntax

open NominalScript.Syntax.Parser

variable {α β : Type} {text : List Char} {l : Location} {c c' : Cursor} {t : Token}

/-! ## Cursors -/

/-- The cursor is between two tokens of the text, and the tokens ahead tile the rest. -/
def Cursor.StandsIn (text : List Char) (c : Cursor) : Prop :=
  ∃ before lexemes, before ++ lexemes.flatten = text ∧ Token.Tiled before c.rest lexemes [] ∧
    c.lastEnd = .after before ∧ before.getLast? ≠ some '\r'

namespace Cursor.StandsIn

theorem lastEnd (stands : c.StandsIn text) : c.lastEnd.StandsIn text := by
  obtain ⟨before, lexemes, flat, _, last, noReturn⟩ := stands
  rw [last]
  exact Location.standsIn_after flat noReturn

/-- The next token starts where the last one ends. -/
theorem here_eq (stands : c.StandsIn text) : c.here = c.lastEnd := by
  obtain ⟨before, lexemes, _, tiled, last, _⟩ := stands
  unfold Cursor.here
  split
  · next t rest ahead =>
    rw [ahead] at tiled
    cases tiled with
    | cons _ _ start => rw [start, last]
  · rfl

theorem takes (stands : c.StandsIn text) (takes : c.Takes t c') :
    c'.StandsIn text ∧ c.lastEnd.before c'.lastEnd = true := by
  obtain ⟨before, lexemes, flat, tiled, last, noReturn⟩ := stands
  rw [takes.rest] at tiled
  cases tiled with
  | @cons _ _ x _ _ xs writes _ _ stop tiled =>
    refine ⟨⟨before ++ x, xs, ?_, tiled, takes.lastEnd.trans stop, ?_⟩, ?_⟩
    · rwa [List.append_assoc, ← List.flatten_cons]
    · exact getLast?_append_ne noReturn writes.getLast?_ne
    · rw [last, takes.lastEnd, stop]
      exact Location.after_before_append before x

end Cursor.StandsIn

/-- The cursor stands in the text, at a location of it or behind it. -/
structure Cursor.Since (text : List Char) (l : Location) (c : Cursor) : Prop where
  stands : c.StandsIn text
  start : l.StandsIn text
  ordered : l.before c.lastEnd = true

namespace Cursor.Since

theorem refl (stands : c.StandsIn text) : c.Since text c.lastEnd :=
  ⟨stands, stands.lastEnd, Location.before_refl _⟩

theorem trans (since : c.Since text l) (later : c'.Since text c.lastEnd) : c'.Since text l :=
  ⟨later.stands, since.start, Location.before_trans since.ordered later.ordered⟩

/-- The stretch that was read since stands in the text. -/
theorem span (since : c.Since text l) : (l.until c.lastEnd).StandsIn text :=
  ⟨since.start, since.stands.lastEnd, since.ordered⟩

theorem here (since : c.Since text l) : c.here.StandsIn text := by
  rw [since.stands.here_eq]
  exact since.stands.lastEnd

/-- From where the next token starts. -/
theorem fromHere (since : c.Since text l) : c.Since text c.here := by
  rw [since.stands.here_eq]
  exact refl since.stands

theorem afterTakes (since : c.Since text l) (takes : c.Takes t c') : c'.Since text t.start := by
  obtain ⟨stands, ordered⟩ := since.stands.takes takes
  have start : t.start = c.lastEnd := takes.here.symm.trans since.stands.here_eq
  rw [start]
  exact ⟨stands, since.stands.lastEnd, ordered⟩

theorem takes (since : c.Since text l) (takes : c.Takes t c') : c'.Since text l := by
  obtain ⟨stands, ordered⟩ := since.stands.takes takes
  exact since.trans ⟨stands, since.stands.lastEnd, ordered⟩

/-- A token that is taken stands in the text. -/
theorem token (since : c.Since text l) (takes : c.Takes t c') : t.span.StandsIn text := by
  have taken := (since.afterTakes takes).span
  rwa [takes.lastEnd] at taken

theorem skipWhile (since : c.Since text l) (p : Kind → Bool) : (c.skipWhile p).Since text l := by
  rcases c with ⟨tokens, lastEnd⟩
  unfold Cursor.skipWhile
  dsimp only
  induction tokens generalizing lastEnd with
  | nil => exact since
  | cons t rest ih =>
    unfold Cursor.afterRun
    split
    · exact ih t.stop (since.takes ⟨rfl, rfl⟩)
    · exact since

theorem pastTrivia (since : c.Since text l) : c.pastTrivia.Since text l := since.skipWhile _

end Cursor.Since

/-! ## Runs -/

/-- Where a run ends: at a cursor since a location, with something good, or with an
error at a location of the text. -/
def Places (text : List Char) (good : α → Prop) (l : Location) :
    Except ParseError (α × Cursor) → Prop
  | .ok (a, c) => c.Since text l ∧ good a
  | .error e => e.location.StandsIn text

/-- Wherever it starts in the text, the parser stays in it and reads something good. -/
def Placed (text : List Char) (good : α → Prop) (p : Parser α) : Prop :=
  ∀ ⦃l : Location⦄ ⦃c : Cursor⦄, c.Since text l → Places text good l (p c)

/-- All the spans stand in the text. -/
def SpansIn (text : List Char) (spans : List Span) : Prop := ∀ s ∈ spans, s.StandsIn text

@[simp]
theorem spansIn_nil : SpansIn text [] := nofun

@[simp]
theorem spansIn_cons {s : Span} {spans : List Span} :
    SpansIn text (s :: spans) ↔ s.StandsIn text ∧ SpansIn text spans :=
  List.forall_mem_cons

@[simp]
theorem spansIn_append {spans spans' : List Span} :
    SpansIn text (spans ++ spans') ↔ SpansIn text spans ∧ SpansIn text spans' :=
  List.forall_mem_append

theorem spansIn_flatMap {as : List α} {f : α → List Span} :
    SpansIn text (as.flatMap f) ↔ ∀ a ∈ as, SpansIn text (f a) :=
  List.forall_mem_flatMap

section

variable {good : α → Prop} {good' : β → Prop}

/-- What is read next is read from where the first step has ended, so it stays in the text too. -/
theorem Places.bind {p : Parser α} {f : α → Parser β} (first : Places text good l (p c))
    (rest : ∀ a c', c'.Since text l → good a → Places text good' l (f a c')) :
    Places text good' l ((p >>= f) c) := by
  cases run : p c with
  | ok r =>
    rw [run] at first
    rw [bind_of_ok run]
    exact rest r.1 r.2 first.1 first.2
  | error e =>
    rw [run] at first
    rw [bind_of_error run]
    exact first

/-- What starts with the next token starts since any location before. -/
theorem Places.fromHere {r : Except ParseError (α × Cursor)} (since : c.Since text l)
    (places : Places text good c.here r) : Places text good l r := by
  cases r with
  | ok r =>
    rw [since.stands.here_eq] at places
    exact ⟨since.trans places.1, places.2⟩
  | error e => exact places

/-- A step that is taken since two locations: the one of the run, and where it starts. -/
theorem Placed.bindFromHere {p : Parser α} {f : α → Parser β} (first : Placed text good p)
    (since : c.Since text l)
    (rest : ∀ a c', c'.Since text l → c'.Since text c.here → good a →
      Places text good' l (f a c')) :
    Places text good' l ((p >>= f) c) := by
  have whole := first since
  have step := first since.fromHere
  cases run : p c with
  | ok r =>
    rw [run] at whole step
    rw [bind_of_ok run]
    exact rest r.1 r.2 whole.1 step.1 whole.2
  | error e =>
    rw [run] at whole
    rw [bind_of_error run]
    exact whole

theorem next_placed : Placed text (fun t => ∀ u ∈ t, u.span.StandsIn text) next := by
  intro l c since
  unfold next
  split
  · next t rest ahead =>
    have takes : c.Takes t ⟨rest, t.stop⟩ := ⟨ahead, rfl⟩
    refine ⟨since.takes takes, ?_⟩
    rintro _ ⟨⟩
    exact since.token takes
  · exact ⟨since, nofun⟩

theorem expect_placed (kind : Kind) : Placed text (fun _ => True) (expect kind) := by
  intro l c since
  unfold expect
  rw [here_bind]
  refine (next_placed since).bind fun t c' since' _ => ?_
  rw [ite_run]
  split
  · exact ⟨since', trivial⟩
  · exact since.here

theorem expectIdent_placed : Placed text (fun i => i.span.StandsIn text) expectIdent := by
  intro l c since
  unfold expectIdent
  rw [here_bind]
  refine .fromHere since ((next_placed since.fromHere).bind fun t c' since' _ => ?_)
  split
  · exact ⟨since', since'.span⟩
  · exact since.here

theorem expectBlank_placed : Placed text (fun _ => True) expectBlank := by
  intro l c since
  unfold expectBlank
  rw [skipTrivia_bind, ite_run]
  split
  · exact ⟨since.pastTrivia, trivial⟩
  · exact since.pastTrivia.here

theorem expectNewline_placed : Placed text (fun _ => True) expectNewline := by
  intro l c since
  unfold expectNewline
  rw [skipTrivia_bind, peek_bind, ite_run]
  split
  · exact ⟨since.pastTrivia, trivial⟩
  · exact since.pastTrivia.here

theorem skipComma_placed : Placed text (fun _ => True) skipComma := by
  intro l c since
  unfold skipComma
  rw [skipTrivia_bind, peek_bind, ite_run]
  split
  · refine (next_placed since.pastTrivia).bind fun _ c since _ => ?_
    exact ⟨since.pastTrivia, trivial⟩
  · exact ⟨since.pastTrivia, trivial⟩

/-- A list stays in the text, and every item of it is good. -/
theorem items_placed {item : Parser α} (each : Placed text good item) (close : Kind)
    (rounds : Nat) : Placed text (fun as => ∀ a ∈ as, good a) (items close item rounds) := by
  induction rounds with
  | zero => exact fun _ _ since => ⟨since, nofun⟩
  | succ rounds ih =>
    intro l c since
    unfold items
    rw [peek_bind, ite_run]
    split
    · exact ⟨since, nofun⟩
    · refine (each since).bind fun a c since ha => ?_
      refine (skipComma_placed since).bind fun comma c since _ => ?_
      rw [ite_run]
      split
      · refine (ih since).bind fun as c since has => ?_
        exact ⟨since, List.forall_mem_cons.2 ⟨ha, has⟩⟩
      · exact ⟨since, List.forall_mem_singleton.2 ha⟩

theorem delimited_placed {item : Parser α} (each : Placed text good item) (opening close : Kind) :
    Placed text (fun as => ∀ a ∈ as, good a) (delimited opening close item) := by
  intro l c since
  unfold delimited
  refine (expect_placed opening since).bind fun _ c since _ => ?_
  rw [skipTrivia_bind, get_bind]
  refine (items_placed each close _ since.pastTrivia).bind fun as c since all => ?_
  refine (expect_placed close since).bind fun _ c since _ => ?_
  exact ⟨since, all⟩

end

/-! ## Expressions -/

section

variable {sub : BraceRole → Parser Expr}

/-- A field of a struct literal has its spans in the text. -/
theorem fieldInit_placed {value : Parser Expr}
    (values : Placed text (fun e => SpansIn text e.spans) value) :
    Placed text (fun f => SpansIn text f.spans) (fieldInit value) := by
  intro l c since
  unfold fieldInit
  rw [here_bind]
  refine .fromHere since ?_
  refine (expectIdent_placed since.fromHere).bind fun ident c since named => ?_
  rw [skipTrivia_bind]
  refine (expect_placed .colon since.pastTrivia).bind fun _ c since _ => ?_
  rw [skipTrivia_bind]
  refine (values since.pastTrivia).bind fun e c since inside => ?_
  refine ⟨since, ?_⟩
  simp only [FieldInit.spans, spansIn_cons]
  exact ⟨since.span, named, inside⟩

/-- What starts with a name has its span from that name on. -/
theorem named_places (subs : ∀ role, Placed text (fun e => SpansIn text e.spans) (sub role))
    (role : BraceRole) (name : String) (since : c.Since text t.start)
    (token : t.span.StandsIn text) :
    Places text (fun e => SpansIn text e.spans) t.start (named sub role t name c) := by
  unfold named
  rw [peek_bind, ite_run]
  split
  · refine (delimited_placed (subs .literal) _ _ since).bind fun args c since inside => ?_
    refine ⟨since, ?_⟩
    simp only [Expr.spans, spansIn_cons, Expr.spansOfAll_eq_flatMap, spansIn_flatMap]
    exact ⟨since.span, token, inside⟩
  · rw [peekPastTrivia_bind, ite_run]
    split
    · rw [skipTrivia_bind, here_bind]
      refine (delimited_placed (fieldInit_placed (subs .literal)) _ _).bindFromHere
        since.pastTrivia fun fields c since braces inside => ?_
      refine ⟨since, ?_⟩
      simp only [Expr.spans, spansIn_cons, Expr.spansOfFields_eq_flatMap, spansIn_flatMap]
      exact ⟨since.span, token, braces.span, inside⟩
    · refine ⟨since, ?_⟩
      simp only [Expr.spans, spansIn_cons, spansIn_nil, and_true]
      exact since.span

/-- The spans in the first part of an expression start at its first token or behind it. -/
theorem primary_places (subs : ∀ role, Placed text (fun e => SpansIn text e.spans) (sub role))
    (role : BraceRole) (since : c.Since text t.start) (token : t.span.StandsIn text) :
    Places text (fun e => SpansIn text e.spans) t.start (primary sub role t c) := by
  unfold primary
  generalize t.kind = kind
  cases kind with
  | ident name => exact named_places subs role name since token
  | str value =>
    refine ⟨since, ?_⟩
    simp only [Expr.spans, spansIn_cons, spansIn_nil, and_true]
    exact since.span
  | int value =>
    refine ⟨since, ?_⟩
    simp only [Expr.spans, spansIn_cons, spansIn_nil, and_true]
    exact since.span
  | op op =>
    dsimp only
    rw [peek_bind, ite_run]
    split
    · exact since.start
    · refine (subs role since).bind fun operand c since inside => ?_
      refine ⟨since, ?_⟩
      simp only [Expr.spans, spansIn_cons]
      exact ⟨since.span, token, inside⟩
  | leftParen =>
    dsimp only
    rw [skipTrivia_bind]
    refine (subs .literal since.pastTrivia).bind fun inner c since inside => ?_
    rw [skipTrivia_bind]
    refine (expect_placed .rightParen since.pastTrivia).bind fun _ c since _ => ?_
    refine ⟨since, ?_⟩
    simp only [Expr.spans, spansIn_cons]
    exact ⟨since.span, inside⟩
  | _ => exact since.start

/-- A member access has a span from the start of the whole chain. -/
theorem members_places {e : Expr} (rounds : Nat) (since : c.Since text l)
    (base : SpansIn text e.spans) :
    Places text (fun e => SpansIn text e.spans) l (members l rounds e c) := by
  induction rounds generalizing e c with
  | zero => exact ⟨since, base⟩
  | succ rounds ih =>
    unfold members
    rw [peek_bind, ite_run]
    split
    · refine (next_placed since).bind fun _ c since _ => ?_
      refine (expectIdent_placed since).bind fun field c since named => ?_
      rw [spanFrom_bind]
      refine ih since ?_
      simp only [Expr.spans, spansIn_cons]
      exact ⟨since.span, named, base⟩
    · exact ⟨since, base⟩

/-- A binary operation has a span from the start of its left operand. -/
theorem operation_places {right : Parser Expr} {e : Expr}
    (operands : Placed text (fun e => SpansIn text e.spans) right) (since : c.Since text l)
    (left : SpansIn text e.spans) :
    Places text (fun e => SpansIn text e.spans) l (operation right l e c) := by
  by_cases operator : ∃ op, c.pastTrivia.kind? = some (.op op)
  · obtain ⟨op, ahead⟩ := operator
    obtain ⟨t, c₁, kind, takes⟩ := Cursor.exists_takes ahead
    rw [operation_of_some kind takes]
    split
    · exact (since.pastTrivia.afterTakes takes).start
    · have token := since.pastTrivia.token takes
      refine (operands (since.pastTrivia.takes takes).pastTrivia).bind fun r c since inside => ?_
      refine ⟨since, ?_⟩
      simp only [Expr.spans, spansIn_cons, spansIn_append]
      exact ⟨since.span, token, left, inside⟩
  · rw [operation_of_none fun op ahead => operator ⟨op, ahead⟩]
    exact ⟨since, left⟩

end

/-- An expression starts where the next token does; at the end of the tokens it fails there. -/
theorem expressionWithin_placed (bound : Nat) (role : BraceRole) :
    Placed text (fun e => SpansIn text e.spans) (expressionWithin bound role) := by
  induction bound generalizing role with
  | zero => exact fun _ _ since => since.here
  | succ bound ih =>
    intro l c since
    unfold expressionWithin
    rw [here_bind]
    cases ahead : c.kind? with
    | none =>
      have ended : next c = .ok (none, c) :=
        next_eq_ok.2 (.inl ⟨Cursor.kind?_eq_none.1 ahead, rfl, rfl⟩)
      rw [bind_of_ok ended]
      exact since.here
    | some k =>
      obtain ⟨t, c₁, _, takes⟩ := Cursor.exists_takes ahead
      rw [next_bind takes]
      refine .fromHere since ?_
      rw [takes.here]
      refine (primary_places ih role (since.afterTakes takes) (since.token takes)).bind
        fun e c since inside => ?_
      rw [get_bind]
      refine (members_places _ since inside).bind fun e c since inside => ?_
      exact operation_places (ih role) since inside

theorem expression_placed (role : BraceRole) :
    Placed text (fun e => SpansIn text e.spans) (expression role) := by
  intro l c since
  unfold expression
  rw [get_bind]
  exact expressionWithin_placed _ role since

/-! ## Statements -/

section

variable {stmt : Parser Stmt} {cond : Parser Conditional}

theorem separator_placed (s : Stmt) : Placed text (fun _ => True) (separator s) := by
  intro l c since
  unfold separator
  split
  · exact ⟨since.pastTrivia, trivial⟩
  · exact expectNewline_placed since

/-- Statements have their spans in the text, all of them. -/
theorem statements_placed (each : Placed text (fun s => SpansIn text s.spans) stmt)
    (rounds : Nat) :
    Placed text (fun ss => SpansIn text (Stmt.spansOfAll ss)) (statements stmt rounds) := by
  induction rounds with
  | zero => exact fun _ _ since => ⟨since, spansIn_nil⟩
  | succ rounds ih =>
    intro l c since
    by_cases stop : c.kind? = none ∨ c.kind? = some .rightBrace
    · rw [statements_of_stop stop]
      exact ⟨since, spansIn_nil⟩
    · rw [statements_of_some stop]
      refine (each since).bind fun s c since first => ?_
      refine (separator_placed s since).bind fun _ c since _ => ?_
      refine (ih since).bind fun ss c since rest => ?_
      exact ⟨since, spansIn_append.2 ⟨first, rest⟩⟩

theorem block_placed (each : Placed text (fun s => SpansIn text s.spans) stmt) :
    Placed text (fun ss => SpansIn text (Stmt.spansOfAll ss)) (block stmt) := by
  intro l c since
  unfold block
  refine (expect_placed .leftBrace since).bind fun _ c since _ => ?_
  rw [skipTrivia_bind, get_bind]
  refine (statements_placed each _ since.pastTrivia).bind fun ss c since inside => ?_
  refine (expect_placed .rightBrace since).bind fun _ c since _ => ?_
  exact ⟨since, inside⟩

/-- The value of a return has its spans in the text, if there is one. -/
theorem returnValue_placed :
    Placed text (fun value => ∀ e ∈ value, SpansIn text e.spans) returnValue := by
  intro l c since
  unfold returnValue
  refine (expect_placed _ since).bind fun _ c since _ => ?_
  have later : c.toLineEnd.Since text l := since.skipWhile _
  rw [skipToLineEnd_bind, peek_bind, ite_run]
  split
  · exact ⟨later, nofun⟩
  · refine (expression_placed .literal later).bind fun e c since inside => ?_
    refine ⟨since, ?_⟩
    rintro _ ⟨⟩
    exact inside

theorem annotation_placed :
    Placed text (fun type => SpansIn text (Ident.spanIfAny type)) annotation := by
  intro l c since
  unfold annotation
  rw [peek_bind, ite_run]
  split
  · refine (next_placed since).bind fun _ c since _ => ?_
    rw [skipTrivia_bind]
    refine (expectIdent_placed since.pastTrivia).bind fun type c since named => ?_
    exact ⟨since.pastTrivia, spansIn_cons.2 ⟨named, spansIn_nil⟩⟩
  · exact ⟨since, spansIn_nil⟩

/-- A `let` has a span from the location that it is said to start at. -/
theorem binding_places (since : c.Since text l) :
    Places text (fun s => SpansIn text s.spans) l (binding l c) := by
  unfold binding
  refine (expect_placed _ since).bind fun _ c since _ => ?_
  refine (expectBlank_placed since).bind fun _ c since _ => ?_
  refine (expectIdent_placed since).bind fun ident c since named => ?_
  rw [skipTrivia_bind]
  refine (annotation_placed since.pastTrivia).bind fun type c since typed => ?_
  refine (expect_placed _ since).bind fun _ c since _ => ?_
  rw [skipTrivia_bind]
  refine (expression_placed .literal since.pastTrivia).bind fun value c since inside => ?_
  refine ⟨since, ?_⟩
  simp only [Stmt.spans, spansIn_cons, spansIn_append]
  exact ⟨since.span, named, typed, inside⟩

/-- A statement has its spans in the text if conditionals have. -/
theorem statementWith_placed (conds : Placed text (fun c => SpansIn text c.spans) cond) :
    Placed text (fun s => SpansIn text s.spans) (statementWith cond) := by
  intro l c since
  unfold statementWith
  rw [here_bind, peek_bind]
  generalize c.kind? = ahead
  split
  · exact (conds since).bind fun _ c since inside => ⟨since, inside⟩
  · refine .fromHere since ((returnValue_placed since.fromHere).bind fun value c since inside => ?_)
    refine ⟨since, ?_⟩
    cases value with
    | none => exact spansIn_cons.2 ⟨since.span, spansIn_nil⟩
    | some e => exact spansIn_cons.2 ⟨since.span, inside e rfl⟩
  · exact .fromHere since (binding_places since.fromHere)
  · exact (expression_placed .literal since).bind fun _ c since inside => ⟨since, inside⟩

/-- What follows a block has its spans in the text. -/
theorem otherwise_placed (conds : Placed text (fun c => SpansIn text c.spans) cond) :
    Placed text (fun o => SpansIn text o.spans) (otherwise cond) := by
  intro l c since
  unfold otherwise
  rw [peekPastTrivia_bind, ite_run]
  split
  · rw [skipTrivia_bind]
    refine (next_placed since.pastTrivia).bind fun _ c since _ => ?_
    rw [skipTrivia_bind, peek_bind]
    generalize c.pastTrivia.kind? = ahead
    split
    · exact (conds since.pastTrivia).bind fun _ c since inside => ⟨since, inside⟩
    · exact (block_placed (statementWith_placed conds) since.pastTrivia).bind
        fun _ c since inside => ⟨since, inside⟩
    · exact since.pastTrivia.here
  · exact ⟨since, spansIn_nil⟩

end

/-- A conditional has its spans in the text, those of the chain behind it included. -/
theorem conditionalWithin_placed (bound : Nat) :
    Placed text (fun c => SpansIn text c.spans) (conditionalWithin bound) := by
  induction bound with
  | zero => exact fun _ _ since => since.here
  | succ bound ih =>
    intro l c since
    unfold conditionalWithin
    rw [here_bind]
    refine .fromHere since ?_
    refine (expect_placed _ since.fromHere).bind fun _ c since _ => ?_
    refine (expectBlank_placed since).bind fun _ c since _ => ?_
    refine (expression_placed .block since).bind fun condition c since tested => ?_
    rw [skipTrivia_bind]
    refine (block_placed (statementWith_placed ih) since.pastTrivia).bind
      fun stmts c since inside => ?_
    refine (otherwise_placed ih since).bind fun rest c since others => ?_
    refine ⟨since, ?_⟩
    simp only [Conditional.spans, spansIn_cons, spansIn_append]
    exact ⟨since.span, tested, inside, others⟩

theorem statement_placed : Placed text (fun s => SpansIn text s.spans) statement := by
  refine statementWith_placed fun l c since => ?_
  unfold conditional
  rw [get_bind]
  exact conditionalWithin_placed _ since

/-! ## Declarations -/

theorem typedName_placed : Placed text (fun b => SpansIn text b.spans) typedName := by
  intro l c since
  unfold typedName
  rw [here_bind]
  refine .fromHere since ?_
  refine (expectIdent_placed since.fromHere).bind fun ident c since named => ?_
  rw [skipTrivia_bind]
  refine (expect_placed .colon since.pastTrivia).bind fun _ c since _ => ?_
  rw [skipTrivia_bind]
  refine (expectIdent_placed since.pastTrivia).bind fun type c since typed => ?_
  refine ⟨since, ?_⟩
  simp only [Binding.spans, spansIn_cons, spansIn_nil, and_true]
  exact ⟨since.span, named, typed⟩

/-- A struct has its spans in the text, those of its fields included. -/
theorem structDecl_placed : Placed text (fun d => SpansIn text d.spans) structDecl := by
  intro l c since
  unfold structDecl
  rw [here_bind]
  refine .fromHere since ?_
  refine (expect_placed _ since.fromHere).bind fun _ c since _ => ?_
  refine (expectBlank_placed since).bind fun _ c since _ => ?_
  refine (expectIdent_placed since).bind fun ident c since named => ?_
  rw [skipTrivia_bind]
  refine (delimited_placed typedName_placed _ _ since.pastTrivia).bind
    fun fields c since inside => ?_
  refine ⟨since, ?_⟩
  simp only [StructDecl.spans, spansIn_cons, spansIn_flatMap]
  exact ⟨since.span, named, inside⟩

theorem returnType_placed :
    Placed text (fun type => SpansIn text (Ident.spanIfAny type)) returnType := by
  intro l c since
  unfold returnType
  rw [peekPastTrivia_bind, ite_run]
  split
  · rw [skipTrivia_bind]
    refine (next_placed since.pastTrivia).bind fun _ c since _ => ?_
    rw [skipTrivia_bind]
    refine (expectIdent_placed since.pastTrivia).bind fun type c since named => ?_
    exact ⟨since, spansIn_cons.2 ⟨named, spansIn_nil⟩⟩
  · exact ⟨since, spansIn_nil⟩

/-- A function has its spans in the text, that of its first line included. -/
theorem fnDecl_placed : Placed text (fun d => SpansIn text d.spans) fnDecl := by
  intro l c since
  unfold fnDecl
  rw [here_bind]
  refine .fromHere since ?_
  refine (expect_placed _ since.fromHere).bind fun _ c since _ => ?_
  refine (expectBlank_placed since).bind fun _ c since _ => ?_
  refine (expectIdent_placed since).bind fun ident c since named => ?_
  refine (delimited_placed typedName_placed _ _ since).bind fun params c since typed => ?_
  refine (returnType_placed since).bind fun returns c since returned => ?_
  have signature := since.span
  rw [spanFrom_bind, skipTrivia_bind]
  refine (block_placed statement_placed since.pastTrivia).bind fun body c since inside => ?_
  refine ⟨since, ?_⟩
  simp only [FnDecl.spans, spansIn_cons, spansIn_append, spansIn_flatMap]
  exact ⟨since.span, signature, named, typed, returned, inside⟩

/-- Declarations have their spans in the text, and what is no declaration is refused at its
first token. -/
theorem declarations_placed (bound : Nat) :
    Placed text (fun p => SpansIn text p.spans) (declarations bound) := by
  induction bound with
  | zero => exact fun _ _ since => ⟨since, spansIn_nil⟩
  | succ bound ih =>
    intro l c since
    unfold declarations
    rw [peek_bind]
    generalize c.kind? = ahead
    split
    · exact ⟨since, spansIn_nil⟩
    · refine (structDecl_placed since).bind fun d c since first => ?_
      rw [skipTrivia_bind]
      refine (ih since.pastTrivia).bind fun p c since rest => ?_
      refine ⟨since, ?_⟩
      simp only [Program.spans, spansIn_append, List.flatMap_cons] at rest ⊢
      exact ⟨⟨first, rest.1⟩, rest.2⟩
    · refine (fnDecl_placed since).bind fun d c since first => ?_
      rw [skipTrivia_bind]
      refine (ih since.pastTrivia).bind fun p c since rest => ?_
      refine ⟨since, ?_⟩
      simp only [Program.spans, spansIn_append, List.flatMap_cons] at rest ⊢
      exact ⟨rest.1, first, rest.2⟩
    · exact since.here

/-- Reading the tokens of a text gives a program whose spans stand in the text, or fails
at a location of the text. -/
theorem Program.parse_placed {source : String} {tokens : List Token}
    (scanned : Token.scan source = .ok tokens) :
    match Program.parse tokens with
    | .ok p => SpansIn source.toList p.spans
    | .error e => e.location.StandsIn source.toList := by
  obtain ⟨lexemes, flat, tiled⟩ := Token.tiled_of_scanFrom [] scanned
  have stands : (⟨tokens, .origin⟩ : Cursor).StandsIn source.toList :=
    ⟨[], lexemes, flat, tiled, rfl, nofun⟩
  have places : Places source.toList (fun p => SpansIn source.toList p.spans) .origin
      (program ⟨tokens, .origin⟩) := by
    unfold program
    rw [skipTrivia_bind, get_bind]
    exact declarations_placed _ (Cursor.Since.refl stands).pastTrivia
  unfold Program.parse StateT.run
  cases run : program ⟨tokens, .origin⟩ with
  | ok r =>
    rw [run] at places
    exact places.2
  | error e =>
    rw [run] at places
    exact places

end NominalScript.Syntax
