import NominalScript.Proofs.Parse.Run

/-!
# How far a parser moves

A cursor in a list of tokens is at a position: so many tokens are behind it, and the last of
them says where it ends (`Cursor.past`).  Nothing is asked of the tokens, so they may stand
anywhere and need not be those of a text.

`Moves tokens least p` says of the parser `p` that from every position it moves forward by at
least so many tokens and not beyond the last of them, or else fails where one of the tokens
starts or the last one ends.  A sequence moves as far as any of its steps, and so there is one
lemma for each parser, put together from those of its steps.
-/

namespace NominalScript.Syntax

open NominalScript.Syntax.Parser

variable {α β : Type} {tokens : List Token} {c : Cursor} {i j m n : Nat} {t : Token}

/-! ## Positions -/

/-- Where the last of the first tokens ends, as many as are given. -/
def endBefore (tokens : List Token) : Nat → Location
  | 0 => .origin
  | i + 1 => (tokens[i]?.map Token.stop).getD .origin

namespace Cursor

/-- The cursor with so many tokens behind it. -/
def past (tokens : List Token) (i : Nat) : Cursor := ⟨tokens.drop i, endBefore tokens i⟩

theorem length_rest_past : (past tokens i).rest.length = tokens.length - i := List.length_drop

theorem takes_past (ahead : tokens[i]? = some t) :
    (past tokens i).Takes t (past tokens (i + 1)) where
  rest := by
    rcases List.getElem?_eq_some_iff.1 ahead with ⟨before, rfl⟩
    exact List.drop_eq_getElem_cons before
  lastEnd := by
    change (tokens[i]?.map Token.stop).getD .origin = t.stop
    rw [ahead]
    rfl

theorem here_past (ahead : tokens[i]? = some t) : (past tokens i).here = t.start :=
  (takes_past ahead).here

/-- The token taken at a position is the one that stands there, and the cursor behind it is at
the next. -/
theorem getElem?_of_takes_past (takes : (past tokens i).Takes t c) :
    tokens[i]? = some t ∧ c = past tokens (i + 1) := by
  have ahead : tokens[i]? = some t := by
    rw [← List.head?_drop]
    exact congrArg List.head? takes.rest
  have next := takes_past ahead
  refine ⟨ahead, ?_⟩
  rcases c with ⟨rest, lastEnd⟩
  have tails := (List.cons.inj (takes.rest.symm.trans next.rest)).2
  have ends := takes.lastEnd.trans next.lastEnd.symm
  rw [Cursor.mk.injEq]
  exact ⟨tails, ends⟩

theorem Takes.skipWhile {c' : Cursor} (takes : c.Takes t c') (p : Kind → Bool) :
    c.skipWhile p = if p t.kind then c'.skipWhile p else c := by
  rcases c with ⟨rest, lastEnd⟩
  rcases c' with ⟨rest', lastEnd'⟩
  rcases takes with ⟨rfl, rfl⟩
  rfl

/-- Skipping tokens leads from a position to a position no further back. -/
theorem skipWhile_past (p : Kind → Bool) (within : i ≤ tokens.length) :
    ∃ j, i ≤ j ∧ j ≤ tokens.length ∧ (past tokens i).skipWhile p = past tokens j := by
  -- By induction on the number of tokens left.
  generalize left : tokens.length - i = n
  induction n generalizing i with
  | zero =>
    have ended : i = tokens.length := by omega
    subst ended
    refine ⟨tokens.length, Nat.le_refl _, Nat.le_refl _, ?_⟩
    rw [skipWhile, past, List.drop_length]
    rfl
  | succ n ih =>
    have before : i < tokens.length := by omega
    have takes := takes_past (List.getElem?_eq_getElem before)
    rw [takes.skipWhile]
    split
    · rcases ih before (by omega) with ⟨j, further, inside, same⟩
      exact ⟨j, Nat.le_of_succ_le further, inside, same⟩
    · exact ⟨i, Nat.le_refl _, within, rfl⟩

theorem pastTrivia_past (within : i ≤ tokens.length) :
    ∃ j, i ≤ j ∧ j ≤ tokens.length ∧ (past tokens i).pastTrivia = past tokens j :=
  skipWhile_past Kind.isTrivia within

end Cursor

/-! ## Runs -/

/-- A run ends at a position that is not before the first and not beyond the last token, or
it fails where a token starts or the last one ends. -/
inductive Lands (tokens : List Token) (first : Nat) : Except ParseError (α × Cursor) → Prop
  | ok {a : α} {j : Nat} : first ≤ j → j ≤ tokens.length →
    Lands tokens first (.ok (a, .past tokens j))
  | error {e : ParseError} {j : Nat} : j ≤ tokens.length →
    e.location = (Cursor.past tokens j).here → Lands tokens first (.error e)

/-- From every position the parser moves on by some tokens at least, or fails at one. -/
def Moves (tokens : List Token) (least : Nat) (p : Parser α) : Prop :=
  ∀ ⦃i⦄, i ≤ tokens.length → Lands tokens (i + least) (p (.past tokens i))

theorem Lands.weaken {r : Except ParseError (α × Cursor)} (lands : Lands tokens m r)
    (less : n ≤ m) : Lands tokens n r := by
  cases lands with
  | ok first inside => exact .ok (Nat.le_trans less first) inside
  | error inside located => exact .error inside located

theorem Lands.bind {p : Parser α} {f : α → Parser β} (first : Lands tokens m (p c))
    (rest : ∀ a j, m ≤ j → j ≤ tokens.length → Lands tokens n (f a (.past tokens j))) :
    Lands tokens n ((p >>= f) c) := by
  generalize run : p c = r at first
  cases first with
  | ok further inside =>
    rw [bind_of_ok run]
    exact rest _ _ further inside
  | error inside located =>
    rw [bind_of_error run]
    exact .error inside located

namespace Moves

theorem weaken {p : Parser α} (moves : Moves tokens m p) (less : n ≤ m) : Moves tokens n p :=
  fun _ inside => (moves inside).weaken (Nat.add_le_add_left less _)

theorem inside {p : Parser α} (moves : Moves tokens n p) : Moves tokens 0 p :=
  moves.weaken (Nat.zero_le n)

/-- A sequence moves as far as its first step. -/
theorem bind {p : Parser α} {f : α → Parser β} (first : Moves tokens n p)
    (rest : ∀ a, Moves tokens 0 (f a)) : Moves tokens n (p >>= f) :=
  fun _ inside => (first inside).bind fun a _ further inside => (rest a inside).weaken further

/-- A sequence moves as far as what comes behind its first step. -/
theorem before {p : Parser α} {f : α → Parser β} (first : Moves tokens 0 p)
    (rest : ∀ a, Moves tokens n (f a)) : Moves tokens n (p >>= f) :=
  fun _ inside => (first inside).bind fun a _ further inside =>
    (rest a inside).weaken (Nat.add_le_add_right further n)

theorem ite {q : Prop} [Decidable q] {yes no : Parser α} (left : Moves tokens n yes)
    (right : Moves tokens n no) : Moves tokens n (if q then yes else no) := by
  split
  · exact left
  · exact right

end Moves

/-! ## Steps -/

theorem pure_moves (a : α) : Moves tokens 0 (pure a : Parser α) :=
  fun i inside => .ok (Nat.le_refl i) inside

theorem fail_moves {fault : ParseFault} (inside : j ≤ tokens.length) :
    Moves tokens n (fail fault (Cursor.past tokens j).here : Parser α) :=
  fun _ _ => .error inside rfl

theorem get_moves : Moves tokens 0 (get : Parser Cursor) :=
  fun i inside => .ok (Nat.le_refl i) inside

theorem peek_moves : Moves tokens 0 peek := fun i inside => .ok (Nat.le_refl i) inside

theorem peekPastTrivia_moves : Moves tokens 0 peekPastTrivia :=
  fun i inside => .ok (Nat.le_refl i) inside

theorem here_moves : Moves tokens 0 here := fun i inside => .ok (Nat.le_refl i) inside

theorem spanFrom_moves (start : Location) : Moves tokens 0 (spanFrom start) :=
  fun i inside => .ok (Nat.le_refl i) inside

/-- An error at the next token is an error at a position. -/
theorem Moves.fromHere {f : Location → Parser α}
    (rest : ∀ i ≤ tokens.length, Moves tokens n (f (Cursor.past tokens i).here)) :
    Moves tokens n (here >>= f) :=
  fun i inside => rest i inside inside

theorem failHere_moves {fault : ParseFault} :
    Moves tokens n (do fail fault (← here) : Parser α) :=
  .fromHere fun _ inside => fail_moves inside

theorem next_of_ended (ended : tokens[i]? = none) :
    next (.past tokens i) = .ok (none, .past tokens i) :=
  next_eq_ok.2 (.inl ⟨List.drop_eq_nil_of_le (List.getElem?_eq_none_iff.1 ended), rfl, rfl⟩)

/-- A token is taken, or what follows fails at the end of the tokens. -/
theorem Moves.next {f : Option Token → Parser α} (ended : Moves tokens 1 (f none))
    (taken : ∀ (i : Nat) (t : Token), tokens[i]? = some t → Moves tokens 0 (f (some t))) :
    Moves tokens 1 (next >>= f) := by
  intro i inside
  rcases ahead : tokens[i]? with _ | t
  · rw [bind_of_ok (next_of_ended ahead)]
    exact ended inside
  · rw [next_bind (Cursor.takes_past ahead)]
    exact taken i t ahead (List.getElem?_eq_some_iff.1 ahead).1

theorem next_moves : Moves tokens 0 next := by
  intro i inside
  rcases ahead : tokens[i]? with _ | t
  · rw [next_of_ended ahead]
    exact .ok (Nat.le_refl i) inside
  · have run : next (.past tokens i) = .ok (some t, .past tokens (i + 1)) :=
      next_eq_ok.2 (.inr ⟨t, rfl, Cursor.takes_past ahead⟩)
    rw [run]
    exact .ok (Nat.le_succ i) (List.getElem?_eq_some_iff.1 ahead).1

theorem skipTrivia_moves : Moves tokens 0 skipTrivia := by
  intro i inside
  rcases Cursor.skipWhile_past Kind.isTrivia inside with ⟨j, further, inside, same⟩
  rw [skipTrivia, same]
  exact .ok further inside

theorem skipToLineEnd_moves : Moves tokens 0 skipToLineEnd := by
  intro i inside
  rcases Cursor.skipWhile_past (fun k => k.isTrivia && k != .blank .newline) inside with
    ⟨j, further, inside, same⟩
  rw [skipToLineEnd, same]
  exact .ok further inside

theorem expect_moves (kind : Kind) : Moves tokens 1 (expect kind) := by
  unfold expect
  refine .fromHere fun i inside => .next ?_ fun _ t _ => ?_
  · rw [Option.map_none, if_neg (Option.some_ne_none kind).symm]
    exact fail_moves inside
  · exact (pure_moves ()).ite (fail_moves inside)

theorem expectIdent_moves : Moves tokens 1 expectIdent := by
  unfold expectIdent
  refine .fromHere fun i inside => .next (fail_moves inside) fun _ t _ => ?_
  split
  · exact (spanFrom_moves _).bind fun s => pure_moves _
  · exact fail_moves inside

theorem expectBlank_moves : Moves tokens 0 expectBlank := by
  unfold expectBlank
  refine skipTrivia_moves.bind fun skipped => (pure_moves ()).ite ?_
  exact peek_moves.bind fun _ => failHere_moves

theorem expectNewline_moves : Moves tokens 0 expectNewline := by
  unfold expectNewline
  refine skipTrivia_moves.bind fun skipped => peek_moves.bind fun k => ?_
  exact (pure_moves ()).ite failHere_moves

theorem skipComma_moves : Moves tokens 0 skipComma := by
  unfold skipComma
  refine skipTrivia_moves.bind fun _ => peek_moves.bind fun k => .ite ?_ (pure_moves _)
  exact next_moves.bind fun _ => skipTrivia_moves.bind fun _ => pure_moves _

theorem items_moves {item : Parser α} (each : Moves tokens 0 item) (close : Kind) (rounds : Nat) :
    Moves tokens 0 (items close item rounds) := by
  induction rounds with
  | zero => exact pure_moves []
  | succ rounds ih =>
    unfold items
    refine peek_moves.bind fun k => (pure_moves []).ite ?_
    refine each.bind fun a => skipComma_moves.bind fun comma => .ite ?_ (pure_moves [a])
    exact ih.bind fun as => pure_moves (a :: as)

theorem delimited_moves {item : Parser α} (each : Moves tokens 0 item) (opening close : Kind) :
    Moves tokens 1 (delimited opening close item) := by
  unfold delimited
  refine (expect_moves opening).bind fun _ => skipTrivia_moves.bind fun _ => ?_
  refine get_moves.bind fun s => (items_moves each close _).bind fun as => ?_
  exact (expect_moves close).inside.bind fun _ => pure_moves as

/-! ## Expressions -/

section

variable {sub : BraceRole → Parser Expr}

theorem fieldInit_moves {value : Parser Expr} (values : Moves tokens 0 value) :
    Moves tokens 1 (fieldInit value) := by
  unfold fieldInit
  refine here_moves.before fun start => expectIdent_moves.bind fun ident => ?_
  refine skipTrivia_moves.bind fun _ => (expect_moves .colon).inside.bind fun _ => ?_
  refine skipTrivia_moves.bind fun _ => values.bind fun e => ?_
  exact (spanFrom_moves start).bind fun s => pure_moves _

/-- What starts with a name moves on from behind it. -/
theorem named_moves (subs : ∀ role, Moves tokens 0 (sub role)) (role : BraceRole) (t : Token)
    (name : String) : Moves tokens 0 (named sub role t name) := by
  unfold named
  refine peek_moves.bind fun k => .ite ?_ (peekPastTrivia_moves.bind fun k => .ite ?_ ?_)
  · have arguments := delimited_moves (subs .literal) .leftParen .rightParen
    refine arguments.inside.bind fun args => ?_
    exact (spanFrom_moves t.start).bind fun s => pure_moves _
  · have inits := delimited_moves ((fieldInit_moves (subs .literal)).inside)
      .leftBrace .rightBrace
    refine skipTrivia_moves.bind fun _ => here_moves.bind fun start => ?_
    refine inits.inside.bind fun fields => ?_
    exact (spanFrom_moves start).bind fun braces =>
      (spanFrom_moves t.start).bind fun s => pure_moves _
  · exact (spanFrom_moves t.start).bind fun s => pure_moves _

/-- The first part of an expression moves forward, or fails at its first token or where a part
of it does. -/
theorem primary_moves (subs : ∀ role, Moves tokens 0 (sub role)) (role : BraceRole)
    (token : tokens[i]? = some t) : Moves tokens 0 (primary sub role t) := by
  have inside : i ≤ tokens.length := Nat.le_of_lt (List.getElem?_eq_some_iff.1 token).1
  have failed : ∀ fault, Moves tokens 0 (fail fault t.start : Parser Expr) := by
    intro fault
    rw [← Cursor.here_past token]
    exact fail_moves inside
  unfold primary
  generalize t.kind = kind
  cases kind with
  | ident name => exact named_moves subs role t name
  | str value => exact (spanFrom_moves t.start).bind fun s => pure_moves _
  | int value => exact (spanFrom_moves t.start).bind fun s => pure_moves _
  | op op =>
    refine peek_moves.bind fun k => (failed _).ite ((subs role).bind fun operand => ?_)
    exact (spanFrom_moves t.start).bind fun s => pure_moves _
  | leftParen =>
    refine skipTrivia_moves.bind fun _ => (subs .literal).bind fun inner => ?_
    refine skipTrivia_moves.bind fun _ => (expect_moves _).inside.bind fun _ => ?_
    exact (spanFrom_moves t.start).bind fun s => pure_moves _
  | _ => exact failed _

theorem members_moves (start : Location) (rounds : Nat) (e : Expr) :
    Moves tokens 0 (members start rounds e) := by
  induction rounds generalizing e with
  | zero => exact pure_moves e
  | succ rounds ih =>
    unfold members
    refine peek_moves.bind fun k => .ite (next_moves.bind fun _ => ?_) (pure_moves e)
    refine expectIdent_moves.inside.bind fun field => ?_
    exact (spanFrom_moves start).bind fun s => ih (.member e field s)

/-- Without an operator ahead the cursor is put back where it was.  With one, the right operand
is read from behind it, unless there is a blank on one side only. -/
theorem operation_cases (start : Location) (e : Expr) (inside : i ≤ tokens.length) :
    (∀ right, operation right start e (.past tokens i) = .ok (e, .past tokens i)) ∨
      (∃ j ≤ tokens.length, ∀ right, operation right start e (.past tokens i) =
        .error ⟨.lopsidedOperator, (Cursor.past tokens j).here⟩) ∨
      ∃ j op, i < j ∧ j ≤ tokens.length ∧ ∀ right, operation right start e (.past tokens i) =
        (do
          let r ← right
          return Expr.binary op e r (← spanFrom start)) (.past tokens j) := by
  rcases Cursor.pastTrivia_past inside with ⟨j, further, within, trivia⟩
  by_cases operator : ∃ op, (Cursor.past tokens i).pastTrivia.kind? = some (.op op)
  · rcases operator with ⟨op, ahead⟩
    rcases Cursor.exists_takes ahead with ⟨t, c, kind, takes⟩
    have read := fun right => (operation_of_some kind takes : operation right start e _ = _)
    rw [trivia] at takes
    rcases Cursor.getElem?_of_takes_past takes with ⟨token, rfl⟩
    have before : j < tokens.length := (List.getElem?_eq_some_iff.1 token).1
    by_cases blanks : (Cursor.past tokens i).skipped.blank ≠
        (Cursor.past tokens (j + 1)).skipped.blank
    · refine .inr (.inl ⟨j, within, fun right => ?_⟩)
      rw [read, if_pos blanks, Cursor.here_past token]
    · rcases Cursor.pastTrivia_past (Nat.succ_le_of_lt before) with ⟨k, later, within', trivia'⟩
      refine .inr (.inr ⟨k, ⟨op, t.span⟩, by omega, within', fun right => ?_⟩)
      rw [read, if_neg blanks, trivia']
  · exact .inl fun right => operation_of_none fun op ahead => operator ⟨op, ahead⟩

/-- An operator and its operand are behind the expression so far; without an operator the cursor
stays. -/
theorem operation_moves {right : Parser Expr} (operands : Moves tokens 0 right)
    (start : Location) (e : Expr) : Moves tokens 0 (operation right start e) := by
  intro i inside
  rcases operation_cases start e inside with
    none | ⟨j, within, lopsided⟩ | ⟨j, op, further, within, read⟩
  · rw [none]
    exact .ok (Nat.le_refl i) inside
  · rw [lopsided]
    exact .error within rfl
  · rw [read]
    have rest : Moves tokens 0 (do
        let r ← right
        return Expr.binary op e r (← spanFrom start)) :=
      operands.bind fun r => (spanFrom_moves start).bind fun s => pure_moves _
    exact (rest within).weaken (Nat.le_of_lt further)

end

theorem expressionWithin_moves (bound : Nat) (role : BraceRole) :
    Moves tokens 1 (expressionWithin bound role) := by
  induction bound generalizing role with
  | zero => exact failHere_moves
  | succ bound ih =>
    unfold expressionWithin
    refine .fromHere fun i inside => .next (fail_moves inside) fun i t token => ?_
    have subs : ∀ role, Moves tokens 0 (expressionWithin bound role) :=
      fun role => (ih role).inside
    refine (primary_moves subs role token).bind fun e => get_moves.bind fun s => ?_
    exact (members_moves _ _ e).bind fun e => operation_moves (subs role) _ e

theorem expression_moves (role : BraceRole) : Moves tokens 1 (expression role) :=
  get_moves.before fun _ => expressionWithin_moves _ role

/-! ## Statements -/

section

variable {stmt : Parser Stmt} {cond : Parser Conditional}

theorem statements_moves (each : Moves tokens 0 stmt) (rounds : Nat) :
    Moves tokens 0 (statements stmt rounds) := by
  induction rounds with
  | zero => exact pure_moves []
  | succ rounds ih =>
    unfold statements
    refine peek_moves.bind fun k => (pure_moves []).ite (each.bind fun s => ?_)
    have rest := ih.bind fun ss => pure_moves (s :: ss)
    exact .ite (skipTrivia_moves.bind fun _ => rest) (expectNewline_moves.bind fun _ => rest)

theorem block_moves (each : Moves tokens 0 stmt) : Moves tokens 1 (block stmt) := by
  unfold block
  refine (expect_moves .leftBrace).bind fun _ => skipTrivia_moves.bind fun _ => ?_
  refine get_moves.bind fun s => (statements_moves each _).bind fun ss => ?_
  exact (expect_moves .rightBrace).inside.bind fun _ => pure_moves ss

theorem returnValue_moves : Moves tokens 1 returnValue := by
  unfold returnValue
  refine (expect_moves _).bind fun _ => skipToLineEnd_moves.bind fun _ => ?_
  refine peek_moves.bind fun k => (pure_moves none).ite ?_
  exact (expression_moves .literal).inside.bind fun e => pure_moves _

theorem annotation_moves : Moves tokens 0 annotation := by
  unfold annotation
  refine peek_moves.bind fun k => .ite (next_moves.bind fun _ => ?_) (pure_moves none)
  refine skipTrivia_moves.bind fun _ => expectIdent_moves.inside.bind fun type => ?_
  exact skipTrivia_moves.bind fun _ => pure_moves _

theorem binding_moves (start : Location) : Moves tokens 1 (binding start) := by
  unfold binding
  refine (expect_moves _).bind fun _ => expectBlank_moves.bind fun _ => ?_
  refine expectIdent_moves.inside.bind fun ident => ?_
  refine skipTrivia_moves.bind fun _ => annotation_moves.bind fun type => ?_
  refine (expect_moves _).inside.bind fun _ => skipTrivia_moves.bind fun _ => ?_
  refine (expression_moves .literal).inside.bind fun value => ?_
  exact (spanFrom_moves start).bind fun s => pure_moves _

theorem statementWith_moves (conds : Moves tokens n cond) (less : n ≤ 1) :
    Moves tokens n (statementWith cond) := by
  unfold statementWith
  refine here_moves.before fun start => peek_moves.before fun k => ?_
  split
  · exact conds.bind fun c => pure_moves _
  · have value : Moves tokens n returnValue := returnValue_moves.weaken less
    exact value.bind fun value => (spanFrom_moves start).bind fun s => pure_moves _
  · exact (binding_moves start).weaken less
  · exact ((expression_moves .literal).weaken less).bind fun e => pure_moves _

theorem otherwise_moves (conds : Moves tokens 0 cond) : Moves tokens 0 (otherwise cond) := by
  unfold otherwise
  refine peekPastTrivia_moves.bind fun k => .ite ?_ (pure_moves _)
  refine skipTrivia_moves.bind fun _ => next_moves.bind fun _ => skipTrivia_moves.bind fun _ => ?_
  refine peek_moves.bind fun k => ?_
  split
  · exact conds.bind fun c => pure_moves _
  · have branch := block_moves (statementWith_moves conds (Nat.zero_le 1))
    exact branch.inside.bind fun body => pure_moves _
  · exact failHere_moves

end

/-- A conditional takes its `if` at least, with whatever bound it is read. -/
theorem conditionalWithin_moves (bound : Nat) : Moves tokens 1 (conditionalWithin bound) := by
  induction bound with
  | zero => exact failHere_moves
  | succ bound ih =>
    unfold conditionalWithin
    refine here_moves.before fun start => (expect_moves _).bind fun _ => ?_
    refine expectBlank_moves.bind fun _ => ?_
    refine (expression_moves .block).inside.bind fun condition => ?_
    have body := block_moves (statementWith_moves ih (Nat.le_refl 1)).inside
    refine skipTrivia_moves.bind fun _ => body.inside.bind fun stmts => ?_
    refine (otherwise_moves ih.inside).bind fun rest => ?_
    exact (spanFrom_moves start).bind fun s => pure_moves _

theorem conditional_moves : Moves tokens 1 conditional :=
  get_moves.before fun _ => conditionalWithin_moves _

theorem statement_moves : Moves tokens 1 statement :=
  statementWith_moves conditional_moves (Nat.le_refl 1)

/-! ## Declarations -/

theorem typedName_moves : Moves tokens 1 typedName := by
  unfold typedName
  refine here_moves.before fun start => expectIdent_moves.bind fun ident => ?_
  refine skipTrivia_moves.bind fun _ => (expect_moves .colon).inside.bind fun _ => ?_
  refine skipTrivia_moves.bind fun _ => expectIdent_moves.inside.bind fun type => ?_
  exact (spanFrom_moves start).bind fun s => pure_moves _

theorem typedNames_moves (opening close : Kind) :
    Moves tokens 0 (delimited opening close typedName) :=
  (delimited_moves typedName_moves.inside opening close).inside

theorem structDecl_moves : Moves tokens 1 structDecl := by
  unfold structDecl
  refine here_moves.before fun start => (expect_moves _).bind fun _ => ?_
  refine expectBlank_moves.bind fun _ => expectIdent_moves.inside.bind fun ident => ?_
  refine skipTrivia_moves.bind fun _ => (typedNames_moves _ _).bind fun fields => ?_
  exact (spanFrom_moves start).bind fun s => pure_moves _

theorem returnType_moves : Moves tokens 0 returnType := by
  unfold returnType
  refine peekPastTrivia_moves.bind fun k => .ite ?_ (pure_moves none)
  refine skipTrivia_moves.bind fun _ => next_moves.bind fun _ => skipTrivia_moves.bind fun _ => ?_
  exact expectIdent_moves.inside.bind fun type => pure_moves _

theorem fnDecl_moves : Moves tokens 1 fnDecl := by
  unfold fnDecl
  refine here_moves.before fun start => (expect_moves _).bind fun _ => ?_
  refine expectBlank_moves.bind fun _ => expectIdent_moves.inside.bind fun ident => ?_
  refine (typedNames_moves _ _).bind fun params => returnType_moves.bind fun returns => ?_
  refine (spanFrom_moves start).bind fun signature => skipTrivia_moves.bind fun _ => ?_
  have body : Moves tokens 1 (block statement) := block_moves statement_moves.inside
  refine body.inside.bind fun stmts => ?_
  exact (spanFrom_moves start).bind fun s => pure_moves _

/-- With no declaration ahead nothing is taken, so all that is said is that the cursor does not
move back. -/
theorem declarations_moves (bound : Nat) : Moves tokens 0 (declarations bound) := by
  induction bound with
  | zero => exact pure_moves _
  | succ bound ih =>
    unfold declarations
    refine peek_moves.bind fun k => ?_
    split
    · exact pure_moves _
    · refine structDecl_moves.inside.bind fun d => ?_
      exact skipTrivia_moves.bind fun _ => ih.bind fun p => pure_moves _
    · refine fnDecl_moves.inside.bind fun d => ?_
      exact skipTrivia_moves.bind fun _ => ih.bind fun p => pure_moves _
    · exact failHere_moves

/-- With as many rounds as there are tokens left, declarations are read up to the last one. -/
theorem declarations_lands {bound : Nat} (within : i ≤ tokens.length)
    (enough : tokens.length ≤ i + bound) :
    Lands tokens tokens.length (declarations bound (.past tokens i)) := by
  induction bound generalizing i with
  | zero => exact .ok enough within
  | succ bound ih =>
    have later : ∀ j, i + 1 ≤ j → j ≤ tokens.length → ∀ f : Program → Program,
        Lands tokens tokens.length ((do
          let _ ← skipTrivia
          let p ← declarations bound
          return f p) (.past tokens j)) := by
      intro j further within f
      refine (skipTrivia_moves within).bind fun _ k more within => ?_
      refine (ih within (by omega)).bind fun p k reached within => ?_
      exact .ok reached within
    unfold declarations
    rw [peek_bind]
    generalize ahead : (Cursor.past tokens i).kind? = kind
    split
    · have nothing : tokens.drop i = [] := Cursor.kind?_eq_none.1 ahead
      exact .ok (List.drop_eq_nil_iff.1 nothing) within
    · exact (structDecl_moves within).bind fun d j further within => later j further within _
    · exact (fnDecl_moves within).bind fun d j further within => later j further within _
    · exact .error within rfl

theorem program_lands (within : i ≤ tokens.length) :
    Lands tokens tokens.length (program (.past tokens i)) := by
  refine (skipTrivia_moves within).bind fun _ j further within => ?_
  rw [get_bind]
  refine declarations_lands within ?_
  rw [Cursor.length_rest_past]
  omega

theorem program_moves : Moves tokens 0 program :=
  fun _ within => (program_lands within).weaken within

end NominalScript.Syntax
