import Mathlib.Logic.Function.Iterate
import NominalScript.Proofs.Parse.Moves

/-!
# The rounds of loops

A loop or a recursion of a parser is given by one round of it: a function of what is done in
place of going round again.  The functions of a round may call that as often as they like, but
only behind the position they were started at, for a token is taken first (`Shrinks`).  So each
round has fewer tokens left than the one before, and there are no more rounds than tokens, plus
the one that comes to the end of them.

`Terminates` says this of a round and the loop it is a round of, in a way that does not depend
on the bounds which the loop is written with: after so many rounds it makes no difference what
would be done in place of the next.
-/

namespace NominalScript.Syntax

open NominalScript.Syntax.Parser

variable {α β ι : Type} {tokens : List Token} {i m n : Nat}

/-! ## The same from a position on -/

/-- Two parsers do the same at every position from one on. -/
def SameFrom (tokens : List Token) (i : Nat) (p q : Parser α) : Prop :=
  ∀ ⦃j⦄, i ≤ j → j ≤ tokens.length → p (.past tokens j) = q (.past tokens j)

namespace SameFrom

variable {p q r : Parser α}

theorem refl (p : Parser α) : SameFrom tokens i p p := fun _ _ _ => rfl

theorem symm (same : SameFrom tokens i p q) : SameFrom tokens i q p :=
  fun _ further inside => (same further inside).symm

theorem trans (first : SameFrom tokens i p q) (then_ : SameFrom tokens i q r) :
    SameFrom tokens i p r :=
  fun _ further inside => (first further inside).trans (then_ further inside)

theorem later (same : SameFrom tokens m p q) (further : m ≤ n) : SameFrom tokens n p q :=
  fun _ beyond inside => same (Nat.le_trans further beyond) inside

/-- What comes behind a step need be the same only from where the step ends. -/
theorem bind {f g : α → Parser β} (moves : Moves tokens n p) (same : SameFrom tokens i p q)
    (rest : ∀ a, SameFrom tokens (i + n) (f a) (g a)) :
    SameFrom tokens i (p >>= f) (q >>= g) := by
  intro j further inside
  have lands := moves inside
  have first := same further inside
  generalize run : p (.past tokens j) = r at lands
  rw [run] at first
  cases lands with
  | error _ _ => rw [bind_of_error run, bind_of_error first.symm]
  | ok beyond inside =>
    rw [bind_of_ok run, bind_of_ok first.symm]
    exact rest _ (by omega) inside

/-- The two go on differently behind the same step. -/
theorem step {f g : α → Parser β} (moves : Moves tokens n p)
    (rest : ∀ a, SameFrom tokens (i + n) (f a) (g a)) :
    SameFrom tokens i (p >>= f) (p >>= g) :=
  .bind moves (.refl p) rest

theorem ite {c : Prop} [Decidable c] {p' q' : Parser α} (left : SameFrom tokens i p q)
    (right : SameFrom tokens i p' q') :
    SameFrom tokens i (if c then p else p') (if c then q else q') := by
  split
  · exact left
  · exact right

/-- A token is taken before the two differ. -/
theorem next_eq {f g : Option Token → Parser β} (before : i < tokens.length)
    (taken : ∀ t, tokens[i]? = some t → SameFrom tokens (i + 1) (f (some t)) (g (some t))) :
    (Parser.next >>= f) (.past tokens i) = (Parser.next >>= g) (.past tokens i) := by
  have ahead := List.getElem?_eq_getElem before
  rw [next_bind (Cursor.takes_past ahead), next_bind (Cursor.takes_past ahead)]
  exact taken _ ahead (Nat.le_refl _) before

theorem next {f g : Option Token → Parser β} (ended : f none = g none)
    (taken : ∀ (j : Nat) (t : Token), tokens[j]? = some t →
      SameFrom tokens (i + 1) (f (some t)) (g (some t))) :
    SameFrom tokens i (Parser.next >>= f) (Parser.next >>= g) := by
  intro j further inside
  rcases Nat.eq_or_lt_of_le inside with rfl | before
  · have nothing : tokens[tokens.length]? = none := List.getElem?_eq_none (Nat.le_refl _)
    rw [bind_of_ok (next_of_ended nothing), bind_of_ok (next_of_ended nothing), ended]
  · exact next_eq before fun t ahead => (taken j t ahead).later (Nat.succ_le_succ further)

/-- The two look at the next token, and do the same if there is none. -/
theorem peek {f g : Option Kind → Parser β} (ended : f none = g none)
    (seen : ∀ k j, i ≤ j → j < tokens.length →
      f (some k) (.past tokens j) = g (some k) (.past tokens j)) :
    SameFrom tokens i (Parser.peek >>= f) (Parser.peek >>= g) := by
  intro j further inside
  rw [peek_bind, peek_bind]
  rcases Nat.eq_or_lt_of_le inside with rfl | before
  · have nothing : (Cursor.past tokens tokens.length).kind? = none :=
      Cursor.kind?_eq_none.2 (List.drop_length ..)
    rw [nothing, ended]
  · have takes := Cursor.takes_past (List.getElem?_eq_getElem before)
    rw [takes.kind?]
    exact seen _ j further before

/-- The token that was seen is taken, if it passes a test, before the two differ. -/
theorem peekTake {f g : Option Token → Parser β} {h : Parser β} {test : Option Kind → Prop}
    [DecidablePred test] (ended : ¬ test none)
    (taken : ∀ t, SameFrom tokens (i + 1) (f (some t)) (g (some t))) :
    SameFrom tokens i (Parser.peek >>= fun k => if test k then Parser.next >>= f else h)
      (Parser.peek >>= fun k => if test k then Parser.next >>= g else h) := by
  refine .peek ?_ fun k j further before => ?_
  · rw [if_neg ended, if_neg ended]
  · rw [ite_run, ite_run]
    split
    · exact next_eq before fun t _ => (taken t).later (Nat.succ_le_succ further)
    · rfl

end SameFrom

/-! ## Loops -/

/-- What a round does at a position depends only on what is done at later positions when it
goes round again, if that never moves back. -/
def Shrinks (tokens : List Token) (round : (ι → Parser α) → ι → Parser α) : Prop :=
  ∀ ⦃again again' : ι → Parser α⦄ ⦃i : Nat⦄, (∀ x, Moves tokens 0 (again x)) →
    (∀ x, SameFrom tokens (i + 1) (again x) (again' x)) →
    ∀ x, SameFrom tokens i (round again x) (round again' x)

/-- A loop goes round again with fewer tokens only, and it does what its round does with the
loop itself for going round again.  So it is done after a round for each token left and one
more: it makes no difference what stands in place of further ones.  It never moves back or
beyond the last token. -/
structure Terminates (tokens : List Token) (round : (ι → Parser α) → ι → Parser α)
    (loop : ι → Parser α) : Prop where
  shrinks : Shrinks tokens round
  moves : ∀ x, Moves tokens 0 (loop x)
  unfolds : ∀ x, SameFrom tokens 0 (loop x) (round loop x)
  ends : ∀ (further : ι → Parser α) ⦃n i : Nat⦄, tokens.length < i + n →
    ∀ x, SameFrom tokens i (round^[n] further x) (loop x)

section

variable {round : (ι → Parser α) → ι → Parser α} {loop : ι → Parser α}

/-- A loop whose rounds shrink terminates: it unfolds to its round, and is done after a round
for each token left and one more. -/
theorem Shrinks.terminates (shrinks : Shrinks tokens round) (moves : ∀ x, Moves tokens 0 (loop x))
    (unfolds : ∀ x, SameFrom tokens 0 (loop x) (round loop x)) : Terminates tokens round loop where
  shrinks := shrinks
  moves := moves
  unfolds := unfolds
  ends := by
    -- By induction on the rounds: behind the first of them a token fewer is left.
    intro further n
    induction n with
    | zero =>
      intro i beyond x j after inside
      omega
    | succ n ih =>
      intro i beyond x
      rw [Function.iterate_succ_apply']
      have later : ∀ x, SameFrom tokens (i + 1) (loop x) (round^[n] further x) :=
        fun x => (ih (by omega) x).symm
      have whole := (unfolds x).later (Nat.zero_le i)
      exact (whole.trans (shrinks moves later x)).symm

variable {within : Nat → ι → Parser α}

/-- Bounds that are not less than the tokens left make no difference. -/
theorem Shrinks.sameFrom_within (shrinks : Shrinks tokens round)
    (moves : ∀ n x, Moves tokens 0 (within n x))
    (step : ∀ n x, within (n + 1) x = round (within n) x)
    (stop : ∀ again x, SameFrom tokens tokens.length (within 0 x) (round again x))
    (enough : tokens.length ≤ i + m) (more : m ≤ n) (x : ι) :
    SameFrom tokens i (within m x) (within n x) := by
  induction m generalizing i n x with
  | zero =>
    -- No token is left, so a round stops at once, whatever would come behind it.
    cases n with
    | zero => exact .refl _
    | succ n =>
      rw [step]
      exact (stop (within n) x).later enough
  | succ m ih =>
    cases n with
    | zero => cases more
    | succ n =>
      rw [step, step]
      exact shrinks (moves m) (fun x => ih (by omega) (Nat.le_of_succ_le_succ more) x) x

/-- A loop that is started with the number of tokens left for its bound. -/
theorem Shrinks.terminates_within (within : Nat → ι → Parser α) (shrinks : Shrinks tokens round)
    (moves : ∀ n x, Moves tokens 0 (within n x))
    (step : ∀ n x, within (n + 1) x = round (within n) x)
    (stop : ∀ again x, SameFrom tokens tokens.length (within 0 x) (round again x)) :
    Terminates tokens round fun x c => within c.rest.length x c := by
  have start : ∀ {i n}, tokens.length ≤ i + n → ∀ x,
      SameFrom tokens i (fun c => within c.rest.length x c) (within n x) := by
    intro i n enough x j further inside
    have same := shrinks.sameFrom_within moves step stop (i := j) (m := tokens.length - j) (n := n)
      (by omega) (by omega) x (Nat.le_refl j) inside
    dsimp only
    rw [Cursor.length_rest_past]
    exact same
  refine shrinks.terminates (fun x i inside => moves _ x inside) fun x => ?_
  -- The first of the rounds that are enough goes on with the others, which are enough behind it.
  have unrolled := start (i := 0) (n := tokens.length + 1) (by omega) x
  rw [step] at unrolled
  refine unrolled.trans ?_
  exact shrinks (moves _) (fun x => (start (i := 1) (n := tokens.length) (by omega) x).symm) x

end

theorem sameFrom_end {p q : Parser α} (same : ∀ c : Cursor, c.kind? = none → p c = q c) :
    SameFrom tokens tokens.length p q :=
  fun _ further _ => same _ (Cursor.kind?_eq_none.2 (List.drop_eq_nil_of_le further))

/-! ## Trivia -/

/-- Look at the next token, and take it if it is trivia, noting what it is. -/
def triviaRound (again : Skipped → Parser Skipped) (seen : Skipped) : Parser Skipped := do
  match ← peek with
  | some k =>
    if k.isTrivia then
      let _ ← next
      again ⟨seen.blank || k.isBlank, seen.newline || k == .blank .newline⟩
    else return seen
  | none => return seen

/-- Skip the trivia ahead and add it to what was skipped before. -/
def skipFurther (seen : Skipped) : Parser Skipped := do
  let skipped ← skipTrivia
  return ⟨seen.blank || skipped.blank, seen.newline || skipped.newline⟩

theorem skipTrivia_eq : skipTrivia = skipFurther ⟨false, false⟩ := rfl

/-- Look at the next token, and take it if it is trivia but no newline. -/
def lineEndRound (again : Unit → Parser Unit) (_ : Unit) : Parser Unit := do
  if ((← peek).map fun k => k.isTrivia && k != .blank .newline).getD false then
    let _ ← next
    again ()
  else return ()

theorem triviaRound_shrinks : Shrinks tokens triviaRound := by
  intro again again' i moves same seen
  refine .peek rfl fun k j further before => ?_
  dsimp only
  rw [ite_run, ite_run]
  split
  · exact SameFrom.next_eq before fun _ _ => (same _).later (Nat.succ_le_succ further)
  · rfl

theorem Cursor.Takes.trivia {c c' : Cursor} {t : Token} (takes : c.Takes t c') :
    c.trivia = if t.kind.isTrivia then t :: c'.trivia else [] := by
  rw [Cursor.trivia, takes.rest, List.takeWhile_cons]
  rfl

/-- Skipping trivia goes on with what is seen so far, a token in each round. -/
theorem skipFurther_eq (seen : Skipped) : skipFurther seen = triviaRound skipFurther seen := by
  funext c
  rcases tokens : c.rest with _ | ⟨t, rest⟩
  · rcases c with ⟨_, lastEnd⟩
    cases tokens
    simp [skipFurther, triviaRound, skipTrivia_bind, peek_bind, pure_run, Cursor.kind?,
      Cursor.skipped, Cursor.trivia, Cursor.pastTrivia, Cursor.skipWhile, Cursor.afterRun]
  · have takes : c.Takes t ⟨rest, t.stop⟩ := ⟨tokens, rfl⟩
    have past := takes.skipWhile Kind.isTrivia
    rw [skipFurther, triviaRound, skipTrivia_bind, peek_bind, takes.kind?]
    dsimp only
    rw [ite_run, Cursor.skipped, Cursor.pastTrivia, takes.trivia, past]
    split
    · rw [next_bind takes, skipFurther, skipTrivia_bind]
      simp [pure_run, Cursor.skipped, Cursor.pastTrivia, Bool.or_assoc]
    · simp [pure_run]

theorem trivia_terminates : Terminates tokens triviaRound skipFurther :=
  triviaRound_shrinks.terminates
    (fun _ => skipTrivia_moves.bind fun _ => pure_moves _) fun seen _ _ _ =>
      congrFun (skipFurther_eq seen) _

/-- Skipping to the end of the line takes a token in each round until there is none to skip. -/
theorem skipToLineEnd_eq : skipToLineEnd = lineEndRound (fun _ => skipToLineEnd) () := by
  funext c
  rcases tokens : c.rest with _ | ⟨t, rest⟩
  · rcases c with ⟨_, lastEnd⟩
    cases tokens
    rfl
  · have takes : c.Takes t ⟨rest, t.stop⟩ := ⟨tokens, rfl⟩
    have past := takes.skipWhile fun k => k.isTrivia && k != .blank .newline
    rw [skipToLineEnd, lineEndRound, peek_bind, takes.kind?, ite_run, past]
    dsimp only [Option.map_some, Option.getD_some]
    split
    · rw [next_bind takes]
      rfl
    · rfl

theorem lineEnd_terminates : Terminates tokens lineEndRound fun _ => skipToLineEnd := by
  refine Shrinks.terminates ?_ (fun _ => skipToLineEnd_moves) ?_
  · intro again again' i moves same x
    exact .peekTake Bool.false_ne_true fun _ => same ()
  · exact fun _ _ _ _ => congrFun skipToLineEnd_eq _

/-! ## Lists -/

section

variable {item item' : Parser α} {close : Kind}

/-- Look for the closing token, and otherwise read an item and the comma behind it. -/
def itemsRound (close : Kind) (item : Parser α) (again : Unit → Parser (List α)) (_ : Unit) :
    Parser (List α) := do
  let k ← peek
  if k = none ∨ k = some close then return []
  else
    let a ← item
    if ← skipComma then return a :: (← again ())
    else return [a]

theorem items_terminates (item_moves : Moves tokens 1 item) (close : Kind) :
    Terminates tokens (itemsRound close item) fun _ c => items close item c.rest.length c := by
  refine Shrinks.terminates_within (fun n _ => items close item n) ?_
    (fun n _ => items_moves item_moves.inside close n) (fun _ _ => rfl) fun again x => ?_
  · intro again again' i moves same x
    refine .step peek_moves fun k => .ite (.refl _) (.step item_moves fun a => ?_)
    refine .step skipComma_moves fun comma => .ite ?_ (.refl _)
    exact .bind (moves ()) (same ()) fun as => .refl _
  · refine sameFrom_end fun c ended => ?_
    rw [itemsRound, peek_bind, if_pos (.inl ended)]
    rfl

theorem items_same (moves : Moves tokens 0 item) (same : SameFrom tokens i item item')
    (close : Kind) (rounds : Nat) :
    SameFrom tokens i (items close item rounds) (items close item' rounds) := by
  induction rounds with
  | zero => exact .refl _
  | succ rounds ih =>
    unfold items
    refine .step peek_moves fun k => .ite (.refl _) (.bind moves same fun a => ?_)
    refine .step skipComma_moves fun comma => .ite ?_ (.refl _)
    exact .bind (items_moves moves close rounds) ih fun as => .refl _

theorem delimited_same (moves : Moves tokens 0 item) (same : SameFrom tokens i item item')
    (opening close : Kind) :
    SameFrom tokens i (delimited opening close item) (delimited opening close item') := by
  unfold delimited
  refine .step (expect_moves opening).inside fun _ => .step skipTrivia_moves fun _ => ?_
  refine .step get_moves fun s => ?_
  exact .bind (items_moves moves close _) (items_same moves same close _) fun as => .refl _

end

/-! ## Expressions -/

/-- Take a period and the name behind it. -/
def membersRound (start : Location) (again : Expr → Parser Expr) (e : Expr) : Parser Expr := do
  if (← peek) = some .period then
    let _ ← next
    let field ← expectIdent
    again (.member e field (← spanFrom start))
  else return e

theorem members_terminates (start : Location) :
    Terminates tokens (membersRound start) fun e c => members start c.rest.length e c := by
  refine Shrinks.terminates_within (members start) ?_ (members_moves start)
    (fun _ _ => rfl) fun again e => ?_
  · intro again again' i moves same e
    refine .peekTake (Option.some_ne_none _).symm fun _ => ?_
    refine .step expectIdent_moves.inside fun field => .step (spanFrom_moves start) fun s => ?_
    exact same _
  · refine sameFrom_end fun c ended => ?_
    rw [membersRound, peek_bind, ended]
    rfl

/-- Take a token and read the expression that it starts. -/
def expressionRound (sub : BraceRole → Parser Expr) (role : BraceRole) : Parser Expr := do
  let start ← here
  match ← next with
  | none => fail .endInExpr start
  | some t =>
    let e ← primary sub role t
    let e ← members start (← get).rest.length e
    operation (sub role) start e

section

variable {sub sub' : BraceRole → Parser Expr}

theorem fieldInit_same {value value' : Parser Expr} (same : SameFrom tokens i value value')
    (moves : Moves tokens 0 value) : SameFrom tokens i (fieldInit value) (fieldInit value') := by
  unfold fieldInit
  refine .step here_moves fun start => .step expectIdent_moves.inside fun ident => ?_
  refine .step skipTrivia_moves fun _ => .step (expect_moves .colon).inside fun _ => ?_
  exact .step skipTrivia_moves fun _ => .bind moves same fun e => .refl _

theorem named_same (moves : ∀ role, Moves tokens 0 (sub role))
    (same : ∀ role, SameFrom tokens i (sub role) (sub' role)) (role : BraceRole) (t : Token)
    (name : String) : SameFrom tokens i (named sub role t name) (named sub' role t name) := by
  unfold named
  refine .step peek_moves fun k => .ite ?_ (.step peekPastTrivia_moves fun k => .ite ?_ (.refl _))
  · have arguments := delimited_moves (moves .literal) .leftParen .rightParen
    exact .bind arguments.inside (delimited_same (moves _) (same _) _ _) fun args => .refl _
  · have inits := fieldInit_moves (moves .literal)
    refine .step skipTrivia_moves fun _ => .step here_moves fun start => ?_
    refine .bind (delimited_moves inits.inside _ _).inside ?_ fun fields => .refl _
    exact delimited_same inits.inside (fieldInit_same (same _) (moves _)) _ _

/-- Two ways of reading subexpressions that do the same from a position on read the same first
part there. -/
theorem primary_same (moves : ∀ role, Moves tokens 0 (sub role))
    (same : ∀ role, SameFrom tokens i (sub role) (sub' role)) (role : BraceRole) (t : Token) :
    SameFrom tokens i (primary sub role t) (primary sub' role t) := by
  unfold primary
  generalize t.kind = kind
  cases kind with
  | ident name => exact named_same moves same role t name
  | op op =>
    refine .step peek_moves fun k => .ite (.refl _) ?_
    exact .bind (moves role) (same role) fun operand => .refl _
  | leftParen =>
    refine .step skipTrivia_moves fun _ => ?_
    exact .bind (moves .literal) (same .literal) fun inner => .refl _
  | _ => exact .refl _

/-- Two ways of reading operands that do the same from a position on make the same of an
operator behind it. -/
theorem operation_same {right right' : Parser Expr} (moves : Moves tokens 0 right)
    (same : SameFrom tokens i right right') (start : Location) (e : Expr) :
    SameFrom tokens i (operation right start e) (operation right' start e) := by
  intro j further inside
  rcases operation_cases start e inside with
    none | ⟨k, _, lopsided⟩ | ⟨k, op, later, within, read⟩
  · rw [none, none]
  · rw [lopsided, lopsided]
  · rw [read, read]
    have rest : SameFrom tokens i (do
        let r ← right
        return Expr.binary op e r (← spanFrom start)) (do
        let r ← right'
        return Expr.binary op e r (← spanFrom start)) :=
      .bind moves same fun r => .refl _
    exact rest (by omega) within

theorem expressionRound_shrinks : Shrinks tokens expressionRound := by
  intro again again' i moves same role
  unfold expressionRound
  refine .step here_moves fun start => .next rfl fun j t token => ?_
  refine .bind (primary_moves moves role token) (primary_same moves same role t) fun e => ?_
  refine .step get_moves fun s => .step (members_moves start _ e) fun e => ?_
  exact operation_same (moves role) (same role) start e

theorem expression_terminates : Terminates tokens expressionRound expression := by
  refine Shrinks.terminates_within expressionWithin expressionRound_shrinks
    (fun n role => (expressionWithin_moves n role).inside) (fun _ _ => rfl) fun again role => ?_
  refine sameFrom_end fun c ended => ?_
  have nothing := Cursor.kind?_eq_none.1 ended
  rw [expressionRound, here_bind, bind_of_ok (next_eq_ok.2 (.inl ⟨nothing, rfl, rfl⟩))]
  rfl

end

/-! ## Statements -/

section

variable {stmt stmt' : Parser Stmt} {cond cond' : Parser Conditional}

/-- Look for the closing brace, and otherwise read a statement and what separates it from the
next. -/
def statementsRound (stmt : Parser Stmt) (again : Unit → Parser (List Stmt)) (_ : Unit) :
    Parser (List Stmt) := do
  let k ← peek
  if k = none ∨ k = some .rightBrace then return []
  else
    let s ← stmt
    if s.endsWithBlock then
      let _ ← skipTrivia
    else expectNewline
    return s :: (← again ())

/-- Each statement takes a token, so the statements of a block come to an end. -/
theorem statements_terminates (each : Moves tokens 1 stmt) :
    Terminates tokens (statementsRound stmt) fun _ c => statements stmt c.rest.length c := by
  refine Shrinks.terminates_within (fun n _ => statements stmt n) ?_
    (fun n _ => statements_moves each.inside n) (fun _ _ => rfl) fun again x => ?_
  · intro again again' i moves same x
    refine .step peek_moves fun k => .ite (.refl _) (.step each fun s => ?_)
    have rest : SameFrom tokens (i + 1) (do return s :: (← again ()))
        (do return s :: (← again' ())) :=
      .bind (moves ()) (same ()) fun ss => .refl _
    exact .ite (.step skipTrivia_moves fun _ => rest) (.step expectNewline_moves fun _ => rest)
  · refine sameFrom_end fun c ended => ?_
    rw [statementsRound, peek_bind, if_pos (.inl ended)]
    rfl

theorem statements_same (moves : Moves tokens 0 stmt) (same : SameFrom tokens i stmt stmt')
    (rounds : Nat) : SameFrom tokens i (statements stmt rounds) (statements stmt' rounds) := by
  induction rounds with
  | zero => exact .refl _
  | succ rounds ih =>
    unfold statements
    refine .step peek_moves fun k => .ite (.refl _) (.bind moves same fun s => ?_)
    have rest : SameFrom tokens i (do return s :: (← statements stmt rounds))
        (do return s :: (← statements stmt' rounds)) :=
      .bind (statements_moves moves rounds) ih fun ss => .refl _
    exact .ite (.step skipTrivia_moves fun _ => rest) (.step expectNewline_moves fun _ => rest)

theorem block_same (moves : Moves tokens 0 stmt) (same : SameFrom tokens i stmt stmt') :
    SameFrom tokens i (block stmt) (block stmt') := by
  unfold block
  refine .step (expect_moves .leftBrace).inside fun _ => .step skipTrivia_moves fun _ => ?_
  refine .step get_moves fun s => ?_
  exact .bind (statements_moves moves _) (statements_same moves same _) fun ss => .refl _

theorem statementWith_same (moves : Moves tokens 0 cond) (same : SameFrom tokens i cond cond') :
    SameFrom tokens i (statementWith cond) (statementWith cond') := by
  unfold statementWith
  refine .step here_moves fun start => .step peek_moves fun k => ?_
  split
  · exact .bind moves same fun c => .refl _
  · exact .refl _
  · exact .refl _
  · exact .refl _

/-- Two ways of reading conditionals that do the same from a position on read the same behind a
block. -/
theorem otherwise_same (moves : Moves tokens 0 cond) (same : SameFrom tokens i cond cond') :
    SameFrom tokens i (otherwise cond) (otherwise cond') := by
  unfold otherwise
  refine .step peekPastTrivia_moves fun k => .ite ?_ (.refl _)
  refine .step skipTrivia_moves fun _ => .step next_moves fun _ => ?_
  refine .step skipTrivia_moves fun _ => .step peek_moves fun k => ?_
  split
  · exact .bind moves same fun c => .refl _
  · have each := statementWith_moves moves (Nat.zero_le 1)
    exact .bind (block_moves each).inside (block_same each (statementWith_same moves same))
      fun body => .refl _
  · exact .refl _

end

theorem expect_of_ended {c : Cursor} (ended : c.kind? = none) (kind : Kind) :
    expect kind c = .error ⟨.expected kind none, c.here⟩ := by
  have nothing := Cursor.kind?_eq_none.1 ended
  rw [expect, here_bind, bind_of_ok (next_eq_ok.2 (.inl ⟨nothing, rfl, rfl⟩)), Option.map_none,
    if_neg (Option.some_ne_none kind).symm]
  rfl

/-- Read a conditional, up to those that stand in it. -/
def conditionalRound (again : Unit → Parser Conditional) (_ : Unit) : Parser Conditional := do
  let start ← here
  expect (.keyword .kwIf)
  expectBlank
  let condition ← expression .block
  let _ ← skipTrivia
  let stmts ← block (statementWith (again ()))
  let rest ← otherwise (again ())
  return .mk condition stmts rest (← spanFrom start)

/-- A conditional in a conditional is read behind the `if` of the outer one, and so with fewer
tokens left. -/
theorem conditional_terminates : Terminates tokens conditionalRound fun _ => conditional := by
  refine Shrinks.terminates_within (fun n _ => conditionalWithin n) ?_
    (fun n _ => (conditionalWithin_moves n).inside) (fun _ _ => rfl) fun again x => ?_
  · intro again again' i moves same x
    unfold conditionalRound
    refine .step here_moves fun start => .step (expect_moves _) fun _ => ?_
    refine .step expectBlank_moves fun _ => ?_
    refine .step (expression_moves .block).inside fun condition => ?_
    have each := statementWith_moves (moves ()) (Nat.zero_le 1)
    have bodies := block_same each (statementWith_same (moves ()) (same ()))
    refine .step skipTrivia_moves fun _ => .bind (block_moves each).inside bodies fun stmts => ?_
    have branches := otherwise_same (moves ()) (same ())
    exact .bind (otherwise_moves (moves ())) branches fun rest => .refl _
  · refine sameFrom_end fun c ended => ?_
    rw [conditionalRound, here_bind, bind_of_error (expect_of_ended ended _)]
    rfl

/-! ## Declarations -/

/-- Look for the end of the tokens, and otherwise read a declaration. -/
def declarationsRound (again : Unit → Parser Program) (_ : Unit) : Parser Program := do
  match ← peek with
  | none => return ⟨[], []⟩
  | some (.keyword .kwStruct) =>
    let d ← structDecl
    let _ ← skipTrivia
    let p ← again ()
    return { p with structs := d :: p.structs }
  | some (.keyword .kwFn) =>
    let d ← fnDecl
    let _ ← skipTrivia
    let p ← again ()
    return { p with fns := d :: p.fns }
  | some kind => fail (.unexpectedAtTop kind) (← here)

/-- Each declaration takes a token, so the declarations come to an end. -/
theorem declarations_terminates :
    Terminates tokens declarationsRound fun _ c => declarations c.rest.length c := by
  refine Shrinks.terminates_within (fun n _ => declarations n) ?_
    (fun n _ => declarations_moves n) (fun _ _ => rfl) fun again x => ?_
  · intro again again' i moves same x
    unfold declarationsRound
    refine .step peek_moves fun k => ?_
    split
    · exact .refl _
    · refine .step structDecl_moves fun d => .step skipTrivia_moves fun _ => ?_
      exact .bind (moves ()) (same ()) fun p => .refl _
    · refine .step fnDecl_moves fun d => .step skipTrivia_moves fun _ => ?_
      exact .bind (moves ()) (same ()) fun p => .refl _
    · exact .refl _
  · refine sameFrom_end fun c ended => ?_
    rw [declarationsRound, peek_bind, ended]
    rfl

end NominalScript.Syntax
