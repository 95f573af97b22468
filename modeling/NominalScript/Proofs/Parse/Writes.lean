import NominalScript.Proofs.Parse
import NominalScript.Proofs.Parse.Covers
import NominalScript.Proofs.Parse.Run

/-!
# Every node covers its tokens

Each parser reads the tokens of the node of the tree it returns.  A span is closed by the
end of the last token read, so what matters at each place where this is done is which token
that is.  For all nodes it is the last token of the node, but for a `return` without a
value, behind which trivia is read before its span is closed.
-/

namespace NominalScript.Syntax

open NominalScript.Syntax.Node NominalScript.Syntax.Parser

variable {α : Type} {c c₀ c₁ c' : Cursor} {t : Token}

/-! ## Lists -/

section

variable {item : Parser α} {node : α → Node} {opening close : Kind} {as : List α}

/-- The nodes of the items lie one after the other between the two cursors. -/
theorem items_fit {rounds : Nat} (read : items close item rounds c = .ok (as, c'))
    (each : ∀ {c a c'}, item c = .ok (a, c') → c.Writes (node a) c') :
    FitAll (as.map node) c.rest c'.rest := by
  induction rounds generalizing c as with
  | zero =>
    obtain ⟨rfl, rfl⟩ := pure_eq_ok.1 read
    exact .nil List.suffix_rfl
  | succ rounds ih =>
    obtain ⟨_, rfl, rfl⟩ | ⟨_, a, c₁, first, last⟩ := items_succ_eq_ok.1 read
    · exact .nil List.suffix_rfl
    have fits := (each first).fits
    have behind := c₁.reads_pastTrivia.suffix
    obtain ⟨_, rfl, rfl⟩ | ⟨t, c₂, rest, _, takes, later, rfl⟩ := last
    · exact fits.one.before behind
    · have past := (c₂.reads_pastTrivia.suffix.trans takes.suffix).trans behind
      exact .cons List.suffix_rfl fits ((ih later).after past)

theorem delimited_fit (read : delimited opening close item c = .ok (as, c'))
    (closes : close.matters = true)
    (each : ∀ {c a c'}, item c = .ok (a, c') → c.Writes (node a) c') :
    FitAll (as.map node) c.rest c'.rest ∧ c.EndsAt c' := by
  obtain ⟨t, c₁, c₂, t', _, opened, inside, isClose, closed⟩ := delimited_eq_ok.1 read
  have fit := items_fit inside each
  have start := c₁.reads_pastTrivia.suffix.trans opened.suffix
  refine ⟨(fit.before closed.suffix).after start, ?_⟩
  exact (closed.endsAt (isClose ▸ closes)).after (fit.suffix.trans start)

end

/-- What is delimited is a node of its own where it has a span. -/
theorem delimited_writes (read : delimited opening close item c = .ok (as, c'))
    (matters : opening.matters = true)
    (closes : close.closes = true) (first : ∀ a, Opens (node a).kinds)
    (each : ∀ {c a c'}, item c = .ok (a, c') → c.Writes (node a) c') :
    c.Writes (.mk (opening :: (commas (as.map fun a => (node a).kinds) ++ [close]))
      (c.here.until c'.lastEnd) (as.map node)) c' := by
  have reads := delimited_reads read matters closes first fun read => (each read).reads
  obtain ⟨fit, ends⟩ := delimited_fit read (Kind.matters_of_closes closes) each
  obtain ⟨t, c₁, _, _, isOpening, opened, _⟩ := delimited_eq_ok.1 read
  rw [opened.here]
  exact opened.writes isOpening matters reads ends fit

/-! ## Expressions -/

section

variable {role : BraceRole} {e e' : Expr} {sub : BraceRole → Parser Expr}

/-- A field of a struct literal starts with its name and ends with its value. -/
theorem fieldInit_writes {value : Parser Expr} {f : FieldInit Expr}
    (each : ∀ {c e c'}, value c = .ok (e, c') → c.Writes e.node c')
    (read : fieldInit value c = .ok (f, c')) : c.Writes f.node c' := by
  simp only [fieldInit, bind_eq_ok, here_eq_ok, expectIdent_eq_ok, skipTrivia_eq_ok, expect_eq_ok,
    spanFrom_eq_ok, pure_eq_ok] at read
  obtain ⟨_, _, ⟨rfl, rfl⟩, ident, c₁, ⟨t, isIdent, spanned, named⟩, _, _, ⟨_, rfl⟩, _, c₂,
    ⟨t', isColon, parted⟩, _, _, ⟨_, rfl⟩, e, c₃, valued, _, _, ⟨rfl, rfl⟩, rfl, rfl⟩ := read
  have value := each valued
  have colon := parted.reads isColon rfl
  have between := (c₁.reads_pastTrivia.trans colon).trans c₂.reads_pastTrivia
  have reads := ((named.reads isIdent rfl).trans between).trans value.reads
  have fit := value.fits.one.after between.suffix
  rw [named.here]
  refine named.writes isIdent rfl ?_
    (value.ends.after (between.suffix.trans named.suffix))
    (.cons List.suffix_rfl (named.writes_ident isIdent spanned).fits fit)
  simpa [FieldInit.kinds, Expr.node_kinds] using reads

/-- The name is the first part of what starts with it.  The fields of a literal are a node of
their own, with the span of the braces. -/
theorem named_writes {name : String} (kind : t.kind = .ident name) (takes : c₀.Takes t c)
    (each : ∀ {role c e c'}, sub role c = .ok (e, c') → c.Writes e.node c')
    (reads : c₀.Reads e.kinds c') (read : named sub role t name c = .ok (e, c')) :
    c₀.Writes e.node c' := by
  have ident : c₀.Writes (Ident.node ⟨name, t.span⟩) c := takes.writes_ident kind rfl
  simp only [named, bind_eq_ok, peek_eq_ok] at read
  obtain ⟨_, _, ⟨rfl, rfl⟩, read⟩ := read
  split at read
  case isTrue =>
    simp only [bind_eq_ok, spanFrom_eq_ok, pure_eq_ok] at read
    obtain ⟨args, c₁, inside, _, _, ⟨rfl, rfl⟩, rfl, rfl⟩ := read
    obtain ⟨fit, ends⟩ := delimited_fit inside rfl each
    rw [← Expr.nodesOfAll_eq_map] at fit
    exact takes.writes kind rfl reads (ends.after takes.suffix)
      (.cons List.suffix_rfl ident.fits fit)
  case isFalse =>
    simp only [bind_eq_ok, peekPastTrivia_eq_ok] at read
    obtain ⟨_, _, ⟨_, rfl⟩, read⟩ := read
    split at read
    case isTrue =>
      simp only [bind_eq_ok, skipTrivia_eq_ok, here_eq_ok, spanFrom_eq_ok, pure_eq_ok] at read
      obtain ⟨_, _, ⟨_, rfl⟩, _, _, ⟨rfl, rfl⟩, fields, c₁, inside, _, _, ⟨rfl, rfl⟩, _, _,
        ⟨rfl, rfl⟩, rfl, rfl⟩ := read
      have literal := delimited_writes inside rfl rfl (fun f => ⟨_, _, rfl, rfl⟩)
        (fieldInit_writes each)
      have behind := c.reads_pastTrivia.suffix
      rw [← Expr.nodesOfFields_eq_map] at literal
      exact takes.writes kind rfl reads (literal.ends.after (behind.trans takes.suffix))
        (.cons List.suffix_rfl ident.fits (literal.fits.one.after behind))
    case isFalse =>
      simp only [bind_eq_ok, spanFrom_eq_ok, pure_eq_ok] at read
      obtain ⟨_, _, ⟨rfl, rfl⟩, rfl, rfl⟩ := read
      rw [takes.lastEnd]
      exact ident

/-- The first part of an expression starts with the token taken, and its span is closed at the
last token of the node. -/
theorem primary_writes (takes : c₀.Takes t c)
    (each : ∀ {role c e c'}, sub role c = .ok (e, c') → c.Writes e.node c')
    (reads : c₀.Reads e.kinds c') (read : primary sub role t c = .ok (e, c')) :
    c₀.Writes e.node c' := by
  cases kind : t.kind <;> simp only [primary, kind] at read
  case ident name => exact named_writes kind takes each reads read
  case str value =>
    simp only [bind_eq_ok, spanFrom_eq_ok, pure_eq_ok] at read
    obtain ⟨_, _, ⟨rfl, rfl⟩, rfl, rfl⟩ := read
    rw [takes.lastEnd]
    exact takes.writes_leaf kind rfl
  case int value =>
    simp only [bind_eq_ok, spanFrom_eq_ok, pure_eq_ok] at read
    obtain ⟨_, _, ⟨rfl, rfl⟩, rfl, rfl⟩ := read
    rw [takes.lastEnd]
    exact takes.writes_leaf kind rfl
  case op op =>
    simp only [bind_eq_ok, peek_eq_ok] at read
    obtain ⟨_, _, ⟨rfl, rfl⟩, read⟩ := read
    split at read
    case isTrue => exact absurd read fail_ne_ok
    case isFalse =>
      simp only [bind_eq_ok, spanFrom_eq_ok, pure_eq_ok] at read
      obtain ⟨operand, c₁, taken, _, _, ⟨rfl, rfl⟩, rfl, rfl⟩ := read
      have inside := each taken
      have operator := takes.writes_leaf kind rfl
      exact takes.writes kind rfl reads (inside.ends.after takes.suffix)
        (.cons List.suffix_rfl operator.fits inside.fits.one)
  case leftParen =>
    simp only [bind_eq_ok, skipTrivia_eq_ok, expect_eq_ok, spanFrom_eq_ok, pure_eq_ok] at read
    obtain ⟨_, _, ⟨_, rfl⟩, inner, c₁, taken, _, _, ⟨_, rfl⟩, _, c₂, ⟨t', isClose, closed⟩, _, _,
      ⟨rfl, rfl⟩, rfl, rfl⟩ := read
    have inside := each taken
    have start := c.reads_pastTrivia.suffix.trans takes.suffix
    have stop := closed.suffix.trans c₁.reads_pastTrivia.suffix
    have upTo := c₁.reads_pastTrivia.suffix.trans (inside.fits.suffix.trans start)
    exact takes.writes kind rfl reads ((closed.endsAt (isClose ▸ rfl)).after upTo)
      ((inside.fits.one.before stop).after start)
  all_goals exact absurd read fail_ne_ok

theorem matters_of_primary (read : primary sub role t c = .ok (e, c')) :
    t.kind.matters = true := by
  cases kind : t.kind <;> simp only [primary, kind] at read
  case blank | comment | comma => exact absurd read fail_ne_ok
  all_goals rfl

/-- The span of a member access starts where that of its base does. -/
theorem members_writes {rounds : Nat} (takes : c₀.Takes t c₁) (matters : t.kind.matters = true)
    (base : c₀.Writes e.node c) (read : members t.start rounds e c = .ok (e', c')) :
    c₀.Writes e'.node c' := by
  induction rounds generalizing e c with
  | zero =>
    obtain ⟨rfl, rfl⟩ := pure_eq_ok.1 read
    exact base
  | succ rounds ih =>
    simp only [members, bind_eq_ok, peek_eq_ok] at read
    obtain ⟨_, _, ⟨rfl, rfl⟩, read⟩ := read
    split at read
    case isTrue period =>
      simp only [bind_eq_ok, expectIdent_eq_ok, spanFrom_eq_ok] at read
      obtain ⟨_, c₂, taken, field, c₃, ⟨t', isIdent, spanned, named⟩, _, _, ⟨rfl, rfl⟩,
        read⟩ := read
      obtain ⟨t'', isPeriod, parted⟩ := takes_of_next period taken
      refine ih ?_ read
      have reads := (base.reads.trans (parted.reads isPeriod rfl)).trans (named.reads isIdent rfl)
      have ident := named.writes_ident isIdent spanned
      have start := parted.suffix.trans base.fits.suffix
      refine takes.writes rfl matters ?_ (ident.ends.after start)
        (.cons List.suffix_rfl base.fits (ident.fits.one.after parted.suffix))
      simpa [Expr.kinds, Expr.node_kinds] using reads
    case isFalse =>
      obtain ⟨rfl, rfl⟩ := pure_eq_ok.1 read
      exact base

/-- The span of an operation starts where that of its left operand does. -/
theorem operation_writes {right : Parser Expr} (takes : c₀.Takes t c₁)
    (matters : t.kind.matters = true) (left : c₀.Writes e.node c)
    (each : ∀ {c e c'}, right c = .ok (e, c') → c.Writes e.node c')
    (reads : c₀.Reads e'.kinds c') (read : operation right t.start e c = .ok (e', c')) :
    c₀.Writes e'.node c' := by
  by_cases operator : ∃ op, c.pastTrivia.kind? = some (.op op)
  · obtain ⟨op, operator⟩ := operator
    obtain ⟨t', c₂, kind, taken⟩ := Cursor.exists_takes operator
    obtain ⟨_, r, operand, rfl⟩ := (operation_eq_ok kind taken).1 read
    have right := each operand
    have op := taken.writes_leaf kind rfl
    have before := c.reads_pastTrivia.suffix
    have behind := c₂.reads_pastTrivia.suffix
    have start := ((behind.trans taken.suffix).trans before).trans left.fits.suffix
    have fit := (FitAll.cons List.suffix_rfl op.fits (right.fits.one.after behind)).after before
    exact takes.writes rfl matters reads (right.ends.after start)
      (.cons List.suffix_rfl left.fits fit)
  · have noOperator : ∀ op, c.pastTrivia.kind? ≠ some (.op op) :=
      fun op isOp => operator ⟨op, isOp⟩
    cases (operation_of_none noOperator).symm.trans read
    exact left

/-- Member accesses and an operation are nodes that start with the first token of the
expression. -/
theorem expressionWithin_writes {bound : Nat}
    (read : expressionWithin bound role c = .ok (e, c')) : c.Writes e.node c' := by
  induction bound generalizing role c e c' with
  | zero =>
    obtain ⟨_, _, _, failed⟩ := bind_eq_ok.1 read
    exact absurd failed fail_ne_ok
  | succ bound ih =>
    have reads := (expressionWithin_reads read).reads
    simp only [expressionWithin, bind_eq_ok, here_eq_ok, next_eq_ok] at read
    obtain ⟨_, _, ⟨rfl, rfl⟩, _, c₁, ⟨_, rfl, rfl⟩ | ⟨t, rfl, takes⟩, read⟩ := read
    · exact absurd read fail_ne_ok
    · simp only [bind_eq_ok, get_eq_ok] at read
      obtain ⟨first, c₂, begun, _, _, ⟨rfl, rfl⟩, whole, c₃, lengthened, read⟩ := read
      rw [takes.here] at lengthened read
      have matters := matters_of_primary begun
      have begunReads := (primary_reads takes expressionWithin_reads begun).reads
      have part := primary_writes takes ih begunReads begun
      have base := members_writes takes matters part lengthened
      exact operation_writes takes matters base ih reads read

theorem expression_writes (read : expression role c = .ok (e, c')) : c.Writes e.node c' := by
  simp only [expression, bind_eq_ok, get_eq_ok] at read
  obtain ⟨_, _, ⟨_, rfl⟩, read⟩ := read
  exact expressionWithin_writes read

end

/-! ## Statements -/

section

variable {stmt : Parser Stmt} {cond : Parser Conditional}

/-- The nodes of statements lie one after the other.  Nothing is said of the last token read,
which may be trivia behind a `return`. -/
theorem statements_fit {rounds : Nat} {ss : List Stmt}
    (read : statements stmt rounds c = .ok (ss, c'))
    (each : ∀ {c s c'}, stmt c = .ok (s, c') → s.node.Fits c.rest c'.rest) :
    FitAll (Stmt.nodesOfAll ss) c.rest c'.rest := by
  induction rounds generalizing c ss with
  | zero =>
    obtain ⟨rfl, rfl⟩ := pure_eq_ok.1 read
    exact .nil List.suffix_rfl
  | succ rounds ih =>
    by_cases stop : c.kind? = none ∨ c.kind? = some .rightBrace
    · rw [statements_of_stop stop] at read
      cases read
      exact .nil List.suffix_rfl
    · simp only [statements_of_some stop, bind_eq_ok, pure_eq_ok] at read
      obtain ⟨s, c₁, first, _, _, between, rest, _, later, rfl, rfl⟩ := read
      cases pastTrivia_of_separator between
      exact .cons List.suffix_rfl (each first) ((ih later).after c₁.reads_pastTrivia.suffix)

theorem block_fit {ss : List Stmt} (read : block stmt c = .ok (ss, c'))
    (each : ∀ {c s c'}, stmt c = .ok (s, c') → s.node.Fits c.rest c'.rest) :
    FitAll (Stmt.nodesOfAll ss) c.rest c'.rest ∧ c.EndsAt c' := by
  simp only [block, bind_eq_ok, expect_eq_ok, skipTrivia_eq_ok, get_eq_ok, pure_eq_ok] at read
  obtain ⟨_, c₁, ⟨t, isOpening, opened⟩, _, _, ⟨_, rfl⟩, _, _, ⟨_, rfl⟩, ss', c₂, inside, _, c₃,
    ⟨t', isClose, closed⟩, rfl, rfl⟩ := read
  have fit := statements_fit inside each
  have start := c₁.reads_pastTrivia.suffix.trans opened.suffix
  refine ⟨(fit.before closed.suffix).after start, ?_⟩
  exact (closed.endsAt (isClose ▸ rfl)).after (fit.suffix.trans start)

/-- Past tokens of a class, a span is closed by the last of them, or else by the token
before. -/
theorem Cursor.exists_afterRun (p : Kind → Bool) (t : Token) (tokens : List Token) :
    ∃ run last, tokens = run ++ (afterRun p tokens t.stop).rest ∧ (∀ u ∈ run, p u.kind = true) ∧
      (t :: run).getLast? = some last ∧ (afterRun p tokens t.stop).lastEnd = last.stop := by
  induction tokens generalizing t with
  | nil => exact ⟨[], t, rfl, nofun, rfl, rfl⟩
  | cons u rest ih =>
    cases holds : p u.kind with
    | false =>
      rw [afterRun, holds]
      exact ⟨[], t, rfl, nofun, rfl, rfl⟩
    | true =>
      obtain ⟨run, last, split, all, last?, lastEnd⟩ := ih u
      rw [afterRun, if_pos holds]
      refine ⟨u :: run, last, by rw [List.cons_append, ← split],
        List.forall_mem_cons.2 ⟨holds, all⟩, ?_, lastEnd⟩
      rwa [List.getLast?_cons_cons]

/-- Behind a `return` without a value its line is read to the end before the span is
closed. -/
theorem Cursor.Takes.fits_return (takes : c.Takes t c₁) (isReturn : t.kind = .keyword .kwReturn)
    (ended : c₁.lineEnded) :
    (Stmt.ret none (t.start.until c₁.toLineEnd.lastEnd)).node.Fits c.rest c₁.toLineEnd.rest := by
  obtain ⟨run, last, split, class_, last?, lastEnd⟩ :=
    Cursor.exists_afterRun (fun k => k.isTrivia && k != .blank .newline) t c₁.rest
  rw [← takes.lastEnd] at split lastEnd
  have trivia : ∀ u ∈ run, u.kind.isTrivia = true ∧ u.kind ≠ .blank .newline := by
    intro u mem
    obtain ⟨isTrivia, noNewline⟩ := Bool.and_eq_true_iff.1 (class_ u mem)
    exact ⟨isTrivia, bne_iff_ne.1 noNewline⟩
  have here : c.rest = (t :: run) ++ c₁.toLineEnd.rest := by
    rw [takes.rest, List.cons_append]
    exact congrArg (t :: ·) split
  have none_ : meaningful (run.map Token.kind) = [] := by
    refine meaningful_eq_nil fun k mem => ?_
    obtain ⟨u, inRun, rfl⟩ := List.mem_map.1 mem
    exact (trivia u inRun).1
  rw [here]
  refine .mk ⟨?_, t, last, rfl, last?, congrArg t.start.until lastEnd, by rw [isReturn]; rfl, ?_⟩
    (.nil (List.suffix_append _ _))
  · rw [List.map_cons, isReturn, meaningful_of_matters rfl, none_]
    rfl
  · refine .inr ⟨rfl, ⟨t, run, rfl, isReturn, trivia⟩, fun u mem => ?_⟩
    have next : c₁.toLineEnd.kind? = some u.kind := by
      rw [Cursor.kind?, Option.mem_def.1 mem, Option.map_some]
    rw [Cursor.lineEnded, next] at ended
    simpa using ended

/-- A return with a value ends with it, and one without a value is the exception: it goes up to
the end of its line. -/
theorem returnValue_fits {value : Option Expr} (read : returnValue c = .ok (value, c')) :
    (Stmt.ret value (c.here.until c'.lastEnd)).node.Fits c.rest c'.rest := by
  obtain ⟨reads, _⟩ : c.Reads (Stmt.ret value (c.here.until c'.lastEnd)).kinds c' ∧ _ :=
    returnValue_reads read
  simp only [returnValue, bind_eq_ok, expect_eq_ok, skipToLineEnd_eq_ok, peek_eq_ok] at read
  obtain ⟨_, c₁, ⟨t, isReturn, takes⟩, _, _, rfl, _, _, ⟨rfl, rfl⟩, read⟩ := read
  rw [takes.here] at reads ⊢
  split at read
  case isTrue ended =>
    obtain ⟨rfl, rfl⟩ := pure_eq_ok.1 read
    exact takes.fits_return isReturn ended
  case isFalse =>
    simp only [bind_eq_ok, pure_eq_ok] at read
    obtain ⟨e, c₂, read, rfl, rfl⟩ := read
    have inside := expression_writes read
    have start := c₁.reads_toLineEnd.suffix.trans takes.suffix
    exact (takes.writes isReturn rfl reads (inside.ends.after start)
      (inside.fits.one.after start)).fits

/-- The type written behind a name, if there is one, lies between the two cursors. -/
theorem annotation_fit {type : Option Ident} (read : annotation c = .ok (type, c')) :
    FitAll (Ident.nodeIfAny type) c.rest c'.rest := by
  simp only [bind_eq_ok, peek_eq_ok, annotation] at read
  obtain ⟨_, _, ⟨rfl, rfl⟩, read⟩ := read
  split at read
  case isTrue colon =>
    simp only [bind_eq_ok, skipTrivia_eq_ok, expectIdent_eq_ok, pure_eq_ok] at read
    obtain ⟨_, c₁, taken, _, _, ⟨_, rfl⟩, type, c₂, ⟨t, isIdent, spanned, named⟩, _, _, ⟨_, rfl⟩,
      rfl, rfl⟩ := read
    obtain ⟨t', _, takes⟩ := takes_of_next colon taken
    have ident := (named.writes_ident isIdent spanned).fits.one
    exact (ident.before c₂.reads_pastTrivia.suffix).after
      (c₁.reads_pastTrivia.suffix.trans takes.suffix)
  case isFalse =>
    obtain ⟨rfl, rfl⟩ := pure_eq_ok.1 read
    exact .nil List.suffix_rfl

/-- A `let` starts with its keyword and ends with its value; its name and type lie in between. -/
theorem binding_writes {s : Stmt} (read : binding c.here c = .ok (s, c')) :
    c.Writes s.node c' := by
  have reads := (binding_reads read).1
  simp only [binding, bind_eq_ok, expect_eq_ok, expectBlank_eq_ok, expectIdent_eq_ok,
    skipTrivia_eq_ok, spanFrom_eq_ok, pure_eq_ok] at read
  obtain ⟨_, c₁, ⟨t, isLet, takes⟩, _, _, ⟨_, rfl⟩, ident, c₂, ⟨t', isIdent, spanned, named⟩, _, _,
    ⟨_, rfl⟩, type, c₃, typed, _, c₄, ⟨t'', _, parted⟩, _, _, ⟨_, rfl⟩, value, c₅, valued,
    _, _, ⟨rfl, rfl⟩, rfl, rfl⟩ := read
  rw [takes.here] at reads ⊢
  have name := named.writes_ident isIdent spanned
  have inside := expression_writes valued
  have start := c₁.reads_pastTrivia.suffix.trans takes.suffix
  have equals := c₄.reads_pastTrivia.suffix.trans parted.suffix
  have type := annotation_fit typed
  have typeAndValue := (type.append (inside.fits.one.after equals)).after
    c₂.reads_pastTrivia.suffix
  have fit := (FitAll.cons List.suffix_rfl name.fits typeAndValue).after start
  have left := (type.suffix.trans c₂.reads_pastTrivia.suffix).trans (named.suffix.trans start)
  exact takes.writes isLet rfl reads (inside.ends.after (equals.trans left)) fit

/-- A statement that is an expression or a conditional is a node around it with the same tokens. -/
theorem statementWith_fits {s : Stmt} (read : statementWith cond c = .ok (s, c'))
    (each : ∀ {c d c'}, cond c = .ok (d, c') → c.Writes d.node c') :
    s.node.Fits c.rest c'.rest := by
  simp only [statementWith, bind_eq_ok, here_eq_ok, peek_eq_ok] at read
  obtain ⟨_, _, ⟨rfl, rfl⟩, k, _, ⟨_, rfl⟩, read⟩ := read
  split at read
  case h_1 =>
    simp only [bind_eq_ok, pure_eq_ok] at read
    obtain ⟨d, _, read, rfl, rfl⟩ := read
    have wrapped := (each read).fits.wrap
    rwa [Conditional.node_kinds, Conditional.node_span] at wrapped
  case h_2 =>
    simp only [bind_eq_ok, spanFrom_eq_ok, pure_eq_ok] at read
    obtain ⟨value, _, read, _, _, ⟨rfl, rfl⟩, rfl, rfl⟩ := read
    exact returnValue_fits read
  case h_3 => exact (binding_writes read).fits
  case h_4 =>
    simp only [bind_eq_ok, pure_eq_ok] at read
    obtain ⟨e, _, read, rfl, rfl⟩ := read
    have wrapped := (expression_writes read).fits.wrap
    rwa [Expr.node_kinds, Expr.node_span] at wrapped

/-- What follows a block lies behind it and ends with a token of its own, unless nothing
follows. -/
theorem otherwise_fit {rest : Otherwise} (read : otherwise cond c = .ok (rest, c'))
    (each : ∀ {c d c'}, cond c = .ok (d, c') → c.Writes d.node c') :
    FitAll rest.nodes c.rest c'.rest ∧ (c = c' ∨ c.EndsAt c') := by
  simp only [otherwise, bind_eq_ok, peekPastTrivia_eq_ok] at read
  obtain ⟨_, _, ⟨rfl, rfl⟩, read⟩ := read
  split at read
  case isTrue next =>
    simp only [bind_eq_ok, skipTrivia_eq_ok, peek_eq_ok] at read
    obtain ⟨_, _, ⟨_, rfl⟩, _, c₁, taken, _, _, ⟨_, rfl⟩, k, _, ⟨_, rfl⟩, read⟩ := read
    obtain ⟨t, isElse, takes⟩ := takes_of_next next taken
    have start := (c₁.reads_pastTrivia.suffix.trans takes.suffix).trans c.reads_pastTrivia.suffix
    split at read
    case h_1 =>
      simp only [bind_eq_ok, pure_eq_ok] at read
      obtain ⟨d, _, read, rfl, rfl⟩ := read
      have inside := each read
      exact ⟨inside.fits.one.after start, .inr (inside.ends.after start)⟩
    case h_2 =>
      simp only [bind_eq_ok, pure_eq_ok] at read
      obtain ⟨ss, _, read, rfl, rfl⟩ := read
      obtain ⟨fit, ends⟩ := block_fit read fun read => statementWith_fits read each
      exact ⟨fit.after start, .inr (ends.after start)⟩
    case h_3 =>
      obtain ⟨_, _, _, failed⟩ := bind_eq_ok.1 read
      exact absurd failed fail_ne_ok
  case isFalse =>
    obtain ⟨rfl, rfl⟩ := pure_eq_ok.1 read
    exact ⟨.nil List.suffix_rfl, .inl rfl⟩

end

/-- A conditional starts with its `if` and ends with the last brace of its chain. -/
theorem conditionalWithin_writes {bound : Nat} {d : Conditional}
    (read : conditionalWithin bound c = .ok (d, c')) : c.Writes d.node c' := by
  induction bound generalizing c d c' with
  | zero =>
    obtain ⟨_, _, _, failed⟩ := bind_eq_ok.1 read
    exact absurd failed fail_ne_ok
  | succ bound ih =>
    have reads := (conditionalWithin_reads read).1
    simp only [conditionalWithin, bind_eq_ok, here_eq_ok, expect_eq_ok, expectBlank_eq_ok,
      skipTrivia_eq_ok, spanFrom_eq_ok, pure_eq_ok] at read
    obtain ⟨_, _, ⟨rfl, rfl⟩, _, c₁, ⟨t, isIf, takes⟩, _, _, ⟨_, rfl⟩, e, c₂, tested, _, _,
      ⟨_, rfl⟩, ss, c₃, inside, rest, c₄, follows, _, _, ⟨rfl, rfl⟩, rfl, rfl⟩ := read
    rw [takes.here] at reads ⊢
    have condition := expression_writes tested
    obtain ⟨blockFit, blockEnds⟩ := block_fit inside fun read => statementWith_fits read ih
    obtain ⟨restFit, restEnds⟩ := otherwise_fit follows ih
    have start := c₁.reads_pastTrivia.suffix.trans takes.suffix
    have blocks := (blockFit.append restFit).after c₂.reads_pastTrivia.suffix
    have fit := (FitAll.cons List.suffix_rfl condition.fits blocks).after start
    have before := (c₂.reads_pastTrivia.suffix.trans condition.fits.suffix).trans start
    exact takes.writes isIf rfl reads ((blockEnds.after before).orAt restEnds) fit

theorem statement_fits {s : Stmt} (read : statement c = .ok (s, c')) :
    s.node.Fits c.rest c'.rest := by
  refine statementWith_fits read ?_
  intro c d c' read
  simp only [conditional, bind_eq_ok, get_eq_ok] at read
  obtain ⟨_, _, ⟨_, rfl⟩, read⟩ := read
  exact conditionalWithin_writes read

/-! ## Declarations -/

/-- A name with its type starts with the one and ends with the other. -/
theorem typedName_writes {b : Binding} (read : typedName c = .ok (b, c')) :
    c.Writes b.node c' := by
  have reads := typedName_reads read
  simp only [typedName, bind_eq_ok, here_eq_ok, expectIdent_eq_ok, skipTrivia_eq_ok, expect_eq_ok,
    spanFrom_eq_ok, pure_eq_ok] at read
  obtain ⟨_, _, ⟨rfl, rfl⟩, ident, c₁, ⟨t, isIdent, spanned, named⟩, _, _, ⟨_, rfl⟩, _, c₂,
    ⟨t', _, parted⟩, _, _, ⟨_, rfl⟩, type, c₃, ⟨t'', isType, spanned', typed⟩, _, _, ⟨rfl, rfl⟩,
    rfl, rfl⟩ := read
  rw [named.here] at reads ⊢
  have name := named.writes_ident isIdent spanned
  have type := typed.writes_ident isType spanned'
  have between := (c₂.reads_pastTrivia.suffix.trans parted.suffix).trans c₁.reads_pastTrivia.suffix
  exact named.writes isIdent rfl reads (type.ends.after (between.trans named.suffix))
    (.cons List.suffix_rfl name.fits (type.fits.one.after between))

/-- A struct starts with its keyword and ends with the brace of its fields. -/
theorem structDecl_writes {d : StructDecl} (read : structDecl c = .ok (d, c')) :
    c.Writes d.node c' := by
  have reads := structDecl_reads read
  simp only [structDecl, bind_eq_ok, here_eq_ok, expect_eq_ok, expectBlank_eq_ok,
    expectIdent_eq_ok, skipTrivia_eq_ok, spanFrom_eq_ok, pure_eq_ok] at read
  obtain ⟨_, _, ⟨rfl, rfl⟩, _, c₁, ⟨t, isStruct, takes⟩, _, _, ⟨_, rfl⟩, ident, c₂,
    ⟨t', isIdent, spanned, named⟩, _, _, ⟨_, rfl⟩, fields, c₃, inside, _, _, ⟨rfl, rfl⟩, rfl,
    rfl⟩ := read
  rw [takes.here] at reads ⊢
  have name := named.writes_ident isIdent spanned
  obtain ⟨fit, ends⟩ := delimited_fit inside rfl typedName_writes
  have start := c₁.reads_pastTrivia.suffix.trans takes.suffix
  have behind := c₂.reads_pastTrivia.suffix
  exact takes.writes isStruct rfl reads (ends.after ((behind.trans named.suffix).trans start))
    ((FitAll.cons List.suffix_rfl name.fits (fit.after behind)).after start)

/-- The type behind the arrow lies there and is the last token read, unless there is no arrow. -/
theorem returnType_fit {type : Option Ident} (read : returnType c = .ok (type, c')) :
    FitAll (Ident.nodeIfAny type) c.rest c'.rest ∧ (c = c' ∨ c.EndsAt c') := by
  simp only [returnType, bind_eq_ok, peekPastTrivia_eq_ok] at read
  obtain ⟨_, _, ⟨rfl, rfl⟩, read⟩ := read
  split at read
  case isTrue arrow =>
    simp only [bind_eq_ok, skipTrivia_eq_ok, expectIdent_eq_ok, pure_eq_ok] at read
    obtain ⟨_, _, ⟨_, rfl⟩, _, c₁, taken, _, _, ⟨_, rfl⟩, type, c₂, ⟨t, isIdent, spanned, named⟩,
      rfl, rfl⟩ := read
    obtain ⟨t', _, takes⟩ := takes_of_next arrow taken
    have start := (c₁.reads_pastTrivia.suffix.trans takes.suffix).trans c.reads_pastTrivia.suffix
    have ident := named.writes_ident isIdent spanned
    exact ⟨ident.fits.one.after start, .inr (ident.ends.after start)⟩
  case isFalse =>
    obtain ⟨rfl, rfl⟩ := pure_eq_ok.1 read
    exact ⟨.nil List.suffix_rfl, .inl rfl⟩

/-- A function starts with its keyword and ends with the brace of its body; its first line is a
node in front of that. -/
theorem fnDecl_writes {d : FnDecl} (read : fnDecl c = .ok (d, c')) : c.Writes d.node c' := by
  have reads := (fnDecl_reads read).1
  simp only [fnDecl, bind_eq_ok, here_eq_ok, expect_eq_ok, expectBlank_eq_ok, expectIdent_eq_ok,
    skipTrivia_eq_ok, spanFrom_eq_ok, pure_eq_ok] at read
  obtain ⟨_, _, ⟨rfl, rfl⟩, _, c₁, ⟨t, isFn, takes⟩, _, _, ⟨_, rfl⟩, ident, c₂,
    ⟨t', isIdent, spanned, named⟩, params, c₃, listed, returns, c₄, returned, _, _, ⟨rfl, rfl⟩, _,
    _, ⟨_, rfl⟩, body, c₅, inside, _, _, ⟨rfl, rfl⟩, rfl, rfl⟩ := read
  rw [takes.here] at reads ⊢
  have name := named.writes_ident isIdent spanned
  obtain ⟨paramsFit, paramsEnd⟩ := delimited_fit listed rfl typedName_writes
  obtain ⟨returnFit, returnEnds⟩ := returnType_fit returned
  obtain ⟨bodyFit, bodyEnds⟩ := block_fit inside statement_fits
  have start := c₁.reads_pastTrivia.suffix.trans takes.suffix
  have signature : c.Writes (FnDecl.signatureNode ⟨ident, params, returns,
      t.start.until c₄.lastEnd, body, t.start.until c₅.lastEnd⟩) c₄ := by
    have paramsRead := delimited_reads listed rfl rfl Binding.opens_kinds typedName_reads
    have head := (takes.reads isFn rfl).trans c₁.reads_pastTrivia
    have nameAndParams := (head.trans (named.reads isIdent rfl)).trans paramsRead
    refine takes.writes isFn rfl ?_
      ((paramsEnd.orAt returnEnds).after (named.suffix.trans start))
      ((FitAll.cons List.suffix_rfl name.fits (paramsFit.append returnFit)).after start)
    simpa [FnDecl.signatureKinds] using nameAndParams.trans (returnType_reads returned)
  have behind := c₄.reads_pastTrivia.suffix
  exact takes.writes isFn rfl reads (bodyEnds.after (behind.trans signature.fits.suffix))
    (.cons List.suffix_rfl signature.fits (bodyFit.after behind))

/-! ## Programs -/

/-- The declarations of a program, in the order they stand in. -/
def Program.InOrder (p : Program) (order : List Node) : Prop :=
  Merged (p.structs.map StructDecl.node) (p.fns.map FnDecl.node) order

/-- The declarations lie one after the other in the order they stand in, which keeps that of the
structs and that of the functions. -/
theorem declarations_fit {bound : Nat} {p : Program}
    (read : declarations bound c = .ok (p, c')) :
    ∃ order, p.InOrder order ∧ FitAll order c.rest c'.rest := by
  induction bound generalizing c p with
  | zero =>
    obtain ⟨rfl, rfl⟩ := pure_eq_ok.1 read
    exact ⟨[], .nil, .nil List.suffix_rfl⟩
  | succ bound ih =>
    simp only [declarations, bind_eq_ok, peek_eq_ok] at read
    obtain ⟨k, _, ⟨_, rfl⟩, read⟩ := read
    split at read
    case h_1 =>
      obtain ⟨rfl, rfl⟩ := pure_eq_ok.1 read
      exact ⟨[], .nil, .nil List.suffix_rfl⟩
    case h_2 =>
      simp only [bind_eq_ok, skipTrivia_eq_ok, pure_eq_ok] at read
      obtain ⟨d, c₁, first, _, _, ⟨_, rfl⟩, p', _, rest, rfl, rfl⟩ := read
      obtain ⟨order, inOrder, fit⟩ := ih rest
      exact ⟨d.node :: order, .left inOrder, .cons List.suffix_rfl (structDecl_writes first).fits
        (fit.after c₁.reads_pastTrivia.suffix)⟩
    case h_3 =>
      simp only [bind_eq_ok, skipTrivia_eq_ok, pure_eq_ok] at read
      obtain ⟨d, c₁, first, _, _, ⟨_, rfl⟩, p', _, rest, rfl, rfl⟩ := read
      obtain ⟨order, inOrder, fit⟩ := ih rest
      exact ⟨d.node :: order, .right inOrder, .cons List.suffix_rfl (fnDecl_writes first).fits
        (fit.after c₁.reads_pastTrivia.suffix)⟩
    case h_4 =>
      obtain ⟨_, _, _, failed⟩ := bind_eq_ok.1 read
      exact absurd failed fail_ne_ok

/-- The declarations of a program lie among its tokens, one after the other. -/
theorem Program.fit_of_parse {tokens : List Token} {p : Program}
    (parsed : Program.parse tokens = .ok p) :
    ∃ order, p.InOrder order ∧ FitAll order tokens [] := by
  obtain ⟨_, read⟩ := Program.parse_eq_ok.1 parsed
  obtain ⟨order, inOrder, fit⟩ := declarations_fit read
  exact ⟨order, inOrder,
    (fit.before List.nil_suffix).after (Cursor.reads_pastTrivia ⟨tokens, .origin⟩).suffix⟩

end NominalScript.Syntax
