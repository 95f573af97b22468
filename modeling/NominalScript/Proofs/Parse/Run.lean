import NominalScript.Proofs.Parse.Layout

/-!
# Running a parser

What a sequence of parsers does when its first step is known: the steps that cannot
fail are run, and a step that succeeds is left behind.
-/

namespace NominalScript.Syntax

open NominalScript.Syntax.Parser

variable {α β : Type} {c c' : Cursor}

namespace Parser

theorem bind_of_ok {p : Parser α} {a : α} (read : p c = .ok (a, c')) (f : α → Parser β) :
    (p >>= f) c = f a c' := by
  change (p c >>= fun s => f s.1 s.2) = _
  rw [read]
  rfl

theorem bind_of_error {p : Parser α} {e : ParseError} (failed : p c = .error e)
    (f : α → Parser β) : (p >>= f) c = .error e := by
  change (p c >>= fun s => f s.1 s.2) = _
  rw [failed]
  rfl

theorem bind_ne_ok {p : Parser α} {e : ParseError} (failed : p c = .error e) (f : α → Parser β)
    (r : β × Cursor) : (p >>= f) c ≠ .ok r := by
  intro read
  obtain ⟨a, c₁, first, _⟩ := bind_eq_ok.1 read
  cases failed.symm.trans first

theorem pure_run (a : α) (c : Cursor) : (pure a : Parser α) c = .ok (a, c) := rfl

theorem fail_run (fault : ParseFault) (l : Location) (c : Cursor) :
    (fail fault l : Parser α) c = .error ⟨fault, l⟩ := rfl

theorem get_bind (f : Cursor → Parser β) (c : Cursor) : (get >>= f) c = f c c := rfl

theorem peek_bind (f : Option Kind → Parser β) (c : Cursor) : (peek >>= f) c = f c.kind? c := rfl

theorem peekPastTrivia_bind (f : Option Kind → Parser β) (c : Cursor) :
    (peekPastTrivia >>= f) c = f c.pastTrivia.kind? c := by
  rw [Cursor.kind?_pastTrivia]
  rfl

theorem here_bind (f : Location → Parser β) (c : Cursor) : (here >>= f) c = f c.here c := rfl

theorem spanFrom_bind (start : Location) (f : Span → Parser β) (c : Cursor) :
    (spanFrom start >>= f) c = f (start.until c.lastEnd) c := rfl

theorem skipTrivia_bind (f : Skipped → Parser β) (c : Cursor) :
    (skipTrivia >>= f) c = f c.skipped c.pastTrivia := rfl

theorem skipToLineEnd_bind (f : Unit → Parser β) (c : Cursor) :
    (skipToLineEnd >>= f) c = f () c.toLineEnd := rfl

theorem next_bind {t : Token} (takes : c.Takes t c') (f : Option Token → Parser β) :
    (next >>= f) c = f (some t) c' :=
  bind_of_ok (next_eq_ok.2 (.inr ⟨t, rfl, takes⟩)) f

theorem ite_run (p : Prop) [Decidable p] (yes no : Parser α) (c : Cursor) :
    (if p then yes else no) c = if p then yes c else no c := by
  split <;> rfl

theorem items_of_stop {item : Parser α} {close : Kind} {rounds : Nat}
    (stop : c.kind? = none ∨ c.kind? = some close) :
    items close item rounds c = .ok ([], c) := by
  cases rounds with
  | zero => rfl
  | succ rounds => exact items_succ_eq_ok.2 (.inl ⟨stop, rfl, rfl⟩)

end Parser

/-! ## Expressions -/

theorem members_of_none {start : Location} {e : Expr} {rounds : Nat}
    (noPeriod : c.kind? ≠ some .period) : members start rounds e c = .ok (e, c) := by
  cases rounds with
  | zero => rfl
  | succ rounds => simp only [members, peek_bind, if_neg noPeriod, pure_run]

/-- An operator is left behind with the trivia on both sides of it. -/
theorem operation_of_some {right : Parser Expr} {start : Location} {e : Expr} {op : String}
    {t : Token} (kind : t.kind = .op op) (takes : c.pastTrivia.Takes t c') :
    operation right start e c =
      if c.skipped.blank ≠ c'.skipped.blank then .error ⟨.lopsidedOperator, t.start⟩
      else (do
        let r ← right
        return Expr.binary ⟨op, t.span⟩ e r (← spanFrom start)) c'.pastTrivia := by
  rcases t with ⟨_, l, size⟩
  cases kind
  simp only [operation, get_bind, skipTrivia_bind, takes.rest, next_bind takes, ite_run, fail_run]

/-! ## Statements and declarations -/

/-- What stands between a statement and the next. -/
def separator (s : Stmt) : Parser Unit :=
  if s.endsWithBlock then discard skipTrivia else expectNewline

theorem pastTrivia_of_separator {s : Stmt} {u : Unit} (read : separator s c = .ok (u, c')) :
    c.pastTrivia = c' := by
  unfold separator at read
  split at read
  · exact (pure_eq_ok.1 read).2
  · exact (expectNewline_eq_ok.1 read).2

theorem statements_of_stop {stmt : Parser Stmt} {rounds : Nat}
    (stop : c.kind? = none ∨ c.kind? = some .rightBrace) :
    statements stmt rounds c = .ok ([], c) := by
  cases rounds with
  | zero => rfl
  | succ rounds => simp only [statements, peek_bind, if_pos stop, pure_run]

theorem statements_of_some {stmt : Parser Stmt} {rounds : Nat}
    (more : ¬ (c.kind? = none ∨ c.kind? = some .rightBrace)) :
    statements stmt (rounds + 1) c = (do
      let s ← stmt
      separator s
      return s :: (← statements stmt rounds)) c := by
  simp only [statements, peek_bind, if_neg more]
  refine congrFun (congrArg (stmt >>= ·) (funext fun s => ?_)) c
  unfold separator
  split <;> rfl

/-- With no word that starts a statement ahead, the statement is an expression. -/
theorem statementWith_of_expr {cond : Parser Conditional} (noIf : c.kind? ≠ some (.keyword .kwIf))
    (noReturn : c.kind? ≠ some (.keyword .kwReturn)) (noLet : c.kind? ≠ some (.keyword .kwLet)) :
    statementWith cond c = (do return Stmt.expr (← expression .literal)) c := by
  simp only [statementWith, here_bind, peek_bind]

theorem declarations_of_end {bound : Nat} (ended : c.kind? = none) :
    declarations bound c = .ok (⟨[], []⟩, c) := by
  cases bound with
  | zero => rfl
  | succ bound => simp only [declarations, peek_bind, ended, pure_run]

end NominalScript.Syntax
