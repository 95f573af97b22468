import NominalScript.Proofs.Parse.Reads
import NominalScript.Proofs.Syntax

/-!
# Reading expressions

An expression is read with its kinds, right nested, and free of struct literals where
a brace starts a block.  The shape rests on what follows an expression: once it is
read there is neither a period right behind it nor an operator ahead, so what an
operator has taken as its operand is never taken again as the operand of another.
-/

namespace NominalScript.Syntax

open NominalScript.Syntax.Parser

variable {c c₀ c' : Cursor} {role : BraceRole} {e e' : Expr}

/-! ## The kinds of an expression -/

theorem Expr.kindsOfAll_eq_map (es : List Expr) : Expr.kindsOfAll es = es.map Expr.kinds := by
  induction es with
  | nil => rfl
  | cons e es ih => rw [Expr.kindsOfAll, ih, List.map_cons]

/-- The kinds of a field of a struct literal. -/
def FieldInit.kinds (f : FieldInit Expr) : List Kind :=
  .ident f.ident.name :: .colon :: f.value.kinds

theorem Expr.kindsOfFields_eq_map (fields : List (FieldInit Expr)) :
    Expr.kindsOfFields fields = fields.map FieldInit.kinds := by
  induction fields with
  | nil => rfl
  | cons f fields ih => rw [Expr.kindsOfFields, ih, List.map_cons, FieldInit.kinds]

/-- An expression does not start with a closing parenthesis or brace, so a list of expressions
ends where one does. -/
theorem Expr.opens_kinds (e : Expr) : Opens e.kinds := by
  induction e using Expr.inductOn with
  | str value span => exact ⟨_, _, rfl, rfl⟩
  | int value span => exact ⟨_, _, rfl, rfl⟩
  | call fn args span _ => exact ⟨_, _, rfl, rfl⟩
  | var name span => exact ⟨_, _, rfl, rfl⟩
  | unary op operand span _ => exact ⟨_, _, rfl, rfl⟩
  | binary op left right span ihl _ =>
    rw [Expr.kinds]
    exact ihl.append _
  | paren inner span _ => exact ⟨_, _, rfl, rfl⟩
  | init type fields fieldsSpan span _ => exact ⟨_, _, rfl, rfl⟩
  | member base field span ih =>
    rw [Expr.kinds]
    exact ih.append _

/-! ## What is said of an expression -/

/-- Neither a member access nor an operator follows. -/
structure Cursor.Ended (c : Cursor) : Prop where
  noPeriod : c.kind? ≠ some .period
  noOperator : ∀ op, c.pastTrivia.kind? ≠ some (.op op)

/-- An expression is read, to which member accesses and an operator may be added
unless it is an operation. -/
structure PartRead (role : BraceRole) (c : Cursor) (e : Expr) (c' : Cursor) : Prop where
  reads : c.Reads e.kinds c'
  nested : e.RightNested
  literalFree : role = .block → e.LiteralFree
  ended : e.isOperation = true → c'.Ended

/-- An expression is read to its end. -/
structure ExprRead (role : BraceRole) (c : Cursor) (e : Expr) (c' : Cursor) : Prop where
  reads : c.Reads e.kinds c'
  nested : e.RightNested
  literalFree : role = .block → e.LiteralFree
  ended : c'.Ended

/-! ## Parts -/

section

variable {sub : BraceRole → Parser Expr} {t : Token}

/-- A field of a struct literal is read with its kinds, and its value to its end. -/
theorem fieldInit_reads {value : Parser Expr} {f : FieldInit Expr}
    (each : ∀ {c e c'}, value c = .ok (e, c') → ExprRead .literal c e c')
    (read : fieldInit value c = .ok (f, c')) : c.Reads f.kinds c' ∧ f.value.RightNested := by
  simp only [fieldInit, bind_eq_ok, here_eq_ok, expectIdent_eq_ok, skipTrivia_eq_ok, expect_eq_ok,
    spanFrom_eq_ok, pure_eq_ok] at read
  obtain ⟨_, _, ⟨_, rfl⟩, ident, c₁, ⟨t, isIdent, _, named⟩, _, _, ⟨_, rfl⟩, _, c₂,
    ⟨t', isColon, parted⟩, _, _, ⟨_, rfl⟩, e, c₃, valued, _, _, ⟨_, rfl⟩, rfl, rfl⟩ := read
  have value := each valued
  have start := (named.reads isIdent rfl).trans c₁.reads_pastTrivia
  have middle := start.trans (parted.reads isColon rfl)
  have all := (middle.trans c₂.reads_pastTrivia).trans value.reads
  exact ⟨by simpa [FieldInit.kinds] using all, value.nested⟩

/-- A call, a struct literal or a variable is read with its kinds; the literal only where a
brace does not start a block. -/
theorem named_reads {name : String} (kind : t.kind = .ident name) (takes : c₀.Takes t c)
    (each : ∀ {role c e c'}, sub role c = .ok (e, c') → ExprRead role c e c')
    (read : named sub role t name c = .ok (e, c')) : PartRead role c₀ e c' := by
  have first := takes.reads kind rfl
  simp only [named, bind_eq_ok, peek_eq_ok] at read
  obtain ⟨_, _, ⟨rfl, rfl⟩, read⟩ := read
  split at read
  case isTrue =>
    simp only [bind_eq_ok, spanFrom_eq_ok, pure_eq_ok] at read
    obtain ⟨args, c₁, inside, _, _, ⟨_, rfl⟩, rfl, rfl⟩ := read
    have all := first.trans (delimited_reads inside rfl rfl Expr.opens_kinds
      fun read => (each read).reads)
    have nested := forall_of_delimited inside fun read => (each read).nested
    refine ⟨?_, .call nested, fun _ => trivial, nofun⟩
    simpa [Expr.kinds, Expr.kindsOfAll_eq_map] using all
  case isFalse =>
    simp only [bind_eq_ok, peekPastTrivia_eq_ok] at read
    obtain ⟨_, _, ⟨_, rfl⟩, read⟩ := read
    split at read
    case isTrue brace =>
      simp only [bind_eq_ok, skipTrivia_eq_ok, here_eq_ok, spanFrom_eq_ok, pure_eq_ok] at read
      obtain ⟨_, _, ⟨_, rfl⟩, _, _, ⟨_, rfl⟩, fields, c₁, inside, _, _, ⟨_, rfl⟩, _, _, ⟨_, rfl⟩,
        rfl, rfl⟩ := read
      have opens : ∀ f : FieldInit Expr, Opens f.kinds := fun f => ⟨_, _, rfl, rfl⟩
      have all := (first.trans c.reads_pastTrivia).trans (delimited_reads inside rfl rfl opens
        fun read => (fieldInit_reads each read).1)
      have nested := forall_of_delimited inside fun read => (fieldInit_reads each read).2
      refine ⟨?_, .init nested, ?_, nofun⟩
      · simpa [Expr.kinds, Expr.kindsOfFields_eq_map] using all
      · intro isBlock
        rw [isBlock] at brace
        cases brace.1
    case isFalse =>
      simp only [bind_eq_ok, spanFrom_eq_ok, pure_eq_ok] at read
      obtain ⟨_, _, ⟨_, rfl⟩, rfl, rfl⟩ := read
      exact ⟨by simpa [Expr.kinds] using first, .var, fun _ => trivial, nofun⟩

/-- The first part of an expression is read with its kinds.  Only that of a prefix operator is
an operation, and its operand is read to its end. -/
theorem primary_reads (takes : c₀.Takes t c)
    (each : ∀ {role c e c'}, sub role c = .ok (e, c') → ExprRead role c e c')
    (read : primary sub role t c = .ok (e, c')) : PartRead role c₀ e c' := by
  cases kind : t.kind <;> simp only [primary, kind] at read
  case ident name => exact named_reads kind takes each read
  case str value =>
    simp only [bind_eq_ok, spanFrom_eq_ok, pure_eq_ok] at read
    obtain ⟨_, _, ⟨_, rfl⟩, rfl, rfl⟩ := read
    exact ⟨takes.reads kind rfl, .str, fun _ => trivial, nofun⟩
  case int value =>
    simp only [bind_eq_ok, spanFrom_eq_ok, pure_eq_ok] at read
    obtain ⟨_, _, ⟨_, rfl⟩, rfl, rfl⟩ := read
    exact ⟨takes.reads kind rfl, .int, fun _ => trivial, nofun⟩
  case op op =>
    simp only [bind_eq_ok, peek_eq_ok] at read
    obtain ⟨_, _, ⟨rfl, rfl⟩, read⟩ := read
    split at read
    case isTrue => exact absurd read fail_ne_ok
    case isFalse =>
      simp only [bind_eq_ok, spanFrom_eq_ok, pure_eq_ok] at read
      obtain ⟨operand, c₁, taken, _, _, ⟨_, rfl⟩, rfl, rfl⟩ := read
      have inside := each taken
      refine ⟨?_, .unary inside.nested, inside.literalFree, fun _ => inside.ended⟩
      exact (takes.reads kind rfl).trans inside.reads
  case leftParen =>
    simp only [bind_eq_ok, skipTrivia_eq_ok, expect_eq_ok, spanFrom_eq_ok, pure_eq_ok] at read
    obtain ⟨_, _, ⟨_, rfl⟩, inner, c₁, taken, _, _, ⟨_, rfl⟩, _, c₂, ⟨t', isClose, closed⟩, _, _,
      ⟨_, rfl⟩, rfl, rfl⟩ := read
    have inside := each taken
    have start := ((takes.reads kind rfl).trans c.reads_pastTrivia).trans inside.reads
    have all := (start.trans c₁.reads_pastTrivia).trans (closed.reads isClose rfl)
    exact ⟨by simpa [Expr.kinds] using all, .paren inside.nested, fun _ => trivial, nofun⟩
  all_goals exact absurd read fail_ne_ok

end

/-! ## Member accesses and operators -/

/-- After the members there is no further period: with a token for each round there
are rounds enough for all of them. -/
theorem members_reads {start : Location} {rounds : Nat} (part : PartRead role c₀ e c)
    (enough : c.rest.length ≤ rounds) (read : members start rounds e c = .ok (e', c')) :
    PartRead role c₀ e' c' ∧ c'.kind? ≠ some .period := by
  induction rounds generalizing e c with
  | zero =>
    obtain ⟨rfl, rfl⟩ := pure_eq_ok.1 read
    have ended : c.rest = [] := List.length_eq_zero_iff.1 (Nat.le_zero.1 enough)
    exact ⟨part, by simp [Cursor.kind?_eq_none.2 ended]⟩
  | succ rounds ih =>
    simp only [members, bind_eq_ok, peek_eq_ok] at read
    obtain ⟨_, _, ⟨rfl, rfl⟩, read⟩ := read
    split at read
    case isTrue period =>
      simp only [bind_eq_ok, expectIdent_eq_ok, spanFrom_eq_ok] at read
      obtain ⟨_, c₁, taken, field, c₂, ⟨t', isIdent, _, named⟩, _, _, ⟨_, rfl⟩, read⟩ := read
      obtain ⟨t, isPeriod, takes⟩ := takes_of_next period taken
      have noOperation : e.isOperation = false :=
        Bool.eq_false_iff.2 fun operation => (part.ended operation).noPeriod period
      have added := (takes.reads isPeriod rfl).trans (named.reads isIdent rfl)
      have shorter := added.length_lt
      refine ih ⟨?_, .member noOperation part.nested, part.literalFree, nofun⟩ (by omega) read
      simpa [Expr.kinds] using part.reads.trans added
    case isFalse noPeriod =>
      obtain ⟨rfl, rfl⟩ := pure_eq_ok.1 read
      exact ⟨part, noPeriod⟩

/-- With the operator and its right operand an expression is read to its end, for the operand
is; without an operator it has ended already. -/
theorem operation_reads {right : Parser Expr} {start : Location} (part : PartRead role c₀ e c)
    (noPeriod : c.kind? ≠ some .period)
    (each : ∀ {c e c'}, right c = .ok (e, c') → ExprRead role c e c')
    (read : operation right start e c = .ok (e', c')) : ExprRead role c₀ e' c' := by
  by_cases operator : ∃ op, c.pastTrivia.kind? = some (.op op)
  · obtain ⟨op, operator⟩ := operator
    have noOperation : e.isOperation = false :=
      Bool.eq_false_iff.2 fun operation => (part.ended operation).noOperator op operator
    obtain ⟨t, c₁, kind, takes⟩ := Cursor.exists_takes operator
    obtain ⟨_, r, operand, rfl⟩ := (operation_eq_ok kind takes).1 read
    have inside := each operand
    have start := (part.reads.trans c.reads_pastTrivia).trans (takes.reads kind rfl)
    have all := (start.trans c₁.reads_pastTrivia).trans inside.reads
    refine ⟨?_, .binary noOperation part.nested inside.nested, ?_, inside.ended⟩
    · simpa [Expr.kinds] using all
    · exact fun isBlock => ⟨part.literalFree isBlock, inside.literalFree isBlock⟩
  · have noOperator : ∀ op, c.pastTrivia.kind? ≠ some (.op op) :=
      fun op isOp => operator ⟨op, isOp⟩
    cases (operation_of_none noOperator).symm.trans read
    exact ⟨part.reads, part.nested, part.literalFree, noPeriod, noOperator⟩

/-! ## Expressions -/

/-- An expression is read with its kinds, to its end: as many members and operators as there are
belong to it. -/
theorem expressionWithin_reads {bound : Nat}
    (read : expressionWithin bound role c = .ok (e, c')) : ExprRead role c e c' := by
  induction bound generalizing role c e c' with
  | zero =>
    obtain ⟨_, _, _, failed⟩ := bind_eq_ok.1 read
    exact absurd failed fail_ne_ok
  | succ bound ih =>
    simp only [expressionWithin, bind_eq_ok, here_eq_ok, next_eq_ok] at read
    obtain ⟨start, _, ⟨_, rfl⟩, _, c₁, ⟨_, rfl, rfl⟩ | ⟨t, rfl, takes⟩, read⟩ := read
    · exact absurd read fail_ne_ok
    · simp only [bind_eq_ok, get_eq_ok] at read
      obtain ⟨first, c₂, begun, _, _, ⟨rfl, rfl⟩, whole, c₃, lengthened, read⟩ := read
      obtain ⟨part, noPeriod⟩ :=
        members_reads (primary_reads takes ih begun) (Nat.le_refl _) lengthened
      exact operation_reads part noPeriod ih read

theorem expression_reads (read : expression role c = .ok (e, c')) : ExprRead role c e c' := by
  simp only [expression, bind_eq_ok, get_eq_ok] at read
  obtain ⟨_, _, ⟨_, rfl⟩, read⟩ := read
  exact expressionWithin_reads read

end NominalScript.Syntax
