import NominalScript.Proofs.Parse
import NominalScript.Proofs.Print.Stmt

/-!
# Printed kinds are canonical

What is read from the tokens of a text is printed as kinds that can be rendered
(`Neat`).  All names, numbers and operators of a tree are those of tokens, so they can
be written; and two of them stand side by side in print only where a token of the one
stood right before a token of the other, which is so for an operator and what its
operand starts with.

The lines of a block are read one by one, each to its end.  What is behind an
expression is no operator, so no line carries on the one before it.
-/

namespace NominalScript

/-! ## Lists that can be rendered -/

/-- Punctuation and blanks, which stay apart from whatever is beside them. -/
def Kind.isMark : Kind → Bool
  | .leftParen => true
  | .rightParen => true
  | .leftBrace => true
  | .rightBrace => true
  | .colon => true
  | .comma => true
  | .period => true
  | .blank _ => true
  | _ => false

/-- Comments, which nothing but a newline may follow. -/
def Kind.isComment : Kind → Bool
  | .comment _ => true
  | _ => false

theorem Kind.mayPrecede_of_isMark {k : Kind} (mark : k.isMark = true) (next : Kind) :
    k.mayPrecede next = true := by
  cases k <;> first | rfl | cases mark

theorem Kind.mayPrecede_mark {k mark : Kind} (noComment : k.isComment = false)
    (isMark : mark.isMark = true) : k.mayPrecede mark = true := by
  have plain : mark.isWordLike = false ∧ mark.isNumber = false ∧ mark.isOperatorLike = false := by
    cases mark <;> first | exact ⟨rfl, rfl, rfl⟩ | cases isMark
  obtain ⟨noWord, noNumber, noOperator⟩ := plain
  cases k with
  | comment text => cases noComment
  | _ => simp [Kind.mayPrecede, noWord, noNumber, noOperator]

/-- Canonical kinds without comments. -/
structure Neat (ks : List Kind) : Prop where
  canonical : Canonical ks
  noComment : ∀ k ∈ ks, k.isComment = false

namespace Neat

variable {k : Kind} {ks ks' : List Kind}

theorem nil : Neat [] := ⟨⟨nofun, .nil⟩, nofun⟩

theorem cons (canonical : k.isCanonical = true) (noComment : k.isComment = false)
    (apart : ∀ next ∈ ks.head?, k.mayPrecede next = true) (neat : Neat ks) : Neat (k :: ks) where
  canonical := ⟨List.forall_mem_cons.2 ⟨canonical, neat.canonical.1⟩,
    List.isChain_cons.2 ⟨apart, neat.canonical.2⟩⟩
  noComment := List.forall_mem_cons.2 ⟨noComment, neat.noComment⟩

theorem one (canonical : k.isCanonical = true) (noComment : k.isComment = false) : Neat [k] :=
  .cons canonical noComment nofun .nil

theorem mark (mark : k.isMark = true) (neat : Neat ks) : Neat (k :: ks) := by
  refine .cons ?_ ?_ (fun next _ => Kind.mayPrecede_of_isMark mark next) neat
  · cases k <;> first | rfl | cases mark
  · cases k <;> first | rfl | cases mark

/-- Joined at a mark, two lists stay apart. -/
theorem append (first : Neat ks) (isMark : k.isMark = true) (rest : Neat ks') :
    Neat (ks ++ k :: ks') where
  canonical := by
    have second := rest.mark isMark
    refine ⟨List.forall_mem_append.2 ⟨first.canonical.1, second.canonical.1⟩, ?_⟩
    refine List.isChain_append.2 ⟨first.canonical.2, second.canonical.2, ?_⟩
    intro last isLast next isNext
    cases isNext
    exact Kind.mayPrecede_mark (first.noComment last (List.mem_of_mem_getLast? isLast)) isMark
  noComment := List.forall_mem_append.2 ⟨first.noComment, (rest.mark isMark).noComment⟩

theorem block (inside : Neat ks) (rest : Neat ks') :
    Neat (.leftBrace :: .blank .newline :: (ks ++ .rightBrace :: ks')) :=
  ((inside.append rfl rest).mark rfl).mark rfl

end Neat

namespace Syntax

open NominalScript.Syntax.Parser

variable {α : Type} {c c₀ c₁ c' : Cursor} {role : BraceRole} {e e' : Expr}

theorem neat_spaced {kss : List (List Kind)} (each : ∀ ks ∈ kss, Neat ks) : Neat (spaced kss) := by
  induction kss with
  | nil => exact .nil
  | cons ks kss ih =>
    obtain ⟨first, later⟩ := List.forall_mem_cons.1 each
    cases kss with
    | nil => rwa [spaced_singleton]
    | cons ks' kss =>
      rw [spaced_cons_cons]
      exact first.append rfl ((ih later).mark rfl)

/-! ## Cursors in a text -/

namespace Cursor

/-- The kinds ahead are canonical, as those of a text are. -/
def Scanned (c : Cursor) : Prop := Canonical (c.rest.map Token.kind)

theorem Scanned.of_suffix (scanned : c.Scanned) (suffix : c'.rest <:+ c.rest) : c'.Scanned :=
  ⟨fun k mem => scanned.1 k ((suffix.map Token.kind).mem mem),
    scanned.2.suffix (suffix.map Token.kind)⟩

theorem Scanned.pastTrivia (scanned : c.Scanned) : c.pastTrivia.Scanned :=
  scanned.of_suffix c.reads_pastTrivia.suffix

theorem Scanned.takes {t : Token} {k : Kind} (scanned : c.Scanned) (takes : c.Takes t c')
    (kind : t.kind = k) : k.isCanonical = true ∧ c'.Scanned := by
  refine ⟨scanned.1 k ?_, scanned.of_suffix takes.suffix⟩
  rw [takes.rest, ← kind]
  exact List.mem_cons_self

/-- The next token stays apart from the one that is taken. -/
theorem Scanned.apart {t : Token} (scanned : c.Scanned) (takes : c.Takes t c') {next : Kind}
    (ahead : c'.kind? = some next) : t.kind.mayPrecede next = true := by
  have chain := scanned.2
  rw [takes.rest, List.map_cons] at chain
  refine (List.isChain_cons.1 chain).1 next ?_
  rw [List.head?_map]
  exact ahead

/-- From one cursor to another something is read that is printed as the kinds, the first
of which is that of the next token. -/
structure Prints (c : Cursor) (ks : List Kind) (c' : Cursor) : Prop where
  neat : Neat ks
  first : ∃ k ks', ks = k :: ks' ∧ c.kind? = some k
  scanned : c'.Scanned

theorem Prints.append {ks ks' : List Kind} {k : Kind} (prints : c.Prints ks c₁)
    (isMark : k.isMark = true) (neat : Neat ks') (scanned : c'.Scanned) :
    c.Prints (ks ++ k :: ks') c' := by
  refine ⟨prints.neat.append isMark neat, ?_, scanned⟩
  obtain ⟨k₀, ks₀, rfl, next⟩ := prints.first
  exact ⟨k₀, _, rfl, next⟩

/-- A token is printed as it is. -/
theorem Scanned.prints {t : Token} {k : Kind} (scanned : c.Scanned) (takes : c.Takes t c')
    (kind : t.kind = k) (noComment : k.isComment = false) : c.Prints [k] c' := by
  obtain ⟨canonical, later⟩ := scanned.takes takes kind
  exact ⟨.one canonical noComment, ⟨k, [], rfl, kind ▸ takes.kind?⟩, later⟩

end Cursor

/-! ## Lists -/

section

variable {item : Parser α} {printed : α → List Kind} {opening close : Kind} {as : List α}

/-- Items read from the tokens of a text are printed neatly if each of them is. -/
theorem items_neat {rounds : Nat} (scanned : c.Scanned)
    (read : items close item rounds c = .ok (as, c'))
    (each : ∀ {c a c'}, c.Scanned → item c = .ok (a, c') → Neat (printed a) ∧ c'.Scanned) :
    (∀ a ∈ as, Neat (printed a)) ∧ c'.Scanned := by
  induction rounds generalizing c as with
  | zero =>
    obtain ⟨rfl, rfl⟩ := pure_eq_ok.1 read
    exact ⟨nofun, scanned⟩
  | succ rounds ih =>
    obtain ⟨_, rfl, rfl⟩ | ⟨_, a, c₁, first, last⟩ := items_succ_eq_ok.1 read
    · exact ⟨nofun, scanned⟩
    obtain ⟨neat, scanned₁⟩ := each scanned first
    obtain ⟨_, rfl, rfl⟩ | ⟨t, c₂, rest, isComma, takes, later, rfl⟩ := last
    · exact ⟨List.forall_mem_cons.2 ⟨neat, nofun⟩, scanned₁.pastTrivia⟩
    · obtain ⟨_, scanned₂⟩ := scanned₁.pastTrivia.takes takes isComma
      obtain ⟨neatRest, scanned'⟩ := ih scanned₂.pastTrivia later
      exact ⟨List.forall_mem_cons.2 ⟨neat, neatRest⟩, scanned'⟩

theorem delimited_neat (scanned : c.Scanned) (read : delimited opening close item c = .ok (as, c'))
    (each : ∀ {c a c'}, c.Scanned → item c = .ok (a, c') → Neat (printed a) ∧ c'.Scanned) :
    Neat (spaced (as.map printed)) ∧ c'.Scanned := by
  obtain ⟨t, c₁, c₂, t', isOpening, opened, inside, isClose, closed⟩ := delimited_eq_ok.1 read
  obtain ⟨_, scanned₁⟩ := scanned.takes opened isOpening
  obtain ⟨neat, scanned₂⟩ := items_neat scanned₁.pastTrivia inside each
  exact ⟨neat_spaced (List.forall_mem_map.2 neat), (scanned₂.takes closed isClose).2⟩

end

/-! ## Expressions -/

section

variable {sub : BraceRole → Parser Expr} {t : Token}

theorem fieldInit_prints {value : Parser Expr} {f : FieldInit Expr}
    (each : ∀ {c e c'}, c.Scanned → value c = .ok (e, c') → c.Prints e.printed c')
    (scanned : c.Scanned) (read : fieldInit value c = .ok (f, c')) : c.Prints f.printed c' := by
  simp only [fieldInit, bind_eq_ok, here_eq_ok, expectIdent_eq_ok, skipTrivia_eq_ok, expect_eq_ok,
    spanFrom_eq_ok, pure_eq_ok] at read
  obtain ⟨_, _, ⟨_, rfl⟩, ident, c₁, ⟨t, isIdent, _, named⟩, _, _, ⟨_, rfl⟩, _, c₂,
    ⟨t', isColon, parted⟩, _, _, ⟨_, rfl⟩, e, c₃, valued, _, _, ⟨_, rfl⟩, rfl, rfl⟩ := read
  have name := scanned.prints named isIdent rfl
  have scanned₂ := (name.scanned.pastTrivia.takes parted isColon).2
  have inside := each scanned₂.pastTrivia valued
  exact name.append rfl (inside.neat.mark rfl) inside.scanned

/-- A name is that of a token; what is printed around it is punctuation, which stays apart from
it. -/
theorem named_prints {name : String} (kind : t.kind = .ident name) (scanned : c₀.Scanned)
    (takes : c₀.Takes t c)
    (each : ∀ {role c e c'}, c.Scanned → sub role c = .ok (e, c') → c.Prints e.printed c')
    (read : named sub role t name c = .ok (e, c')) : c₀.Prints e.printed c' := by
  have first := scanned.prints takes kind rfl
  simp only [named, bind_eq_ok, peek_eq_ok] at read
  obtain ⟨_, _, ⟨rfl, rfl⟩, read⟩ := read
  split at read
  case isTrue =>
    simp only [bind_eq_ok, spanFrom_eq_ok, pure_eq_ok] at read
    obtain ⟨args, c₁, inside, _, _, ⟨_, rfl⟩, rfl, rfl⟩ := read
    obtain ⟨neat, scanned'⟩ := delimited_neat first.scanned inside fun scanned read =>
      ⟨(each scanned read).neat, (each scanned read).scanned⟩
    rw [Expr.printed, Expr.printedAll_eq_map]
    exact first.append rfl (neat.append rfl .nil) scanned'
  case isFalse =>
    simp only [bind_eq_ok, peekPastTrivia_eq_ok] at read
    obtain ⟨_, _, ⟨_, rfl⟩, read⟩ := read
    split at read
    case isTrue =>
      simp only [bind_eq_ok, skipTrivia_eq_ok, here_eq_ok, spanFrom_eq_ok, pure_eq_ok] at read
      obtain ⟨_, _, ⟨_, rfl⟩, _, _, ⟨_, rfl⟩, fields, c₁, inside, _, _, ⟨_, rfl⟩, _, _, ⟨_, rfl⟩,
        rfl, rfl⟩ := read
      obtain ⟨neat, scanned'⟩ := delimited_neat first.scanned.pastTrivia inside fun scanned read =>
        ⟨(fieldInit_prints each scanned read).neat, (fieldInit_prints each scanned read).scanned⟩
      rw [Expr.printed, Expr.printedFields_eq_map]
      exact first.append rfl ((neat.append rfl .nil).mark rfl) scanned'
    case isFalse =>
      simp only [bind_eq_ok, spanFrom_eq_ok, pure_eq_ok] at read
      obtain ⟨_, _, ⟨_, rfl⟩, rfl, rfl⟩ := read
      exact first

/-- The first part of an expression is printed neatly.  A prefix operator is printed right in
front of its operand, which starts with the token that stood behind the operator in the text. -/
theorem primary_prints (scanned : c₀.Scanned) (takes : c₀.Takes t c)
    (each : ∀ {role c e c'}, c.Scanned → sub role c = .ok (e, c') → c.Prints e.printed c')
    (read : primary sub role t c = .ok (e, c')) : c₀.Prints e.printed c' := by
  cases kind : t.kind <;> simp only [primary, kind] at read
  case ident name => exact named_prints kind scanned takes each read
  case str value =>
    simp only [bind_eq_ok, spanFrom_eq_ok, pure_eq_ok] at read
    obtain ⟨_, _, ⟨_, rfl⟩, rfl, rfl⟩ := read
    exact scanned.prints takes kind rfl
  case int value =>
    simp only [bind_eq_ok, spanFrom_eq_ok, pure_eq_ok] at read
    obtain ⟨_, _, ⟨_, rfl⟩, rfl, rfl⟩ := read
    exact scanned.prints takes kind rfl
  case op op =>
    simp only [bind_eq_ok, peek_eq_ok] at read
    obtain ⟨_, _, ⟨rfl, rfl⟩, read⟩ := read
    split at read
    case isTrue => exact absurd read fail_ne_ok
    case isFalse =>
      simp only [bind_eq_ok, spanFrom_eq_ok, pure_eq_ok] at read
      obtain ⟨operand, c₁, taken, _, _, ⟨_, rfl⟩, rfl, rfl⟩ := read
      obtain ⟨canonical, scanned₁⟩ := scanned.takes takes kind
      have inside := each scanned₁ taken
      refine ⟨.cons canonical rfl ?_ inside.neat, ⟨_, _, rfl, kind ▸ takes.kind?⟩, inside.scanned⟩
      -- The operand starts with the token behind the operator.
      intro next isNext
      obtain ⟨k, ks, printed, ahead⟩ := inside.first
      rw [printed] at isNext
      cases isNext
      exact kind ▸ scanned.apart takes ahead
  case leftParen =>
    simp only [bind_eq_ok, skipTrivia_eq_ok, expect_eq_ok, spanFrom_eq_ok, pure_eq_ok] at read
    obtain ⟨_, _, ⟨_, rfl⟩, inner, c₁, taken, _, _, ⟨_, rfl⟩, _, c₂, ⟨t', isClose, closed⟩, _, _,
      ⟨_, rfl⟩, rfl, rfl⟩ := read
    have scanned₁ := (scanned.takes takes kind).2
    have inside := each scanned₁.pastTrivia taken
    refine ⟨(inside.neat.append rfl .nil).mark rfl, ⟨_, _, rfl, kind ▸ takes.kind?⟩, ?_⟩
    exact (inside.scanned.pastTrivia.takes closed isClose).2
  all_goals exact absurd read fail_ne_ok

end

/-- Member accesses are printed with a period between names, which stays apart from both. -/
theorem members_prints {start : Location} {rounds : Nat} (part : c₀.Prints e.printed c)
    (read : members start rounds e c = .ok (e', c')) : c₀.Prints e'.printed c' := by
  induction rounds generalizing e c with
  | zero =>
    obtain ⟨rfl, rfl⟩ := pure_eq_ok.1 read
    exact part
  | succ rounds ih =>
    simp only [members, bind_eq_ok, peek_eq_ok] at read
    obtain ⟨_, _, ⟨rfl, rfl⟩, read⟩ := read
    split at read
    case isTrue period =>
      simp only [bind_eq_ok, expectIdent_eq_ok, spanFrom_eq_ok] at read
      obtain ⟨_, c₁, taken, field, c₂, ⟨t', isIdent, _, named⟩, _, _, ⟨_, rfl⟩, read⟩ := read
      obtain ⟨t, isPeriod, takes⟩ := takes_of_next period taken
      have name := (part.scanned.takes takes isPeriod).2.prints named isIdent rfl
      refine ih ?_ read
      rw [Expr.printed]
      exact part.append rfl name.neat name.scanned
    case isFalse =>
      obtain ⟨rfl, rfl⟩ := pure_eq_ok.1 read
      exact part

/-- An operator is printed between spaces, apart from both operands. -/
theorem operation_prints {right : Parser Expr} {start : Location} (part : c₀.Prints e.printed c)
    (each : ∀ {c e c'}, c.Scanned → right c = .ok (e, c') → c.Prints e.printed c')
    (read : operation right start e c = .ok (e', c')) : c₀.Prints e'.printed c' := by
  by_cases operator : ∃ op, c.pastTrivia.kind? = some (.op op)
  · obtain ⟨op, operator⟩ := operator
    obtain ⟨t, c₁, kind, takes⟩ := Cursor.exists_takes operator
    obtain ⟨_, r, operand, rfl⟩ := (operation_eq_ok kind takes).1 read
    have between := part.scanned.pastTrivia.prints takes kind rfl
    have inside := each between.scanned.pastTrivia operand
    rw [Expr.printed]
    exact part.append rfl (between.neat.append rfl inside.neat) inside.scanned
  · have noOperator : ∀ op, c.pastTrivia.kind? ≠ some (.op op) :=
      fun op isOp => operator ⟨op, isOp⟩
    cases (operation_of_none noOperator).symm.trans read
    exact part

/-- An expression is printed neatly, starting with the token that it was read from first. -/
theorem expressionWithin_prints {bound : Nat} (scanned : c.Scanned)
    (read : expressionWithin bound role c = .ok (e, c')) : c.Prints e.printed c' := by
  induction bound generalizing role c e c' with
  | zero =>
    obtain ⟨_, _, _, failed⟩ := bind_eq_ok.1 read
    exact absurd failed fail_ne_ok
  | succ bound ih =>
    simp only [expressionWithin, bind_eq_ok, here_eq_ok, next_eq_ok] at read
    obtain ⟨start, _, ⟨_, rfl⟩, _, c₁, ⟨_, rfl, rfl⟩ | ⟨t, rfl, takes⟩, read⟩ := read
    · exact absurd read fail_ne_ok
    · simp only [bind_eq_ok, get_eq_ok] at read
      obtain ⟨first, c₂, begun, _, _, ⟨rfl, rfl⟩, whole, c₃, lengthened, read⟩ := read
      have part := members_prints (primary_prints scanned takes ih begun) lengthened
      exact operation_prints part ih read

theorem expression_prints (scanned : c.Scanned) (read : expression role c = .ok (e, c')) :
    c.Prints e.printed c' := by
  simp only [expression, bind_eq_ok, get_eq_ok] at read
  obtain ⟨_, _, ⟨_, rfl⟩, read⟩ := read
  exact expressionWithin_prints scanned read

/-! ## Statements -/

/-- A statement is read that is printed neatly, with its lines apart from each other and
no operator behind an expression at its end. -/
structure StmtPrints (c : Cursor) (s : Stmt) (c' : Cursor) : Prop where
  prints : c.Prints s.printed c'
  parted : s.Parted
  ended : s.endsWithExpr = true → ∀ op, c'.pastTrivia.kind? ≠ some (.op op)

/-- Statements are read that are printed neatly, with their lines apart from each other;
if there are any, the first starts with the next token. -/
structure LinesPrint (c : Cursor) (ss : List Stmt) (c' : Cursor) : Prop where
  neat : Neat (Stmt.printedAll ss)
  parted : Stmt.AllParted ss
  first : ∀ k ∈ (Stmt.printedAll ss).head?, c.kind? = some k
  scanned : c'.Scanned

section

variable {stmt : Parser Stmt} {cond : Parser Conditional}

theorem linesPrint_nil (scanned : c.Scanned) : LinesPrint c [] c := ⟨.nil, trivial, nofun, scanned⟩

/-- A line is put in front of others when it ended in front of them with no operator left. -/
theorem LinesPrint.cons {s : Stmt} {ss : List Stmt} (first : StmtPrints c s c₁)
    (later : LinesPrint c₁.pastTrivia ss c') : LinesPrint c (s :: ss) c' where
  neat := first.prints.neat.append rfl later.neat
  parted := by
    refine ⟨first.parted, ?_, later.parted⟩
    intro ends op operator
    exact first.ended ends op (later.first _ operator)
  first := by
    obtain ⟨k, ks, printed, next⟩ := first.prints.first
    rw [Stmt.printedAll, printed]
    intro k' isFirst
    cases isFirst
    exact next
  scanned := later.scanned

/-- Statements are printed neatly line by line.  The token behind a separator is what the next
line starts with, so a line starts with an operator only where a statement of the text did. -/
theorem statements_print {rounds : Nat} {ss : List Stmt} (scanned : c.Scanned)
    (read : statements stmt rounds c = .ok (ss, c'))
    (each : ∀ {c s c'}, c.Scanned → stmt c = .ok (s, c') → StmtPrints c s c') :
    LinesPrint c ss c' := by
  induction rounds generalizing c ss with
  | zero =>
    obtain ⟨rfl, rfl⟩ := pure_eq_ok.1 read
    exact linesPrint_nil scanned
  | succ rounds ih =>
    by_cases stop : c.kind? = none ∨ c.kind? = some .rightBrace
    · cases (statements_of_stop stop).symm.trans read
      exact linesPrint_nil scanned
    · rw [statements_of_some stop] at read
      simp only [bind_eq_ok, pure_eq_ok] at read
      obtain ⟨s, c₁, first, _, _, parted, rest, _, later, rfl, rfl⟩ := read
      have start := each scanned first
      cases pastTrivia_of_separator parted
      exact .cons start (ih start.prints.scanned.pastTrivia later)

theorem block_print {ss : List Stmt} (scanned : c.Scanned) (read : block stmt c = .ok (ss, c'))
    (each : ∀ {c s c'}, c.Scanned → stmt c = .ok (s, c') → StmtPrints c s c') :
    Neat (Stmt.printedAll ss) ∧ Stmt.AllParted ss ∧ c'.Scanned := by
  simp only [block, bind_eq_ok, expect_eq_ok, skipTrivia_eq_ok, get_eq_ok, pure_eq_ok] at read
  obtain ⟨_, c₁, ⟨t, isOpening, opened⟩, _, _, ⟨_, rfl⟩, _, _, ⟨_, rfl⟩, ss', c₂, inside, _, c₃,
    ⟨t', isClose, closed⟩, rfl, rfl⟩ := read
  have lines := statements_print (scanned.takes opened isOpening).2.pastTrivia inside each
  exact ⟨lines.neat, lines.parted, (lines.scanned.takes closed isClose).2⟩

/-- A return is printed with its value, behind which no operator was left. -/
theorem returnValue_prints {value : Option Expr} {span : Span} (scanned : c.Scanned)
    (read : returnValue c = .ok (value, c')) : StmtPrints c (.ret value span) c' := by
  simp only [returnValue, bind_eq_ok, expect_eq_ok, skipToLineEnd_eq_ok, peek_eq_ok] at read
  obtain ⟨_, c₁, ⟨t, isReturn, takes⟩, _, _, rfl, _, _, ⟨rfl, rfl⟩, read⟩ := read
  have word := scanned.prints takes isReturn rfl
  have scanned₁ := word.scanned.of_suffix c₁.reads_toLineEnd.suffix
  split at read
  case isTrue =>
    obtain ⟨rfl, rfl⟩ := pure_eq_ok.1 read
    refine ⟨?_, trivial, fun ends => by cases ends⟩
    rw [Stmt.printed]
    exact ⟨word.neat, word.first, scanned₁⟩
  case isFalse =>
    simp only [bind_eq_ok, pure_eq_ok] at read
    obtain ⟨e, c₂, read, rfl, rfl⟩ := read
    have inside := expression_prints scanned₁ read
    refine ⟨?_, trivial, fun _ => (expression_reads read).ended.noOperator⟩
    rw [Stmt.printed]
    exact word.append rfl inside.neat inside.scanned

/-- A colon parts the name from the type behind it. -/
theorem annotation_neat {type : Option Ident} (scanned : c.Scanned)
    (read : annotation c = .ok (type, c')) :
    (∀ name : String, Neat [.ident name] → Neat (.ident name :: annotationPrinted type)) ∧
      c'.Scanned := by
  simp only [bind_eq_ok, peek_eq_ok, annotation] at read
  obtain ⟨_, _, ⟨rfl, rfl⟩, read⟩ := read
  split at read
  case isTrue colon =>
    simp only [bind_eq_ok, skipTrivia_eq_ok, expectIdent_eq_ok, pure_eq_ok] at read
    obtain ⟨_, c₁, taken, _, _, ⟨_, rfl⟩, type, c₂, ⟨t, isIdent, _, named⟩, _, _, ⟨_, rfl⟩, rfl,
      rfl⟩ := read
    obtain ⟨t', isColon, takes⟩ := takes_of_next colon taken
    have name := (scanned.takes takes isColon).2.pastTrivia.prints named isIdent rfl
    exact ⟨fun _ neat => neat.append rfl (name.neat.mark rfl), name.scanned.pastTrivia⟩
  case isFalse =>
    obtain ⟨rfl, rfl⟩ := pure_eq_ok.1 read
    exact ⟨fun _ neat => neat, scanned⟩

/-- A `let` is printed neatly, and behind its value no operator was left. -/
theorem binding_prints {start : Location} {s : Stmt} (scanned : c.Scanned)
    (read : binding start c = .ok (s, c')) : StmtPrints c s c' := by
  simp only [binding, bind_eq_ok, expect_eq_ok, expectBlank_eq_ok, expectIdent_eq_ok,
    skipTrivia_eq_ok, spanFrom_eq_ok, pure_eq_ok] at read
  obtain ⟨_, c₁, ⟨t, isLet, takes⟩, _, _, ⟨_, rfl⟩, ident, c₂, ⟨t', isIdent, _, named⟩, _, _,
    ⟨_, rfl⟩, type, c₃, typed, _, c₄, ⟨t'', isEquals, parted⟩, _, _, ⟨_, rfl⟩, value, c₅, valued,
    _, _, ⟨_, rfl⟩, rfl, rfl⟩ := read
  have word := scanned.prints takes isLet rfl
  have name := word.scanned.pastTrivia.prints named isIdent rfl
  obtain ⟨typedName, scanned₃⟩ := annotation_neat name.scanned.pastTrivia typed
  have equals := scanned₃.prints parted isEquals rfl
  have inside := expression_prints equals.scanned.pastTrivia valued
  refine ⟨?_, trivial, fun _ => (expression_reads valued).ended.noOperator⟩
  rw [Stmt.printed]
  exact word.append rfl ((typedName ident.name name.neat).append rfl
    (equals.neat.append rfl inside.neat)) inside.scanned

/-- A conditional is read that is printed neatly, with its lines apart from each other. -/
structure CondPrints (c : Cursor) (d : Conditional) (c' : Cursor) : Prop where
  prints : c.Prints d.printed c'
  parted : d.Parted

/-- A statement is printed neatly if conditionals are; one that ends with an expression was read
until no operator followed. -/
theorem statementWith_prints {s : Stmt} (scanned : c.Scanned)
    (read : statementWith cond c = .ok (s, c'))
    (each : ∀ {c d c'}, c.Scanned → cond c = .ok (d, c') → CondPrints c d c') :
    StmtPrints c s c' := by
  simp only [statementWith, bind_eq_ok, here_eq_ok, peek_eq_ok] at read
  obtain ⟨start, _, ⟨_, rfl⟩, k, _, ⟨_, rfl⟩, read⟩ := read
  split at read
  case h_1 =>
    simp only [bind_eq_ok, pure_eq_ok] at read
    obtain ⟨d, _, read, rfl, rfl⟩ := read
    have inside := each scanned read
    refine ⟨?_, inside.parted, fun ends => by cases ends⟩
    rw [Stmt.printed]
    exact inside.prints
  case h_2 =>
    simp only [bind_eq_ok, spanFrom_eq_ok, pure_eq_ok] at read
    obtain ⟨value, _, read, _, _, ⟨_, rfl⟩, rfl, rfl⟩ := read
    exact returnValue_prints scanned read
  case h_3 => exact binding_prints scanned read
  case h_4 =>
    simp only [bind_eq_ok, pure_eq_ok] at read
    obtain ⟨e, _, read, rfl, rfl⟩ := read
    refine ⟨?_, trivial, fun _ => (expression_reads read).ended.noOperator⟩
    rw [Stmt.printed]
    exact expression_prints scanned read

/-- What follows a block is printed behind a space, with its own lines apart. -/
theorem otherwise_prints {o : Otherwise} (scanned : c.Scanned)
    (read : otherwise cond c = .ok (o, c'))
    (each : ∀ {c d c'}, c.Scanned → cond c = .ok (d, c') → CondPrints c d c') :
    Neat o.printed ∧ o.Parted ∧ c'.Scanned := by
  simp only [otherwise, bind_eq_ok, peekPastTrivia_eq_ok] at read
  obtain ⟨_, _, ⟨rfl, rfl⟩, read⟩ := read
  split at read
  case isTrue next =>
    simp only [bind_eq_ok, skipTrivia_eq_ok, peek_eq_ok] at read
    obtain ⟨_, _, ⟨_, rfl⟩, _, c₁, taken, _, _, ⟨_, rfl⟩, k, _, ⟨_, rfl⟩, read⟩ := read
    obtain ⟨t, isElse, takes⟩ := takes_of_next next taken
    have word := scanned.pastTrivia.prints takes isElse rfl
    split at read
    case h_1 =>
      simp only [bind_eq_ok, pure_eq_ok] at read
      obtain ⟨d, _, read, rfl, rfl⟩ := read
      have inside := each word.scanned.pastTrivia read
      rw [Otherwise.printed]
      exact ⟨(word.neat.append rfl inside.prints.neat).mark rfl, inside.parted,
        inside.prints.scanned⟩
    case h_2 =>
      simp only [bind_eq_ok, pure_eq_ok] at read
      obtain ⟨ss, _, read, rfl, rfl⟩ := read
      obtain ⟨neat, parted, scanned'⟩ := block_print word.scanned.pastTrivia read
        fun scanned read => statementWith_prints scanned read each
      rw [Otherwise.printed]
      exact ⟨(word.neat.append rfl (neat.block .nil)).mark rfl, parted, scanned'⟩
    case h_3 =>
      obtain ⟨_, _, _, failed⟩ := bind_eq_ok.1 read
      exact absurd failed fail_ne_ok
  case isFalse =>
    obtain ⟨rfl, rfl⟩ := pure_eq_ok.1 read
    rw [Otherwise.printed]
    exact ⟨.nil, trivial, scanned⟩

end

/-- A conditional is printed neatly, and so are the lines of all its blocks. -/
theorem conditionalWithin_prints {bound : Nat} {d : Conditional} (scanned : c.Scanned)
    (read : conditionalWithin bound c = .ok (d, c')) : CondPrints c d c' := by
  induction bound generalizing c d c' with
  | zero =>
    obtain ⟨_, _, _, failed⟩ := bind_eq_ok.1 read
    exact absurd failed fail_ne_ok
  | succ bound ih =>
    simp only [conditionalWithin, bind_eq_ok, here_eq_ok, expect_eq_ok, expectBlank_eq_ok,
      skipTrivia_eq_ok, spanFrom_eq_ok, pure_eq_ok] at read
    obtain ⟨_, _, ⟨_, rfl⟩, _, c₁, ⟨t, isIf, takes⟩, _, _, ⟨_, rfl⟩, e, c₂, tested, _, _, ⟨_, rfl⟩,
      ss, c₃, inside, rest, c₄, follows, _, _, ⟨_, rfl⟩, rfl, rfl⟩ := read
    have word := scanned.prints takes isIf rfl
    have condition := expression_prints word.scanned.pastTrivia tested
    obtain ⟨neat, parted, scanned₃⟩ := block_print condition.scanned.pastTrivia inside
      fun scanned read => statementWith_prints scanned read ih
    obtain ⟨restNeat, restParted, scanned₄⟩ := otherwise_prints scanned₃ follows ih
    refine ⟨?_, parted, restParted⟩
    rw [Conditional.printed]
    exact word.append rfl (condition.neat.append rfl (neat.block restNeat)) scanned₄

theorem statement_prints {s : Stmt} (scanned : c.Scanned) (read : statement c = .ok (s, c')) :
    StmtPrints c s c' := by
  refine statementWith_prints scanned read ?_
  intro c d c' scanned read
  simp only [conditional, bind_eq_ok, get_eq_ok] at read
  obtain ⟨_, _, ⟨_, rfl⟩, read⟩ := read
  exact conditionalWithin_prints scanned read

/-! ## Declarations -/

theorem typedName_neat {b : Binding} (scanned : c.Scanned) (read : typedName c = .ok (b, c')) :
    Neat b.printed ∧ c'.Scanned := by
  simp only [typedName, bind_eq_ok, here_eq_ok, expectIdent_eq_ok, skipTrivia_eq_ok, expect_eq_ok,
    spanFrom_eq_ok, pure_eq_ok] at read
  obtain ⟨_, _, ⟨_, rfl⟩, ident, c₁, ⟨t, isIdent, _, named⟩, _, _, ⟨_, rfl⟩, _, c₂,
    ⟨t', isColon, parted⟩, _, _, ⟨_, rfl⟩, type, c₃, ⟨t'', isType, _, typed⟩, _, _, ⟨_, rfl⟩, rfl,
    rfl⟩ := read
  have name := scanned.prints named isIdent rfl
  have scanned₂ := (name.scanned.pastTrivia.takes parted isColon).2
  have typeName := scanned₂.pastTrivia.prints typed isType rfl
  exact ⟨name.neat.append rfl (typeName.neat.mark rfl), typeName.scanned⟩

/-- A struct is printed neatly, its fields between commas. -/
theorem structDecl_neat {d : StructDecl} (scanned : c.Scanned)
    (read : structDecl c = .ok (d, c')) : Neat d.printed ∧ c'.Scanned := by
  simp only [structDecl, bind_eq_ok, here_eq_ok, expect_eq_ok, expectBlank_eq_ok,
    expectIdent_eq_ok, skipTrivia_eq_ok, spanFrom_eq_ok, pure_eq_ok] at read
  obtain ⟨_, _, ⟨_, rfl⟩, _, c₁, ⟨t, isStruct, takes⟩, _, _, ⟨_, rfl⟩, ident, c₂,
    ⟨t', isIdent, _, named⟩, _, _, ⟨_, rfl⟩, fields, c₃, inside, _, _, ⟨_, rfl⟩, rfl, rfl⟩ := read
  have word := scanned.prints takes isStruct rfl
  have name := word.scanned.pastTrivia.prints named isIdent rfl
  obtain ⟨neat, scanned₃⟩ := delimited_neat name.scanned.pastTrivia inside typedName_neat
  have braced : Neat (.leftBrace :: (spaced (fields.map Binding.printed) ++ [.rightBrace])) :=
    (neat.append rfl .nil).mark rfl
  exact ⟨word.neat.append rfl (name.neat.append rfl braced), scanned₃⟩

/-- The arrow is printed between spaces, which keep it apart from the name of the type. -/
theorem returnType_neat {type : Option Ident} (scanned : c.Scanned)
    (read : returnType c = .ok (type, c')) : Neat (returnTypePrinted type) ∧ c'.Scanned := by
  simp only [returnType, bind_eq_ok, peekPastTrivia_eq_ok] at read
  obtain ⟨_, _, ⟨rfl, rfl⟩, read⟩ := read
  split at read
  case isTrue arrow =>
    simp only [bind_eq_ok, skipTrivia_eq_ok, expectIdent_eq_ok, pure_eq_ok] at read
    obtain ⟨_, _, ⟨_, rfl⟩, _, c₁, taken, _, _, ⟨_, rfl⟩, type, c₂, ⟨t, isIdent, _, named⟩, rfl,
      rfl⟩ := read
    obtain ⟨t', isArrow, takes⟩ := takes_of_next arrow taken
    have sign := scanned.pastTrivia.prints takes isArrow rfl
    have name := sign.scanned.pastTrivia.prints named isIdent rfl
    exact ⟨(sign.neat.append rfl name.neat).mark rfl, name.scanned⟩
  case isFalse =>
    obtain ⟨rfl, rfl⟩ := pure_eq_ok.1 read
    exact ⟨.nil, scanned⟩

/-- A function is printed neatly, and no line of its body carries on the one before it. -/
theorem fnDecl_neat {d : FnDecl} (scanned : c.Scanned) (read : fnDecl c = .ok (d, c')) :
    Neat d.printed ∧ Stmt.AllParted d.body ∧ c'.Scanned := by
  simp only [fnDecl, bind_eq_ok, here_eq_ok, expect_eq_ok, expectBlank_eq_ok, expectIdent_eq_ok,
    skipTrivia_eq_ok, spanFrom_eq_ok, pure_eq_ok] at read
  obtain ⟨_, _, ⟨_, rfl⟩, _, c₁, ⟨t, isFn, takes⟩, _, _, ⟨_, rfl⟩, ident, c₂,
    ⟨t', isIdent, _, named⟩, params, c₃, listed, returns, c₄, returned, _, _, ⟨_, rfl⟩, _, _,
    ⟨_, rfl⟩, body, c₅, inside, _, _, ⟨_, rfl⟩, rfl, rfl⟩ := read
  have word := scanned.prints takes isFn rfl
  have name := word.scanned.pastTrivia.prints named isIdent rfl
  obtain ⟨paramsNeat, scanned₃⟩ := delimited_neat name.scanned listed typedName_neat
  obtain ⟨typeNeat, scanned₄⟩ := returnType_neat scanned₃ returned
  obtain ⟨neat, parted, scanned₅⟩ := block_print scanned₄.pastTrivia inside statement_prints
  refine ⟨word.neat.append rfl (name.neat.append rfl ?_), parted, scanned₅⟩
  exact paramsNeat.append rfl (typeNeat.append rfl (neat.block .nil))

/-! ## Programs -/

/-- All declarations of a text are printed neatly, and the lines of function bodies do not carry
on each other. -/
theorem declarations_neat {bound : Nat} {p : Program} (scanned : c.Scanned)
    (read : declarations bound c = .ok (p, c')) :
    (∀ d ∈ p.structs, Neat d.printed) ∧ ∀ d ∈ p.fns, Neat d.printed ∧ Stmt.AllParted d.body := by
  induction bound generalizing c p with
  | zero =>
    obtain ⟨rfl, rfl⟩ := pure_eq_ok.1 read
    exact ⟨nofun, nofun⟩
  | succ bound ih =>
    simp only [declarations, bind_eq_ok, peek_eq_ok] at read
    obtain ⟨k, _, ⟨next, rfl⟩, read⟩ := read
    split at read
    case h_1 =>
      obtain ⟨rfl, rfl⟩ := pure_eq_ok.1 read
      exact ⟨nofun, nofun⟩
    case h_2 =>
      simp only [bind_eq_ok, skipTrivia_eq_ok, pure_eq_ok] at read
      obtain ⟨d, c₁, first, _, _, ⟨_, rfl⟩, p', _, rest, rfl, rfl⟩ := read
      obtain ⟨neat, scanned₁⟩ := structDecl_neat scanned first
      obtain ⟨structs, fns⟩ := ih scanned₁.pastTrivia rest
      exact ⟨List.forall_mem_cons.2 ⟨neat, structs⟩, fns⟩
    case h_3 =>
      simp only [bind_eq_ok, skipTrivia_eq_ok, pure_eq_ok] at read
      obtain ⟨d, c₁, first, _, _, ⟨_, rfl⟩, p', _, rest, rfl, rfl⟩ := read
      obtain ⟨neat, parted, scanned₁⟩ := fnDecl_neat scanned first
      obtain ⟨structs, fns⟩ := ih scanned₁.pastTrivia rest
      exact ⟨structs, List.forall_mem_cons.2 ⟨⟨neat, parted⟩, fns⟩⟩
    case h_4 =>
      obtain ⟨_, _, _, failed⟩ := bind_eq_ok.1 read
      exact absurd failed fail_ne_ok

/-- Declarations that are printed neatly are so one below the other, for a newline parts them. -/
theorem Program.neat_printed {structs : List StructDecl} {fns : List FnDecl}
    (structsNeat : ∀ d ∈ structs, Neat d.printed) (fnsNeat : ∀ d ∈ fns, Neat d.printed) :
    Neat (Program.printed ⟨structs, fns⟩) := by
  induction structs with
  | nil =>
    induction fns with
    | nil => exact .nil
    | cons d fns ih =>
      obtain ⟨first, later⟩ := List.forall_mem_cons.1 fnsNeat
      rw [Program.printed_fn]
      exact first.append rfl (ih later)
  | cons d structs ih =>
    obtain ⟨first, later⟩ := List.forall_mem_cons.1 structsNeat
    rw [Program.printed_struct]
    exact first.append rfl (ih later)

end Syntax

end NominalScript
