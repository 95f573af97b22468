import NominalScript.Proofs.Parse.Expr

/-!
# Parsing is faithful

A parser of statements or declarations reads the kinds of the tree it returns, and
the trees have the shapes of `Parse.Tree`.  So nothing in the tokens of a program is
lost, added or moved, but for the order between a struct and a function, which the
tree does not keep.
-/

namespace NominalScript.Syntax

open NominalScript.Syntax.Parser

variable {c c' : Cursor}

/-! ## Statements -/

section

variable {stmt : Parser Stmt} {cond : Parser Conditional}

/-- Statements are read one behind the other, for only trivia stands between two of them. -/
theorem statements_reads {rounds : Nat} {ss : List Stmt}
    (read : statements stmt rounds c = .ok (ss, c'))
    (each : ∀ {c s c'}, stmt c = .ok (s, c') → c.Reads s.kinds c' ∧ s.Shaped) :
    c.Reads (Stmt.kindsOfAll ss) c' ∧ ∀ s ∈ ss, s.Shaped := by
  induction rounds generalizing c ss with
  | zero =>
    obtain ⟨rfl, rfl⟩ := pure_eq_ok.1 read
    exact ⟨.refl c, nofun⟩
  | succ rounds ih =>
    simp only [statements, bind_eq_ok, peek_eq_ok] at read
    obtain ⟨_, _, ⟨rfl, rfl⟩, read⟩ := read
    split at read
    case isTrue =>
      obtain ⟨rfl, rfl⟩ := pure_eq_ok.1 read
      exact ⟨.refl c, nofun⟩
    case isFalse =>
      obtain ⟨s, c₁, first, read⟩ := bind_eq_ok.1 read
      -- Only trivia stands between two statements, whichever way the first one ends.
      have later : ∃ rest,
          statements stmt rounds c₁.pastTrivia = .ok (rest, c') ∧ ss = s :: rest := by
        split at read
        case isTrue =>
          simp only [bind_eq_ok, skipTrivia_eq_ok, pure_eq_ok] at read
          obtain ⟨_, _, ⟨_, rfl⟩, rest, _, later, rfl, rfl⟩ := read
          exact ⟨rest, later, rfl⟩
        case isFalse =>
          simp only [bind_eq_ok, expectNewline_eq_ok, pure_eq_ok] at read
          obtain ⟨_, _, ⟨_, rfl⟩, rest, _, later, rfl, rfl⟩ := read
          exact ⟨rest, later, rfl⟩
      obtain ⟨rest, later, rfl⟩ := later
      obtain ⟨firstReads, firstShaped⟩ := each first
      obtain ⟨restReads, restShaped⟩ := ih later
      refine ⟨?_, List.forall_mem_cons.2 ⟨firstShaped, restShaped⟩⟩
      simpa [Stmt.kindsOfAll] using (firstReads.trans c₁.reads_pastTrivia).trans restReads

theorem block_reads {ss : List Stmt} (read : block stmt c = .ok (ss, c'))
    (each : ∀ {c s c'}, stmt c = .ok (s, c') → c.Reads s.kinds c' ∧ s.Shaped) :
    c.Reads (.leftBrace :: (Stmt.kindsOfAll ss ++ [.rightBrace])) c' ∧ ∀ s ∈ ss, s.Shaped := by
  simp only [block, bind_eq_ok, expect_eq_ok, skipTrivia_eq_ok, get_eq_ok, pure_eq_ok] at read
  obtain ⟨_, c₁, ⟨t, isOpening, opened⟩, _, _, ⟨_, rfl⟩, _, _, ⟨_, rfl⟩, ss', c₂, inside, _, c₃,
    ⟨t', isClose, closed⟩, rfl, rfl⟩ := read
  obtain ⟨insideReads, shaped⟩ := statements_reads inside each
  have start := (opened.reads isOpening rfl).trans c₁.reads_pastTrivia
  have all := (start.trans insideReads).trans (closed.reads isClose rfl)
  exact ⟨by simpa using all, shaped⟩

/-- A return reads the value behind it, if there is one, and nothing but trivia otherwise. -/
theorem returnValue_reads {value : Option Expr} {span : Span}
    (read : returnValue c = .ok (value, c')) :
    c.Reads (Stmt.ret value span).kinds c' ∧ (Stmt.ret value span).Shaped := by
  simp only [returnValue, bind_eq_ok, expect_eq_ok, skipToLineEnd_eq_ok, peek_eq_ok] at read
  obtain ⟨_, c₁, ⟨t, isReturn, takes⟩, _, _, rfl, _, _, ⟨rfl, rfl⟩, read⟩ := read
  have start := (takes.reads isReturn rfl).trans c₁.reads_toLineEnd
  split at read
  case isTrue =>
    obtain ⟨rfl, rfl⟩ := pure_eq_ok.1 read
    exact ⟨by simpa [Stmt.kinds] using start, .ret nofun⟩
  case isFalse =>
    simp only [bind_eq_ok, pure_eq_ok] at read
    obtain ⟨e, c₂, read, rfl, rfl⟩ := read
    have inside := expression_reads read
    refine ⟨by simpa [Stmt.kinds] using start.trans inside.reads, .ret ?_⟩
    intro e' same
    cases same
    exact inside.nested

/-- The type behind a name is read with its colon, or nothing is. -/
theorem annotation_reads {type : Option Ident} (read : annotation c = .ok (type, c')) :
    c.Reads (annotationKinds type) c' := by
  simp only [bind_eq_ok, peek_eq_ok, annotation] at read
  obtain ⟨_, _, ⟨rfl, rfl⟩, read⟩ := read
  split at read
  case isTrue colon =>
    simp only [bind_eq_ok, skipTrivia_eq_ok, expectIdent_eq_ok, pure_eq_ok] at read
    obtain ⟨_, c₁, taken, _, _, ⟨_, rfl⟩, type, c₂, ⟨t, isIdent, _, named⟩, _, _, ⟨_, rfl⟩, rfl,
      rfl⟩ := read
    obtain ⟨t', isColon, takes⟩ := takes_of_next colon taken
    have start := (takes.reads isColon rfl).trans c₁.reads_pastTrivia
    exact (start.trans (named.reads isIdent rfl)).trans c₂.reads_pastTrivia
  case isFalse =>
    obtain ⟨rfl, rfl⟩ := pure_eq_ok.1 read
    exact .refl c

/-- A `let` is read with its kinds, and its value leans to the right. -/
theorem binding_reads {start : Location} {s : Stmt} (read : binding start c = .ok (s, c')) :
    c.Reads s.kinds c' ∧ s.Shaped := by
  simp only [binding, bind_eq_ok, expect_eq_ok, expectBlank_eq_ok, expectIdent_eq_ok,
    skipTrivia_eq_ok, spanFrom_eq_ok, pure_eq_ok] at read
  obtain ⟨_, c₁, ⟨t, isLet, takes⟩, _, _, ⟨_, rfl⟩, ident, c₂, ⟨t', isIdent, _, named⟩, _, _,
    ⟨_, rfl⟩, type, c₃, typed, _, c₄, ⟨t'', isEquals, parted⟩, _, _, ⟨_, rfl⟩, value, c₅, valued,
    _, _, ⟨_, rfl⟩, rfl, rfl⟩ := read
  have inside := expression_reads valued
  have name := ((takes.reads isLet rfl).trans c₁.reads_pastTrivia).trans (named.reads isIdent rfl)
  have left := (name.trans c₂.reads_pastTrivia).trans (annotation_reads typed)
  have equals := (left.trans (parted.reads isEquals rfl)).trans c₄.reads_pastTrivia
  exact ⟨by simpa [Stmt.kinds] using equals.trans inside.reads, .bind inside.nested⟩

/-- A statement is read with its kinds and shaped, if conditionals are. -/
theorem statementWith_reads {s : Stmt} (read : statementWith cond c = .ok (s, c'))
    (each : ∀ {c d c'}, cond c = .ok (d, c') → c.Reads d.kinds c' ∧ d.Shaped) :
    c.Reads s.kinds c' ∧ s.Shaped := by
  simp only [statementWith, bind_eq_ok, here_eq_ok, peek_eq_ok] at read
  obtain ⟨start, _, ⟨_, rfl⟩, k, _, ⟨_, rfl⟩, read⟩ := read
  split at read
  case h_1 =>
    simp only [bind_eq_ok, pure_eq_ok] at read
    obtain ⟨d, _, read, rfl, rfl⟩ := read
    obtain ⟨reads, shaped⟩ := each read
    exact ⟨by simpa [Stmt.kinds] using reads, .cond shaped⟩
  case h_2 =>
    simp only [bind_eq_ok, spanFrom_eq_ok, pure_eq_ok] at read
    obtain ⟨value, _, read, _, _, ⟨_, rfl⟩, rfl, rfl⟩ := read
    exact returnValue_reads read
  case h_3 => exact binding_reads read
  case h_4 =>
    simp only [bind_eq_ok, pure_eq_ok] at read
    obtain ⟨e, _, read, rfl, rfl⟩ := read
    have inside := expression_reads read
    exact ⟨by simpa [Stmt.kinds] using inside.reads, .expr inside.nested⟩

/-- What follows a block is read with its kinds, and nothing is read where no `else` follows. -/
theorem otherwise_reads {rest : Otherwise} (read : otherwise cond c = .ok (rest, c'))
    (each : ∀ {c d c'}, cond c = .ok (d, c') → c.Reads d.kinds c' ∧ d.Shaped) :
    c.Reads rest.kinds c' ∧ rest.Shaped := by
  simp only [otherwise, bind_eq_ok, peekPastTrivia_eq_ok] at read
  obtain ⟨_, _, ⟨rfl, rfl⟩, read⟩ := read
  split at read
  case isTrue next =>
    simp only [bind_eq_ok, skipTrivia_eq_ok, peek_eq_ok] at read
    obtain ⟨_, _, ⟨_, rfl⟩, _, c₁, taken, _, _, ⟨_, rfl⟩, k, _, ⟨_, rfl⟩, read⟩ := read
    obtain ⟨t, isElse, takes⟩ := takes_of_next next taken
    have start := (c.reads_pastTrivia.trans (takes.reads isElse rfl)).trans c₁.reads_pastTrivia
    split at read
    case h_1 =>
      simp only [bind_eq_ok, pure_eq_ok] at read
      obtain ⟨d, _, read, rfl, rfl⟩ := read
      obtain ⟨reads, shaped⟩ := each read
      exact ⟨by simpa [Otherwise.kinds] using start.trans reads, .elseIf shaped⟩
    case h_2 =>
      simp only [bind_eq_ok, pure_eq_ok] at read
      obtain ⟨ss, _, read, rfl, rfl⟩ := read
      obtain ⟨reads, shaped⟩ := block_reads read fun read => statementWith_reads read each
      exact ⟨by simpa [Otherwise.kinds] using start.trans reads, .block shaped⟩
    case h_3 =>
      obtain ⟨_, _, _, failed⟩ := bind_eq_ok.1 read
      exact absurd failed fail_ne_ok
  case isFalse =>
    obtain ⟨rfl, rfl⟩ := pure_eq_ok.1 read
    exact ⟨.refl c, .nothing⟩

end

/-- A conditional is read with its kinds, and its condition without a struct literal that would
take the brace of the block. -/
theorem conditionalWithin_reads {bound : Nat} {d : Conditional}
    (read : conditionalWithin bound c = .ok (d, c')) : c.Reads d.kinds c' ∧ d.Shaped := by
  induction bound generalizing c d c' with
  | zero =>
    obtain ⟨_, _, _, failed⟩ := bind_eq_ok.1 read
    exact absurd failed fail_ne_ok
  | succ bound ih =>
    simp only [conditionalWithin, bind_eq_ok, here_eq_ok, expect_eq_ok, expectBlank_eq_ok,
      skipTrivia_eq_ok, spanFrom_eq_ok, pure_eq_ok] at read
    obtain ⟨_, _, ⟨_, rfl⟩, _, c₁, ⟨t, isIf, takes⟩, _, _, ⟨_, rfl⟩, e, c₂, tested, _, _, ⟨_, rfl⟩,
      ss, c₃, inside, rest, c₄, follows, _, _, ⟨_, rfl⟩, rfl, rfl⟩ := read
    have condition := expression_reads tested
    obtain ⟨blockReads, blockShaped⟩ := block_reads inside fun read => statementWith_reads read ih
    obtain ⟨restReads, restShaped⟩ := otherwise_reads follows ih
    have start := ((takes.reads isIf rfl).trans c₁.reads_pastTrivia).trans condition.reads
    have all := ((start.trans c₂.reads_pastTrivia).trans blockReads).trans restReads
    refine ⟨by simpa [Conditional.kinds] using all, ?_⟩
    exact .mk condition.nested (condition.literalFree rfl) blockShaped restShaped

theorem statement_reads {s : Stmt} (read : statement c = .ok (s, c')) :
    c.Reads s.kinds c' ∧ s.Shaped := by
  refine statementWith_reads read ?_
  intro c d c' read
  simp only [conditional, bind_eq_ok, get_eq_ok] at read
  obtain ⟨_, _, ⟨_, rfl⟩, read⟩ := read
  exact conditionalWithin_reads read

/-! ## Declarations -/

theorem typedName_reads {b : Binding} (read : typedName c = .ok (b, c')) : c.Reads b.kinds c' := by
  simp only [typedName, bind_eq_ok, here_eq_ok, expectIdent_eq_ok, skipTrivia_eq_ok, expect_eq_ok,
    spanFrom_eq_ok, pure_eq_ok] at read
  obtain ⟨_, _, ⟨_, rfl⟩, ident, c₁, ⟨t, isIdent, _, named⟩, _, _, ⟨_, rfl⟩, _, c₂,
    ⟨t', isColon, parted⟩, _, _, ⟨_, rfl⟩, type, c₃, ⟨t'', isType, _, typed⟩, _, _, ⟨_, rfl⟩, rfl,
    rfl⟩ := read
  have name := (named.reads isIdent rfl).trans c₁.reads_pastTrivia
  have colon := (name.trans (parted.reads isColon rfl)).trans c₂.reads_pastTrivia
  exact colon.trans (typed.reads isType rfl)

theorem Binding.opens_kinds (b : Binding) : Opens b.kinds := ⟨_, _, rfl, rfl⟩

theorem structDecl_reads {d : StructDecl} (read : structDecl c = .ok (d, c')) :
    c.Reads d.kinds c' := by
  simp only [structDecl, bind_eq_ok, here_eq_ok, expect_eq_ok, expectBlank_eq_ok,
    expectIdent_eq_ok, skipTrivia_eq_ok, spanFrom_eq_ok, pure_eq_ok] at read
  obtain ⟨_, _, ⟨_, rfl⟩, _, c₁, ⟨t, isStruct, takes⟩, _, _, ⟨_, rfl⟩, ident, c₂,
    ⟨t', isIdent, _, named⟩, _, _, ⟨_, rfl⟩, fields, c₃, inside, _, _, ⟨_, rfl⟩, rfl, rfl⟩ := read
  have fieldsRead := delimited_reads inside rfl rfl Binding.opens_kinds typedName_reads
  have start := (takes.reads isStruct rfl).trans c₁.reads_pastTrivia
  have name := (start.trans (named.reads isIdent rfl)).trans c₂.reads_pastTrivia
  simpa [StructDecl.kinds] using name.trans fieldsRead

/-- The arrow and the type behind it are read, or nothing is. -/
theorem returnType_reads {type : Option Ident} (read : returnType c = .ok (type, c')) :
    c.Reads (returnTypeKinds type) c' := by
  simp only [returnType, bind_eq_ok, peekPastTrivia_eq_ok] at read
  obtain ⟨_, _, ⟨rfl, rfl⟩, read⟩ := read
  split at read
  case isTrue arrow =>
    simp only [bind_eq_ok, skipTrivia_eq_ok, expectIdent_eq_ok, pure_eq_ok] at read
    obtain ⟨_, _, ⟨_, rfl⟩, _, c₁, taken, _, _, ⟨_, rfl⟩, type, c₂, ⟨t, isIdent, _, named⟩, rfl,
      rfl⟩ := read
    obtain ⟨t', isArrow, takes⟩ := takes_of_next arrow taken
    have start := c.reads_pastTrivia.trans (takes.reads isArrow rfl)
    exact (start.trans c₁.reads_pastTrivia).trans (named.reads isIdent rfl)
  case isFalse =>
    obtain ⟨rfl, rfl⟩ := pure_eq_ok.1 read
    exact .refl c

/-- A function is read with its kinds, and the statements of its body are shaped. -/
theorem fnDecl_reads {d : FnDecl} (read : fnDecl c = .ok (d, c')) :
    c.Reads d.kinds c' ∧ ∀ s ∈ d.body, s.Shaped := by
  simp only [fnDecl, bind_eq_ok, here_eq_ok, expect_eq_ok, expectBlank_eq_ok, expectIdent_eq_ok,
    skipTrivia_eq_ok, spanFrom_eq_ok, pure_eq_ok] at read
  obtain ⟨_, _, ⟨_, rfl⟩, _, c₁, ⟨t, isFn, takes⟩, _, _, ⟨_, rfl⟩, ident, c₂,
    ⟨t', isIdent, _, named⟩, params, c₃, listed, returns, c₄, returned, _, _, ⟨_, rfl⟩, _, _,
    ⟨_, rfl⟩, body, c₅, inside, _, _, ⟨_, rfl⟩, rfl, rfl⟩ := read
  have paramsRead := delimited_reads listed rfl rfl Binding.opens_kinds typedName_reads
  obtain ⟨bodyReads, shaped⟩ := block_reads inside statement_reads
  have start := (takes.reads isFn rfl).trans c₁.reads_pastTrivia
  have head := (start.trans (named.reads isIdent rfl)).trans paramsRead
  have signature := (head.trans (returnType_reads returned)).trans c₄.reads_pastTrivia
  exact ⟨by simpa [FnDecl.kinds] using signature.trans bodyReads, shaped⟩

/-! ## Programs -/

theorem Program.spells_nil : Program.Spells ⟨[], []⟩ [] := ⟨[], .nil, rfl⟩

theorem Program.Spells.consStruct {p : Program} {kinds : List Kind} (spells : p.Spells kinds)
    (d : StructDecl) :
    Program.Spells { p with structs := d :: p.structs } (d.kinds ++ kinds) := by
  obtain ⟨order, merged, rfl⟩ := spells
  exact ⟨d.kinds :: order, .left merged, rfl⟩

theorem Program.Spells.consFn {p : Program} {kinds : List Kind} (spells : p.Spells kinds)
    (d : FnDecl) : Program.Spells { p with fns := d :: p.fns } (d.kinds ++ kinds) := by
  obtain ⟨order, merged, rfl⟩ := spells
  exact ⟨d.kinds :: order, .right merged, rfl⟩

theorem Cursor.ahead_of_ended (ended : c.rest = []) : c.ahead = [] := by
  rw [Cursor.ahead, ended]
  rfl

/-- Each declaration takes a token, so the bound is reached at the end of the tokens
only. -/
theorem declarations_spell {bound : Nat} {p : Program} (enough : c.rest.length ≤ bound)
    (read : declarations bound c = .ok (p, c')) :
    p.Spells c.ahead ∧ ∀ d ∈ p.fns, ∀ s ∈ d.body, s.Shaped := by
  induction bound generalizing c p with
  | zero =>
    obtain ⟨rfl, rfl⟩ := pure_eq_ok.1 read
    have ended : c.rest = [] := List.length_eq_zero_iff.1 (Nat.le_zero.1 enough)
    rw [Cursor.ahead_of_ended ended]
    exact ⟨Program.spells_nil, nofun⟩
  | succ bound ih =>
    simp only [declarations, bind_eq_ok, peek_eq_ok] at read
    obtain ⟨k, _, ⟨next, rfl⟩, read⟩ := read
    split at read
    case h_1 =>
      obtain ⟨rfl, rfl⟩ := pure_eq_ok.1 read
      rw [Cursor.ahead_of_ended (Cursor.kind?_eq_none.1 next)]
      exact ⟨Program.spells_nil, nofun⟩
    case h_2 =>
      simp only [bind_eq_ok, skipTrivia_eq_ok, pure_eq_ok] at read
      obtain ⟨d, c₁, first, _, _, ⟨_, rfl⟩, p', _, rest, rfl, rfl⟩ := read
      have reads := (structDecl_reads first).trans c₁.reads_pastTrivia
      rw [List.append_nil] at reads
      have shorter := reads.length_lt
      obtain ⟨spells, shaped⟩ := ih (by omega) rest
      rw [reads.ahead]
      exact ⟨spells.consStruct d, shaped⟩
    case h_3 =>
      simp only [bind_eq_ok, skipTrivia_eq_ok, pure_eq_ok] at read
      obtain ⟨d, c₁, first, _, _, ⟨_, rfl⟩, p', _, rest, rfl, rfl⟩ := read
      obtain ⟨firstReads, firstShaped⟩ := fnDecl_reads first
      have reads := firstReads.trans c₁.reads_pastTrivia
      rw [List.append_nil] at reads
      have shorter := reads.length_lt
      obtain ⟨spells, shaped⟩ := ih (by omega) rest
      rw [reads.ahead]
      exact ⟨spells.consFn d, List.forall_mem_cons.2 ⟨firstShaped, shaped⟩⟩
    case h_4 =>
      obtain ⟨_, _, _, failed⟩ := bind_eq_ok.1 read
      exact absurd failed fail_ne_ok

/-- Parsing skips the trivia in front and then reads declarations. -/
theorem Program.parse_eq_ok {tokens : List Token} {p : Program} :
    Program.parse tokens = .ok p ↔ ∃ c', declarations
      (Cursor.pastTrivia ⟨tokens, .origin⟩).rest.length (Cursor.pastTrivia ⟨tokens, .origin⟩) =
        .ok (p, c') := by
  change (program ⟨tokens, .origin⟩).map Prod.fst = .ok p ↔ _
  have steps : program ⟨tokens, .origin⟩ = declarations
      (Cursor.pastTrivia ⟨tokens, .origin⟩).rest.length (Cursor.pastTrivia ⟨tokens, .origin⟩) := rfl
  rw [steps]
  cases declarations _ _ with
  | error e => exact ⟨nofun, nofun⟩
  | ok r => exact ⟨fun same => ⟨r.2, by cases same; rfl⟩, fun ⟨_, same⟩ => by cases same; rfl⟩

/-- The tokens of a text that is read are those of its tree, in the same order: only
trivia and trailing commas are left out, and only structs and functions are told
apart.  Operators lean to the right, and no struct literal stands bare in a
condition. -/
theorem Program.parse_faithful {tokens : List Token} {p : Program}
    (parsed : Program.parse tokens = .ok p) :
    p.Spells (meaningful (tokens.map Token.kind)) ∧ ∀ d ∈ p.fns, ∀ s ∈ d.body, s.Shaped := by
  have run : (program ⟨tokens, .origin⟩).map Prod.fst = .ok p := parsed
  cases read : program ⟨tokens, .origin⟩ with
  | error e =>
    rw [read] at run
    cases run
  | ok r =>
    rw [read] at run
    cases run
    simp only [program, bind_eq_ok, skipTrivia_eq_ok, get_eq_ok] at read
    obtain ⟨_, _, ⟨_, rfl⟩, _, _, ⟨rfl, rfl⟩, read⟩ := read
    obtain ⟨spells, shaped⟩ := declarations_spell (Nat.le_refl _) read
    rw [← List.nil_append (Cursor.ahead _), ← (Cursor.reads_pastTrivia _).ahead] at spells
    exact ⟨spells, shaped⟩

/-- The tokens of

    struct P{x:Int,}
    fn f(p:P,q:Int,)->Int{if p.x<(P{x:1,}).x * -f(p,q){return p}}
    struct Q{}

all said to stand at the origin: with trailing commas, a struct literal inside a
condition, and a function between two structs. -/
def packed : List Token :=
  List.map (fun kind => ⟨kind, .origin, ⟨1, 1⟩⟩) [.keyword .kwStruct, space, .ident "P", .leftBrace,
    .ident "x", .colon, .ident "Int", .comma, .rightBrace, .blank .newline,
    .keyword .kwFn, space, .ident "f", .leftParen, .ident "p", .colon, .ident "P", .comma,
    .ident "q", .colon, .ident "Int", .comma, .rightParen, .op "->", .ident "Int", .leftBrace,
    .keyword .kwIf, space, .ident "p", .period, .ident "x", .op "<", .leftParen, .ident "P",
    .leftBrace, .ident "x", .colon, .int 1, .comma, .rightBrace, .rightParen, .period, .ident "x",
    space, .op "*", space, .op "-", .ident "f", .leftParen, .ident "p", .comma, .ident "q",
    .rightParen, .leftBrace, .keyword .kwReturn, space, .ident "p", .rightBrace, .rightBrace,
    .blank .newline, .keyword .kwStruct, space, .ident "Q", .leftBrace, .rightBrace]
where
  space : Kind := .blank .space

/-- The text is read as two structs and a function, with all that it spells. -/
theorem parse_faithful_packed :
    ∃ p, Program.parse packed = .ok p ∧ p.structs.length = 2 ∧ p.fns.length = 1 ∧
      p.Spells (meaningful (packed.map Token.kind)) ∧ ∀ d ∈ p.fns, ∀ s ∈ d.body, s.Shaped := by
  have sizes : (Program.parse packed).map (fun p => (p.structs.length, p.fns.length)) =
      .ok (2, 1) := rfl
  cases parsed : Program.parse packed with
  | error e =>
    rw [parsed] at sizes
    cases sizes
  | ok p =>
    rw [parsed] at sizes
    obtain ⟨structs, fns⟩ := Prod.mk.inj (Except.ok.inj sizes)
    exact ⟨p, rfl, structs, fns, Program.parse_faithful parsed⟩

end NominalScript.Syntax
