import NominalScript.Proofs.Print.Expr

/-!
# Reading printed statements and declarations

A statement is printed on a line.  It is read back if the next line does not carry it
on, so after a statement that ends with an expression no line may start with an
operator (`Stmt.AllParted`).
-/

namespace NominalScript

/-- A kind that a statement starts with. -/
def Kind.startsStmt : Kind → Bool
  | .keyword .kwIf => true
  | .keyword .kwReturn => true
  | .keyword .kwLet => true
  | k => k.startsExpr

namespace Syntax

open NominalScript.Syntax.Parser
open Cursor

/-! ## Lines -/

/-- Does a statement end with an expression?  An operator on the next line would be
read as one of its own. -/
def Stmt.endsWithExpr : Stmt → Bool
  | .cond _ => false
  | .ret none _ => false
  | _ => true

mutual

/-- Nowhere in the statement does a line carry on the one before it. -/
def Stmt.Parted : Stmt → Prop
  | .cond c => c.Parted
  | _ => True

/-- None of the lines carries on the one before it. -/
def Stmt.AllParted : List Stmt → Prop
  | [] => True
  | s :: rest => s.Parted ∧
      (s.endsWithExpr = true → ∀ op, (Stmt.printedAll rest).head? ≠ some (.op op)) ∧
      Stmt.AllParted rest

/-- Nowhere in the conditional does a line carry on the one before it. -/
def Conditional.Parted : Conditional → Prop
  | .mk _ block rest _ => Stmt.AllParted block ∧ rest.Parted

/-- Nowhere in what is done otherwise does a line carry on the one before it. -/
def Otherwise.Parted : Otherwise → Prop
  | .nothing => True
  | .elseIf c => c.Parted
  | .block block => Stmt.AllParted block

end

theorem Stmt.parted_of_mem {ss : List Stmt} {s : Stmt} (parted : Stmt.AllParted ss) (mem : s ∈ ss) :
    s.Parted := by
  induction ss with
  | nil => cases mem
  | cons s' ss ih =>
    obtain ⟨first, _, later⟩ := parted
    obtain rfl | mem := List.mem_cons.1 mem
    · exact first
    · exact ih later mem

theorem Conditional.printed_eq (c : Conditional) :
    ∃ ks, c.printed = .keyword .kwIf :: .blank .space :: ks := by
  cases c
  exact ⟨_, Conditional.printed.eq_def _⟩

theorem Stmt.starts_printed (s : Stmt) : ∃ k ks, s.printed = k :: ks ∧ k.startsStmt = true := by
  cases s with
  | expr e =>
    obtain ⟨k, ks, printed, first⟩ := e.starts_printed
    refine ⟨k, ks, by rw [Stmt.printed, printed], ?_⟩
    cases k <;> first | exact first | cases first
  | cond c =>
    obtain ⟨ks, printed⟩ := c.printed_eq
    exact ⟨_, _, by rw [Stmt.printed, printed], rfl⟩
  | ret value span => cases value <;> exact ⟨_, _, Stmt.printed.eq_def _, rfl⟩
  | bind ident type value span => exact ⟨_, _, Stmt.printed.eq_def _, rfl⟩

/-- What a line starts with: a statement, or the end of a block. -/
def StartsLine (more : List Kind) : Prop :=
  ∃ k ks, more = k :: ks ∧ (k.startsStmt = true ∨ k = .rightBrace)

theorem Stmt.startsLine_printedAll (ss : List Stmt) (rest : List Kind) :
    StartsLine (Stmt.printedAll ss ++ .rightBrace :: rest) := by
  cases ss with
  | nil => exact ⟨_, _, rfl, .inr rfl⟩
  | cons s ss =>
    obtain ⟨k, ks, printed, first⟩ := s.starts_printed
    exact ⟨k, _, by rw [Stmt.printedAll, printed]; rfl, .inl first⟩

/-- What a line starts with is no trivia, nor would it lengthen the line before by a literal or
an `else`. -/
theorem StartsLine.facts {more : List Kind} (line : StartsLine more) :
    (ofKinds more).pastTrivia = ofKinds more ∧ (ofKinds more).kind? ≠ some .leftBrace ∧
      (ofKinds more).kind? ≠ some (.keyword .kwElse) := by
  obtain ⟨k, ks, rfl, first⟩ := line
  have facts : k.isTrivia = false ∧ k ≠ .leftBrace ∧ k ≠ .keyword .kwElse := by
    obtain first | rfl := first
    · refine ⟨?_, ?_, ?_⟩
      · cases k <;> first | rfl | cases first
      · rintro rfl
        cases first
      · rintro rfl
        cases first
    · exact ⟨rfl, nofun, nofun⟩
  obtain ⟨other, noBrace, noElse⟩ := facts
  exact ⟨pastTrivia_ofKinds_cons other ks, by simpa [kind?_ofKinds] using noBrace,
    by simpa [kind?_ofKinds] using noElse⟩

/-- The next line does not carry an expression on unless it starts with an operator. -/
theorem StartsLine.follows {more : List Kind} (line : StartsLine more)
    (noOperator : ∀ op, more.head? ≠ some (.op op)) :
    Follows .literal (.blank .newline :: more) := by
  obtain ⟨past, noBrace, _⟩ := line.facts
  refine ⟨⟨nofun, ?_⟩, nofun, ?_⟩
  · intro _
    rwa [pastTrivia_ofKinds_blank, past]
  · intro op
    rw [pastTrivia_ofKinds_blank, past, kind?_ofKinds]
    exact noOperator op

/-! ## Statements -/

/-- The parser reads the printed statement back, with the next line behind it. -/
def Stmt.ReadsBack (stmt : Parser Stmt) (s : Stmt) : Prop :=
  ∀ more, StartsLine more → (s.endsWithExpr = true → ∀ op, more.head? ≠ some (.op op)) →
    stmt (ofKinds (s.printed ++ .blank .newline :: more)) =
      .ok (s.erase, ofKinds (.blank .newline :: more))

/-- The parser reads the printed conditional back, unless an `else` is behind it. -/
def Conditional.ReadsBack (cond : Parser Conditional) (c : Conditional) : Prop :=
  ∀ rest, (ofKinds rest).pastTrivia.kind? ≠ some (.keyword .kwElse) →
    cond (ofKinds (c.printed ++ rest)) = .ok (c.erase, ofKinds rest)

section

variable {stmt : Parser Stmt} {cond : Parser Conditional}

theorem separator_printed (s : Stmt) {more : List Kind} (line : StartsLine more) :
    separator s (ofKinds (.blank .newline :: more)) = .ok ((), ofKinds more) := by
  have past : (ofKinds (.blank .newline :: more)).pastTrivia = ofKinds more := by
    rw [pastTrivia_ofKinds_blank, line.facts.1]
  unfold separator
  split
  · exact pure_eq_ok.2 ⟨rfl, past⟩
  · exact expectNewline_eq_ok.2 ⟨.inl rfl, past⟩

/-- Statements that are read back each are read back as lines, if none of these carries on the
one before it. -/
theorem statements_printed {ss : List Stmt} {rounds : Nat} (each : ∀ s ∈ ss, s.ReadsBack stmt)
    (parted : Stmt.AllParted ss) (enough : ss.length ≤ rounds) (rest : List Kind) :
    statements stmt rounds (ofKinds (Stmt.printedAll ss ++ .rightBrace :: rest)) =
      .ok (Stmt.eraseAll ss, ofKinds (.rightBrace :: rest)) := by
  induction ss generalizing rounds with
  | nil => exact statements_of_stop (.inr rfl)
  | cons s ss ih =>
    obtain ⟨first, later⟩ := List.forall_mem_cons.1 each
    obtain ⟨_, apart, partedLater⟩ := parted
    obtain _ | rounds := rounds
    · cases enough
    have line := Stmt.startsLine_printedAll ss rest
    have apart' : s.endsWithExpr = true →
        ∀ op, (Stmt.printedAll ss ++ .rightBrace :: rest).head? ≠ some (.op op) := by
      intro ends op
      have noOperator := apart ends op
      cases ss with
      | nil => exact nofun
      | cons s' ss =>
        obtain ⟨k, ks, printed, _⟩ := s'.starts_printed
        simpa [Stmt.printedAll, printed] using noOperator
    have more : ¬ ((ofKinds (Stmt.printedAll (s :: ss) ++ .rightBrace :: rest)).kind? = none ∨
        (ofKinds (Stmt.printedAll (s :: ss) ++ .rightBrace :: rest)).kind? = some .rightBrace) := by
      obtain ⟨k, ks, printed, starts⟩ := s.starts_printed
      simp only [Stmt.printedAll, printed, List.cons_append, kind?_ofKinds, List.head?_cons,
        reduceCtorEq, Option.some.injEq, false_or]
      rintro rfl
      cases starts
    rw [statements_of_some more, Stmt.printedAll, List.append_assoc, List.cons_append,
      bind_of_ok (first _ line apart'), bind_of_ok (separator_printed _ line),
      bind_of_ok (ih later partedLater (Nat.le_of_succ_le_succ enough)), pure_run, Stmt.eraseAll]

theorem Stmt.length_le_printedAll (ss : List Stmt) : ss.length ≤ (Stmt.printedAll ss).length := by
  induction ss with
  | nil => exact Nat.le_refl _
  | cons s ss ih =>
    rw [Stmt.printedAll, List.length_append, List.length_cons, List.length_cons]
    omega

theorem Stmt.length_le_printedAll_of_mem {ss : List Stmt} {s : Stmt} (mem : s ∈ ss) :
    s.printed.length ≤ (Stmt.printedAll ss).length := by
  induction ss with
  | nil => cases mem
  | cons s' ss ih =>
    rw [Stmt.printedAll, List.length_append, List.length_cons]
    obtain rfl | later := List.mem_cons.1 mem
    · omega
    · have fits := ih later
      omega

/-- A printed block is read back, its statements on lines of their own. -/
theorem block_printed {ss : List Stmt} (each : ∀ s ∈ ss, s.ReadsBack stmt)
    (parted : Stmt.AllParted ss) (rest : List Kind) :
    block stmt (ofKinds (.leftBrace :: .blank .newline ::
        (Stmt.printedAll ss ++ .rightBrace :: rest))) =
      .ok (Stmt.eraseAll ss, ofKinds rest) := by
  have past := (Stmt.startsLine_printedAll ss rest).facts.1
  have enough : ss.length ≤
      (ofKinds (Stmt.printedAll ss ++ .rightBrace :: rest)).rest.length :=
    Nat.le_trans (Stmt.length_le_printedAll ss) (length_le_rest_ofKinds _ _)
  simp only [block, bind_of_ok (expect_ofKinds .leftBrace _), skipTrivia_bind,
    pastTrivia_ofKinds_blank, past, get_bind,
    bind_of_ok (statements_printed each parted enough rest),
    bind_of_ok (expect_ofKinds .rightBrace _), pure_run]

theorem toLineEnd_ofKinds (ks : List Kind) :
    (ofKinds ks).toLineEnd = ofKinds (ks.dropWhile fun k => k.isTrivia && k != .blank .newline) :=
  skipWhile_ofKinds _ ks

/-- A printed value stands on the line of its `return`, so it is read as its value. -/
theorem returnValue_printed {e : Expr} {more : List Kind} (nested : e.RightNested)
    (follows : Follows .literal more) :
    returnValue (ofKinds (.keyword .kwReturn :: .blank .space :: (e.printed ++ more))) =
      .ok (some e.erase, ofKinds more) := by
  have starts := e.starts_printed.append more
  have past : (ofKinds (.blank .space :: (e.printed ++ more))).toLineEnd =
      ofKinds (e.printed ++ more) := by
    obtain ⟨k, ks, same, first⟩ := starts
    rw [toLineEnd_ofKinds, same]
    cases k <;> first | rfl | cases first
  have valued : ¬ ((ofKinds (e.printed ++ more)).kind? = none ∨
      (ofKinds (e.printed ++ more)).kind? = some .rightBrace ∨
      (ofKinds (e.printed ++ more)).kind? = some (.blank .newline)) := by
    rintro (none | close | newline)
    · exact starts.kind?_ne_none none
    · exact starts.kind?_ne rfl close
    · exact starts.kind?_ne rfl newline
  have read := expression_printed nested follows literal_ne_block
  simp only [returnValue, bind_of_ok (expect_ofKinds (.keyword .kwReturn) _), skipToLineEnd_bind,
    past, peek_bind, if_neg valued, bind_of_ok read, pure_run]

theorem annotation_printed (type : Option Ident) (more : List Kind) :
    annotation (ofKinds (annotationPrinted type ++ .blank .space :: .op "=" :: more)).pastTrivia =
      .ok (type.map Ident.erase, ofKinds (.op "=" :: more)) := by
  cases type <;> rfl

/-- A printed `let` is read back, with its type if it has one. -/
theorem binding_printed {ident : Ident} {type : Option Ident} {value : Expr} {more : List Kind}
    (nested : value.RightNested) (follows : Follows .literal more) :
    binding .origin (ofKinds (.keyword .kwLet :: .blank .space :: .ident ident.name ::
        (annotationPrinted type ++ .blank .space :: .op "=" :: .blank .space ::
          (value.printed ++ more)))) =
      .ok (.bind ident.erase (type.map Ident.erase) value.erase .erased, ofKinds more) := by
  have past := (value.starts_printed.append more).pastTrivia
  have read := expression_printed nested follows literal_ne_block
  simp only [binding, bind_of_ok (expect_ofKinds (.keyword .kwLet) _),
    bind_of_ok (expectBlank_ofKinds _), pastTrivia_ofKinds_cons (k := .ident ident.name) rfl,
    bind_of_ok (expectIdent_ofKinds ident.name _), skipTrivia_bind,
    bind_of_ok (annotation_printed type _), bind_of_ok (expect_ofKinds (.op "=") _),
    pastTrivia_ofKinds_blank, past, bind_of_ok read, spanFrom_bind, pure_run]
  rfl

/-- A statement is read back by its sort; an expression or a value ends with the line, for the
next one starts with no operator. -/
theorem statementWith_printed {s : Stmt} (shaped : s.Shaped)
    (each : ∀ c, s = .cond c → c.ReadsBack cond) : s.ReadsBack (statementWith cond) := by
  intro more line apart
  cases shaped with
  | @expr e nested =>
    have starts := e.starts_printed.append (.blank .newline :: more)
    have read := expression_printed nested (line.follows (apart rfl)) literal_ne_block
    rw [Stmt.printed, statementWith_of_expr (starts.kind?_ne rfl) (starts.kind?_ne rfl)
      (starts.kind?_ne rfl), bind_of_ok read, Stmt.erase, pure_run]
  | @cond c _ =>
    obtain ⟨past, _, noElse⟩ := line.facts
    have read := each c rfl (.blank .newline :: more) (by rwa [pastTrivia_ofKinds_blank, past])
    have next : (ofKinds (c.printed ++ .blank .newline :: more)).kind? = some (.keyword .kwIf) := by
      obtain ⟨ks, printed⟩ := c.printed_eq
      rw [printed]
      rfl
    simp only [Stmt.printed, statementWith, here_bind, peek_bind, next, bind_of_ok read, pure_run,
      Stmt.erase]
  | @ret value span nested =>
    cases value with
    | none =>
      rw [Stmt.printed, Stmt.erase]
      rfl
    | some e =>
      have read := returnValue_printed (nested e rfl) (line.follows (apart rfl))
      simp only [Stmt.printed, List.cons_append, statementWith, here_bind, peek_bind,
        kind?_ofKinds_cons, bind_of_ok read, spanFrom_bind, pure_run, Stmt.erase]
      rfl
  | @bind ident type value span nested =>
    have read := @binding_printed ident type value _ nested (line.follows (apart rfl))
    simp only [Stmt.printed, List.cons_append, List.append_assoc, Stmt.erase]
    exact read

/-- What follows a block is read back, and nothing is if no `else` follows. -/
theorem otherwise_printed {o : Otherwise} {rest : List Kind}
    (noElse : (ofKinds rest).pastTrivia.kind? ≠ some (.keyword .kwElse)) (parted : o.Parted)
    (elseIf : ∀ c, o = .elseIf c → c.ReadsBack cond)
    (each : ∀ ss, o = .block ss → ∀ s ∈ ss, s.ReadsBack (statementWith cond)) :
    otherwise cond (ofKinds (o.printed ++ rest)) = .ok (o.erase, ofKinds rest) := by
  cases o with
  | nothing =>
    simp only [Otherwise.printed, List.nil_append, otherwise, peekPastTrivia_bind, if_neg noElse,
      pure_run, Otherwise.erase]
  | elseIf c =>
    have start : otherwise cond (ofKinds (.blank .space :: .keyword .kwElse :: .blank .space ::
        (c.printed ++ rest))) =
        (do return Otherwise.elseIf (← cond)) (ofKinds (c.printed ++ rest)) := by
      obtain ⟨ks, printed⟩ := c.printed_eq
      rw [printed]
      rfl
    simp only [Otherwise.printed, List.cons_append, start, bind_of_ok (elseIf c rfl rest noElse),
      pure_run, Otherwise.erase]
  | block ss =>
    have start : ∀ more : List Kind, otherwise cond (ofKinds (.blank .space :: .keyword .kwElse ::
        .blank .space :: .leftBrace :: more)) =
        (do return Otherwise.block (← block (statementWith cond))) (ofKinds (.leftBrace :: more)) :=
      fun _ => rfl
    simp only [Otherwise.printed, List.cons_append, List.append_assoc, List.nil_append, start,
      bind_of_ok (block_printed (each ss rfl) parted rest), pure_run, Otherwise.erase]

end

/-- What may stand before the block of a conditional: a brace ends the condition. -/
theorem follows_block (ks : List Kind) : Follows .block (.blank .space :: .leftBrace :: ks) :=
  ⟨⟨nofun, nofun⟩, nofun, fun _ => nofun⟩

/-- The conditionals inside a conditional are shorter, so one less is a bound for them. -/
theorem conditionalWithin_printed {bound : Nat} {c : Conditional} (shaped : c.Shaped)
    (parted : c.Parted) (enough : c.printed.length ≤ bound) :
    c.ReadsBack (conditionalWithin bound) := by
  induction bound generalizing c with
  | zero =>
    obtain ⟨ks, printed⟩ := c.printed_eq
    rw [printed] at enough
    cases enough
  | succ bound ih =>
    cases shaped with
    | @mk condition ss o span nested free each shapedRest =>
    obtain ⟨partedBlock, partedRest⟩ := parted
    rw [Conditional.printed] at enough
    simp only [List.length_cons, List.length_append] at enough
    -- A statement of a block inside is read back if the block is short enough.
    have lines : ∀ {ss : List Stmt}, (∀ s ∈ ss, s.Shaped) → Stmt.AllParted ss →
        (Stmt.printedAll ss).length ≤ bound →
        ∀ s ∈ ss, s.ReadsBack (statementWith (conditionalWithin bound)) := by
      intro ss shaped parted short s mem
      refine statementWith_printed (shaped s mem) ?_
      rintro c rfl
      have fits := Stmt.length_le_printedAll_of_mem mem
      rw [Stmt.printed] at fits
      cases shaped _ mem with
      | cond shaped => exact ih shaped (Stmt.parted_of_mem parted mem) (by omega)
    intro rest noElse
    have blockRead := fun more => block_printed (lines each partedBlock (by omega)) partedBlock more
    have restRead : otherwise (conditionalWithin bound) (ofKinds (o.printed ++ rest)) =
        .ok (o.erase, ofKinds rest) := by
      refine otherwise_printed noElse partedRest ?_ ?_
      · rintro c rfl
        rw [Otherwise.printed] at enough
        simp only [List.length_cons] at enough
        cases shapedRest with
        | elseIf shaped => exact ih shaped partedRest (by omega)
      · rintro ss rfl
        rw [Otherwise.printed] at enough
        simp only [List.length_cons, List.length_append] at enough
        cases shapedRest with
        | block shaped => exact lines shaped partedRest (by omega)
    have past := (condition.starts_printed.append (.blank .space :: .leftBrace :: .blank .newline ::
      (Stmt.printedAll ss ++ .rightBrace :: (o.printed ++ rest)))).pastTrivia
    have tested := expression_printed nested (follows_block (.blank .newline ::
      (Stmt.printedAll ss ++ .rightBrace :: (o.printed ++ rest)))) fun _ => free
    simp only [Conditional.printed, List.cons_append, List.append_assoc, conditionalWithin,
      here_bind, bind_of_ok (expect_ofKinds (.keyword .kwIf) _), bind_of_ok (expectBlank_ofKinds _),
      past, bind_of_ok tested, skipTrivia_bind, pastTrivia_ofKinds_blank,
      pastTrivia_ofKinds_cons (k := .leftBrace) rfl, bind_of_ok (blockRead _), bind_of_ok restRead,
      spanFrom_bind, pure_run, Conditional.erase]
    rfl

theorem statement_printed {s : Stmt} (shaped : s.Shaped) (parted : s.Parted) :
    s.ReadsBack statement := by
  refine statementWith_printed shaped ?_
  rintro c rfl rest noElse
  have enough := length_le_rest_ofKinds c.printed rest
  simp only [conditional, get_bind]
  cases shaped with
  | cond shaped => exact conditionalWithin_printed shaped parted enough rest noElse

/-! ## Declarations -/

theorem typedName_printed (b : Binding) (rest : List Kind) :
    typedName (ofKinds (b.printed ++ rest)) = .ok (b.erase, ofKinds rest) := rfl

theorem Binding.starts_printed (b : Binding) : Starts b.printed := ⟨_, _, rfl, rfl⟩

theorem bindings_printed (opening close : Kind) (closes : close.closes = true) (bs : List Binding)
    (rest : List Kind) :
    delimited opening close typedName
        (ofKinds (opening :: (spaced (bs.map Binding.printed) ++ close :: rest))) =
      .ok (bs.map Binding.erase, ofKinds rest) :=
  delimited_printed opening close closes Binding.starts_printed
    (fun b _ rest _ => typedName_printed b rest) rest

theorem structDecl_printed (d : StructDecl) (rest : List Kind) :
    structDecl (ofKinds (d.printed ++ rest)) = .ok (d.erase, ofKinds rest) := by
  have fields := bindings_printed .leftBrace .rightBrace rfl d.fields rest
  simp only [StructDecl.printed, List.cons_append, List.append_assoc, List.nil_append, structDecl,
    here_bind, bind_of_ok (expect_ofKinds (.keyword .kwStruct) _),
    bind_of_ok (expectBlank_ofKinds _), pastTrivia_ofKinds_cons (k := .ident d.ident.name) rfl,
    bind_of_ok (expectIdent_ofKinds d.ident.name _), skipTrivia_bind, pastTrivia_ofKinds_blank,
    pastTrivia_ofKinds_cons (k := .leftBrace) rfl, bind_of_ok fields, spanFrom_bind, pure_run]
  rfl

theorem returnType_printed (type : Option Ident) (rest : List Kind) :
    returnType (ofKinds (returnTypePrinted type ++ .blank .space :: .leftBrace :: rest)) =
      .ok (type.map Ident.erase, ofKinds (.blank .space :: .leftBrace :: rest)) := by
  cases type <;> rfl

/-- A printed function is read back, with its body as a block. -/
theorem fnDecl_printed {d : FnDecl} (shaped : ∀ s ∈ d.body, s.Shaped)
    (parted : Stmt.AllParted d.body) (rest : List Kind) :
    fnDecl (ofKinds (d.printed ++ rest)) = .ok (d.erase, ofKinds rest) := by
  have lines : ∀ s ∈ d.body, s.ReadsBack statement := fun s mem =>
    statement_printed (shaped s mem) (Stmt.parted_of_mem parted mem)
  have params := fun more => bindings_printed .leftParen .rightParen rfl d.params more
  simp only [FnDecl.printed, List.cons_append, List.append_assoc, fnDecl, here_bind,
    bind_of_ok (expect_ofKinds (.keyword .kwFn) _), bind_of_ok (expectBlank_ofKinds _),
    pastTrivia_ofKinds_cons (k := .ident d.ident.name) rfl,
    bind_of_ok (expectIdent_ofKinds d.ident.name _), bind_of_ok (params _),
    bind_of_ok (returnType_printed d.returnType _), spanFrom_bind, skipTrivia_bind,
    pastTrivia_ofKinds_blank, pastTrivia_ofKinds_cons (k := .leftBrace) rfl,
    bind_of_ok (block_printed lines parted _), pure_run, Stmt.eraseAll_eq_map]
  rfl

/-! ## Programs -/

namespace Program

theorem printed_struct (d : StructDecl) (structs : List StructDecl) (fns : List FnDecl) :
    Program.printed ⟨d :: structs, fns⟩ =
      d.printed ++ .blank .newline :: Program.printed ⟨structs, fns⟩ := by
  simp [Program.printed]

theorem printed_fn (d : FnDecl) (fns : List FnDecl) :
    Program.printed ⟨[], d :: fns⟩ = d.printed ++ .blank .newline :: Program.printed ⟨[], fns⟩ := by
  simp [Program.printed]

theorem pastTrivia_printed (p : Program) : (ofKinds p.printed).pastTrivia = ofKinds p.printed := by
  rcases p with ⟨_ | ⟨d, structs⟩, fns⟩
  · rcases fns with _ | ⟨d, fns⟩
    · rfl
    · rw [printed_fn]
      rfl
  · rw [printed_struct]
    rfl

/-- The structs are printed in front of the functions, and all are read back in these two
orders. -/
theorem declarations_printed {structs : List StructDecl} {fns : List FnDecl} {bound : Nat}
    (each : ∀ d ∈ fns, (∀ s ∈ d.body, s.Shaped) ∧ Stmt.AllParted d.body)
    (enough : structs.length + fns.length ≤ bound) :
    declarations bound (ofKinds (Program.printed ⟨structs, fns⟩)) =
      .ok (Program.erase ⟨structs, fns⟩, ofKinds []) := by
  induction structs generalizing bound with
  | nil =>
    induction fns generalizing bound with
    | nil => exact declarations_of_end rfl
    | cons d fns ih =>
      obtain ⟨⟨shaped, parted⟩, later⟩ := List.forall_mem_cons.1 each
      obtain _ | bound := bound
      · simp at enough
      have next : (ofKinds (d.printed ++ .blank .newline :: Program.printed ⟨[], fns⟩)).kind? =
          some (.keyword .kwFn) := rfl
      have rest := ih later (Nat.le_of_succ_le_succ enough)
      simp only [printed_fn, declarations, peek_bind, next,
        bind_of_ok (fnDecl_printed shaped parted _), skipTrivia_bind, pastTrivia_ofKinds_blank,
        pastTrivia_printed, bind_of_ok rest, pure_run]
      rfl
  | cons d structs ih =>
    obtain _ | bound := bound
    · simp at enough
    have next : (ofKinds (d.printed ++ .blank .newline :: Program.printed ⟨structs, fns⟩)).kind? =
        some (.keyword .kwStruct) := rfl
    have rest := @ih bound (by simp at enough ⊢; omega)
    simp only [printed_struct, declarations, peek_bind, next, bind_of_ok (structDecl_printed d _),
      skipTrivia_bind, pastTrivia_ofKinds_blank, pastTrivia_printed, bind_of_ok rest, pure_run]
    rfl

/-- Each declaration is printed with at least one token, so the tokens are a bound for the
declarations. -/
theorem length_le_printed (structs : List StructDecl) (fns : List FnDecl) :
    structs.length + fns.length ≤ (Program.printed ⟨structs, fns⟩).length := by
  induction structs with
  | nil =>
    induction fns with
    | nil => exact Nat.le_refl _
    | cons d fns ih =>
      simp only [printed_fn, List.length_append, List.length_cons] at ih ⊢
      omega
  | cons d structs ih =>
    simp only [printed_struct, List.length_append, List.length_cons] at ih ⊢
    omega

/-- The printed kinds of a program are read as the program. -/
theorem parse_printed {p : Program}
    (each : ∀ d ∈ p.fns, (∀ s ∈ d.body, s.Shaped) ∧ Stmt.AllParted d.body) :
    Program.parse (p.printed.map Kind.token) = .ok p.erase := by
  have enough : p.structs.length + p.fns.length ≤ (ofKinds p.printed).rest.length := by
    rw [length_rest_ofKinds]
    exact length_le_printed p.structs p.fns
  have read : program (ofKinds p.printed) = .ok (p.erase, ofKinds []) := by
    simp only [program, skipTrivia_bind, pastTrivia_printed, get_bind]
    exact declarations_printed each enough
  exact congrArg (Except.map Prod.fst) read

end Program

end Syntax

end NominalScript
