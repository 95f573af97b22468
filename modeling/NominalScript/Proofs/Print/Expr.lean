import NominalScript.Proofs.Parse.Erase
import NominalScript.Proofs.Parse.Run
import NominalScript.Proofs.Print.Printer

/-!
# Reading printed expressions

The tokens of this module stand at the origin and take up no room, so what is read from
them has the same span everywhere: the printed kinds of a tree are read as the erased
tree.

What follows an expression must not carry it on (`Follows`).  Member accesses are read
one by one behind what they start from, so an expression that is no operation is told
by what its first token starts and by the accesses that are left (`Expr.Begins`).
-/

namespace NominalScript

/-- A token of the kind that stands at the origin and takes up no room. -/
def Kind.token (k : Kind) : Token := ⟨k, .origin, ⟨1, 0⟩⟩

theorem Kind.closes_iff {k : Kind} : k.closes = true ↔ k = .rightParen ∨ k = .rightBrace := by
  cases k <;> simp [Kind.closes]

namespace Syntax

open NominalScript.Syntax.Parser

/-! ## Tokens without places -/

namespace Cursor

/-- The cursor before tokens of the kinds. -/
def ofKinds (ks : List Kind) : Cursor := ⟨ks.map Kind.token, .origin⟩

theorem takes_ofKinds (k : Kind) (ks : List Kind) :
    (ofKinds (k :: ks)).Takes k.token (ofKinds ks) :=
  ⟨rfl, rfl⟩

theorem here_ofKinds (ks : List Kind) : (ofKinds ks).here = .origin := by
  cases ks <;> rfl

theorem kind?_ofKinds (ks : List Kind) : (ofKinds ks).kind? = ks.head? := by
  cases ks <;> rfl

theorem kind?_ofKinds_cons (k : Kind) (ks : List Kind) : (ofKinds (k :: ks)).kind? = some k :=
  kind?_ofKinds (k :: ks)

theorem length_rest_ofKinds (ks : List Kind) : (ofKinds ks).rest.length = ks.length :=
  List.length_map _

theorem length_le_rest_ofKinds (ks rest : List Kind) :
    ks.length ≤ (ofKinds (ks ++ rest)).rest.length := by
  rw [length_rest_ofKinds, List.length_append]
  exact Nat.le_add_right _ _

/-- Tokens at the origin are skipped without moving from there. -/
theorem skipWhile_ofKinds (p : Kind → Bool) (ks : List Kind) :
    (ofKinds ks).skipWhile p = ofKinds (ks.dropWhile p) := by
  induction ks with
  | nil => rfl
  | cons k ks ih =>
    cases run : p k with
    | true =>
      rw [List.dropWhile_cons, if_pos run, ← ih]
      exact if_pos run
    | false =>
      rw [List.dropWhile_cons, run]
      exact if_neg (by simp [Kind.token, run])

theorem pastTrivia_ofKinds (ks : List Kind) :
    (ofKinds ks).pastTrivia = ofKinds (ks.dropWhile Kind.isTrivia) :=
  skipWhile_ofKinds Kind.isTrivia ks

theorem pastTrivia_ofKinds_blank (b : Blank) (ks : List Kind) :
    (ofKinds (.blank b :: ks)).pastTrivia = (ofKinds ks).pastTrivia := by
  rw [pastTrivia_ofKinds, pastTrivia_ofKinds]
  rfl

theorem pastTrivia_ofKinds_cons {k : Kind} (other : k.isTrivia = false) (ks : List Kind) :
    (ofKinds (k :: ks)).pastTrivia = ofKinds (k :: ks) := by
  rw [pastTrivia_ofKinds, List.dropWhile_cons, other]
  rfl

end Cursor

open Cursor

theorem expect_ofKinds (k : Kind) (ks : List Kind) :
    expect k (ofKinds (k :: ks)) = .ok ((), ofKinds ks) :=
  expect_eq_ok.2 ⟨k.token, rfl, takes_ofKinds k ks⟩

theorem expectBlank_ofKinds (ks : List Kind) :
    expectBlank (ofKinds (.blank .space :: ks)) = .ok ((), (ofKinds ks).pastTrivia) :=
  expectBlank_eq_ok.2 ⟨rfl, pastTrivia_ofKinds_blank .space ks⟩

theorem expectIdent_ofKinds (name : String) (ks : List Kind) :
    expectIdent (ofKinds (.ident name :: ks)) = .ok (⟨name, .erased⟩, ofKinds ks) :=
  expectIdent_eq_ok.2 ⟨_, rfl, rfl, takes_ofKinds _ ks⟩

theorem Starts.pastTrivia {ks : List Kind} (starts : Starts ks) :
    (ofKinds ks).pastTrivia = ofKinds ks := by
  obtain ⟨k, ks', rfl, first⟩ := starts
  refine pastTrivia_ofKinds_cons ?_ ks'
  cases k <;> first | rfl | cases first

theorem Starts.kind?_ne {ks : List Kind} {k : Kind} (starts : Starts ks)
    (other : k.startsExpr = false) : (ofKinds ks).kind? ≠ some k := by
  obtain ⟨k', ks', rfl, first⟩ := starts
  intro next
  cases next
  cases first.symm.trans other

theorem Starts.kind?_ne_none {ks : List Kind} (starts : Starts ks) :
    (ofKinds ks).kind? ≠ none := by
  obtain ⟨k, ks', rfl, _⟩ := starts
  exact nofun

/-! ## Lists -/

/-- A comma, a closing parenthesis or a closing brace is next. -/
def Parts (rest : List Kind) : Prop :=
  ∃ k ks, rest = k :: ks ∧ (k = .comma ∨ k.closes = true)

section

variable {α : Type} {item : Parser α} {printed : α → List Kind} {view : α → α}
  {close : Kind}

theorem starts_spaced {ks : List Kind} (starts : Starts ks) (rest : List (List Kind)) :
    Starts (spaced (ks :: rest)) := by
  cases rest with
  | nil => rwa [spaced_singleton]
  | cons ks' rest =>
    rw [spaced_cons_cons]
    exact starts.append _

/-- Items that are read back each are read back as a list, with a comma and a space between
them. -/
theorem items_printed {as : List α} {rounds : Nat} (starts : ∀ a, Starts (printed a))
    (closes : close.closes = true)
    (each : ∀ a ∈ as, ∀ rest, Parts rest →
      item (ofKinds (printed a ++ rest)) = .ok (view a, ofKinds rest))
    (enough : as.length ≤ rounds) (rest : List Kind) :
    items close item rounds (ofKinds (spaced (as.map printed) ++ close :: rest)) =
      .ok (as.map view, ofKinds (close :: rest)) := by
  have facts : close.startsExpr = false ∧ close.isTrivia = false ∧ close ≠ .comma := by
    obtain rfl | rfl := Kind.closes_iff.1 closes <;> exact ⟨rfl, rfl, nofun⟩
  obtain ⟨closeStarts, closeTrivia, noComma⟩ := facts
  induction as generalizing rounds with
  | nil => exact items_of_stop (.inr rfl)
  | cons a as ih =>
    obtain ⟨first, later⟩ := List.forall_mem_cons.1 each
    obtain _ | rounds := rounds
    · cases enough
    have opens := (starts_spaced (starts a) (as.map printed)).append (close :: rest)
    have more : ¬ ((ofKinds (spaced ((a :: as).map printed) ++ close :: rest)).kind? = none ∨
        (ofKinds (spaced ((a :: as).map printed) ++ close :: rest)).kind? = some close) := by
      rintro (none | stop)
      · exact opens.kind?_ne_none none
      · exact opens.kind?_ne closeStarts stop
    simp only [items, peek_bind, if_neg more]
    cases as with
    | nil =>
      rw [List.map_singleton, spaced_singleton,
        bind_of_ok (first _ ⟨close, rest, rfl, .inr closes⟩)]
      have noneNext : (ofKinds (close :: rest)).pastTrivia.kind? ≠ some .comma := by
        rw [pastTrivia_ofKinds_cons closeTrivia, kind?_ofKinds]
        simpa using noComma
      rw [bind_of_ok (skipComma_eq_ok.2 (.inl ⟨rfl, noneNext, rfl⟩)),
        pastTrivia_ofKinds_cons closeTrivia]
      rfl
    | cons b as =>
      have opens' := (starts_spaced (starts b) (as.map printed)).append (close :: rest)
      have comma : skipComma (ofKinds (.comma :: .blank .space ::
          (spaced ((b :: as).map printed) ++ close :: rest))) =
          .ok (true, ofKinds (spaced ((b :: as).map printed) ++ close :: rest)) := by
        refine skipComma_eq_ok.2 (.inr ⟨rfl, Kind.comma.token, _, rfl, takes_ofKinds .comma _, ?_⟩)
        rw [pastTrivia_ofKinds_blank]
        exact opens'.pastTrivia
      rw [List.map_cons, List.map_cons, spaced_cons_cons, List.append_assoc, List.cons_append,
        List.cons_append, bind_of_ok (first _ ⟨.comma, _, rfl, .inl rfl⟩), ← List.map_cons,
        bind_of_ok comma]
      rw [if_pos rfl, bind_of_ok (ih later (by simpa using enough))]
      rfl

theorem length_le_spaced (printed : α → List Kind) (as : List α) :
    as.length ≤ (spaced (as.map printed)).length + 1 := by
  induction as with
  | nil => exact Nat.zero_le _
  | cons a as ih =>
    cases as with
    | nil => simp
    | cons b as =>
      rw [List.map_cons, List.map_cons, spaced_cons_cons, ← List.map_cons]
      simp only [List.length_cons, List.length_append] at ih ⊢
      omega

/-- An item is printed no longer than the list that it stands in, so a bound for the list is one
for the item. -/
theorem length_le_spaced_of_mem (printed : α → List Kind) {as : List α} {a : α} (mem : a ∈ as) :
    (printed a).length ≤ (spaced (as.map printed)).length := by
  induction as with
  | nil => cases mem
  | cons b as ih =>
    cases as with
    | nil =>
      cases List.mem_singleton.1 mem
      rw [List.map_singleton, spaced_singleton]
    | cons b' as =>
      rw [List.map_cons, List.map_cons, spaced_cons_cons, ← List.map_cons]
      simp only [List.length_append, List.length_cons]
      obtain rfl | later := List.mem_cons.1 mem
      · omega
      · have fits := ih later
        omega

/-- A printed list is read back between its brackets. -/
theorem delimited_printed (opening close : Kind) (closes : close.closes = true) {as : List α}
    (starts : ∀ a, Starts (printed a))
    (each : ∀ a ∈ as, ∀ rest, Parts rest →
      item (ofKinds (printed a ++ rest)) = .ok (view a, ofKinds rest)) (rest : List Kind) :
    delimited opening close item
        (ofKinds (opening :: (spaced (as.map printed) ++ close :: rest))) =
      .ok (as.map view, ofKinds rest) := by
  have past : (ofKinds (spaced (as.map printed) ++ close :: rest)).pastTrivia =
      ofKinds (spaced (as.map printed) ++ close :: rest) := by
    cases as with
    | nil =>
      refine pastTrivia_ofKinds_cons ?_ rest
      obtain rfl | rfl := Kind.closes_iff.1 closes <;> rfl
    | cons a as => exact ((starts_spaced (starts a) _).append _).pastTrivia
  have enough : as.length ≤ (ofKinds (spaced (as.map printed) ++ close :: rest)).rest.length := by
    have few := length_le_spaced printed as
    rw [length_rest_ofKinds, List.length_append, List.length_cons]
    omega
  simp only [delimited, bind_of_ok (expect_ofKinds opening _), skipTrivia_bind, past, get_bind,
    bind_of_ok (items_printed starts closes each enough rest), bind_of_ok (expect_ofKinds close _),
    pure_run]

end

/-! ## What follows an expression -/

/-- What follows does not make more of a name: no arguments, and no fields of a literal
where there may be a literal. -/
structure Behind (role : BraceRole) (rest : List Kind) : Prop where
  noParen : (ofKinds rest).kind? ≠ some .leftParen
  noBrace : role = .literal → (ofKinds rest).pastTrivia.kind? ≠ some .leftBrace

/-- What follows does not carry an expression on. -/
structure Follows (role : BraceRole) (rest : List Kind) : Prop extends Behind role rest where
  noPeriod : (ofKinds rest).kind? ≠ some .period
  noOperator : ∀ op, (ofKinds rest).pastTrivia.kind? ≠ some (.op op)

theorem Parts.follows {rest : List Kind} (parts : Parts rest) (role : BraceRole) :
    Follows role rest := by
  obtain ⟨k, ks, rfl, parts⟩ := parts
  have facts : k.isTrivia = false ∧ k ≠ .leftParen ∧ k ≠ .leftBrace ∧ k ≠ .period ∧
      ∀ op, k ≠ .op op := by
    rw [Kind.closes_iff] at parts
    obtain rfl | rfl | rfl := parts <;> exact ⟨rfl, nofun, nofun, nofun, nofun⟩
  obtain ⟨other, noParen, noBrace, noPeriod, noOperator⟩ := facts
  have next : (ofKinds (k :: ks)).kind? = some k := kind?_ofKinds _
  refine ⟨⟨?_, ?_⟩, ?_, ?_⟩ <;> simp [pastTrivia_ofKinds_cons other, next, noParen, noBrace,
    noPeriod, noOperator]

theorem literal_ne_block {p : Prop} : BraceRole.literal = .block → p := nofun

theorem behind_period (role : BraceRole) (ks : List Kind) : Behind role (.period :: ks) :=
  ⟨nofun, fun _ => nofun⟩

theorem behind_operator (role : BraceRole) (op : String) (ks : List Kind) :
    Behind role (.blank .space :: .op op :: ks) :=
  ⟨nofun, fun _ => nofun⟩

theorem kind?_blank_ne_period (ks : List Kind) :
    (ofKinds (.blank .space :: ks)).kind? ≠ some .period :=
  nofun

/-! ## Expressions -/

/-- The printed expression is read back. -/
def Expr.ReadsBack (e : Expr) : Prop :=
  ∀ (role : BraceRole) (rest : List Kind) (bound : Nat), (role = .block → e.LiteralFree) →
    Follows role rest → e.printed.length ≤ bound →
    expressionWithin bound role (ofKinds (e.printed ++ rest)) = .ok (e.erase, ofKinds rest)

/-- Read behind its first token, the printed expression is an expression with as many
member accesses left to be read. -/
def Expr.Begins (e : Expr) : Prop :=
  ∀ (role : BraceRole) (rest : List Kind) (bound : Nat), (role = .block → e.LiteralFree) →
    Behind role rest → e.printed.length ≤ bound + 1 →
    ∃ k ks first accesses c, e.printed = k :: ks ∧
      primary (expressionWithin bound) role k.token (ofKinds (ks ++ rest)) = .ok (first, c) ∧
      c.rest.length = rest.length + 2 * accesses ∧
      ∀ rounds, members .origin (rounds + accesses) first c =
        members .origin rounds e.erase (ofKinds rest)

section

variable {e : Expr}

/-- An expression that is no member access is read by what its first token starts. -/
theorem Expr.begins_of_primary
    (read : ∀ (role : BraceRole) (rest : List Kind) (bound : Nat), (role = .block → e.LiteralFree) →
      Behind role rest → e.printed.length ≤ bound + 1 → ∃ k ks, e.printed = k :: ks ∧
        primary (expressionWithin bound) role k.token (ofKinds (ks ++ rest)) =
          .ok (e.erase, ofKinds rest)) : e.Begins := by
  intro role rest bound free behind enough
  obtain ⟨k, ks, printed, first⟩ := read role rest bound free behind enough
  exact ⟨k, ks, e.erase, 0, ofKinds rest, printed, first, length_rest_ofKinds rest, fun _ => rfl⟩

/-- A printed call is read back with its arguments; struct literals may stand in these wherever
the call does. -/
theorem Expr.begins_call {fn : Ident} {args : List Expr} {span : Span}
    (each : ∀ a ∈ args, a.ReadsBack) : (Expr.call fn args span).Begins := by
  refine Expr.begins_of_primary ?_
  intro role rest bound _ _ enough
  rw [Expr.printed, Expr.printedAll_eq_map] at enough ⊢
  refine ⟨_, _, rfl, ?_⟩
  have inside : ∀ a ∈ args, ∀ rest, Parts rest →
      expressionWithin bound .literal (ofKinds (a.printed ++ rest)) =
        .ok (a.erase, ofKinds rest) := by
    intro a mem rest parts
    have fits := length_le_spaced_of_mem Expr.printed mem
    simp only [List.length_cons, List.length_append] at enough
    exact each a mem .literal rest bound literal_ne_block (parts.follows .literal) (by omega)
  have listed := delimited_printed .leftParen .rightParen rfl Expr.starts_printed inside rest
  simp only [List.cons_append, List.append_assoc, List.nil_append, primary, Kind.token, named,
    peek_bind, kind?_ofKinds_cons, if_true, bind_of_ok listed, spanFrom_bind, pure_run, Expr.erase,
    Expr.eraseAll_eq_map]
  rfl

theorem Expr.begins_var {name : String} {span : Span} : (Expr.var name span).Begins := by
  refine Expr.begins_of_primary ?_
  intro role rest bound _ behind _
  refine ⟨_, _, rfl, ?_⟩
  have noLiteral : ¬ (role = .literal ∧ (ofKinds rest).pastTrivia.kind? = some .leftBrace) :=
    fun literal => behind.noBrace literal.1 literal.2
  simp only [List.nil_append, primary, Kind.token, named, peek_bind, if_neg behind.noParen,
    peekPastTrivia_bind, if_neg noLiteral]
  rfl

/-- In parentheses an expression is read back whatever may stand around them, struct literals
and operators included. -/
theorem Expr.begins_paren {inner : Expr} {span : Span} (inside : inner.ReadsBack) :
    (Expr.paren inner span).Begins := by
  refine Expr.begins_of_primary ?_
  intro role rest bound _ _ enough
  rw [Expr.printed] at enough ⊢
  refine ⟨_, _, rfl, ?_⟩
  have closing : Parts (.rightParen :: rest) := ⟨_, _, rfl, .inr rfl⟩
  simp only [List.length_cons, List.length_append] at enough
  have follows := closing.follows .literal
  have read := inside .literal (.rightParen :: rest) bound literal_ne_block follows (by omega)
  have past := (inner.starts_printed.append (.rightParen :: rest)).pastTrivia
  simp only [List.append_assoc, List.cons_append, List.nil_append, primary, Kind.token,
    skipTrivia_bind, past, bind_of_ok read, pastTrivia_ofKinds_cons (k := .rightParen) rfl,
    bind_of_ok (expect_ofKinds .rightParen rest)]
  rfl

theorem fieldInit_printed {f : FieldInit Expr} {bound : Nat} {rest : List Kind}
    (value : f.value.ReadsBack) (parts : Parts rest) (enough : f.value.printed.length ≤ bound) :
    fieldInit (expressionWithin bound .literal) (ofKinds (f.printed ++ rest)) =
      .ok (f.erase, ofKinds rest) := by
  have read := value .literal rest bound literal_ne_block (parts.follows .literal) enough
  have past := (f.value.starts_printed.append rest).pastTrivia
  simp only [FieldInit.printed, List.cons_append, fieldInit, here_bind,
    bind_of_ok (expectIdent_ofKinds f.ident.name _), skipTrivia_bind,
    pastTrivia_ofKinds_cons (k := .colon) rfl, bind_of_ok (expect_ofKinds .colon _),
    pastTrivia_ofKinds_blank, past, bind_of_ok read, spanFrom_bind, pure_run]
  rfl

/-- A printed struct literal is read back where one may stand, which a brace that starts a block
rules out. -/
theorem Expr.begins_init {type : Ident} {fields : List (FieldInit Expr)} {fieldsSpan span : Span}
    (each : ∀ f ∈ fields, f.value.ReadsBack) : (Expr.init type fields fieldsSpan span).Begins := by
  refine Expr.begins_of_primary ?_
  intro role rest bound free _ enough
  rw [Expr.printed, Expr.printedFields_eq_map] at enough ⊢
  refine ⟨_, _, rfl, ?_⟩
  have inside : ∀ f ∈ fields, ∀ rest, Parts rest →
      fieldInit (expressionWithin bound .literal) (ofKinds (f.printed ++ rest)) =
        .ok (f.erase, ofKinds rest) := by
    intro f mem rest parts
    have fits := length_le_spaced_of_mem FieldInit.printed mem
    rw [FieldInit.printed] at fits
    simp only [List.length_cons, List.length_append] at enough fits
    exact fieldInit_printed (each f mem) parts (by omega)
  have starts : ∀ f : FieldInit Expr, Starts f.printed := fun f => ⟨_, _, rfl, rfl⟩
  have listed := delimited_printed .leftBrace .rightBrace rfl starts inside rest
  have literal : role = .literal := by
    cases role with
    | literal => rfl
    | block => exact absurd (free rfl) id
  simp only [List.cons_append, List.append_assoc, List.nil_append, primary, Kind.token, named,
    peek_bind, kind?_ofKinds_cons, Option.some.injEq, reduceCtorEq, if_false, peekPastTrivia_bind,
    pastTrivia_ofKinds_blank, pastTrivia_ofKinds_cons (k := .leftBrace) rfl, literal, true_and,
    if_true, skipTrivia_bind, here_bind, bind_of_ok listed, spanFrom_bind, pure_run, Expr.erase,
    Expr.eraseFields_eq_map, here_ofKinds]
  rfl

/-- One more member access is left to be read behind those of the base. -/
theorem Expr.begins_member {base : Expr} {field : Ident} {span : Span} (begins : base.Begins) :
    (Expr.member base field span).Begins := by
  intro role rest bound free behind enough
  have behind' := behind_period role (.ident field.name :: rest)
  rw [Expr.printed, List.length_append] at enough
  obtain ⟨k, ks, first, accesses, c, printed, read, left, lengthens⟩ :=
    begins role _ bound free behind' (by omega)
  refine ⟨k, ks ++ [.period, .ident field.name], first, accesses + 1, c, ?_, ?_, ?_, ?_⟩
  · rw [Expr.printed, printed, List.cons_append]
  · rw [List.append_assoc]
    exact read
  · rw [left, List.length_cons, List.length_cons]
    omega
  · intro rounds
    rw [Nat.add_comm accesses 1, ← Nat.add_assoc, lengthens]
    simp only [members, peek_bind, kind?_ofKinds_cons, if_true, next_bind (takes_ofKinds .period _),
      bind_of_ok (expectIdent_ofKinds field.name rest), spanFrom_bind]
    rfl

/-- Once the member accesses are read, an operator may follow. -/
theorem Expr.Begins.expressionWithin {role : BraceRole} {rest : List Kind} {bound : Nat}
    (begins : e.Begins) (free : role = .block → e.LiteralFree) (behind : Behind role rest)
    (noPeriod : (ofKinds rest).kind? ≠ some .period) (enough : e.printed.length ≤ bound + 1) :
    Syntax.expressionWithin (bound + 1) role (ofKinds (e.printed ++ rest)) =
      operation (Syntax.expressionWithin bound role) .origin e.erase (ofKinds rest) := by
  obtain ⟨k, ks, first, accesses, c, printed, read, left, lengthens⟩ :=
    begins role rest bound free behind enough
  -- Two tokens are left for each access, so there are rounds enough for all of them.
  have rounds : c.rest.length = rest.length + accesses + accesses := by omega
  have lengthened : members .origin c.rest.length first c = .ok (e.erase, ofKinds rest) := by
    rw [rounds, lengthens, members_of_none noPeriod]
  simp only [printed, List.cons_append, Syntax.expressionWithin, here_bind, here_ofKinds,
    next_bind (takes_ofKinds k _), bind_of_ok read, get_bind, bind_of_ok lengthened]

theorem Expr.Begins.readsBack (begins : e.Begins) : e.ReadsBack := by
  intro role rest bound free follows enough
  obtain ⟨k, ks, printed, _⟩ := e.starts_printed
  obtain _ | bound := bound
  · rw [printed] at enough
    cases enough
  · rw [begins.expressionWithin free follows.toBehind follows.noPeriod enough,
      operation_of_none follows.noOperator]

/-- A prefix operator is printed right in front of its operand, with no blank that would be
refused, and takes it whole. -/
theorem Expr.readsBack_unary {op : Ident} {operand : Expr} {span : Span}
    (inside : operand.ReadsBack) : (Expr.unary op operand span).ReadsBack := by
  intro role rest bound free follows enough
  rw [Expr.printed] at enough ⊢
  obtain _ | bound := bound
  · cases enough
  have read := inside role rest bound free follows (Nat.le_of_succ_le_succ enough)
  have attached :
      ¬ ((ofKinds (operand.printed ++ rest)).kind?.map Kind.isTrivia).getD false = true := by
    obtain ⟨k, ks, same, first⟩ := operand.starts_printed.append rest
    rw [same]
    cases k <;> first | exact Bool.false_ne_true | cases first
  have begun : primary (expressionWithin bound) role (Kind.op op.name).token
      (ofKinds (operand.printed ++ rest)) =
        .ok (.unary op.erase operand.erase .erased, ofKinds rest) := by
    simp only [primary, Kind.token, peek_bind, if_neg attached, bind_of_ok read, spanFrom_bind,
      pure_run]
    rfl
  simp only [List.cons_append, expressionWithin, here_bind, here_ofKinds,
    next_bind (takes_ofKinds (.op op.name) _), bind_of_ok begun, get_bind,
    bind_of_ok (members_of_none follows.noPeriod), operation_of_none follows.noOperator, Expr.erase]

/-- An operator is printed with a blank on both sides, as it is read, and takes all that is on
its right. -/
theorem Expr.readsBack_binary {op : Ident} {left right : Expr} {span : Span} (begins : left.Begins)
    (inside : right.ReadsBack) : (Expr.binary op left right span).ReadsBack := by
  intro role rest bound free follows enough
  rw [Expr.printed, List.length_append] at enough
  simp only [List.length_cons] at enough
  obtain _ | bound := bound
  · cases enough
  have behind := behind_operator role op.name (.blank .space :: (right.printed ++ rest))
  have read := inside role rest bound (fun isBlock => (free isBlock).2) follows (by omega)
  have past := (right.starts_printed.append rest).pastTrivia
  have takes : (ofKinds (.blank .space :: .op op.name :: .blank .space ::
      (right.printed ++ rest))).pastTrivia.Takes (Kind.token (.op op.name))
      (ofKinds (.blank .space :: (right.printed ++ rest))) := takes_ofKinds _ _
  rw [Expr.printed, List.append_assoc, List.cons_append, List.cons_append, List.cons_append,
    begins.expressionWithin (fun isBlock => (free isBlock).1) behind (kind?_blank_ne_period _)
      (by omega),
    operation_of_some rfl takes, if_neg (fun lopsided => lopsided rfl), pastTrivia_ofKinds_blank,
    past, bind_of_ok read]
  rfl

end

/-- An expression whose operators lean to the right is read back. -/
theorem Expr.readsBack_of_nested {e : Expr} (nested : e.RightNested) :
    (e.isOperation = false → e.Begins) ∧ e.ReadsBack := by
  have of_begins : ∀ {e : Expr}, e.Begins → (e.isOperation = false → e.Begins) ∧ e.ReadsBack :=
    fun begins => ⟨fun _ => begins, begins.readsBack⟩
  induction e using Expr.inductOn with
  | str value span => exact of_begins (Expr.begins_of_primary fun _ _ _ _ _ _ => ⟨_, _, rfl, rfl⟩)
  | int value span => exact of_begins (Expr.begins_of_primary fun _ _ _ _ _ _ => ⟨_, _, rfl, rfl⟩)
  | call fn args span ih =>
    cases nested with
    | call each => exact of_begins (Expr.begins_call fun a mem => (ih a mem (each a mem)).2)
  | var name span => exact of_begins Expr.begins_var
  | unary op operand span ih =>
    cases nested with
    | unary inside => exact ⟨nofun, Expr.readsBack_unary (ih inside).2⟩
  | binary op left right span ihl ihr =>
    cases nested with
    | binary noOperation first second =>
      exact ⟨nofun, Expr.readsBack_binary ((ihl first).1 noOperation) (ihr second).2⟩
  | paren inner span ih =>
    cases nested with
    | paren inside => exact of_begins (Expr.begins_paren (ih inside).2)
  | init type fields fieldsSpan span ih =>
    cases nested with
    | init each => exact of_begins (Expr.begins_init fun f mem => (ih f mem (each f mem)).2)
  | member base field span ih =>
    cases nested with
    | member noOperation inside => exact of_begins (Expr.begins_member ((ih inside).1 noOperation))

theorem expression_printed {e : Expr} {role : BraceRole} {rest : List Kind}
    (nested : e.RightNested) (follows : Follows role rest) (free : role = .block → e.LiteralFree) :
    expression role (ofKinds (e.printed ++ rest)) = .ok (e.erase, ofKinds rest) := by
  simp only [expression, get_bind]
  exact (Expr.readsBack_of_nested nested).2 role rest _ free follows (length_le_rest_ofKinds _ rest)

end Syntax

end NominalScript
