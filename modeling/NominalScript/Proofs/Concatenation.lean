import NominalScript.Proofs.Parse.Followed

/-!
# Programs one after the other

The declarations of two lists of tokens, one behind the other, are those of the first
and then those of the second.  This holds for any lists of tokens, so also where the
first ends with a comment or in the middle of a line.  One declaration is read as
before with more tokens behind it (`declaration_extends`), and what is read of the
second list does not depend on where the last token of the first ends
(`declarations_congr`).
-/

namespace NominalScript.Syntax

open NominalScript.Syntax.Parser

open Cursor (Any)

variable {c c' d : Cursor} {more : List Token} {p : Program} {m n : Nat}

/-- The declarations of one program, then those of another. -/
instance : Append Program := ⟨fun p q => ⟨p.structs ++ q.structs, p.fns ++ q.fns⟩⟩

theorem Program.append_def (p q : Program) :
    p ++ q = ⟨p.structs ++ q.structs, p.fns ++ q.fns⟩ := rfl

theorem Program.append_assoc (p q r : Program) : p ++ q ++ r = p ++ (q ++ r) := by
  simp [Program.append_def]

/-! ## One declaration -/

/-- The declaration that starts with a token of a kind, as the program that has no
other. -/
def declaration : Kind → Parser Program
  | .keyword .kwStruct => do return ⟨[← structDecl], []⟩
  | .keyword .kwFn => do return ⟨[], [← fnDecl]⟩
  | k => do fail (.unexpectedAtTop k) (← here)

/-- Up to the end of the tokens, declarations are read one by one. -/
theorem declarations_of_some {k : Kind} {bound : Nat} (ahead : c.kind? = some k) :
    declarations (bound + 1) c = (do
      let p ← declaration k
      let _ ← skipTrivia
      return p ++ (← declarations bound)) c := by
  simp only [declarations, peek_bind]
  generalize c.kind? = next at ahead
  split
  case h_1 => cases ahead
  case h_2 =>
    cases ahead
    simp only [declaration, bind_assoc, pure_bind]
    rfl
  case h_3 =>
    cases ahead
    simp only [declaration, bind_assoc, pure_bind]
    rfl
  case h_4 noStruct noFn =>
    cases ahead
    rw [declaration.eq_3 k noStruct noFn]
    rfl

theorem declaration_extends (k : Kind) : Extends more Any (declaration k) (declaration k) := by
  fun_cases declaration k with
  | case1 => exact structDecl_extends.finish fun _ _ => ⟨_, rfl, rfl⟩
  | case2 => exact fnDecl_extends.finish fun _ _ => ⟨_, rfl, rfl⟩
  | case3 k => exact .bindFail _ _

/-- A declaration takes up a token. -/
theorem shortens_declaration (k : Kind) : Shortens (declaration k) := by
  intro c p c'
  fun_cases declaration k with
  | case1 =>
    intro read
    obtain ⟨d, c₁, first, same⟩ := bind_eq_ok.1 read
    obtain ⟨_, rfl⟩ := pure_eq_ok.1 same
    exact (structDecl_reads first).length_lt
  | case2 =>
    intro read
    obtain ⟨d, c₁, first, same⟩ := bind_eq_ok.1 read
    obtain ⟨_, rfl⟩ := pure_eq_ok.1 same
    exact (fnDecl_reads first).1.length_lt
  | case3 k =>
    intro read
    obtain ⟨_, _, _, failed⟩ := bind_eq_ok.1 read
    exact absurd failed fail_ne_ok

/-- What stands before a declaration plays no part in it. -/
theorem declaration_congr {k : Kind} (same : c.rest = d.rest) (ahead : c.kind? = some k) :
    declaration k c = declaration k d := by
  obtain ⟨t, c₁, kind, takes⟩ := Cursor.exists_takes ahead
  rcases c with ⟨tokens, l⟩
  rcases d with ⟨tokens', l'⟩
  cases same
  cases takes.rest
  fun_cases declaration k <;> rfl

/-! ## Declarations -/

/-- The declarations that are read, without the place where that ends. -/
def declared (bound : Nat) (c : Cursor) : Except ParseError Program :=
  (declarations bound c).map Prod.fst

theorem declared_of_end {bound : Nat} (ended : c.kind? = none) :
    declared bound c = .ok ⟨[], []⟩ := by
  rw [declared, declarations_of_end ended]
  rfl

theorem declared_of_ok {k : Kind} {bound : Nat} (ahead : c.kind? = some k)
    (read : declaration k c = .ok (p, c')) :
    declared (bound + 1) c = (declared bound c'.pastTrivia).map (p ++ ·) := by
  rw [declared, declarations_of_some ahead, bind_of_ok read, skipTrivia_bind, declared]
  cases later : declarations bound c'.pastTrivia with
  | error e => rw [bind_of_error later]; rfl
  | ok r => rw [bind_of_ok later]; rfl

theorem declared_of_error {k : Kind} {bound : Nat} {e : ParseError} (ahead : c.kind? = some k)
    (failed : declaration k c = .error e) : declared (bound + 1) c = .error e := by
  rw [declared, declarations_of_some ahead, bind_of_error failed]
  rfl

/-- The declarations ahead depend on the tokens ahead alone: not on where the last
token ends, and not on a bound that is large enough. -/
theorem declared_congr (same : c.rest = d.rest) (enough : c.rest.length ≤ m)
    (enough' : d.rest.length ≤ n) : declared m c = declared n d := by
  induction m generalizing n c d with
  | zero =>
    have ended := List.length_eq_zero_iff.1 (Nat.le_zero.1 enough)
    rw [declared_of_end (Cursor.kind?_eq_none.2 ended),
      declared_of_end (Cursor.kind?_eq_none.2 (same ▸ ended))]
  | succ m ih =>
    have kinds : c.kind? = d.kind? := by rw [Cursor.kind?, same, Cursor.kind?]
    cases next : c.kind? with
    | none => rw [declared_of_end next, declared_of_end (kinds ▸ next)]
    | some k =>
      have next' := kinds ▸ next
      obtain _ | n := n
      · rw [Cursor.kind?, List.length_eq_zero_iff.1 (Nat.le_zero.1 enough')] at next'
        cases next'
      have first := declaration_congr same next
      cases read : declaration k c with
      | error e => rw [declared_of_error next read, declared_of_error next' (first ▸ read)]
      | ok r =>
        obtain ⟨p, c₁⟩ := r
        have shorter := shortens_declaration k c p c₁ read
        have fewer := c₁.reads_pastTrivia.suffix.length_le
        rw [same] at enough shorter
        rw [declared_of_ok next read, declared_of_ok next' (first ▸ read),
          ih (n := n) rfl (by omega) (by omega)]

theorem Cursor.rest_pastTrivia (c : Cursor) :
    c.pastTrivia.rest = c.rest.dropWhile fun t => t.kind.isTrivia :=
  Cursor.rest_afterRun _ _ _

/-- With nothing but trivia ahead, all that is read stands behind it. -/
theorem declared_followedBy_of_not_open (spent : ¬ c.Open) (read : declared m c.pastTrivia = .ok p)
    (enough : c.rest.length + more.length ≤ n) :
    declared n (c.followedBy more).pastTrivia = (Program.parse more).map (p ++ ·) := by
  have trivia : ∀ t ∈ c.rest, t.kind.isTrivia = true := by simpa [Cursor.Open] using spent
  have ended : c.pastTrivia.kind? = none := by
    rw [Cursor.kind?_pastTrivia, Cursor.kindPastTrivia?]
    simpa [Cursor.Open] using spent
  cases (declared_of_end ended).symm.trans read
  have fewer := (Cursor.reads_pastTrivia (c.followedBy more)).suffix.length_le
  have size : (c.followedBy more).rest.length = c.rest.length + more.length := List.length_append
  have same : (c.followedBy more).pastTrivia.rest =
      (Cursor.pastTrivia ⟨more, .origin⟩).rest := by
    rw [Cursor.rest_pastTrivia, Cursor.rest_pastTrivia]
    exact List.dropWhile_append_of_pos trivia
  have behind : declared n (c.followedBy more).pastTrivia = Program.parse more :=
    declared_congr same (by omega) (Nat.le_refl _)
  rw [behind]
  cases Program.parse more <;> rfl

/-- What is read past the trivia ahead is read again, and then what stands behind it. -/
theorem declared_followedBy (read : declared m c.pastTrivia = .ok p) (enough : c.rest.length ≤ m)
    (enough' : c.rest.length + more.length ≤ n) :
    declared n (c.followedBy more).pastTrivia = (Program.parse more).map (p ++ ·) := by
  -- By induction on the bound, of which each declaration uses up some.
  induction m generalizing n c p with
  | zero =>
    have ended := List.length_eq_zero_iff.1 (Nat.le_zero.1 enough)
    exact declared_followedBy_of_not_open (by simp [Cursor.Open, ended]) read enough'
  | succ m ih =>
    by_cases opened : c.Open
    · rw [opened.pastTrivia_followedBy]
      obtain ⟨t, _, takes⟩ := opened.pastTrivia.exists_takes
      have ahead := takes.kind?
      have ahead' := (opened.pastTrivia.kind?_followedBy more).trans ahead
      have size := opened.length_pos
      obtain _ | n := n
      · omega
      cases first : declaration t.kind c.pastTrivia with
      | error e => cases (declared_of_error ahead first).symm.trans read
      | ok r =>
        obtain ⟨p₁, c₁⟩ := r
        have again : ExtendsAt more (declaration t.kind) c.pastTrivia p₁ c₁ :=
          declaration_extends t.kind first trivial
        have shorter := shortens_declaration t.kind _ p₁ c₁ first
        have fewer := c.reads_pastTrivia.suffix.length_le
        rw [declared_of_ok ahead first] at read
        rw [declared_of_ok ahead' again.read]
        cases later : declared m c₁.pastTrivia with
        | error e =>
          rw [later] at read
          cases read
        | ok p₂ =>
          rw [later] at read
          cases read
          rw [ih later (by omega) (by omega)]
          cases Program.parse more with
          | error e => rfl
          | ok q => exact congrArg Except.ok (p₁.append_assoc p₂ q).symm
    · exact declared_followedBy_of_not_open opened read enough'

/-- The declarations of two lists of tokens, one behind the other, are those of the first
and then those of the second, all with the spans they have.  Where the second is no
program, neither is the whole, for the same fault at the same place. -/
theorem Program.parse_append {first : List Token} {p : Program}
    (parsed : Program.parse first = .ok p) (second : List Token) :
    Program.parse (first ++ second) =
      (Program.parse second).map fun q => ⟨p.structs ++ q.structs, p.fns ++ q.fns⟩ := by
  have size := (Cursor.reads_pastTrivia ⟨first, .origin⟩).suffix.length_le
  have whole := (Cursor.reads_pastTrivia ⟨first ++ second, .origin⟩).suffix.length_le
  have read : declared first.length (Cursor.pastTrivia ⟨first, .origin⟩) = .ok p :=
    (declared_congr rfl size (Nat.le_refl _)).trans parsed
  exact (declared_congr rfl (Nat.le_refl _) whole).trans
    (declared_followedBy read (Nat.le_refl _) (Nat.le_of_eq List.length_append.symm))

/-- The tokens of the following line, all said to stand at one place.

    fn f(){if a {}} // no line break
-/
def unfinishedLine : List Token :=
  List.map (fun kind => ⟨kind, ⟨2, 1⟩, ⟨1, 1⟩⟩) [.keyword .kwFn, .blank .space, .ident "f",
    .leftParen, .rightParen, .leftBrace, .keyword .kwIf, .blank .space, .ident "a",
    .blank .space, .leftBrace, .rightBrace, .rightBrace, .blank .space,
    .comment " no line break"]

/-- A struct behind a function and the comment after it, and an `else` there, which does
not go with the conditional of the function. -/
theorem Program.parse_append_unfinished :
    let here : Span := .source ⟨2, 1⟩ ⟨2, 2⟩
    let f : FnDecl := ⟨⟨"f", here⟩, [], none, here, [.cond (.mk (.var "a" here) [] .nothing here)],
      here⟩
    Program.parse unfinishedLine = .ok ⟨[], [f]⟩ ∧
      Program.parse (unfinishedLine ++ [⟨.keyword .kwStruct, ⟨7, 1⟩, ⟨1, 6⟩⟩,
        ⟨.blank .tab, ⟨7, 7⟩, ⟨1, 1⟩⟩, ⟨.ident "S", ⟨7, 8⟩, ⟨1, 1⟩⟩,
        ⟨.leftBrace, ⟨7, 9⟩, ⟨1, 1⟩⟩, ⟨.rightBrace, ⟨7, 10⟩, ⟨1, 1⟩⟩]) =
        .ok ⟨[⟨⟨"S", .source ⟨7, 8⟩ ⟨7, 9⟩⟩, [], .source ⟨7, 1⟩ ⟨7, 11⟩⟩], [f]⟩ ∧
      Program.parse (unfinishedLine ++ [⟨.keyword .kwElse, ⟨8, 1⟩, ⟨1, 4⟩⟩,
        ⟨.leftBrace, ⟨8, 6⟩, ⟨1, 1⟩⟩, ⟨.rightBrace, ⟨8, 7⟩, ⟨1, 1⟩⟩]) =
        .error ⟨.unexpectedAtTop (.keyword .kwElse), ⟨8, 1⟩⟩ := by
  intro here f
  have parsed : Program.parse unfinishedLine = .ok ⟨[], [f]⟩ := rfl
  exact ⟨parsed, Program.parse_append parsed _, Program.parse_append parsed _⟩

end NominalScript.Syntax
