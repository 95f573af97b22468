import NominalScript.Proofs.Parse
import NominalScript.Proofs.Parse.Erase
import NominalScript.Proofs.Parse.Run

/-!
# Two runs of a parser

From alike cursors a parser reads the same tree up to spans and ends at alike cursors
again, or it fails from both.  The bounds of the two runs need not be the same, for the
trivia of the two texts are not; it is enough that each is a bound for its own tokens.

Cursors at the end of the tokens are alike whatever trivia they see.  So a step that asks
for a blank or a newline may fail from one of them and succeed from the other
(`AgreeOrEnd`); but then something is left to be read, and both runs fail in the end.
-/

namespace NominalScript.Syntax

open NominalScript.Syntax.Parser

variable {α β γ δ : Type} {c d c₁ d₁ c' d' : Cursor} {view : α → γ} {view' : β → δ}

/-! ## Agreement -/

/-- Two cursors have moved on from two others, and are alike. -/
structure Onward (c d c' d' : Cursor) : Prop where
  alike : c'.Alike d'
  left : c'.rest.length ≤ c.rest.length
  right : d'.rest.length ≤ d.rest.length

namespace Onward

theorem refl (alike : c.Alike d) : Onward c d c d := ⟨alike, Nat.le_refl _, Nat.le_refl _⟩

theorem trans (first : Onward c d c₁ d₁) (then_ : Onward c₁ d₁ c' d') : Onward c d c' d' where
  alike := then_.alike
  left := Nat.le_trans then_.left first.left
  right := Nat.le_trans then_.right first.right

theorem pastTrivia (alike : c.Alike d) : Onward c d c.pastTrivia d.pastTrivia where
  alike := alike.pastTrivia
  left := c.reads_pastTrivia.suffix.length_le
  right := d.reads_pastTrivia.suffix.length_le

theorem toLineEnd (alike : c.Alike d) : Onward c d c.toLineEnd d.toLineEnd where
  alike := alike.toLineEnd
  left := c.reads_toLineEnd.suffix.length_le
  right := d.reads_toLineEnd.suffix.length_le

theorem of_takes {t t' : Token} (takes : c.Takes t c₁) (takes' : d.Takes t' d₁)
    (alike : c₁.Alike d₁) : Onward c d c₁ d₁ :=
  ⟨alike, takes.suffix.length_le, takes'.suffix.length_le⟩

end Onward

theorem Cursor.Takes.length_lt {t : Token} (takes : c.Takes t c₁) :
    c₁.rest.length < c.rest.length := by
  rw [takes.rest]
  exact Nat.lt_succ_self _

/-- Two runs, started at `c` and `d`, both fail, or they have results of the same view
and end at alike cursors. -/
inductive Agree (view : α → γ) (c d : Cursor) :
    Except ParseError (α × Cursor) → Except ParseError (α × Cursor) → Prop
  | ok {a b : α} {c' d' : Cursor} : view a = view b → Onward c d c' d' →
    Agree view c d (.ok (a, c')) (.ok (b, d'))
  | error {e f : ParseError} : Agree view c d (.error e) (.error f)

/-- Two parsers agree on alike cursors with no more tokens than are given. -/
def AgreeWithin (view : α → γ) (m n : Nat) (p q : Parser α) : Prop :=
  ∀ {c d : Cursor}, c.Alike d → c.rest.length ≤ m → d.rest.length ≤ n →
    Agree view c d (p c) (q d)

namespace Agree

theorem of_ne_ok {r s : Except ParseError (α × Cursor)} (left : ∀ a, r ≠ .ok a)
    (right : ∀ a, s ≠ .ok a) : Agree view c d r s := by
  match r, s with
  | .ok a, _ => exact absurd rfl (left a)
  | .error e, .ok b => exact absurd rfl (right b)
  | .error e, .error f => exact .error

theorem further {r s : Except ParseError (α × Cursor)} (onward : Onward c d c₁ d₁)
    (agree : Agree view c₁ d₁ r s) : Agree view c d r s := by
  cases agree with
  | error => exact .error
  | ok same later => exact .ok same (onward.trans later)

/-- Both runs fail at their first step, or both go on from where it ends. -/
theorem bind_read {p q : Parser α} {f g : α → Parser β} (first : Agree view c d (p c) (q d))
    (then_ : ∀ {a b c' d'}, p c = .ok (a, c') → q d = .ok (b, d') → view a = view b →
      Onward c d c' d' → Agree view' c' d' (f a c') (g b d')) :
    Agree view' c d ((p >>= f) c) ((q >>= g) d) := by
  generalize left : p c = r at first
  generalize right : q d = s at first
  cases first with
  | error => exact .of_ne_ok (bind_ne_ok left f) (bind_ne_ok right g)
  | ok same onward =>
    rw [bind_of_ok left, bind_of_ok right]
    exact (then_ left right same onward).further onward

theorem bind {p q : Parser α} {f g : α → Parser β} (first : Agree view c d (p c) (q d))
    (then_ : ∀ {a b c' d'}, view a = view b → Onward c d c' d' →
      Agree view' c' d' (f a c') (g b d')) :
    Agree view' c d ((p >>= f) c) ((q >>= g) d) :=
  first.bind_read fun _ _ same onward => then_ same onward

end Agree

/-! ## The end of the tokens -/

/-- Two runs agree, or each of them fails or has come to the end of its tokens. -/
inductive AgreeOrEnd (view : α → γ) (c d : Cursor) :
    Except ParseError (α × Cursor) → Except ParseError (α × Cursor) → Prop
  | agree {r s : Except ParseError (α × Cursor)} : Agree view c d r s → AgreeOrEnd view c d r s
  | ended {r s : Except ParseError (α × Cursor)} :
    (∀ a c', r = .ok (a, c') → c'.rest = []) → (∀ b d', s = .ok (b, d') → d'.rest = []) →
    AgreeOrEnd view c d r s

/-- A parser that reads something fails at the end of the tokens. -/
def FailsAtEnd (p : Parser α) : Prop :=
  ∀ (c : Cursor) (r : α × Cursor), c.pastTrivia.rest = [] → p c ≠ .ok r

theorem FailsAtEnd.bind {p : Parser α} (fails : FailsAtEnd p) (f : α → Parser β) :
    FailsAtEnd (p >>= f) := by
  intro c r ended read
  obtain ⟨a, c₁, first, _⟩ := bind_eq_ok.1 read
  exact fails c _ ended first

theorem Cursor.Takes.not_ended {t : Token} (takes : c.Takes t c₁)
    (other : t.kind.isTrivia = false) : c.pastTrivia.rest ≠ [] := by
  rw [pastTrivia_of_trivia_nil (trivia_of_kind? takes.kind? other), takes.rest]
  exact List.cons_ne_nil _ _

theorem Cursor.pastTrivia_rest_of_ended (ended : c.rest = []) : c.pastTrivia.rest = [] := by
  rcases c with ⟨rest, lastEnd⟩
  cases ended
  rfl

theorem AgreeOrEnd.further {r s : Except ParseError (α × Cursor)} (onward : Onward c d c₁ d₁)
    (agree : AgreeOrEnd view c₁ d₁ r s) : AgreeOrEnd view c d r s := by
  cases agree with
  | agree agree => exact .agree (agree.further onward)
  | ended left right => exact .ended left right

/-- Two runs that agree may go on with steps that agree or come to the end. -/
theorem Agree.bindOrEnd {p q : Parser α} {f g : α → Parser β}
    (first : Agree view c d (p c) (q d))
    (then_ : ∀ {a b c' d'}, p c = .ok (a, c') → q d = .ok (b, d') → view a = view b →
      Onward c d c' d' → AgreeOrEnd view' c' d' (f a c') (g b d')) :
    AgreeOrEnd view' c d ((p >>= f) c) ((q >>= g) d) := by
  generalize left : p c = r at first
  generalize right : q d = s at first
  cases first with
  | error => exact .agree (.of_ne_ok (bind_ne_ok left f) (bind_ne_ok right g))
  | ok same onward =>
    rw [bind_of_ok left, bind_of_ok right]
    exact (then_ left right same onward).further onward

namespace AgreeOrEnd

/-- What cannot be read at the end of the tokens makes both runs fail there. -/
theorem bind {p q : Parser α} {f g : α → Parser β} (first : AgreeOrEnd view c d (p c) (q d))
    (left : ∀ a, FailsAtEnd (f a)) (right : ∀ b, FailsAtEnd (g b))
    (then_ : ∀ {a b c' d'}, view a = view b → Onward c d c' d' →
      Agree view' c' d' (f a c') (g b d')) :
    Agree view' c d ((p >>= f) c) ((q >>= g) d) := by
  cases first with
  | agree agree => exact agree.bind then_
  | ended ended ended' =>
    refine .of_ne_ok ?_ ?_
    · intro r read
      obtain ⟨a, c₁, first, read⟩ := bind_eq_ok.1 read
      exact left a c₁ r (Cursor.pastTrivia_rest_of_ended (ended a c₁ first)) read
    · intro r read
      obtain ⟨b, d₁, first, read⟩ := bind_eq_ok.1 read
      exact right b d₁ r (Cursor.pastTrivia_rest_of_ended (ended' b d₁ first)) read

/-- What stays at the end of the tokens leaves both runs there. -/
theorem bindOrEnd {p q : Parser α} {f g : α → Parser β}
    (first : AgreeOrEnd view c d (p c) (q d))
    (left : ∀ a c b c', c.rest = [] → f a c = .ok (b, c') → c'.rest = [])
    (right : ∀ a c b c', c.rest = [] → g a c = .ok (b, c') → c'.rest = [])
    (then_ : ∀ {a b c' d'}, p c = .ok (a, c') → q d = .ok (b, d') → view a = view b →
      Onward c d c' d' → AgreeOrEnd view' c' d' (f a c') (g b d')) :
    AgreeOrEnd view' c d ((p >>= f) c) ((q >>= g) d) := by
  cases first with
  | agree agree => exact agree.bindOrEnd then_
  | ended ended ended' =>
    refine .ended ?_ ?_
    · intro b c' read
      obtain ⟨a, c₁, first, read⟩ := bind_eq_ok.1 read
      exact left a c₁ b c' (ended a c₁ first) read
    · intro b d' read
      obtain ⟨a, d₁, first, read⟩ := bind_eq_ok.1 read
      exact right a d₁ b d' (ended' a d₁ first) read

/-- A step that skips trivia, if these are as they should be. -/
theorem of_skip {p : Parser Unit} {Right : Cursor → Prop}
    (run : ∀ {c c' u}, p c = .ok (u, c') ↔ Right c ∧ c.pastTrivia = c') (alike : c.Alike d)
    (same : c.gap = d.gap → (Right c ↔ Right d)) : AgreeOrEnd id c d (p c) (p d) := by
  obtain ⟨ended, ended'⟩ | ⟨_, _, _, _, _, _, _, gap, _⟩ := alike.cases
  · refine .ended ?_ ?_
    · intro u c' read
      obtain ⟨_, rfl⟩ := run.1 read
      exact ended
    · intro u d' read
      obtain ⟨_, rfl⟩ := run.1 read
      exact ended'
  · refine .agree ?_
    by_cases right : Right c
    · rw [run.2 ⟨right, rfl⟩, run.2 ⟨(same gap).1 right, rfl⟩]
      exact .ok (Eq.refl ()) (.pastTrivia alike)
    · refine .of_ne_ok ?_ ?_
      · intro a read
        exact right (run.1 read).1
      · intro a read
        exact right ((same gap).2 (run.1 read).1)

end AgreeOrEnd

/-! ## Steps -/

/-- A token that is no trivia is ahead of both cursors or of neither. -/
theorem agree_expect {kind : Kind} (alike : c.Alike d) (other : kind.isTrivia = false) :
    Agree id c d (expect kind c) (expect kind d) := by
  by_cases found : ∃ t c₁, t.kind = kind ∧ c.Takes t c₁
  · obtain ⟨t, c₁, rfl, takes⟩ := found
    obtain ⟨t', d₁, kind', takes', alike₁⟩ := alike.takes takes other
    rw [expect_eq_ok.2 ⟨t, rfl, takes⟩, expect_eq_ok.2 ⟨t', kind', takes'⟩]
    exact .ok (Eq.refl ()) (.of_takes takes takes' alike₁)
  · refine .of_ne_ok ?_ ?_
    · intro a read
      obtain ⟨t, kind, takes⟩ := expect_eq_ok.1 read
      exact found ⟨t, _, kind, takes⟩
    · intro a read
      obtain ⟨t', rfl, takes'⟩ := expect_eq_ok.1 read
      obtain ⟨t, c₁, kind, takes, _⟩ := alike.symm.takes takes' other
      exact found ⟨t, c₁, kind, takes⟩

/-- Where a name is ahead of the one cursor it is ahead of the other, and both read it. -/
theorem agree_expectIdent (alike : c.Alike d) :
    Agree Ident.erase c d (expectIdent c) (expectIdent d) := by
  by_cases found : ∃ t name c₁, t.kind = .ident name ∧ c.Takes t c₁
  · obtain ⟨t, name, c₁, kind, takes⟩ := found
    obtain ⟨t', d₁, kind', takes', alike₁⟩ := alike.takes takes (by rw [kind]; rfl)
    have read := expectIdent_eq_ok.2 ⟨t, kind, Eq.refl (Ident.mk name t.span).span, takes⟩
    have read' := expectIdent_eq_ok.2
      ⟨t', kind'.trans kind, Eq.refl (Ident.mk name t'.span).span, takes'⟩
    rw [read, read']
    exact .ok rfl (.of_takes takes takes' alike₁)
  · refine .of_ne_ok ?_ ?_
    · intro a read
      obtain ⟨t, kind, _, takes⟩ := expectIdent_eq_ok.1 read
      exact found ⟨t, _, _, kind, takes⟩
    · intro a read
      obtain ⟨t', kind', _, takes'⟩ := expectIdent_eq_ok.1 read
      obtain ⟨t, c₁, kind, takes, _⟩ := alike.symm.takes takes' (by rw [kind']; rfl)
      exact found ⟨t, _, c₁, kind.trans kind', takes⟩

theorem failsAtEnd_expectIdent : FailsAtEnd expectIdent := by
  intro c r ended read
  obtain ⟨t, kind, _, takes⟩ := expectIdent_eq_ok.1 read
  exact takes.not_ended (by rw [kind]; rfl) ended

theorem failsAtEnd_expect {kind : Kind} (other : kind.isTrivia = false) :
    FailsAtEnd (expect kind) := by
  intro c r ended read
  obtain ⟨t, rfl, takes⟩ := expect_eq_ok.1 read
  exact takes.not_ended other ended

theorem agree_expectBlank (alike : c.Alike d) :
    AgreeOrEnd id c d (expectBlank c) (expectBlank d) := by
  refine .of_skip expectBlank_eq_ok alike ?_
  intro gap
  rw [c.skipped_eq, d.skipped_eq, gap]

theorem agree_expectNewline (alike : c.Alike d) :
    AgreeOrEnd id c d (expectNewline c) (expectNewline d) := by
  refine .of_skip expectNewline_eq_ok alike ?_
  intro gap
  rw [c.skipped_eq, d.skipped_eq, gap, alike.kindPastTrivia]

/-! ## Lists -/

section

variable {item item' : Parser α} {m n : Nat} {opening close : Kind}

/-- Two lists are read alike, item by item.  The rounds suffice on both sides, so the runs stop
at the same token, and a comma is seen from both cursors or from neither. -/
theorem agree_items {rounds rounds' : Nat} (each : AgreeWithin view m n item item')
    (alike : c.Alike d) (past : c.trivia = []) (past' : d.trivia = [])
    (enough : c.rest.length ≤ rounds) (enough' : d.rest.length ≤ rounds')
    (within : c.rest.length ≤ m) (within' : d.rest.length ≤ n) :
    Agree (List.map view) c d (items close item rounds c) (items close item' rounds' d) := by
  induction rounds generalizing rounds' c d with
  | zero =>
    have ended := Cursor.kind?_eq_none.2 (List.length_eq_zero_iff.1 (Nat.le_zero.1 enough))
    rw [items_of_stop (.inl ended), items_of_stop (.inl (alike.kind?_eq past past' ▸ ended))]
    exact .ok rfl (.refl alike)
  | succ rounds ih =>
    have kinds := alike.kind?_eq past past'
    by_cases stop : c.kind? = none ∨ c.kind? = some close
    · rw [items_of_stop stop, items_of_stop (kinds ▸ stop)]
      exact .ok rfl (.refl alike)
    cases rounds' with
    | zero =>
      have ended := Cursor.kind?_eq_none.2 (List.length_eq_zero_iff.1 (Nat.le_zero.1 enough'))
      exact absurd (.inl (kinds.trans ended)) stop
    | succ rounds' =>
      simp only [items, peek_bind, ← kinds, if_neg stop]
      refine (each alike within within').bind ?_
      intro a b c₁ d₁ same on₁
      have pasts := Onward.pastTrivia on₁.alike
      by_cases comma : c₁.pastTrivia.kind? = some .comma
      · obtain ⟨t, c₂, isComma, takes⟩ := Cursor.exists_takes comma
        obtain ⟨t', d₂, isComma', takes', alike₂⟩ := pasts.alike.takes takes (by rw [isComma]; rfl)
        rw [bind_of_ok (skipComma_eq_ok.2 (.inr ⟨rfl, t, c₂, isComma, takes, rfl⟩)),
          bind_of_ok (skipComma_eq_ok.2 (.inr ⟨rfl, t', d₂, isComma'.trans isComma, takes', rfl⟩))]
        have on₂ := (pasts.trans (.of_takes takes takes' alike₂)).trans (.pastTrivia alike₂)
        obtain ⟨_, left, right⟩ := on₁.trans pasts
        obtain ⟨alike₃, left', right'⟩ := Onward.pastTrivia alike₂
        have shorter := takes.length_lt
        have shorter' := takes'.length_lt
        refine .further on₂ ((ih alike₃ c₂.trivia_pastTrivia d₂.trivia_pastTrivia (by omega)
          (by omega) (by omega) (by omega)).bind ?_)
        intro as bs c₃ d₃ sames on₃
        exact .ok (by simp [same, sames]) (.refl on₃.alike)
      · rw [bind_of_ok (skipComma_eq_ok.2 (.inl ⟨rfl, comma, rfl⟩)),
          bind_of_ok (skipComma_eq_ok.2 (.inl ⟨rfl, on₁.alike.kindPastTrivia ▸ comma, rfl⟩))]
        exact .ok (by simp [same]) pasts

/-- A list between its brackets is read alike, with the tokens left as the bound on each side. -/
theorem agree_delimited (each : AgreeWithin view m n item item') (alike : c.Alike d)
    (within : c.rest.length ≤ m) (within' : d.rest.length ≤ n)
    (other : opening.isTrivia = false) (other' : close.isTrivia = false) :
    Agree (List.map view) c d (delimited opening close item c)
      (delimited opening close item' d) := by
  unfold delimited
  refine (agree_expect alike other).bind ?_
  intro _ _ c₁ d₁ _ on₁
  simp only [skipTrivia_bind, get_bind]
  have on₂ := Onward.pastTrivia on₁.alike
  have all := on₁.trans on₂
  refine .further on₂ ((agree_items each on₂.alike c₁.trivia_pastTrivia d₁.trivia_pastTrivia
    (Nat.le_refl _) (Nat.le_refl _) (Nat.le_trans all.left within)
    (Nat.le_trans all.right within')).bind ?_)
  intro as bs c₃ d₃ same on₃
  refine (agree_expect on₃.alike other').bind ?_
  intro _ _ c₄ d₄ _ on₄
  exact .ok same (.refl on₄.alike)

end

/-! ## Expressions -/

section

variable {sub sub' : BraceRole → Parser Expr} {m n : Nat} {e e' : Expr} {role : BraceRole}
  {t t' : Token}

/-- A field of a struct literal is read alike if its value is. -/
theorem agree_fieldInit {value value' : Parser Expr}
    (each : AgreeWithin Expr.erase m n value value') :
    AgreeWithin FieldInit.erase m n (fieldInit value) (fieldInit value') := by
  intro c d alike within within'
  simp only [fieldInit, here_bind]
  refine (agree_expectIdent alike).bind ?_
  intro ident ident' c₁ d₁ named on₁
  simp only [skipTrivia_bind]
  have on₂ := Onward.pastTrivia on₁.alike
  refine .further on₂ ((agree_expect on₂.alike rfl).bind ?_)
  intro _ _ c₃ d₃ _ on₃
  simp only [skipTrivia_bind]
  have on₄ := Onward.pastTrivia on₃.alike
  obtain ⟨alike₄, left, right⟩ := ((on₁.trans on₂).trans on₃).trans on₄
  refine .further on₄ ((each alike₄ (by omega) (by omega)).bind ?_)
  intro v v' c₅ d₅ same on₅
  simp only [spanFrom_bind]
  exact .ok (by simp [FieldInit.erase, named, same]) (.refl on₅.alike)

/-- What starts with a name is read alike, for the parenthesis or brace that decides what it is
stands ahead of both cursors. -/
theorem agree_named {name : String}
    (each : ∀ role, AgreeWithin Expr.erase m n (sub role) (sub' role))
    (alike : c.Alike d) (within : c.rest.length ≤ m) (within' : d.rest.length ≤ n) :
    Agree Expr.erase c d (named sub role t name c) (named sub' role t' name d) := by
  simp only [named, peek_bind, peekPastTrivia_bind, ite_run]
  by_cases paren : c.kind? = some .leftParen
  · rw [if_pos paren, if_pos ((alike.kind?_iff rfl).1 paren)]
    refine (agree_delimited (each .literal) alike within within' rfl rfl).bind ?_
    intro as bs c₁ d₁ same on₁
    simp only [spanFrom_bind]
    refine .ok ?_ (.refl on₁.alike)
    simp [Expr.erase, Expr.eraseAll_eq_map, same, Ident.erase]
  · rw [if_neg paren, if_neg (mt (alike.kind?_iff rfl).2 paren), alike.kindPastTrivia]
    split
    case isTrue =>
      simp only [skipTrivia_bind, here_bind]
      obtain ⟨alike₁, left, right⟩ := Onward.pastTrivia alike
      refine .further (.pastTrivia alike) ?_
      refine (agree_delimited (agree_fieldInit (each .literal)) alike₁ (by omega) (by omega) rfl
        rfl).bind ?_
      intro as bs c₂ d₂ same on₂
      simp only [spanFrom_bind]
      refine .ok ?_ (.refl on₂.alike)
      simp [Expr.erase, Expr.eraseFields_eq_map, same, Ident.erase]
    case isFalse =>
      simp only [spanFrom_bind]
      exact .ok (by simp [Expr.erase]) (.refl alike)

/-- The first part of an expression is read alike.  A blank behind a prefix operator is refused
on both sides if a token follows; at the end of the tokens one side may see a blank and the
other none, but there the operand is missing and both fail. -/
theorem agree_primary (each : ∀ role, AgreeWithin Expr.erase m n (sub role) (sub' role))
    (fails : ∀ role, FailsAtEnd (sub role)) (fails' : ∀ role, FailsAtEnd (sub' role))
    (kind : t'.kind = t.kind) (alike : c.Alike d) (within : c.rest.length ≤ m)
    (within' : d.rest.length ≤ n) :
    Agree Expr.erase c d (primary sub role t c) (primary sub' role t' d) := by
  unfold primary
  rw [kind]
  cases t.kind with
  | ident name => exact agree_named each alike within within'
  | str value =>
    simp only [spanFrom_bind]
    exact .ok (by simp [Expr.erase]) (.refl alike)
  | int value =>
    simp only [spanFrom_bind]
    exact .ok (by simp [Expr.erase]) (.refl alike)
  | op op =>
    simp only [peek_bind, ite_run]
    obtain ⟨ended, ended'⟩ | ⟨_, _, _, _, _, _, _, gap, _⟩ := alike.cases
    · refine .of_ne_ok ?_ ?_
      · intro r read
        split at read
        · exact absurd read fail_ne_ok
        · exact (fails role).bind _ c r ended read
      · intro r read
        split at read
        · exact absurd read fail_ne_ok
        · exact (fails' role).bind _ d r ended' read
    · simp only [Cursor.isTrivia_kind?_iff, gap]
      split
      · exact .error
      · refine (each role alike within within').bind ?_
        intro e e' c₁ d₁ same on₁
        simp only [spanFrom_bind]
        exact .ok (by simp [Expr.erase, same, Ident.erase]) (.refl on₁.alike)
  | leftParen =>
    simp only [skipTrivia_bind]
    obtain ⟨alike₁, left, right⟩ := Onward.pastTrivia alike
    refine .further (.pastTrivia alike) ((each .literal alike₁ (by omega) (by omega)).bind ?_)
    intro e e' c₂ d₂ same on₂
    simp only [skipTrivia_bind]
    have on₃ := Onward.pastTrivia on₂.alike
    refine .further on₃ ((agree_expect on₃.alike rfl).bind ?_)
    intro _ _ c₄ d₄ _ on₄
    simp only [spanFrom_bind]
    exact .ok (by simp [Expr.erase, same]) (.refl on₄.alike)
  | _ => exact .error

/-- Member accesses are read alike, each from a period right ahead of both cursors. -/
theorem agree_members {start start' : Location} {rounds rounds' : Nat}
    (same : e.erase = e'.erase) (alike : c.Alike d) (enough : c.rest.length ≤ rounds)
    (enough' : d.rest.length ≤ rounds') :
    Agree Expr.erase c d (members start rounds e c) (members start' rounds' e' d) := by
  induction rounds generalizing rounds' c d e e' with
  | zero =>
    have ended := Cursor.kind?_eq_none.2 (List.length_eq_zero_iff.1 (Nat.le_zero.1 enough))
    have noPeriod : c.kind? ≠ some .period := by simp [ended]
    rw [members_of_none noPeriod, members_of_none (mt (alike.kind?_iff rfl).2 noPeriod)]
    exact .ok same (.refl alike)
  | succ rounds ih =>
    by_cases period : c.kind? = some .period
    · obtain ⟨t, c₁, isPeriod, takes⟩ := Cursor.exists_takes period
      obtain ⟨t', d₁, isPeriod', takes', alike₁⟩ := alike.takes takes (by rw [isPeriod]; rfl)
      have shorter := takes.length_lt
      have shorter' := takes'.length_lt
      obtain _ | rounds' := rounds'
      · omega
      have period' := (alike.kind?_iff rfl).1 period
      simp only [members, peek_bind, if_pos period, if_pos period', next_bind takes,
        next_bind takes']
      refine .further (.of_takes takes takes' alike₁) ((agree_expectIdent alike₁).bind ?_)
      intro field field' c₂ d₂ sameField on₂
      obtain ⟨alike₂, left, right⟩ := on₂
      exact ih (by simp [Expr.erase, same, sameField]) alike₂ (by omega) (by omega)
    · rw [members_of_none period, members_of_none (mt (alike.kind?_iff rfl).2 period)]
      exact .ok same (.refl alike)

/-- An operator and its right operand are read alike.  The blanks around it are the same on both
sides, unless nothing follows the operator, and then both fail. -/
theorem agree_operation {right right' : Parser Expr} {start start' : Location}
    (each : AgreeWithin Expr.erase m n right right') (fails : FailsAtEnd right)
    (fails' : FailsAtEnd right') (same : e.erase = e'.erase) (alike : c.Alike d)
    (within : c.rest.length ≤ m) (within' : d.rest.length ≤ n) :
    Agree Expr.erase c d (operation right start e c) (operation right' start' e' d) := by
  have pasts := Onward.pastTrivia alike
  by_cases operator : ∃ op, c.pastTrivia.kind? = some (.op op)
  · obtain ⟨op, operator⟩ := operator
    obtain ⟨t, c₁, kind, takes⟩ := Cursor.exists_takes operator
    obtain ⟨t', d₁, kind', takes', alike₁⟩ := pasts.alike.takes takes (by rw [kind]; rfl)
    rw [operation_of_some kind takes, operation_of_some (kind'.trans kind) takes']
    obtain ⟨ended, ended'⟩ | ⟨_, _, _, _, _, _, _, gap₁, _⟩ := alike₁.cases
    · refine .of_ne_ok ?_ ?_
      · intro r read
        split at read
        · cases read
        · exact fails.bind _ _ r (by simpa using ended) read
      · intro r read
        split at read
        · cases read
        · exact fails'.bind _ _ r (by simpa using ended') read
    · simp only [Cursor.skipped_eq, alike.gap_eq operator, gap₁]
      split
      · exact .error
      · have on₁ := (pasts.trans (.of_takes takes takes' alike₁)).trans (.pastTrivia alike₁)
        obtain ⟨alike₂, left, right⟩ := on₁
        refine .further ⟨alike₂, left, right⟩ ((each alike₂ (by omega) (by omega)).bind ?_)
        intro r r' c₃ d₃ sameRight on₃
        exact .ok (by simp [Expr.erase, same, sameRight, Ident.erase]) (.refl on₃.alike)
  · have noOperator : ∀ op, c.pastTrivia.kind? ≠ some (.op op) :=
      fun op isOp => operator ⟨op, isOp⟩
    rw [operation_of_none noOperator,
      operation_of_none fun op => alike.kindPastTrivia ▸ noOperator op]
    exact .ok same (.refl alike)

/-- An expression starts right ahead, with a token that is no trivia. -/
theorem takes_of_expressionWithin {bound : Nat} {r : Expr × Cursor}
    (read : expressionWithin bound role c = .ok r) :
    ∃ t c₁, c.Takes t c₁ ∧ t.kind.isTrivia = false := by
  cases bound with
  | zero =>
    obtain ⟨_, _, _, failed⟩ := bind_eq_ok.1 read
    exact absurd failed fail_ne_ok
  | succ bound =>
    simp only [expressionWithin, bind_eq_ok, here_eq_ok, next_eq_ok] at read
    obtain ⟨start, _, ⟨_, rfl⟩, _, c₁, ⟨_, rfl, rfl⟩ | ⟨t, rfl, takes⟩, read⟩ := read
    · exact absurd read fail_ne_ok
    · refine ⟨t, c₁, takes, ?_⟩
      obtain ⟨_, _, first, _⟩ := bind_eq_ok.1 read
      cases kind : t.kind <;> simp only [primary, kind] at first
      case blank => exact absurd first fail_ne_ok
      case comment => exact absurd first fail_ne_ok
      all_goals rfl

theorem failsAtEnd_expressionWithin (bound : Nat) (role : BraceRole) :
    FailsAtEnd (expressionWithin bound role) := by
  intro c r ended read
  obtain ⟨t, c₁, takes, other⟩ := takes_of_expressionWithin read
  exact takes.not_ended other ended

/-- Where no expression starts, none is read. -/
theorem agree_expressionWithin_of_none (none : ¬ ∃ t c₁, c.Takes t c₁ ∧ t.kind.isTrivia = false)
    (alike : c.Alike d) :
    Agree Expr.erase c d (expressionWithin m role c) (expressionWithin n role d) := by
  refine .of_ne_ok ?_ ?_
  · intro r read
    exact none (takes_of_expressionWithin read)
  · intro r read
    obtain ⟨t', d₁, takes', other⟩ := takes_of_expressionWithin read
    obtain ⟨t, c₁, kind, takes, _⟩ := alike.symm.takes takes' other
    exact none ⟨t, c₁, takes, kind ▸ other⟩

/-- An expression is read alike whatever the two bounds are, as long as they cover the tokens
left on their own sides. -/
theorem agree_expressionWithin (m n : Nat) (role : BraceRole) :
    AgreeWithin Expr.erase m n (expressionWithin m role) (expressionWithin n role) := by
  induction m generalizing n role with
  | zero =>
    intro c d alike within within'
    have ended : c.rest = [] := List.length_eq_zero_iff.1 (Nat.le_zero.1 within)
    refine agree_expressionWithin_of_none ?_ alike
    rintro ⟨t, c₁, takes, _⟩
    simp [takes.rest] at ended
  | succ m ih =>
    intro c d alike within within'
    by_cases starts : ∃ t c₁, c.Takes t c₁ ∧ t.kind.isTrivia = false
    case neg => exact agree_expressionWithin_of_none starts alike
    case pos =>
      obtain ⟨t, c₁, takes, other⟩ := starts
      obtain ⟨t', d₁, kind, takes', alike₁⟩ := alike.takes takes other
      have shorter := takes.length_lt
      have shorter' := takes'.length_lt
      obtain _ | n := n
      · omega
      simp only [expressionWithin, here_bind, next_bind takes, next_bind takes']
      have on₁ := Onward.of_takes takes takes' alike₁
      refine .further on₁ ((agree_primary (ih n) (failsAtEnd_expressionWithin m)
        (failsAtEnd_expressionWithin n) kind alike₁ (by omega) (by omega)).bind ?_)
      intro e e' c₂ d₂ same on₂
      simp only [get_bind]
      refine (agree_members same on₂.alike (Nat.le_refl _) (Nat.le_refl _)).bind ?_
      intro e e' c₃ d₃ same on₃
      obtain ⟨alike₃, left, right⟩ := on₂.trans on₃
      exact agree_operation (ih n role) (failsAtEnd_expressionWithin m role)
        (failsAtEnd_expressionWithin n role) same alike₃ (by omega) (by omega)

theorem agree_expression (alike : c.Alike d) :
    Agree Expr.erase c d (expression role c) (expression role d) := by
  simp only [expression, get_bind]
  exact agree_expressionWithin _ _ role alike (Nat.le_refl _) (Nat.le_refl _)

theorem failsAtEnd_expression (role : BraceRole) : FailsAtEnd (expression role) := by
  intro c r ended read
  simp only [expression, get_bind] at read
  exact failsAtEnd_expressionWithin _ role c r ended read

end

end NominalScript.Syntax
