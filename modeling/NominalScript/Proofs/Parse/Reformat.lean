import NominalScript.Proofs.Parse.Agree

/-!
# Programs of the same layout

Two lists of tokens with the same kinds and the same gaps between them are read as the
same program up to spans, or neither is a program.
-/

namespace NominalScript.Syntax

open NominalScript.Syntax.Parser

variable {c d c' d' : Cursor} {m n : Nat}

/-! ## Statements -/

section

variable {stmt stmt' : Parser Stmt} {cond cond' : Parser Conditional}

theorem agree_separator {s s' : Stmt} (same : s.erase = s'.erase) (alike : c.Alike d) :
    AgreeOrEnd id c d (separator s c) (separator s' d) := by
  have ends : s.endsWithBlock = s'.endsWithBlock := by
    rw [← s.endsWithBlock_erase, same, s'.endsWithBlock_erase]
  unfold separator
  rw [ends]
  split
  · exact .agree (.ok (Eq.refl ()) (.pastTrivia alike))
  · exact agree_expectNewline alike

/-- A statement takes up a token. -/
def Shortens {α : Type} (p : Parser α) : Prop :=
  ∀ (c : Cursor) (a : α) (c' : Cursor), p c = .ok (a, c') → c'.rest.length < c.rest.length

/-- At the end of the tokens no further statement is read. -/
theorem ended_of_statements {rounds : Nat} (s : Stmt) (c : Cursor) (ss : List Stmt) (c' : Cursor)
    (ended : c.rest = [])
    (read : (do return s :: (← statements stmt rounds) : Parser (List Stmt)) c = .ok (ss, c')) :
    c'.rest = [] := by
  rw [bind_of_ok (statements_of_stop (.inl (Cursor.kind?_eq_none.2 ended)))] at read
  obtain ⟨_, rfl⟩ := pure_eq_ok.1 read
  exact ended

/-- Two lists of statements are read alike, statement by statement, or else each of them comes
to the end of the tokens or fails: a newline may be missing there on one side only. -/
theorem agree_statements {rounds rounds' : Nat} (each : AgreeWithin Stmt.erase m n stmt stmt')
    (shortens : Shortens stmt) (shortens' : Shortens stmt') (alike : c.Alike d)
    (past : c.trivia = []) (past' : d.trivia = []) (enough : c.rest.length ≤ rounds)
    (enough' : d.rest.length ≤ rounds') (within : c.rest.length ≤ m) (within' : d.rest.length ≤ n) :
    AgreeOrEnd Stmt.eraseAll c d (statements stmt rounds c) (statements stmt' rounds' d) := by
  induction rounds generalizing rounds' c d with
  | zero =>
    have ended := Cursor.kind?_eq_none.2 (List.length_eq_zero_iff.1 (Nat.le_zero.1 enough))
    rw [statements_of_stop (.inl ended),
      statements_of_stop (.inl (alike.kind?_eq past past' ▸ ended))]
    exact .agree (.ok rfl (.refl alike))
  | succ rounds ih =>
    have kinds := alike.kind?_eq past past'
    by_cases stop : c.kind? = none ∨ c.kind? = some .rightBrace
    · rw [statements_of_stop stop, statements_of_stop (kinds ▸ stop)]
      exact .agree (.ok rfl (.refl alike))
    obtain _ | rounds' := rounds'
    · have ended := Cursor.kind?_eq_none.2 (List.length_eq_zero_iff.1 (Nat.le_zero.1 enough'))
      exact absurd (.inl (kinds.trans ended)) stop
    rw [statements_of_some stop, statements_of_some (kinds ▸ stop)]
    refine (each alike within within').bindOrEnd ?_
    intro s s' c₁ d₁ first first' same on₁
    refine (agree_separator same on₁.alike).bindOrEnd (fun _ => ended_of_statements s)
      (fun _ => ended_of_statements s') ?_
    intro _ _ c₂ d₂ parted parted' _ on₂
    cases pastTrivia_of_separator parted
    cases pastTrivia_of_separator parted'
    have shorter := shortens c s c₁ first
    have shorter' := shortens' d s' d₁ first'
    obtain ⟨alike₂, left, right⟩ := on₂
    refine (ih alike₂ c₁.trivia_pastTrivia d₁.trivia_pastTrivia (by omega) (by omega) (by omega)
      (by omega)).bindOrEnd ?_ ?_ ?_
    · intro _ c _ c' ended read
      obtain ⟨_, rfl⟩ := pure_eq_ok.1 read
      exact ended
    · intro _ c _ c' ended read
      obtain ⟨_, rfl⟩ := pure_eq_ok.1 read
      exact ended
    · intro ss ss' c₃ d₃ _ _ sames on₃
      exact .agree (.ok (by simp [Stmt.eraseAll, same, sames]) (.refl on₃.alike))

/-- A block is read alike.  At the end of the tokens its closing brace is missing, so there both
fail. -/
theorem agree_block (each : AgreeWithin Stmt.erase m n stmt stmt') (shortens : Shortens stmt)
    (shortens' : Shortens stmt') : AgreeWithin Stmt.eraseAll m n (block stmt) (block stmt') := by
  intro c d alike within within'
  unfold block
  refine (agree_expect alike rfl).bind ?_
  intro _ _ c₁ d₁ _ on₁
  simp only [skipTrivia_bind, get_bind]
  have on₂ := Onward.pastTrivia on₁.alike
  obtain ⟨alike₂, left, right⟩ := on₁.trans on₂
  refine .further on₂ ((agree_statements each shortens shortens' alike₂ c₁.trivia_pastTrivia
    d₁.trivia_pastTrivia (Nat.le_refl _) (Nat.le_refl _) (by omega) (by omega)).bind
    (fun _ => (failsAtEnd_expect rfl).bind _) (fun _ => (failsAtEnd_expect rfl).bind _) ?_)
  intro ss ss' c₃ d₃ same on₃
  refine (agree_expect on₃.alike rfl).bind ?_
  intro _ _ c₄ d₄ _ on₄
  exact .ok same (.refl on₄.alike)

/-- Whether a value stands on the line of a `return` is seen alike from both cursors, for the
gap behind it holds a newline on both sides or on neither. -/
theorem agree_returnValue (alike : c.Alike d) :
    Agree (Option.map Expr.erase) c d (returnValue c) (returnValue d) := by
  unfold returnValue
  refine (agree_expect alike rfl).bind ?_
  intro _ _ c₁ d₁ _ on₁
  have lines := Onward.toLineEnd on₁.alike
  have ended := on₁.alike.lineEnded_iff
  unfold Cursor.lineEnded at ended
  simp only [skipToLineEnd_bind, peek_bind, ite_run, ended]
  split
  · exact .ok rfl lines
  · refine .further lines ((agree_expression lines.alike).bind ?_)
    intro e e' c₂ d₂ same on₂
    exact .ok (by simp [same]) (.refl on₂.alike)

/-- The type behind a name is read alike, or is missing on both sides. -/
theorem agree_letType (alike : c.Alike d) :
    Agree (Option.map Ident.erase) c d ( annotation c) ( annotation d) := by
  simp only [ annotation, peek_bind, ite_run]
  by_cases colon : c.kind? = some .colon
  · rw [if_pos colon, if_pos ((alike.kind?_iff rfl).1 colon)]
    obtain ⟨t, c₁, isColon, takes⟩ := Cursor.exists_takes colon
    obtain ⟨t', d₁, _, takes', alike₁⟩ := alike.takes takes (by rw [isColon]; rfl)
    rw [next_bind takes, next_bind takes']
    simp only [skipTrivia_bind]
    have on₁ := (Onward.of_takes takes takes' alike₁).trans (.pastTrivia alike₁)
    refine .further on₁ ((agree_expectIdent on₁.alike).bind ?_)
    intro type type' c₂ d₂ same on₂
    simp only [skipTrivia_bind]
    exact .ok (by simp [same]) (.pastTrivia on₂.alike)
  · rw [if_neg colon, if_neg (mt (alike.kind?_iff rfl).2 colon)]
    exact .ok rfl (.refl alike)

/-- A `let` is read alike; the blank that it asks for may be missing on one side only at the end
of the tokens, where the name is missing too. -/
theorem agree_binding {start start' : Location} (alike : c.Alike d) :
    Agree Stmt.erase c d (binding start c) (binding start' d) := by
  unfold binding
  refine (agree_expect alike rfl).bind ?_
  intro _ _ c₁ d₁ _ on₁
  refine (agree_expectBlank on₁.alike).bind (fun _ => failsAtEnd_expectIdent.bind _)
    (fun _ => failsAtEnd_expectIdent.bind _) ?_
  intro _ _ c₂ d₂ _ on₂
  refine (agree_expectIdent on₂.alike).bind ?_
  intro ident ident' c₃ d₃ sameIdent on₃
  simp only [skipTrivia_bind]
  have on₄ := Onward.pastTrivia on₃.alike
  refine .further on₄ ((agree_letType on₄.alike).bind ?_)
  intro type type' c₅ d₅ sameType on₅
  refine (agree_expect on₅.alike rfl).bind ?_
  intro _ _ c₆ d₆ _ on₆
  simp only [skipTrivia_bind]
  have on₇ := Onward.pastTrivia on₆.alike
  refine .further on₇ ((agree_expression on₇.alike).bind ?_)
  intro e e' c₈ d₈ same on₈
  simp only [spanFrom_bind]
  exact .ok (by simp [Stmt.erase, sameIdent, sameType, same]) (.refl on₈.alike)

/-- A statement is read alike if conditionals are, for the token that it starts with decides
which sort it is. -/
theorem agree_statementWith (each : AgreeWithin Conditional.erase m n cond cond') :
    AgreeWithin Stmt.erase m n (statementWith cond) (statementWith cond') := by
  intro c d alike within within'
  by_cases isIf : c.kind? = some (.keyword .kwIf)
  · simp only [statementWith, here_bind, peek_bind, isIf, (alike.kind?_iff rfl).1 isIf]
    refine (each alike within within').bind ?_
    intro i i' c₁ d₁ same on₁
    exact .ok (by simp [Stmt.erase, same]) (.refl on₁.alike)
  by_cases isReturn : c.kind? = some (.keyword .kwReturn)
  · simp only [statementWith, here_bind, peek_bind, isReturn, (alike.kind?_iff rfl).1 isReturn]
    refine (agree_returnValue alike).bind ?_
    intro value value' c₁ d₁ same on₁
    simp only [spanFrom_bind]
    exact .ok (by simp [Stmt.erase, same]) (.refl on₁.alike)
  by_cases isLet : c.kind? = some (.keyword .kwLet)
  · simp only [statementWith, here_bind, peek_bind, isLet, (alike.kind?_iff rfl).1 isLet]
    exact agree_binding alike
  rw [statementWith_of_expr isIf isReturn isLet,
    statementWith_of_expr (mt (alike.kind?_iff rfl).2 isIf) (mt (alike.kind?_iff rfl).2 isReturn)
      (mt (alike.kind?_iff rfl).2 isLet)]
  refine (agree_expression alike).bind ?_
  intro e e' c₁ d₁ same on₁
  exact .ok (by simp [Stmt.erase, same]) (.refl on₁.alike)

/-- What follows a block is read alike: an `else` past the trivia is ahead on both sides or on
neither. -/
theorem agree_otherwise (each : AgreeWithin Conditional.erase m n cond cond')
    (shortens : Shortens (statementWith cond)) (shortens' : Shortens (statementWith cond')) :
    AgreeWithin Otherwise.erase m n (otherwise cond) (otherwise cond') := by
  intro c d alike within within'
  simp only [otherwise, peekPastTrivia_bind, ite_run, alike.kindPastTrivia]
  split
  case isFalse => exact .ok rfl (.refl alike)
  case isTrue isElse =>
    have pasts := Onward.pastTrivia alike
    obtain ⟨t, c₁, isElse, takes⟩ := Cursor.exists_takes (alike.kindPastTrivia.trans isElse)
    obtain ⟨t', d₁, _, takes', alike₁⟩ := pasts.alike.takes takes (by rw [isElse]; rfl)
    simp only [skipTrivia_bind, next_bind takes, next_bind takes', peek_bind]
    have on₁ := (pasts.trans (.of_takes takes takes' alike₁)).trans (.pastTrivia alike₁)
    refine .further on₁ ?_
    obtain ⟨alike₂, left, right⟩ := on₁
    rw [alike₂.kind?_eq c₁.trivia_pastTrivia d₁.trivia_pastTrivia]
    generalize d₁.pastTrivia.kind? = k
    split
    case h_1 =>
      refine (each alike₂ (by omega) (by omega)).bind ?_
      intro i i' c₃ d₃ same on₃
      exact .ok (by simp [Otherwise.erase, same]) (.refl on₃.alike)
    case h_2 =>
      refine (agree_block (agree_statementWith each) shortens shortens' alike₂ (by omega)
        (by omega)).bind ?_
      intro ss ss' c₃ d₃ same on₃
      exact .ok (by simp [Otherwise.erase, same]) (.refl on₃.alike)
    case h_3 => exact .error

end

theorem Stmt.opens_kinds (s : Stmt) : Opens s.kinds := by
  cases s with
  | expr e => simpa [Stmt.kinds] using e.opens_kinds
  | cond c =>
    cases c
    simp only [Stmt.kinds, Conditional.kinds]
    exact ⟨_, _, rfl, rfl⟩
  | ret value span => cases value <;> exact ⟨_, _, rfl, rfl⟩
  | bind ident type value span => exact ⟨_, _, rfl, rfl⟩

theorem shortens_of_reads {stmt : Parser Stmt}
    (each : ∀ {c s c'}, stmt c = .ok (s, c') → c.Reads s.kinds c' ∧ s.Shaped) : Shortens stmt := by
  intro c s c' read
  obtain ⟨k, ks, kinds, _⟩ := s.opens_kinds
  have reads := (each read).1
  rw [kinds] at reads
  exact reads.length_lt

theorem shortens_statementWith (bound : Nat) :
    Shortens (statementWith (conditionalWithin bound)) :=
  shortens_of_reads fun read => statementWith_reads read conditionalWithin_reads

/-- A conditional starts with its `if`, whatever is read behind it. -/
theorem takes_of_conditionalWithin {bound : Nat} {r : Conditional × Cursor}
    (read : conditionalWithin bound c = .ok r) :
    ∃ t c₁, t.kind = .keyword .kwIf ∧ c.Takes t c₁ := by
  cases bound with
  | zero =>
    obtain ⟨_, _, _, failed⟩ := bind_eq_ok.1 read
    exact absurd failed fail_ne_ok
  | succ bound =>
    simp only [conditionalWithin, here_bind] at read
    obtain ⟨_, c₁, first, _⟩ := bind_eq_ok.1 read
    obtain ⟨t, kind, takes⟩ := expect_eq_ok.1 first
    exact ⟨t, c₁, kind, takes⟩

/-- Where no conditional starts, none is read. -/
theorem agree_conditionalWithin_of_none (none : ¬ ∃ t c₁, t.kind = .keyword .kwIf ∧ c.Takes t c₁)
    (alike : c.Alike d) :
    Agree Conditional.erase c d (conditionalWithin m c) (conditionalWithin n d) := by
  refine .of_ne_ok ?_ ?_
  · intro r read
    exact none (takes_of_conditionalWithin read)
  · intro r read
    obtain ⟨t', d₁, kind', takes'⟩ := takes_of_conditionalWithin read
    obtain ⟨t, c₁, kind, takes, _⟩ := alike.symm.takes takes' (by rw [kind']; rfl)
    exact none ⟨t, c₁, kind.trans kind', takes⟩

/-- A conditional is read alike whatever the two bounds are, as long as they cover the tokens
left on their own sides. -/
theorem agree_conditionalWithin (m n : Nat) :
    AgreeWithin Conditional.erase m n (conditionalWithin m) (conditionalWithin n) := by
  induction m generalizing n with
  | zero =>
    intro c d alike within within'
    have ended : c.rest = [] := List.length_eq_zero_iff.1 (Nat.le_zero.1 within)
    refine agree_conditionalWithin_of_none ?_ alike
    rintro ⟨t, c₁, _, takes⟩
    simp [takes.rest] at ended
  | succ m ih =>
    intro c d alike within within'
    by_cases starts : ∃ t c₁, t.kind = .keyword .kwIf ∧ c.Takes t c₁
    case neg => exact agree_conditionalWithin_of_none starts alike
    case pos =>
      obtain ⟨t, c₁, kind, takes⟩ := starts
      obtain ⟨t', d₁, kind', takes', alike₁⟩ := alike.takes takes (by rw [kind]; rfl)
      have shorter := takes.length_lt
      have shorter' := takes'.length_lt
      obtain _ | n := n
      · omega
      simp only [conditionalWithin, here_bind]
      have read : expect (.keyword .kwIf) c = .ok ((), c₁) := expect_eq_ok.2 ⟨t, kind, takes⟩
      have read' : expect (.keyword .kwIf) d = .ok ((), d₁) :=
        expect_eq_ok.2 ⟨t', kind'.trans kind, takes'⟩
      rw [bind_of_ok read, bind_of_ok read']
      have shortens := shortens_statementWith m
      have shortens' := shortens_statementWith n
      have on₁ := Onward.of_takes takes takes' alike₁
      refine .further on₁ ((agree_expectBlank alike₁).bind
        (fun _ => (failsAtEnd_expression .block).bind _)
        (fun _ => (failsAtEnd_expression .block).bind _) ?_)
      intro _ _ c₂ d₂ _ on₂
      refine (agree_expression on₂.alike).bind ?_
      intro e e' c₃ d₃ sameCondition on₃
      simp only [skipTrivia_bind]
      have on₄ := Onward.pastTrivia on₃.alike
      obtain ⟨alike₄, left, right⟩ := (on₂.trans on₃).trans on₄
      refine .further on₄ ((agree_block (agree_statementWith (ih n)) shortens shortens' alike₄
        (by omega) (by omega)).bind ?_)
      intro ss ss' c₅ d₅ sameBlock on₅
      obtain ⟨alike₅, left', right'⟩ := on₅
      refine (agree_otherwise (ih n) shortens shortens' alike₅ (by omega) (by omega)).bind ?_
      intro rest rest' c₆ d₆ sameRest on₆
      simp only [spanFrom_bind]
      refine .ok ?_ (.refl on₆.alike)
      simp [Conditional.erase, sameCondition, sameBlock, sameRest]

theorem agree_statement (m n : Nat) : AgreeWithin Stmt.erase m n statement statement := by
  refine agree_statementWith ?_
  intro c d alike _ _
  simp only [conditional, get_bind]
  exact agree_conditionalWithin _ _ alike (Nat.le_refl _) (Nat.le_refl _)

/-! ## Declarations -/

theorem agree_typedName (m n : Nat) : AgreeWithin Binding.erase m n typedName typedName := by
  intro c d alike _ _
  simp only [typedName, here_bind]
  refine (agree_expectIdent alike).bind ?_
  intro ident ident' c₁ d₁ sameIdent on₁
  simp only [skipTrivia_bind]
  have on₂ := Onward.pastTrivia on₁.alike
  refine .further on₂ ((agree_expect on₂.alike rfl).bind ?_)
  intro _ _ c₃ d₃ _ on₃
  simp only [skipTrivia_bind]
  have on₄ := Onward.pastTrivia on₃.alike
  refine .further on₄ ((agree_expectIdent on₄.alike).bind ?_)
  intro type type' c₅ d₅ sameType on₅
  simp only [spanFrom_bind]
  exact .ok (by simp [Binding.erase, sameIdent, sameType]) (.refl on₅.alike)

/-- A struct is read alike; where the blank behind its keyword may differ, its name is missing. -/
theorem agree_structDecl (alike : c.Alike d) :
    Agree StructDecl.erase c d (structDecl c) (structDecl d) := by
  simp only [structDecl, here_bind]
  refine (agree_expect alike rfl).bind ?_
  intro _ _ c₁ d₁ _ on₁
  refine (agree_expectBlank on₁.alike).bind (fun _ => failsAtEnd_expectIdent.bind _)
    (fun _ => failsAtEnd_expectIdent.bind _) ?_
  intro _ _ c₂ d₂ _ on₂
  refine (agree_expectIdent on₂.alike).bind ?_
  intro ident ident' c₃ d₃ sameIdent on₃
  simp only [skipTrivia_bind]
  have on₄ := Onward.pastTrivia on₃.alike
  refine .further on₄ ((agree_delimited (agree_typedName _ _) on₄.alike (Nat.le_refl _)
    (Nat.le_refl _) rfl rfl).bind ?_)
  intro fields fields' c₅ d₅ sameFields on₅
  simp only [spanFrom_bind]
  exact .ok (by simp [StructDecl.erase, sameIdent, sameFields]) (.refl on₅.alike)

/-- An arrow past the trivia is ahead of both cursors or of neither. -/
theorem agree_returnType (alike : c.Alike d) :
    Agree (Option.map Ident.erase) c d (returnType c) (returnType d) := by
  simp only [returnType, peekPastTrivia_bind, ite_run, alike.kindPastTrivia]
  split
  case isFalse => exact .ok rfl (.refl alike)
  case isTrue arrow =>
    have pasts := Onward.pastTrivia alike
    obtain ⟨t, c₁, isArrow, takes⟩ := Cursor.exists_takes (alike.kindPastTrivia.trans arrow)
    obtain ⟨t', d₁, _, takes', alike₁⟩ := pasts.alike.takes takes (by rw [isArrow]; rfl)
    simp only [skipTrivia_bind, next_bind takes, next_bind takes']
    have on₁ := (pasts.trans (.of_takes takes takes' alike₁)).trans (.pastTrivia alike₁)
    refine .further on₁ ((agree_expectIdent on₁.alike).bind ?_)
    intro type type' c₂ d₂ same on₂
    exact .ok (by simp [same]) (.refl on₂.alike)

/-- A function is read alike; where the blank behind its keyword may differ, its name is
missing. -/
theorem agree_fnDecl (alike : c.Alike d) : Agree FnDecl.erase c d (fnDecl c) (fnDecl d) := by
  simp only [fnDecl, here_bind]
  refine (agree_expect alike rfl).bind ?_
  intro _ _ c₁ d₁ _ on₁
  refine (agree_expectBlank on₁.alike).bind (fun _ => failsAtEnd_expectIdent.bind _)
    (fun _ => failsAtEnd_expectIdent.bind _) ?_
  intro _ _ c₂ d₂ _ on₂
  refine (agree_expectIdent on₂.alike).bind ?_
  intro ident ident' c₃ d₃ sameIdent on₃
  refine (agree_delimited (agree_typedName _ _) on₃.alike (Nat.le_refl _) (Nat.le_refl _) rfl
    rfl).bind ?_
  intro params params' c₄ d₄ sameParams on₄
  refine (agree_returnType on₄.alike).bind ?_
  intro type type' c₅ d₅ sameType on₅
  simp only [spanFrom_bind, skipTrivia_bind]
  have on₆ := Onward.pastTrivia on₅.alike
  refine .further on₆ ((agree_block (agree_statement _ _) (shortens_of_reads statement_reads)
    (shortens_of_reads statement_reads) on₆.alike (Nat.le_refl _) (Nat.le_refl _)).bind ?_)
  intro body body' c₇ d₇ sameBody on₇
  simp only [spanFrom_bind]
  refine .ok ?_ (.refl on₇.alike)
  rw [Stmt.eraseAll_eq_map, Stmt.eraseAll_eq_map] at sameBody
  simp [FnDecl.erase, sameIdent, sameParams, sameType, sameBody]

/-! ## Programs -/

/-- Two programs are read alike, declaration by declaration.  Each of these takes a token on
both sides, so that both bounds last. -/
theorem agree_declarations {bound bound' : Nat} (alike : c.Alike d) (past : c.trivia = [])
    (past' : d.trivia = []) (enough : c.rest.length ≤ bound) (enough' : d.rest.length ≤ bound') :
    Agree Program.erase c d (declarations bound c) (declarations bound' d) := by
  induction bound generalizing bound' c d with
  | zero =>
    have ended := Cursor.kind?_eq_none.2 (List.length_eq_zero_iff.1 (Nat.le_zero.1 enough))
    rw [declarations_of_end ended, declarations_of_end (alike.kind?_eq past past' ▸ ended)]
    exact .ok rfl (.refl alike)
  | succ bound ih =>
    have kinds := alike.kind?_eq past past'
    by_cases ended : c.kind? = none
    · rw [declarations_of_end ended, declarations_of_end (kinds ▸ ended)]
      exact .ok rfl (.refl alike)
    obtain _ | bound' := bound'
    · have ended' := Cursor.kind?_eq_none.2 (List.length_eq_zero_iff.1 (Nat.le_zero.1 enough'))
      exact absurd (kinds.trans ended') ended
    simp only [declarations, peek_bind, ← kinds]
    generalize c.kind? = k at ended
    split
    case h_1 => exact absurd rfl ended
    case h_2 =>
      refine (agree_structDecl alike).bind_read ?_
      intro decl decl' c₁ d₁ first first' same on₁
      have shorter := (structDecl_reads first).length_lt
      have shorter' := (structDecl_reads first').length_lt
      simp only [skipTrivia_bind]
      have on₂ := Onward.pastTrivia on₁.alike
      obtain ⟨alike₂, left, right⟩ := Onward.pastTrivia on₁.alike
      refine .further on₂ ((ih alike₂ c₁.trivia_pastTrivia d₁.trivia_pastTrivia (by omega)
        (by omega)).bind ?_)
      intro p q c₃ d₃ sames on₃
      obtain ⟨structs, fns⟩ := Program.mk.inj sames
      exact .ok (by simp [Program.erase, same, structs, fns]) (.refl on₃.alike)
    case h_3 =>
      refine (agree_fnDecl alike).bind_read ?_
      intro decl decl' c₁ d₁ first first' same on₁
      have shorter := (fnDecl_reads first).1.length_lt
      have shorter' := (fnDecl_reads first').1.length_lt
      simp only [skipTrivia_bind]
      have on₂ := Onward.pastTrivia on₁.alike
      obtain ⟨alike₂, left, right⟩ := Onward.pastTrivia on₁.alike
      refine .further on₂ ((ih alike₂ c₁.trivia_pastTrivia d₁.trivia_pastTrivia (by omega)
        (by omega)).bind ?_)
      intro p q c₃ d₃ sames on₃
      obtain ⟨structs, fns⟩ := Program.mk.inj sames
      exact .ok (by simp [Program.erase, same, structs, fns]) (.refl on₃.alike)
    case h_4 => exact .error

/-- Two lists of tokens of the same layout are programs that differ in spans only, or
neither is a program. -/
theorem parse_of_sameLayout {ts us : List Token}
    (same : SameLayout (ts.map Token.kind) (us.map Token.kind)) :
    (Program.parse ts).toOption.map Program.erase =
      (Program.parse us).toOption.map Program.erase := by
  have agree : Agree Program.erase (Cursor.pastTrivia ⟨ts, .origin⟩)
      (Cursor.pastTrivia ⟨us, .origin⟩) (program ⟨ts, .origin⟩) (program ⟨us, .origin⟩) := by
    simp only [program, skipTrivia_bind, get_bind]
    exact agree_declarations (Cursor.alike_of_sameLayout same) (Cursor.trivia_pastTrivia _)
      (Cursor.trivia_pastTrivia _) (Nat.le_refl _) (Nat.le_refl _)
  change ((program ⟨ts, .origin⟩).map Prod.fst).toOption.map Program.erase =
    ((program ⟨us, .origin⟩).map Prod.fst).toOption.map Program.erase
  revert agree
  generalize program ⟨ts, .origin⟩ = r
  generalize program ⟨us, .origin⟩ = s
  intro agree
  cases agree with
  | error => rfl
  | ok same => exact congrArg some same

end NominalScript.Syntax
