import NominalScript.Proofs.Check.Success

/-!
# What checking does to its state

Checking a statement hands out slots after those handed out before, adds to the
warnings, and binds names in the innermost scope only; a block closes the scope
it has opened.  All this holds whether checking succeeds or not, so a failed
statement leaves a state that the next one can be checked in.
-/

namespace NominalScript.Check

open Syntax

/-- Slots and warnings are added at the end, and scopes but for the innermost
stay as they are. -/
structure BodyState.Grows (s s' : BodyState) : Prop where
  locals : s.locals <+: s'.locals
  warnings : s.warnings <+: s'.warnings
  height : s'.scopes.length = s.scopes.length
  outer : s'.scopes.tail = s.scopes.tail

/-- Slots and warnings are added at the end, and all scopes stay as they are. -/
structure BodyState.Keeps (s s' : BodyState) : Prop where
  locals : s.locals <+: s'.locals
  warnings : s.warnings <+: s'.warnings
  scopes : s'.scopes = s.scopes

variable {g : Globals} {expected : TypeId} {s s₁ s₂ : BodyState}

theorem getElem?_of_grown {α : Type} {as as' : List α} (grown : as <+: as') {i : Nat} {a : α}
    (entry : as[i]? = some a) : as'[i]? = some a := by
  obtain ⟨rest, rfl⟩ := grown
  rw [List.getElem?_append_left (List.getElem?_eq_some_iff.1 entry).1]
  exact entry

theorem BodyState.Grows.refl (s : BodyState) : s.Grows s :=
  ⟨List.prefix_rfl, List.prefix_rfl, rfl, rfl⟩

theorem BodyState.Grows.trans (first : s.Grows s₁) (second : s₁.Grows s₂) : s.Grows s₂ :=
  ⟨first.locals.trans second.locals, first.warnings.trans second.warnings,
    second.height.trans first.height, second.outer.trans first.outer⟩

theorem BodyState.Keeps.refl (s : BodyState) : s.Keeps s :=
  ⟨List.prefix_rfl, List.prefix_rfl, rfl⟩

theorem BodyState.Keeps.trans (first : s.Keeps s₁) (second : s₁.Keeps s₂) : s.Keeps s₂ :=
  ⟨first.locals.trans second.locals, first.warnings.trans second.warnings,
    second.scopes.trans first.scopes⟩

theorem BodyState.Keeps.grows (kept : s.Keeps s₁) : s.Grows s₁ :=
  ⟨kept.locals, kept.warnings, by rw [kept.scopes], by rw [kept.scopes]⟩

theorem BodyState.bind_grows (s : BodyState) (name : String) (type : TypeId) :
    s.Grows (s.bind name type) := by
  refine ⟨List.prefix_append _ _, List.prefix_rfl, ?_, ?_⟩
  · unfold BodyState.bind
    cases s.scopes <;> rfl
  · unfold BodyState.bind
    cases s.scopes <;> rfl

theorem bound_grows (ident : Ident) (type : Option Ident) (value : Expr) :
    s.Grows (bound g s ident type value).2 := by
  unfold bound
  split
  · exact .refl s
  · split
    · exact .refl s
    · exact s.bind_grows _ _

/-- Closing the scope that was opened before. -/
theorem finishBlock_keeps (body : List Stmt)
    {r : Check (List (Analyzed Checked.Stmt)) × BodyState} (grown : s.enter.Grows r.2) :
    s.Keeps (finishBlock body r).2 := by
  rcases r with ⟨result, s'⟩
  have scopes : s'.leave.scopes = s.scopes := grown.outer
  cases result with
  | error es => exact ⟨grown.locals, grown.warnings, scopes⟩
  | ok analyzed =>
    exact ⟨grown.locals, grown.warnings.trans (List.prefix_append _ _), scopes⟩

mutual

/-- A statement may add slots, names in the innermost scope and warnings, and takes none away. -/
theorem stmt_grows : ∀ (a : Stmt) (s : BodyState), s.Grows (stmt g expected a s).2
  | .expr e, s => by
    rw [stmt]
    exact .refl s
  | .cond c, s => by
    rw [stmt]
    exact (conditional_keeps c s).grows
  | .ret value span, s => by
    rw [stmt]
    exact .refl s
  | .bind ident type value span, s => by
    rw [stmt]
    exact bound_grows ident type value

theorem stmts_grows : ∀ (as : List Stmt) (s : BodyState), s.Grows (stmts g expected as s).2
  | [], s => by
    rw [stmts]
    exact .refl s
  | a :: as, s => by
    rw [stmts]
    exact (stmt_grows a s).trans (stmts_grows as _)

theorem conditional_keeps :
    ∀ (c : Conditional) (s : BodyState), s.Keeps (conditional g expected c s).2
  | .mk c block rest span, s => by
    rw [conditional]
    exact (finishBlock_keeps block (stmts_grows block s.enter)).trans (otherwise_keeps rest _)

/-- What follows a block opens scopes only for its own blocks, and closes them. -/
theorem otherwise_keeps :
    ∀ (o : Otherwise) (s : BodyState), s.Keeps (otherwise g expected o s).2
  | .nothing, s => by
    rw [otherwise]
    exact .refl s
  | .block block, s => by
    rw [otherwise]
    exact finishBlock_keeps block (stmts_grows block s.enter)
  | .elseIf (.mk c block rest span), s => by
    rw [otherwise]
    split
    · exact otherwise_keeps rest s
    · exact (finishBlock_keeps block (stmts_grows block s.enter)).trans (otherwise_keeps rest _)

end

theorem block_keeps (body : List Stmt) (s : BodyState) : s.Keeps (block g expected body s).2 :=
  finishBlock_keeps body (stmts_grows body s.enter)

theorem BodyState.Grows.of_stmt {a : Stmt} {r : Check (Analyzed Checked.Stmt)}
    (checked : stmt g expected a s = (r, s₁)) : s.Grows s₁ := by
  have grown : s.Grows (stmt g expected a s).2 := stmt_grows a s
  rwa [checked] at grown

theorem BodyState.Grows.of_stmts {as : List Stmt} {r : Check (List (Analyzed Checked.Stmt))}
    (checked : stmts g expected as s = (r, s₁)) : s.Grows s₁ := by
  have grown : s.Grows (stmts g expected as s).2 := stmts_grows as s
  rwa [checked] at grown

theorem BodyState.Keeps.of_conditional {c : Conditional} {r : Check (Analyzed Checked.Chain)}
    (checked : conditional g expected c s = (r, s₁)) : s.Keeps s₁ := by
  have kept : s.Keeps (conditional g expected c s).2 := conditional_keeps c s
  rwa [checked] at kept

theorem BodyState.Keeps.of_otherwise {o : Otherwise} {r : Check (Analyzed Checked.Chain)}
    (checked : otherwise g expected o s = (r, s₁)) : s.Keeps s₁ := by
  have kept : s.Keeps (otherwise g expected o s).2 := otherwise_keeps o s
  rwa [checked] at kept

theorem BodyState.Keeps.of_block {body : List Stmt} {r : Check (Analyzed (List Checked.Stmt))}
    (checked : block g expected body s = (r, s₁)) : s.Keeps s₁ := by
  have kept : s.Keeps (block g expected body s).2 := block_keeps body s
  rwa [checked] at kept

theorem BodyState.Grows.scopes_ne_nil {s s' : BodyState} (grown : s.Grows s')
    (opened : s.scopes ≠ []) : s'.scopes ≠ [] := by
  intro closed
  have height := grown.height
  rw [closed] at height
  exact opened (List.length_eq_zero_iff.1 height.symm)

/-! ## Parameters -/

theorem BodyState.bindAll_locals (params : List Field) (s : BodyState) :
    (s.bindAll params).locals = s.locals ++ params.map Field.type := by
  induction params generalizing s with
  | nil => simp [BodyState.bindAll]
  | cons p params ih =>
    have step : s.bindAll (p :: params) = (s.bind p.name p.type).bindAll params := rfl
    rw [step, ih]
    simp [BodyState.bind]

end NominalScript.Check
