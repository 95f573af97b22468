import NominalScript.Proofs.Syntax.Paths
import NominalScript.Proofs.Typing.Body

/-!
# What checking finds out about reachability

Checking decides statement by statement whether a block returns, and from that what
of the block is kept, whether the block returns and what to warn about.  Here these
are compared with the paths of the source: `stmt_returns_eq` says that a statement is
found to return just when all its paths do, `ChecksLive` says what follows from it for
a block, and `block_checksLive` that it holds.  `blockVisits` are all the blocks that
checking a block comes to, each with the state it is checked in, and `block_warnings` says
that the warnings are about the dead ends of these blocks, in that order.
-/

namespace NominalScript.Check

open Syntax
open Checked (Signature)

variable {g : Globals} {expected : TypeId}

/-! ## Statements of a block -/

theorem stmt_returns_eq (distinct : FieldsDistinct g.types) {a : Stmt} {s s' : BodyState}
    {r : Analyzed Checked.Stmt} (checked : stmt g expected a s = (.ok r, s')) :
    r.returns = a.alwaysReturns := by
  rw [← Bool.coe_iff_coe, ← not_iff_not, Bool.not_eq_true, Bool.not_eq_true,
    Typing.stmt_returns distinct a checked, Stmt.alwaysReturns_eq_false]

theorem stmts_aligned (distinct : FieldsDistinct g.types) {body : List Stmt} {s s' : BodyState}
    {as : List (Analyzed Checked.Stmt)} (checked : stmts g expected body s = (.ok as, s')) :
    List.Forall₂ (fun a x => a.alwaysReturns = x.returns) body as := by
  induction body generalizing s as with
  | nil =>
    obtain ⟨rfl, _⟩ := stmts_nil_eq_ok.1 checked
    exact .nil
  | cons a body ih =>
    obtain ⟨x, xs, s₁, first, rest, rfl⟩ := (stmts_cons_eq_ok distinct).1 checked
    exact .cons (stmt_returns_eq distinct first).symm (ih rest)

/-- The checked form of each statement, checked in the state that those before it
leave. -/
theorem stmts_getElem? (distinct : FieldsDistinct g.types) {body : List Stmt} {s s' : BodyState}
    {as : List (Analyzed Checked.Stmt)} (checked : stmts g expected body s = (.ok as, s'))
    {i : Nat} {a : Stmt} {x : Analyzed Checked.Stmt} (source : body[i]? = some a)
    (made : as[i]? = some x) :
    (stmt g expected a (stmts g expected (body.take i) s).2).1 = .ok x := by
  induction body generalizing s as i with
  | nil => simp at source
  | cons b body ih =>
    obtain ⟨y, ys, s₁, first, rest, rfl⟩ := (stmts_cons_eq_ok distinct).1 checked
    cases i with
    | zero =>
      cases source
      cases made
      simp [stmts, first]
    | succ i =>
      have later := ih rest source made
      rw [List.take_succ_cons, stmts, first]
      exact later

/-! ## What is kept and what is reported -/

theorem reachable_eq_take (as : List (Analyzed Checked.Stmt)) :
    reachable as = (as.map Analyzed.node).take (as.findIdx Analyzed.returns + 1) := by
  induction as with
  | nil => rfl
  | cons a as ih =>
    rw [reachable, List.findIdx_cons]
    cases a.returns with
    | true => simp
    | false => simp [ih]

/-- What is out of reach stands behind the first statement that returns on all paths. -/
theorem unreachable_eq_drop {body : List Stmt} {as : List (Analyzed Checked.Stmt)}
    (length : body.length = as.length) :
    unreachable as body = body.drop (as.findIdx Analyzed.returns + 1) := by
  induction as generalizing body with
  | nil => cases body with
    | nil => rfl
    | cons a body => simp at length
  | cons x as ih => cases body with
    | nil => simp at length
    | cons a body =>
      rw [unreachable, List.findIdx_cons]
      cases x.returns with
      | true => simp
      | false => simpa using ih (by simpa using length)

/-- One span covers all that is out of reach, from its first statement to its last. -/
theorem spanOf_dead (body : List Stmt) : spanOf (Stmt.dead body) = Stmt.deadSpan? body := by
  unfold Stmt.deadSpan?
  cases dead : Stmt.dead body with
  | nil => rfl
  | cons a rest =>
    have last : body.getLast? = (a :: rest).getLast? := by
      rw [← dead, Stmt.dead, List.getLast?_drop, if_neg]
      intro short
      rw [Stmt.dead, List.drop_eq_nil_of_le short] at dead
      cases dead
    rw [last, spanOf, List.getLast?_eq_some_getLast (List.cons_ne_nil a rest)]
    rfl

/-- The result of a block whose statements check, in terms of their paths. -/
theorem closeBlock_eq (distinct : FieldsDistinct g.types) {body : List Stmt} {s s' : BodyState}
    {as : List (Analyzed Checked.Stmt)} (checked : stmts g expected body s = (.ok as, s')) :
    (closeBlock body as).1.node = (as.map Analyzed.node).take (Stmt.liveCount body) ∧
      (closeBlock body as).2 = ((Stmt.deadSpan? body).map Warning.mk).toList := by
  have aligned := stmts_aligned distinct checked
  have first : body.findIdx Stmt.alwaysReturns = as.findIdx Analyzed.returns :=
    Aligned.findIdx_eq aligned fun _ _ same => same
  refine ⟨?_, ?_⟩
  · rw [Stmt.liveCount, first]
    exact reachable_eq_take as
  · rw [← spanOf_dead, Stmt.dead, Stmt.liveCount, first, ← unreachable_eq_drop aligned.length_eq]
    rfl

/-! ## Blocks -/

/-- The block checks.  It is found to return just when all its paths meet a `return`,
and what is kept of it are the checked forms of its statements up to the first all of
whose paths return. -/
def ChecksLive (g : Globals) (expected : TypeId) (body : List Stmt) (s : BodyState) : Prop :=
  ∃ (b : Analyzed (List Checked.Stmt)) (s' : BodyState) (as : List (Analyzed Checked.Stmt)),
    block g expected body s = (.ok b, s') ∧
      (b.returns = true ↔ ∀ p ∈ Stmt.pathsOfAll body, ∃ a ∈ p, a.isReturn = true) ∧
      b.node = (as.map Analyzed.node).take (Stmt.liveCount body) ∧
      as.length = body.length ∧
      ∀ (i : Nat) (a : Stmt) (x : Analyzed Checked.Stmt), body[i]? = some a → as[i]? = some x →
        (stmt g expected a (stmts g expected (body.take i) s.enter).2).1 = .ok x

theorem block_checksLive (distinct : FieldsDistinct g.types) {body : List Stmt}
    {s s' : BodyState} {b : Analyzed (List Checked.Stmt)}
    (checked : block g expected body s = (.ok b, s')) : ChecksLive g expected body s := by
  obtain ⟨as, s₁, ran, rfl, _⟩ := block_eq_ok.1 checked
  refine ⟨_, s', as, checked, ?_, (closeBlock_eq distinct ran).1,
    (stmts_aligned distinct ran).length_eq.symm, fun i a x => stmts_getElem? distinct ran⟩
  rw [all_return_iff, ← allFallThrough_iff, ← Typing.stmts_return distinct body ran,
    Bool.not_eq_false]
  rfl

/-! ## All blocks of a body -/

mutual

/-- The blocks that checking a statement comes to, in the order in which they are
closed, each with the state in which it is checked. -/
def stmtVisits (g : Globals) (expected : TypeId) :
    Stmt → BodyState → List (List Stmt × BodyState)
  | .expr _, _ => []
  | .cond c, s => conditionalVisits g expected c s
  | .ret _ _, _ => []
  | .bind _ _ _ _, _ => []

/-- The blocks that checking statements one after the other comes to. -/
def stmtsVisits (g : Globals) (expected : TypeId) :
    List Stmt → BodyState → List (List Stmt × BodyState)
  | [], _ => []
  | a :: as, s => stmtVisits g expected a s ++ stmtsVisits g expected as (stmt g expected a s).2

/-- The blocks that checking a conditional comes to. -/
def conditionalVisits (g : Globals) (expected : TypeId) :
    Conditional → BodyState → List (List Stmt × BodyState)
  | .mk _ body rest _, s =>
    stmtsVisits g expected body s.enter ++ [(body, s)] ++
      otherwiseVisits g expected rest (block g expected body s).2

/-- The blocks that checking what follows a branch comes to. -/
def otherwiseVisits (g : Globals) (expected : TypeId) :
    Otherwise → BodyState → List (List Stmt × BodyState)
  | .nothing, _ => []
  | .elseIf c, s => conditionalVisits g expected c s
  | .block body, s => stmtsVisits g expected body s.enter ++ [(body, s)]

end

/-- The blocks that checking a block comes to, itself the last. -/
def blockVisits (g : Globals) (expected : TypeId) (body : List Stmt) (s : BodyState) :
    List (List Stmt × BodyState) :=
  stmtsVisits g expected body s.enter ++ [(body, s)]

mutual

theorem stmtVisits_fst : ∀ (a : Stmt) (s : BodyState),
    (stmtVisits g expected a s).map Prod.fst = a.blocks
  | .expr _, _ => rfl
  | .cond c, s => conditionalVisits_fst c s
  | .ret _ _, _ => rfl
  | .bind _ _ _ _, _ => rfl

theorem stmtsVisits_fst : ∀ (as : List Stmt) (s : BodyState),
    (stmtsVisits g expected as s).map Prod.fst = Stmt.blocksOfAll as
  | [], _ => rfl
  | a :: as, s => by
    rw [stmtsVisits, List.map_append, stmtVisits_fst a, stmtsVisits_fst as, Stmt.blocksOfAll]

theorem conditionalVisits_fst : ∀ (c : Conditional) (s : BodyState),
    (conditionalVisits g expected c s).map Prod.fst = c.blocks
  | .mk e body rest span, s => by
    rw [conditionalVisits, List.map_append, List.map_append, stmtsVisits_fst body,
      otherwiseVisits_fst rest, Conditional.blocks]
    rfl

theorem otherwiseVisits_fst : ∀ (o : Otherwise) (s : BodyState),
    (otherwiseVisits g expected o s).map Prod.fst = o.blocks
  | .nothing, _ => rfl
  | .elseIf c, s => conditionalVisits_fst c s
  | .block body, s => by
    rw [otherwiseVisits, List.map_append, stmtsVisits_fst body, Otherwise.blocks]
    rfl

end

/-! A block that checks comes to blocks that check. -/

mutual

theorem stmtVisits_live (distinct : FieldsDistinct g.types) :
    ∀ (a : Stmt) {s s' : BodyState} {r : Analyzed Checked.Stmt},
      stmt g expected a s = (.ok r, s') →
      ∀ v ∈ stmtVisits g expected a s, ChecksLive g expected v.1 v.2
  | .expr e, s, s', r, checked, v, visited => absurd visited List.not_mem_nil
  | .cond c, s, s', r, checked, v, visited => by
    obtain ⟨b, ok, _⟩ := stmt_cond_eq_ok.1 checked
    exact conditionalVisits_live distinct c ok v visited
  | .ret value span, s, s', r, checked, v, visited => absurd visited List.not_mem_nil
  | .bind ident type value span, s, s', r, checked, v, visited =>
    absurd visited List.not_mem_nil

theorem stmtsVisits_live (distinct : FieldsDistinct g.types) :
    ∀ (as : List Stmt) {s s' : BodyState} {rs : List (Analyzed Checked.Stmt)},
      stmts g expected as s = (.ok rs, s') →
      ∀ v ∈ stmtsVisits g expected as s, ChecksLive g expected v.1 v.2
  | [], s, s', rs, checked, v, visited => absurd visited List.not_mem_nil
  | a :: as, s, s', rs, checked, v, visited => by
    obtain ⟨x, xs, s₁, first, rest, _⟩ := (stmts_cons_eq_ok distinct).1 checked
    rw [stmtsVisits, first, List.mem_append] at visited
    rcases visited with here | later
    · exact stmtVisits_live distinct a first v here
    · exact stmtsVisits_live distinct as rest v later

/-- All blocks of a chain have been checked, so `ChecksLive` holds of each. -/
theorem conditionalVisits_live (distinct : FieldsDistinct g.types) :
    ∀ (c : Conditional) {s s' : BodyState} {r : Analyzed Checked.Chain},
      conditional g expected c s = (.ok r, s') →
      ∀ v ∈ conditionalVisits g expected c s, ChecksLive g expected v.1 v.2
  | .mk e body rest span, s, s', r, checked, v, visited => by
    obtain ⟨c, b, o, s₁, _, _, ran, others, _⟩ := conditional_eq_ok.1 checked
    obtain ⟨as, s₂, inner, _⟩ := block_eq_ok.1 ran
    rw [conditionalVisits, ran, List.mem_append, List.mem_append, List.mem_singleton] at visited
    rcases visited with (inside | rfl) | later
    · exact stmtsVisits_live distinct body inner v inside
    · exact block_checksLive distinct ran
    · exact otherwiseVisits_live distinct rest others v later

/-- All blocks behind a first one have been checked, so `ChecksLive` holds of each. -/
theorem otherwiseVisits_live (distinct : FieldsDistinct g.types) :
    ∀ (o : Otherwise) {s s' : BodyState} {r : Analyzed Checked.Chain},
      otherwise g expected o s = (.ok r, s') →
      ∀ v ∈ otherwiseVisits g expected o s, ChecksLive g expected v.1 v.2
  | .nothing, s, s', r, checked, v, visited => absurd visited List.not_mem_nil
  | .elseIf c, s, s', r, checked, v, visited =>
    conditionalVisits_live distinct c ((otherwise_elseIf_eq_ok distinct).1 checked) v visited
  | .block body, s, s', r, checked, v, visited => by
    obtain ⟨b, ran, _⟩ := otherwise_block_eq_ok.1 checked
    obtain ⟨as, s₂, inner, _⟩ := block_eq_ok.1 ran
    rw [otherwiseVisits, List.mem_append, List.mem_singleton] at visited
    rcases visited with inside | rfl
    · exact stmtsVisits_live distinct body inner v inside
    · exact block_checksLive distinct ran

end

/-! ## Warnings -/

/-- The warnings about the dead ends of some blocks. -/
def deadWarnings (blocks : List (List Stmt)) : List Warning :=
  (blocks.filterMap Stmt.deadSpan?).map Warning.mk

theorem deadWarnings_append (as bs : List (List Stmt)) :
    deadWarnings (as ++ bs) = deadWarnings as ++ deadWarnings bs := by
  simp [deadWarnings]

/-- A block warns about its dead end once it is closed. -/
theorem block_warnings (distinct : FieldsDistinct g.types) {body : List Stmt}
    {s s₁ s' : BodyState} {as : List (Analyzed Checked.Stmt)} {b : Analyzed (List Checked.Stmt)}
    (inner : stmts g expected body s.enter = (.ok as, s₁))
    (warned : s₁.warnings = s.enter.warnings ++ deadWarnings (Stmt.blocksOfAll body))
    (checked : block g expected body s = (.ok b, s')) :
    s'.warnings = s.warnings ++ deadWarnings (Stmt.blocksOfAll body ++ [body]) := by
  obtain ⟨_, _, ran, _, rfl⟩ := block_eq_ok.1 checked
  cases inner.symm.trans ran
  have last : deadWarnings [body] = (closeBlock body as).2 := by
    rw [(closeBlock_eq distinct ran).2]
    unfold deadWarnings
    cases dead : Stmt.deadSpan? body <;> simp [dead]
  have enters : s.enter.warnings = s.warnings := rfl
  rw [deadWarnings_append, last, ← List.append_assoc, ← enters, ← warned]
  rfl

mutual

/-- A statement adds the warnings of the blocks in it and no others. -/
theorem stmt_warnings (distinct : FieldsDistinct g.types) :
    ∀ (a : Stmt) {s s' : BodyState} {r : Analyzed Checked.Stmt},
      stmt g expected a s = (.ok r, s') → s'.warnings = s.warnings ++ deadWarnings a.blocks
  | .expr e, s, s', r, checked => by
    obtain ⟨_, _, _, rfl⟩ := stmt_expr_eq_ok.1 checked
    exact (List.append_nil _).symm
  | .cond c, s, s', r, checked => by
    obtain ⟨b, ok, _⟩ := stmt_cond_eq_ok.1 checked
    exact conditional_warnings distinct c ok
  | .ret value span, s, s', r, checked => by
    obtain ⟨_, _, _, rfl⟩ := stmt_ret_eq_ok.1 checked
    exact (List.append_nil _).symm
  | .bind ident type value span, s, s', r, checked => by
    obtain ⟨_, _, _, _, rfl⟩ := stmt_bind_eq_ok.1 checked
    exact (List.append_nil _).symm

theorem stmts_warnings (distinct : FieldsDistinct g.types) :
    ∀ (as : List Stmt) {s s' : BodyState} {rs : List (Analyzed Checked.Stmt)},
      stmts g expected as s = (.ok rs, s') →
      s'.warnings = s.warnings ++ deadWarnings (Stmt.blocksOfAll as)
  | [], s, s', rs, checked => by
    obtain ⟨_, rfl⟩ := stmts_nil_eq_ok.1 checked
    exact (List.append_nil _).symm
  | a :: as, s, s', rs, checked => by
    obtain ⟨x, xs, s₁, first, rest, _⟩ := (stmts_cons_eq_ok distinct).1 checked
    rw [stmts_warnings distinct as rest, stmt_warnings distinct a first, Stmt.blocksOfAll,
      deadWarnings_append, List.append_assoc]

theorem conditional_warnings (distinct : FieldsDistinct g.types) :
    ∀ (c : Conditional) {s s' : BodyState} {r : Analyzed Checked.Chain},
      conditional g expected c s = (.ok r, s') → s'.warnings = s.warnings ++ deadWarnings c.blocks
  | .mk e body rest span, s, s', r, checked => by
    obtain ⟨c, b, o, s₁, _, _, ran, others, _⟩ := conditional_eq_ok.1 checked
    obtain ⟨as, s₂, inner, _⟩ := block_eq_ok.1 ran
    have warned := stmts_warnings distinct body inner
    rw [otherwise_warnings distinct rest others, block_warnings distinct inner warned ran,
      Conditional.blocks, deadWarnings_append _ rest.blocks, List.append_assoc]

/-- The warnings of a chain come in the order in which its blocks are closed. -/
theorem otherwise_warnings (distinct : FieldsDistinct g.types) :
    ∀ (o : Otherwise) {s s' : BodyState} {r : Analyzed Checked.Chain},
      otherwise g expected o s = (.ok r, s') → s'.warnings = s.warnings ++ deadWarnings o.blocks
  | .nothing, s, s', r, checked => by
    obtain ⟨_, rfl⟩ := otherwise_nothing_eq_ok.1 checked
    exact (List.append_nil _).symm
  | .elseIf c, s, s', r, checked =>
    conditional_warnings distinct c ((otherwise_elseIf_eq_ok distinct).1 checked)
  | .block body, s, s', r, checked => by
    obtain ⟨b, ran, _⟩ := otherwise_block_eq_ok.1 checked
    obtain ⟨as, s₂, inner, _⟩ := block_eq_ok.1 ran
    exact block_warnings distinct inner (stmts_warnings distinct body inner) ran

end

/-! ## Functions -/

theorem BodyState.bindAll_warnings (params : List Field) (s : BodyState) :
    (s.bindAll params).warnings = s.warnings := by
  induction params generalizing s with
  | nil => rfl
  | cons p params ih => exact ih (s.bind p.name p.type)

/-- Reachability analysis is exact.  If the body of a function checks, checking comes to
each of its blocks, finds that it returns just when all its paths do, and keeps what may
run of it.  There is one warning for each block with a dead end, in the order of the
blocks, and the function gets what is kept of its body and these warnings. -/
theorem reachability_exact {p : Syntax.Program} {host : Builtins} {types : TypeTable}
    {builtins users : List Signature} (tables : Tables p host types builtins users)
    {d : FnDecl} {signature : Signature} {b : Analyzed (List Checked.Stmt)} {s : BodyState}
    (checked : block ⟨types, fnTable builtins users⟩ signature.returnType d.body
      (BodyState.start.bindAll signature.params) = (.ok b, s)) :
    (blockVisits ⟨types, fnTable builtins users⟩ signature.returnType d.body
        (BodyState.start.bindAll signature.params)).map Prod.fst = d.blocks ∧
      (∀ v ∈ blockVisits ⟨types, fnTable builtins users⟩ signature.returnType d.body
          (BodyState.start.bindAll signature.params),
        ChecksLive ⟨types, fnTable builtins users⟩ signature.returnType v.1 v.2) ∧
      s.warnings.map Warning.diagnostic =
        (d.blocks.filterMap Stmt.deadSpan?).map (.warningOver "Unreachable statements") ∧
      ∀ r, fn ⟨types, fnTable builtins users⟩ d signature = .ok r →
        r.1.body = b.node ∧ r.2 = s.warnings := by
  have distinct := tables.fieldsDistinct
  obtain ⟨as, s₁, inner, _⟩ := block_eq_ok.1 checked
  refine ⟨?_, fun v visited => ?_, ?_, fun r made => ?_⟩
  · rw [blockVisits, List.map_append, stmtsVisits_fst]
    rfl
  · rw [blockVisits, List.mem_append, List.mem_singleton] at visited
    rcases visited with inside | rfl
    · exact stmtsVisits_live distinct d.body inner v inside
    · exact block_checksLive distinct checked
  · have warned := block_warnings distinct inner (stmts_warnings distinct d.body inner) checked
    rw [BodyState.bindAll_warnings] at warned
    rw [warned, BodyState.start, List.nil_append, deadWarnings, List.map_map]
    rfl
  · obtain ⟨_, _, ran, _, rfl⟩ := fn_eq_ok.1 made
    cases checked.symm.trans ran
    exact ⟨rfl, rfl⟩

/-- The function

    fn f(n: Int) -> Int {
        if n {
            return n
            n
        } else {
            if n { return n }
            return n
        }
        if n {
            return n
            n
            n
        }
    }

whose statements stand at the lines they have here. -/
def forking : FnDecl where
  ident := ⟨"f", .builtin⟩
  params := [⟨⟨"n", .builtin⟩, ⟨"Int", .builtin⟩, .builtin⟩]
  returnType := some ⟨"Int", .builtin⟩
  signatureSpan := .builtin
  body := [
    .cond (.mk (n 2) [ret 3, .expr (n 4)]
      (.block [.cond (.mk (n 6) [ret 6] .nothing (on 6)), ret 7]) (on 2)),
    .cond (.mk (n 9) [ret 10, .expr (n 11), .expr (n 12)] .nothing (on 9))]
  span := .builtin
where
  on (line : Nat) : Span := .source ⟨line, 1⟩ ⟨line, 2⟩
  n (line : Nat) : Expr := .var "n" (on line)
  ret (line : Nat) : Stmt := .ret (some (n line)) (on line)

/-- A function whose blocks end in a return on both branches: what stands behind them, behind an
inner return and behind that of a nested block is warned of, in the order in which the blocks
are closed. -/
theorem reachability_exact_forking :
    ∃ (types : TypeTable) (signature : Signature) (b : Analyzed (List Checked.Stmt))
      (s : BodyState),
      Tables ⟨[], [forking]⟩ ⟨["Void", "Int", "String"], []⟩ types [] [signature] ∧
      block ⟨types, fnTable [] [signature]⟩ signature.returnType forking.body
        (BodyState.start.bindAll signature.params) = (.ok b, s) ∧
      b.returns = true ∧ b.node.length = 1 ∧
      s.warnings.map Warning.diagnostic = [
        .warningOver "Unreachable statements" (.source ⟨4, 1⟩ ⟨4, 2⟩),
        .warningOver "Unreachable statements" (.source ⟨11, 1⟩ ⟨12, 2⟩),
        .warningOver "Unreachable statements" (.source ⟨9, 1⟩ ⟨9, 2⟩)] := by
  let int : TypeId := .builtin 1
  let types : TypeTable := ⟨["Void", "Int", "String"], [], .builtin 0, int, .builtin 2⟩
  let signature : Signature := ⟨"f", [⟨"n", int⟩], int⟩
  let ret : Checked.Stmt := .ret (some (.slot 0 int))
  let rest : Checked.Chain := .otherwise [.cond (.branch (.slot 0 int) [ret] .nothing), ret]
  let warnings : List Warning :=
    [⟨.source ⟨4, 1⟩ ⟨4, 2⟩⟩, ⟨.source ⟨11, 1⟩ ⟨12, 2⟩⟩, ⟨.source ⟨9, 1⟩ ⟨9, 2⟩⟩]
  have tables : Tables ⟨[], [forking]⟩ ⟨["Void", "Int", "String"], []⟩ types [] [signature] :=
    tables_iff.2 ⟨rfl, rfl, rfl, rfl⟩
  have checked : block ⟨types, fnTable [] [signature]⟩ signature.returnType forking.body
      (BodyState.start.bindAll signature.params) =
      (.ok ⟨[.cond (.branch (.slot 0 int) [ret] rest)], true⟩, ⟨[int], [[("n", 0)]], warnings⟩) :=
    rfl
  obtain ⟨_, _, warned, _⟩ := reachability_exact tables checked
  exact ⟨types, signature, _, _, tables, checked, rfl, rfl, warned⟩

end NominalScript.Check
