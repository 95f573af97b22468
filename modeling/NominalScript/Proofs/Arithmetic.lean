import Mathlib.Data.Int.ModEq
import NominalScript.Evaluate
import NominalScript.Proofs.Check.Overloads

/-!
# Arithmetic

Integers of a script have 64 bits and wrap around, at every step of an expression.
Wrapping once at the end comes to the same: an expression made of integer literals,
parentheses and the operators `-`, `+` and `*` gives the one 64-bit integer that is
congruent to its exact value.  A quotient is that of the two wrapped operands.

`Gives` says what an expression is checked to and what that runs to.  Operators are
builtins, found by name and types, so there is one lemma for those of one operand
(`gives_oneArg`) and one for those of two (`gives_twoArgs`).
-/

namespace NominalScript

open Syntax Check
open Checked (Signature)

/-! ## Wrapping around -/

/-- Of the 64-bit integers just the wrapped one is congruent. -/
theorem modEq_iff_eq_ofInt {v : Int} {n : Int64} :
    n.toInt ≡ v [ZMOD 2 ^ 64] ↔ n = Int64.ofInt v := by
  rw [eq_comm, Int64.ofInt_eq_iff_bmod_eq_toInt]
  refine ⟨?_, ?_⟩
  · intro congruent
    rw [← Int.emod_bmod v, ← n.toInt_bmod, ← Int.emod_bmod n.toInt]
    exact congrArg (Int.bmod · (2 ^ 64)) congruent.symm
  · intro same
    rw [← same]
    exact Int.bmod_emod

theorem ofInt_eq_zero_iff {v : Int} : Int64.ofInt v = 0 ↔ (2 ^ 64 : Int) ∣ v := by
  rw [eq_comm, ← modEq_iff_eq_ofInt, ← Int.modEq_zero_iff_dvd]
  exact ⟨Int.ModEq.symm, Int.ModEq.symm⟩

theorem div_eq_ofInt (m n : Int64) : m / n = Int64.ofInt (m.toInt.tdiv n.toInt) :=
  ((Int64.ofInt_eq_iff_bmod_eq_toInt _ _).2 (Int64.toInt_div m n).symm).symm

/-! ## Values without bounds -/

/-- An expression made of integer literals, parentheses and the operators `-`, `+` and
`*`, and its value when nothing wraps around. -/
inductive Syntax.Expr.ExactValue : Expr → Int → Prop
  | int (n : Int64) (span : Span) : ExactValue (.int n span) n.toInt
  | paren {e : Expr} {v : Int} (span : Span) : ExactValue e v → ExactValue (.paren e span) v
  | neg {e : Expr} {v : Int} (opSpan span : Span) :
    ExactValue e v → ExactValue (.unary ⟨"-", opSpan⟩ e span) (-v)
  | add {l r : Expr} {v w : Int} (opSpan span : Span) :
    ExactValue l v → ExactValue r w → ExactValue (.binary ⟨"+", opSpan⟩ l r span) (v + w)
  | sub {l r : Expr} {v w : Int} (opSpan span : Span) :
    ExactValue l v → ExactValue r w → ExactValue (.binary ⟨"-", opSpan⟩ l r span) (v - w)
  | mul {l r : Expr} {v w : Int} (opSpan span : Span) :
    ExactValue l v → ExactValue r w → ExactValue (.binary ⟨"*", opSpan⟩ l r span) (v * w)

/-! ## Calls of standard builtins -/

/-- The table of a program's functions has the standard builtins in front, and no call is
ambiguous. -/
structure StandardTable (g : Globals) : Prop where
  int : g.types.names.resolve? "Int" = some g.types.int
  listed : ∀ (i : Nat) b, standardFns[i]? = some b →
    ∃ s, (.builtin i, s) ∈ g.fns ∧ HostSignatureFor g.types.names b s
  keys : (g.fns.map fun f => f.2.key).Nodup

/-- The outcome of running an expression that gives an integer. -/
def Outcome.integer (o : Outcome RuntimeError Int64) : Outcome Halt Value :=
  Outcome.mapError Halt.error (do return Value.int (← o))

/-- The expression is checked to one of type `Int` wherever it stands, and that has the
outcome in every call and at every depth. -/
def Gives (g : Globals) (program : Checked.Program) (e : Expr) (o : Outcome RuntimeError Int64) :
    Prop :=
  ∀ locals scopes, ∃ c, expr ⟨g, locals, scopes⟩ e = .ok c ∧ c.type = g.types.int ∧
    ∀ depth slots, c.eval (program.invoke depth) slots = o.integer

section Calls

variable {g : Globals} {program : Checked.Program} {i : Nat} {op : String} {opSpan span : Span}

/-- The types of a builtin's parameters are those that their names stand for. -/
theorem map_paramTypes_of_made {names : TypeNames} {b : Builtin} {s : Signature}
    (made : HostSignatureFor names b s) :
    s.paramTypes.map some = (b.params.map (·.typeName)).map names.resolve? := by
  rw [Signature.paramTypes, List.map_map, List.map_map]
  exact (Aligned.map_eq_map made.params fun _ _ param => param.2).symm

/-- A call of a builtin between integers is resolved. -/
theorem StandardTable.call_eq (table : StandardTable g) {b : Builtin}
    (listed : standardFns[i]? = some b) (returns : b.returnType = "Int")
    {args : List Checked.Expr} (params : b.params.map (·.typeName) = args.map fun _ => "Int")
    (typed : ∀ c ∈ args, c.type = g.types.int) :
    call g b.name args span = .ok (.call (.builtin i) args g.types.int) := by
  obtain ⟨s, entry, made⟩ := table.listed i b listed
  have returned : s.returnType = g.types.int := by
    have resolved := made.returns
    rw [returns, table.int] at resolved
    exact (Option.some.inj resolved).symm
  have types : s.paramTypes = args.map Checked.Expr.type := by
    refine List.map_injective_iff.2 (Option.some_injective _) ?_
    rw [map_paramTypes_of_made made, params, List.map_map, List.map_map]
    refine List.map_congr_left fun c mem => ?_
    rw [Function.comp_apply, Function.comp_apply, table.int, typed c mem]
  have answers : s.answers b.name (args.map Checked.Expr.type) = true :=
    Signature.answers_iff.2 (by rw [Signature.key, made.name, types])
  refine call_eq_ok.2 ⟨(.builtin i, s), ?_, by rw [returned]⟩
  exact (find?_eq_some_of_unique (eq_of_answers table.keys)).2 ⟨entry, answers⟩

theorem invoke_builtin (program : Checked.Program) (depth : Nat) (i : Nat) :
    program.invoke depth (.builtin i) = program.invokeBuiltin i := by
  cases depth <;> rfl

theorem invokeBuiltin_oneArg (host : program.builtins = standardFns) {label : String}
    {f : Int64 → Outcome RuntimeError Int64}
    (listed : standardFns[i]? = some (.oneArg op label f)) (n : Int64) :
    program.invokeBuiltin i [.int n] = (f n).integer := by
  rw [Checked.Program.invokeBuiltin, host, listed]
  rfl

theorem invokeBuiltin_twoArgs (host : program.builtins = standardFns) {label₁ label₂ : String}
    {f : Int64 → Int64 → Outcome RuntimeError Int64}
    (listed : standardFns[i]? = some (.twoArgs op label₁ label₂ f)) (m n : Int64) :
    program.invokeBuiltin i [.int m, .int n] = (f m n).integer := by
  rw [Checked.Program.invokeBuiltin, host, listed]
  rfl

/-- An operator in front of an integer gives what its function gives. -/
theorem gives_oneArg (table : StandardTable g) (host : program.builtins = standardFns)
    {label : String} {f : Int64 → Outcome RuntimeError Int64}
    (listed : standardFns[i]? = some (.oneArg op label f)) {e : Expr} {n : Int64}
    (operand : Gives g program e (pure n)) :
    Gives g program (.unary ⟨op, opSpan⟩ e span) (f n) := by
  intro locals scopes
  obtain ⟨c, checked, typed, runs⟩ := operand locals scopes
  refine ⟨.call (.builtin i) [c] g.types.int, ?_, rfl, ?_⟩
  · exact expr_unary_eq_ok.2 ⟨c, checked, table.call_eq listed rfl rfl (by simpa using typed)⟩
  · intro depth slots
    rw [Checked.Expr.eval, Checked.Expr.evalAll, runs, invoke_builtin]
    exact invokeBuiltin_oneArg host listed n

/-- An operator between integers gives what its function gives. -/
theorem gives_twoArgs (table : StandardTable g) (host : program.builtins = standardFns)
    {label₁ label₂ : String} {f : Int64 → Int64 → Outcome RuntimeError Int64}
    (listed : standardFns[i]? = some (.twoArgs op label₁ label₂ f)) {l r : Expr} {m n : Int64}
    (left : Gives g program l (pure m)) (right : Gives g program r (pure n)) :
    Gives g program (.binary ⟨op, opSpan⟩ l r span) (f m n) := by
  intro locals scopes
  obtain ⟨c, checked, typed, runs⟩ := left locals scopes
  obtain ⟨c', checked', typed', runs'⟩ := right locals scopes
  refine ⟨.call (.builtin i) [c, c'] g.types.int, ?_, rfl, ?_⟩
  · rw [expr, checked, checked']
    exact table.call_eq listed rfl rfl (by simpa using ⟨typed, typed'⟩)
  · intro depth slots
    rw [Checked.Expr.eval, Checked.Expr.evalAll, Checked.Expr.evalAll, runs, runs', invoke_builtin]
    exact invokeBuiltin_twoArgs host listed m n

end Calls

/-! ## Arithmetic expressions -/

section

variable {g : Globals} {program : Checked.Program}

theorem gives_int (n : Int64) (span : Span) : Gives g program (.int n span) (pure n) :=
  fun _ _ => ⟨_, expr_int_eq_ok.2 rfl, rfl, fun _ _ => rfl⟩

theorem gives_paren {e : Expr} {o : Outcome RuntimeError Int64} {span : Span}
    (inner : Gives g program e o) : Gives g program (.paren e span) o := by
  intro locals scopes
  obtain ⟨c, checked, rest⟩ := inner locals scopes
  exact ⟨c, expr_paren_eq_ok.2 checked, rest⟩

/-- Each step wraps around, and so the whole wraps around. -/
theorem Syntax.Expr.ExactValue.gives (table : StandardTable g)
    (host : program.builtins = standardFns)
    {e : Expr} {v : Int} (worth : e.ExactValue v) :
    Gives g program e (pure (Int64.ofInt v)) := by
  induction worth with
  | int n span =>
    rw [Int64.ofInt_toInt]
    exact gives_int n span
  | paren span _ ih => exact gives_paren ih
  | neg opSpan span _ ih =>
    rw [Int64.ofInt_neg]
    exact gives_oneArg table host (i := 8) rfl ih
  | add opSpan span _ _ left right =>
    rw [Int64.ofInt_add]
    exact gives_twoArgs table host (i := 0) rfl left right
  | sub opSpan span _ _ left right =>
    rw [Int64.ofInt_sub]
    exact gives_twoArgs table host (i := 1) rfl left right
  | mul opSpan span _ _ left right =>
    rw [Int64.ofInt_mul]
    exact gives_twoArgs table host (i := 2) rfl left right

end

/-! ## Programs with the standard builtins -/

section

variable {structs : List StructType} {ds : List FnDecl} {types : TypeTable}
  {builtins users : List Signature}

/-- The tables that checking makes for the standard host have its builtins in front, so their
numbers are those of the host. -/
theorem standardTable_of_made
    (madeTypes : typeTable Builtins.standard.types structs = .ok types)
    (madeBuiltins : builtinSignatures types standardFns = .ok builtins)
    (madeUsers : signaturesFrom types builtins ds = .ok users) :
    StandardTable ⟨types, fnTable builtins users⟩ := by
  obtain ⟨_, _, _, void, int, _⟩ := typeTable_eq_ok.1 madeTypes
  obtain ⟨hostFns, first⟩ := builtinSignatures_eq_ok.1 madeBuiltins
  obtain ⟨_, _, second⟩ := (signaturesFrom_eq_ok void).1 madeUsers
  refine ⟨int, ?_, nodup_keys_fnTable (apart_nil_iff.1 (apart_append.2 ⟨first, second⟩))⟩
  intro i b listed
  obtain ⟨s, entry, made⟩ := Aligned.getElem?_left hostFns listed
  exact ⟨s, mem_fnTable_builtin.2 entry, made⟩

/-- With the standard builtins, an expression of integer literals, parentheses, `-`, `+`
and `*` is one of type `Int` in any program and gives the one 64-bit integer that is
congruent to its exact value.  The quotient of two such expressions is a division by
zero just when the exact value of the second is a multiple of 2 ^ 64; otherwise it is
the quotient of the two wrapped values, rounded toward zero and wrapped around. -/
theorem arithmetic_wraps
    (madeTypes : typeTable Builtins.standard.types structs = .ok types)
    (madeBuiltins : builtinSignatures types standardFns = .ok builtins)
    (madeUsers : signaturesFrom types builtins ds = .ok users)
    {program : Checked.Program} (host : program.builtins = standardFns) :
    let g : Globals := ⟨types, fnTable builtins users⟩
    (∀ (e : Expr) (v : Int), e.ExactValue v →
      ∃ n : Int64, (∀ m : Int64, m.toInt ≡ v [ZMOD 2 ^ 64] ↔ m = n) ∧ Gives g program e (pure n)) ∧
    ∀ (a b : Expr) (v w : Int), a.ExactValue v → b.ExactValue w →
      ∀ m n : Int64, m.toInt ≡ v [ZMOD 2 ^ 64] → n.toInt ≡ w [ZMOD 2 ^ 64] → ∀ opSpan span,
        Gives g program (.binary ⟨"/", opSpan⟩ a b span)
          (if (2 ^ 64 : Int) ∣ w then .fail .divisionByZero
            else pure (Int64.ofInt (m.toInt.tdiv n.toInt))) := by
  intro g
  have table := standardTable_of_made madeTypes madeBuiltins madeUsers
  refine ⟨?_, ?_⟩
  · intro e v worth
    exact ⟨Int64.ofInt v, fun _ => modEq_iff_eq_ofInt, worth.gives table host⟩
  · intro a b v w left right m n wrapped wrapped' opSpan span
    have gives : Gives g program (.binary ⟨"/", opSpan⟩ a b span) _ :=
      gives_twoArgs table host (i := 3) rfl (left.gives table host) (right.gives table host)
    rw [← modEq_iff_eq_ofInt.1 wrapped, ← modEq_iff_eq_ofInt.1 wrapped', quotient,
      div_eq_ofInt] at gives
    have zero : n = 0 ↔ (2 ^ 64 : Int) ∣ w := by
      rw [modEq_iff_eq_ofInt.1 wrapped', ofInt_eq_zero_iff]
    by_cases multiple : (2 ^ 64 : Int) ∣ w
    · rw [if_pos multiple]
      rw [if_pos (zero.2 multiple)] at gives
      exact gives
    · rw [if_neg multiple]
      rw [if_neg (mt zero.1 multiple)] at gives
      exact gives

/-- The least integer has no negative, so negating it and dividing it by `-1` both wrap
around to it; and the square of 2 ^ 32 wraps around to zero. -/
theorem arithmetic_wraps_least :
    ∃ types builtins, typeTable Builtins.standard.types [] = .ok types ∧
      builtinSignatures types standardFns = .ok builtins ∧
      let g : Globals := ⟨types, fnTable builtins []⟩
      let program : Checked.Program := ⟨types, standardFns, []⟩
      let int (n : Int64) : Expr := .int n .builtin
      let op (name : String) : Ident := ⟨name, .builtin⟩
      Gives g program (.unary (op "-") (int Int64.minValue) .builtin) (pure Int64.minValue) ∧
      Gives g program (.binary (op "/") (int Int64.minValue) (.unary (op "-") (int 1) .builtin)
        .builtin) (pure Int64.minValue) ∧
      Gives g program (.binary (op "/") (int 1)
        (.paren (.binary (op "*") (int 4294967296) (int 4294967296) .builtin) .builtin) .builtin)
        (.fail .divisionByZero) := by
  obtain ⟨types, builtins, madeTypes, madeBuiltins⟩ : ∃ types builtins,
      typeTable Builtins.standard.types [] = .ok types ∧
        builtinSignatures types standardFns = .ok builtins := ⟨_, _, rfl, rfl⟩
  have arithmetic := @arithmetic_wraps [] [] types builtins [] madeTypes madeBuiltins rfl
    ⟨types, standardFns, []⟩ rfl
  obtain ⟨values, quotients⟩ := arithmetic
  have least := Expr.ExactValue.int Int64.minValue .builtin
  refine ⟨types, builtins, madeTypes, madeBuiltins, ?_, ?_, ?_⟩
  · obtain ⟨n, unique, gives⟩ := values _ _ (.neg .builtin .builtin least)
    have wrapped : Int64.minValue = n := (unique Int64.minValue).1 (by decide)
    rw [← wrapped] at gives
    exact gives
  · exact quotients _ _ _ _ least (.neg .builtin .builtin (.int 1 .builtin)) Int64.minValue (-1)
      (by decide) (by decide) .builtin .builtin
  · have square := Expr.ExactValue.mul .builtin .builtin (.int 4294967296 .builtin)
      (.int 4294967296 .builtin)
    exact quotients _ _ _ _ (.int 1 .builtin) (.paren .builtin square) 1 0 (by decide) (by decide)
      .builtin .builtin

end

end NominalScript
