import NominalScript.Evaluate
import NominalScript.Proofs.Outcome

/-!
# Runs that end

Running is bounded by how deep calls may be nested.  A bound that is too small
only ever makes a run halt as `tooDeep`; every other answer stays the same under
a larger bound (`Program.evaluate_within`).  So a run that ends has one outcome,
and `Program.Evaluates` is a partial function of the arguments.
-/

namespace NominalScript

open Checked

/-- The same outcome, unless calls were nested too deep. -/
def Outcome.Within {α : Type} (x y : Outcome Halt α) : Prop :=
  x.result = .error .tooDeep ∨ x = y

namespace Outcome

variable {α β : Type} {x y z : Outcome Halt α}

theorem Within.refl (x : Outcome Halt α) : x.Within x := .inr rfl

theorem Within.trans (first : x.Within y) (second : y.Within z) : x.Within z := by
  rcases first with tooDeep | rfl
  · exact .inl tooDeep
  · exact second

/-- Runs that go on from related runs are related: where the first is too deep, nothing is asked
of the second. -/
theorem Within.bind {f g : α → Outcome Halt β} (first : x.Within y)
    (rest : ∀ a, (f a).Within (g a)) : (x >>= f).Within (y >>= g) := by
  rcases first with tooDeep | rfl
  · left
    rw [bind_eq, andThen_error f tooDeep]
  · cases ended : x.result with
    | error e =>
      right
      rw [bind_eq, bind_eq, andThen_error f ended, andThen_error g ended]
    | ok a =>
      rw [bind_eq, bind_eq, andThen_ok f ended, andThen_ok g ended]
      rcases rest a with tooDeep | same
      · exact .inl tooDeep
      · rw [same]
        exact .refl _

end Outcome

namespace Checked

section Bounds

/-- Every call has the same outcome, unless calls were nested too deep. -/
def Invoke.Within (few more : Invoke) : Prop := ∀ f vs, (few f vs).Within (more f vs)

variable {few more : Invoke}

mutual

/-- An expression keeps its outcome when the calls in it do. -/
theorem Expr.eval_within (within : few.Within more) (slots : List Value) :
    ∀ e : Expr, (e.eval few slots).Within (e.eval more slots)
  | .const v _ => .refl _
  | .call fn args _ => by
    rw [Expr.eval, Expr.eval]
    exact (Expr.evalAll_within within slots args).bind fun vs => within fn vs
  | .slot i _ => .refl _
  | .init _ fields _ => by
    rw [Expr.eval, Expr.eval]
    exact (Expr.evalAll_within within slots fields).bind fun _ => .refl _
  | .field base i _ => by
    rw [Expr.eval, Expr.eval]
    exact (Expr.eval_within within slots base).bind fun _ => .refl _

theorem Expr.evalAll_within (within : few.Within more) (slots : List Value) :
    ∀ es : List Expr, (Expr.evalAll few slots es).Within (Expr.evalAll more slots es)
  | [] => .refl _
  | e :: es => by
    rw [Expr.evalAll, Expr.evalAll]
    exact (Expr.eval_within within slots e).bind fun _ =>
      (Expr.evalAll_within within slots es).bind fun _ => .refl _

end

mutual

/-- A statement keeps its outcome when the calls in it do. -/
theorem Stmt.exec_within (within : few.Within more) :
    ∀ (s : Stmt) (slots : List Value), (s.exec few slots).Within (s.exec more slots)
  | .expr e, slots => by
    rw [Stmt.exec, Stmt.exec]
    exact (Expr.eval_within within slots e).bind fun _ => .refl _
  | .cond chain, slots => by
    rw [Stmt.exec, Stmt.exec]
    exact Chain.exec_within within chain slots
  | .ret (some e), slots => by
    rw [Stmt.exec, Stmt.exec]
    exact (Expr.eval_within within slots e).bind fun _ => .refl _
  | .ret none, slots => .refl _
  | .bind i e, slots => by
    rw [Stmt.exec, Stmt.exec]
    exact (Expr.eval_within within slots e).bind fun _ => .refl _

theorem Stmt.execAll_within (within : few.Within more) :
    ∀ (body : List Stmt) (slots : List Value),
      (Stmt.execAll few body slots).Within (Stmt.execAll more body slots)
  | [], slots => .refl _
  | s :: rest, slots => by
    rw [Stmt.execAll, Stmt.execAll]
    apply (Stmt.exec_within within s slots).bind
    intro flow
    cases flow with
    | onward slots' => exact Stmt.execAll_within within rest slots'
    | returned v => exact .refl _

/-- A chain takes the same branch, for its condition has the same value. -/
theorem Chain.exec_within (within : few.Within more) :
    ∀ (chain : Chain) (slots : List Value),
      (chain.exec few slots).Within (chain.exec more slots)
  | .nothing, slots => .refl _
  | .otherwise block, slots => by
    rw [Chain.exec, Chain.exec]
    exact Stmt.execAll_within within block slots
  | .branch c block rest, slots => by
    rw [Chain.exec, Chain.exec]
    apply (Expr.eval_within within slots c).bind
    intro v
    split
    · exact Stmt.execAll_within within block slots
    · exact Chain.exec_within within rest slots

end

theorem Fn.run_within (within : few.Within more) (f : Fn) (args : List Value) :
    (f.run few args).Within (f.run more args) := by
  unfold Fn.run
  dsimp only
  split
  · exact (Stmt.execAll_within within f.body _).bind fun _ => .refl _
  · exact .refl _

end Bounds

namespace Program

variable {p : Program} {f : Fn} {args : List Value}

/-- One more level of nested calls keeps every answer but `tooDeep`. -/
theorem invoke_within_succ (depth : Nat) :
    Invoke.Within (p.invoke depth) (p.invoke (depth + 1)) := by
  induction depth with
  | zero =>
    intro f vs
    cases f with
    | builtin i => exact .refl _
    | user i => exact .inl rfl
  | succ depth ih =>
    intro f vs
    cases f with
    | builtin i => exact .refl _
    | user i =>
      rw [invoke, invoke]
      split
      · exact Fn.run_within ih _ vs
      · exact .refl _

/-- A larger bound keeps every answer but `tooDeep`. -/
theorem evaluate_within {depth depth' : Nat} (deeper : depth ≤ depth') (f : Fn)
    (args : List Value) :
    (p.evaluate depth f args).Within (p.evaluate depth' f args) := by
  have reached : Invoke.Within (p.invoke depth) (p.invoke depth') := by
    induction deeper with
    | refl => exact fun fn vs => .refl _
    | step _ ih => exact fun fn vs => (ih fn vs).trans (invoke_within_succ _ fn vs)
  exact Fn.run_within reached f args

/-- Running a function on arguments ends with an outcome, under some bound on how
deep calls are nested. -/
def Evaluates (p : Program) (f : Fn) (args : List Value) (o : Outcome RuntimeError Value) : Prop :=
  ∃ depth, p.evaluate depth f args = o.mapError .error

end Program

end Checked

namespace Outcome

variable {α : Type} {o o' : Outcome RuntimeError α}

theorem mapError_error_inj (same : o.mapError Halt.error = o'.mapError Halt.error) : o = o' := by
  rcases o with ⟨printed, result⟩
  rcases o' with ⟨printed', result'⟩
  cases result <;> cases result' <;> simp_all

theorem within_mapError_error {x : Outcome Halt α} (within : (o.mapError Halt.error).Within x) :
    o.mapError Halt.error = x := by
  rcases within with tooDeep | same
  · rcases o with ⟨printed, result⟩
    cases result <;> simp at tooDeep
  · exact same

end Outcome

/-- A run that ends has one outcome. -/
theorem Checked.Program.Evaluates.unique {p : Program} {f : Fn} {args : List Value}
    {o o' : Outcome RuntimeError Value} (first : p.Evaluates f args o)
    (second : p.Evaluates f args o') : o = o' := by
  obtain ⟨depth, ran⟩ := first
  obtain ⟨depth', ran'⟩ := second
  have under := evaluate_within (Nat.le_max_left depth depth') f args (p := p)
  have under' := evaluate_within (Nat.le_max_right depth depth') f args (p := p)
  rw [ran] at under
  rw [ran'] at under'
  apply Outcome.mapError_error_inj
  rw [Outcome.within_mapError_error under, Outcome.within_mapError_error under']

end NominalScript
