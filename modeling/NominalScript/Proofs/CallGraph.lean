import Mathlib.Data.Finset.Card
import Mathlib.Logic.Relation
import NominalScript.Check
import NominalScript.Proofs.Checked.Nodes
import NominalScript.Proofs.Evaluates

/-!
# Programs without recursion

Running an expression or a statement is recursion on its tree, so it comes to an end as long
as the calls in it do (`Stmt.exec_settles`).  A call goes on with a body that is no part of
the caller's.  What gets smaller there is the number of functions that can be reached: when
no function leads back to itself, a function that is called reaches fewer than its caller
(`Program.reach_lt`).  So a program without recursion ends on all arguments, with calls
nested no deeper than it has functions (`Program.evaluate_ends`).
-/

namespace NominalScript

open Relation (TransGen)

/-! ## Runs that come to an end -/

namespace Outcome

variable {α β : Type} {x : Outcome Halt α}

/-- It ended with a result or with an error of the script. -/
def Settles (x : Outcome Halt α) : Prop := x.Ends (fun _ => True) (· ≠ .tooDeep)

theorem Settles.bind {f : α → Outcome Halt β} (first : x.Settles) (rest : ∀ a, (f a).Settles) :
    (x >>= f).Settles :=
  Ends.bind first fun a _ => rest a

theorem settles_pure (a : α) : (pure a : Outcome Halt α).Settles := trivial

theorem settles_error (e : RuntimeError) : (fail (.error e) : Outcome Halt α).Settles := nofun

theorem settles_ofOption (e : RuntimeError) (a? : Option α) :
    (ofOption (Halt.error e) a?).Settles := by
  cases a? with
  | none => exact settles_error e
  | some a => exact settles_pure a

theorem settles_mapError (o : Outcome RuntimeError α) : (o.mapError Halt.error).Settles :=
  Ends.mapError ((ends_trivial o).mono (fun _ _ => trivial) fun _ _ => nofun)

/-- What has settled is the outcome of a run without any bound. -/
theorem Settles.exists_eq_mapError (settles : x.Settles) :
    ∃ o : Outcome RuntimeError α, x = o.mapError Halt.error := by
  rcases x with ⟨printed, result⟩
  match result with
  | .ok a => exact ⟨⟨printed, .ok a⟩, rfl⟩
  | .error (.error e) => exact ⟨⟨printed, .error e⟩, rfl⟩
  | .error .tooDeep => exact absurd rfl settles

end Outcome

namespace Checked

open Outcome (settles_pure settles_error settles_ofOption settles_mapError)

/-! ## Running code whose calls come to an end -/

section Bodies

variable {invoke : Invoke} {es es' : List Expr}

/-- All calls in some expressions come to an end, whatever their arguments. -/
def Invoke.SettlesIn (invoke : Invoke) (es : List Expr) : Prop :=
  ∀ f args t, .call f args t ∈ es → ∀ vs, (invoke f vs).Settles

theorem Invoke.SettlesIn.mono (settles : invoke.SettlesIn es) (fewer : es' ⊆ es) :
    invoke.SettlesIn es' :=
  fun f args t mem => settles f args t (fewer mem)

theorem Invoke.settlesIn_append :
    invoke.SettlesIn (es ++ es') ↔ invoke.SettlesIn es ∧ invoke.SettlesIn es' := by
  refine ⟨fun settles => ?_, fun ⟨first, second⟩ f args t mem => ?_⟩
  · exact ⟨settles.mono (List.subset_append_left es es'),
      settles.mono (List.subset_append_right es es')⟩
  · exact (List.mem_append.1 mem).elim (first f args t) (second f args t)

mutual

/-- An expression comes to an end if the calls in it do, for nothing else in it recurs. -/
theorem Expr.eval_settles (slots : List Value) :
    ∀ e : Expr, invoke.SettlesIn e.nodes → (e.eval invoke slots).Settles
  | .const v _, _ => settles_pure v
  | .call f args t, settles => by
    rw [Expr.nodes] at settles
    rw [Expr.eval]
    exact (Expr.evalAll_settles slots args (settles.mono (List.subset_cons_self _ _))).bind
      (settles f args t List.mem_cons_self)
  | .slot i _, _ => settles_ofOption _ slots[i]?
  | .init i fields t, settles => by
    rw [Expr.nodes] at settles
    rw [Expr.eval]
    exact (Expr.evalAll_settles slots fields (settles.mono (List.subset_cons_self _ _))).bind
      fun vs => settles_pure _
  | .field base i t, settles => by
    rw [Expr.nodes] at settles
    rw [Expr.eval]
    exact (Expr.eval_settles slots base (settles.mono (List.subset_cons_self _ _))).bind
      fun v => settles_ofOption _ (v.field? i)

theorem Expr.evalAll_settles (slots : List Value) :
    ∀ es : List Expr, invoke.SettlesIn (Expr.nodesOfAll es) →
      (Expr.evalAll invoke slots es).Settles
  | [], _ => settles_pure _
  | e :: es, settles => by
    rw [Expr.nodesOfAll, Invoke.settlesIn_append] at settles
    rw [Expr.evalAll]
    exact (Expr.eval_settles slots e settles.1).bind fun v =>
      (Expr.evalAll_settles slots es settles.2).bind fun vs => settles_pure _

end

theorem fill_settles (slots : List Value) (i : Nat) (v : Value) : (fill slots i v).Settles := by
  unfold fill
  split
  · exact settles_pure _
  · exact settles_error _

mutual

/-- A statement comes to an end if the calls in it do. -/
theorem Stmt.exec_settles :
    ∀ (s : Stmt) (slots : List Value), invoke.SettlesIn s.nodes → (s.exec invoke slots).Settles
  | .expr e, slots, settles => by
    rw [Stmt.nodes] at settles
    rw [Stmt.exec]
    exact (Expr.eval_settles slots e settles).bind fun _ => settles_pure _
  | .cond chain, slots, settles => by
    rw [Stmt.nodes] at settles
    rw [Stmt.exec]
    exact Chain.exec_settles chain slots settles
  | .ret (some e), slots, settles => by
    rw [Stmt.nodes] at settles
    rw [Stmt.exec]
    exact (Expr.eval_settles slots e settles).bind fun v => settles_pure _
  | .ret none, _, _ => settles_pure _
  | .bind i e, slots, settles => by
    rw [Stmt.nodes] at settles
    rw [Stmt.exec]
    exact (Expr.eval_settles slots e settles).bind fun v => fill_settles slots i v

theorem Stmt.execAll_settles :
    ∀ (body : List Stmt) (slots : List Value), invoke.SettlesIn (Stmt.nodesOfAll body) →
      (Stmt.execAll invoke body slots).Settles
  | [], slots, _ => settles_pure _
  | s :: rest, slots, settles => by
    rw [Stmt.nodesOfAll, Invoke.settlesIn_append] at settles
    rw [Stmt.execAll]
    refine (Stmt.exec_settles s slots settles.1).bind fun flow => ?_
    cases flow with
    | onward slots' => exact Stmt.execAll_settles rest slots' settles.2
    | returned v => exact settles_pure _

/-- A chain of conditions comes to an end if the calls in it do: one block of it is run at most. -/
theorem Chain.exec_settles :
    ∀ (chain : Chain) (slots : List Value), invoke.SettlesIn chain.nodes →
      (chain.exec invoke slots).Settles
  | .nothing, slots, _ => settles_pure _
  | .otherwise block, slots, settles => by
    rw [Chain.nodes] at settles
    rw [Chain.exec]
    exact Stmt.execAll_settles block slots settles
  | .branch c block rest, slots, settles => by
    rw [Chain.nodes, Invoke.settlesIn_append, Invoke.settlesIn_append] at settles
    obtain ⟨condition, inside, others⟩ := settles
    rw [Chain.exec]
    refine (Expr.eval_settles slots c condition).bind fun v => ?_
    split
    · exact Stmt.execAll_settles block slots inside
    · exact Chain.exec_settles rest slots others

end

theorem Fn.run_settles {f : Fn} (settles : invoke.SettlesIn f.nodes) (args : List Value) :
    (f.run invoke args).Settles := by
  unfold Fn.run
  dsimp only
  split
  · exact (Stmt.execAll_settles f.body _ settles).bind fun flow => settles_pure _
  · exact settles_error _

end Bodies

/-! ## Functions that call each other -/

namespace Program

variable {p : Program} {i j : Nat}

/-- The body of function `i` has a call of function `j`. -/
def Calls (p : Program) (i j : Nat) : Prop :=
  ∃ f, p.fns[i]? = some f ∧ ∃ args t, .call (.user j) args t ∈ f.nodes

/-- No function leads back to itself by way of one or more calls. -/
def NonRecursive (p : Program) : Prop := ∀ i, ¬ TransGen p.Calls i i

open Classical in
/-- How many functions of the program can be reached from one by calls. -/
noncomputable def reach (p : Program) (i : Nat) : Nat :=
  ((Finset.range p.fns.length).filter (TransGen p.Calls i)).card

/-- A function that is called reaches fewer functions than its caller: all that it reaches
the caller reaches too, and it does not reach itself. -/
theorem reach_lt (nonRecursive : p.NonRecursive) (called : p.Calls i j)
    (declared : j < p.fns.length) : p.reach j < p.reach i := by
  classical
  refine Finset.card_lt_card ((Finset.ssubset_iff_of_subset fun k mem => ?_).2 ⟨j, ?_, ?_⟩)
  · rw [Finset.mem_filter] at mem ⊢
    exact ⟨mem.1, .head called mem.2⟩
  · exact Finset.mem_filter.2 ⟨Finset.mem_range.2 declared, .single called⟩
  · exact fun mem => nonRecursive j (Finset.mem_filter.1 mem).2

theorem reach_lt_length (nonRecursive : p.NonRecursive) (declared : i < p.fns.length) :
    p.reach i < p.fns.length := by
  classical
  have fewer : p.reach i < (Finset.range p.fns.length).card := by
    refine Finset.card_lt_card (Finset.filter_ssubset.2 ⟨i, Finset.mem_range.2 declared, ?_⟩)
    exact nonRecursive i
  rwa [Finset.card_range] at fewer

theorem invokeBuiltin_settles (p : Program) (i : Nat) (args : List Value) :
    (p.invokeBuiltin i args).Settles := by
  unfold invokeBuiltin
  split
  · exact settles_mapError _
  · exact settles_error _

/-- A function comes to an end with calls nested no deeper than it reaches functions. -/
theorem evaluate_settles (nonRecursive : p.NonRecursive) {depth : Nat} {f : Fn}
    (declared : p.fns[i]? = some f) (enough : p.reach i < depth) (args : List Value) :
    (p.evaluate depth f args).Settles := by
  induction depth generalizing i f args with
  | zero => exact absurd enough (Nat.not_lt_zero _)
  | succ depth ih =>
    refine Fn.run_settles (fun g callArgs t call vs => ?_) args
    cases g with
    | builtin k => exact invokeBuiltin_settles p k vs
    | user j =>
      rw [invoke]
      cases callee : p.fns[j]? with
      | none => exact settles_error _
      | some g =>
        have fewer := reach_lt nonRecursive ⟨f, declared, callArgs, t, call⟩
          (List.getElem?_eq_some_iff.1 callee).1
        exact ih callee (by omega) vs

/-- Without recursion every run ends.  If no function of a program leads back to itself,
running any of them, on arguments of any number and type, has one outcome, a value or an
error, under every bound on how deep calls are nested that is at least the number of
functions. -/
theorem evaluate_ends (nonRecursive : p.NonRecursive) :
    ∀ f ∈ p.fns, ∀ args, ∃ o : Outcome RuntimeError Value,
      ∀ depth, p.fns.length ≤ depth → p.evaluate depth f args = o.mapError .error := by
  intro f mem args
  obtain ⟨i, declared⟩ := List.mem_iff_getElem?.1 mem
  have bound := reach_lt_length nonRecursive (List.getElem?_eq_some_iff.1 declared).1
  obtain ⟨o, ran⟩ := (evaluate_settles nonRecursive declared bound args).exists_eq_mapError
  refine ⟨o, fun depth deeper => ?_⟩
  have within := evaluate_within deeper f args (p := p)
  rw [ran] at within
  exact (Outcome.within_mapError_error within).symm

/-- The functions

    fn same(n: Int) -> Int { return n }
    fn still(n: Int) -> Int { return same(same(n)) }

of which the second calls the first. -/
def still : Syntax.Program where
  structs := []
  fns := [fn "same" (.var "n" .builtin), fn "still" (same (same (.var "n" .builtin)))]
where
  named (name : String) : Syntax.Ident := ⟨name, .builtin⟩
  same (e : Syntax.Expr) : Syntax.Expr := .call (named "same") [e] .builtin
  fn (name : String) (value : Syntax.Expr) : Syntax.FnDecl :=
    ⟨named name, [⟨named "n", named "Int", .builtin⟩], some (named "Int"), .builtin,
      [.ret (some value) .builtin], .builtin⟩

/-- Two functions, one of which calls the other: at a depth of two and more, each has one
outcome on all arguments, those of wrong types included. -/
theorem evaluate_ends_still :
    ∃ a, still.check ⟨["Void", "Int", "String"], []⟩ = .ok a ∧ a.program.NonRecursive ∧
      a.program.fns.length = 2 ∧ ∀ f ∈ a.program.fns, ∀ args, ∃ o : Outcome RuntimeError Value,
        ∀ depth, 2 ≤ depth → a.program.evaluate depth f args = o.mapError .error := by
  let int : TypeId := .builtin 1
  let call (e : Expr) : Expr := .call (.user 0) [e] int
  let signature (name : String) : Signature := ⟨name, [⟨"n", int⟩], int⟩
  let p : Program := ⟨⟨["Void", "Int", "String"], [], .builtin 0, int, .builtin 2⟩, [],
    [⟨signature "same", 1, [.ret (some (.slot 0 int))]⟩,
      ⟨signature "still", 1, [.ret (some (call (call (.slot 0 int))))]⟩]⟩
  have accepted : still.check ⟨["Void", "Int", "String"], []⟩ = .ok ⟨p, []⟩ := rfl
  -- Only the second function calls one, and that is the first.
  have calls : ∀ i j, p.Calls i j → i = 1 ∧ j = 0 := by
    rintro (_ | _ | i) j ⟨f, declared, args, t, mem⟩
    · cases declared
      simp [Fn.nodes, Stmt.nodesOfAll, Stmt.nodes, Expr.nodes] at mem
    · cases declared
      simp [Fn.nodes, Stmt.nodesOfAll, Stmt.nodes, Expr.nodes, Expr.nodesOfAll, call] at mem
      exact ⟨rfl, by rcases mem with ⟨rfl, _⟩ | ⟨rfl, _⟩ <;> rfl⟩
    · simp [p] at declared
  have nonRecursive : p.NonRecursive := by
    intro i back
    have ends : i = 1 ∧ i = 0 := by
      refine ⟨?_, ?_⟩
      · obtain ⟨k, first, _⟩ := TransGen.head'_iff.1 back
        exact (calls i k first).1
      · obtain ⟨k, _, last⟩ := TransGen.tail'_iff.1 back
        exact (calls k i last).2
    omega
  exact ⟨⟨p, []⟩, accepted, nonRecursive, rfl, evaluate_ends nonRecursive⟩

end Program

end Checked

end NominalScript
