import NominalScript.Proofs.Check.Scopes
import NominalScript.Proofs.Check.WellTyped

/-!
# States a body is checked in

Errors are collected, so after a failed statement the next one is checked in the state that
the failed one leaves.  A body is thus checked in all states that can be reached by binding
names that are new, opening scopes, and checking statements and blocks, whatever these are
(`Reachable`).

`reachable_frame` says what all these states have in common and what checking does to them:
a block closes every scope it has opened, a statement adds an entry to the innermost scope
just when it is a `let` that is right, and what was handed out before is still there.
-/

namespace NominalScript.Check

open Syntax
open Checked (Signature)

variable {g : Globals} {expected type : TypeId} {s s' : BodyState} {name : String}

/-! ## Consistent states -/

/-- A scope is open, every name in scope stands for a slot that was handed out, and no scope
has a name twice. -/
structure BodyState.Consistent (s : BodyState) : Prop where
  opened : s.scopes ≠ []
  slots : ∀ i ∈ s.live, i < s.locals.length
  distinct : ∀ scope ∈ s.scopes, (scope.map Prod.fst).Nodup

namespace BodyState

theorem isBoundHere_eq_false {scope : Scope} {outer : List Scope}
    (scopes : s.scopes = scope :: outer) :
    s.isBoundHere name = false ↔ name ∉ scope.map Prod.fst := by
  rw [isBoundHere, scopes]
  dsimp only
  rw [Option.isSome_eq_false_iff, Option.isNone_iff_eq_none, lookup_eq_none]

theorem scopes_bind {scope : Scope} {outer : List Scope} (scopes : s.scopes = scope :: outer) :
    (s.bind name type).scopes = ((name, s.locals.length) :: scope) :: outer := by
  rw [bind, scopes]

theorem Consistent.start : BodyState.start.Consistent :=
  ⟨List.cons_ne_nil _ _, nofun, List.forall_mem_singleton.2 List.nodup_nil⟩

theorem Consistent.enter (consistent : s.Consistent) : s.enter.Consistent :=
  ⟨List.cons_ne_nil _ _, consistent.slots,
    List.forall_mem_cons.2 ⟨List.nodup_nil, consistent.distinct⟩⟩

/-- A new name may be bound: its slot is the next one, and the innermost scope does not have it
yet. -/
theorem Consistent.bind (consistent : s.Consistent) (new : s.isBoundHere name = false) :
    (s.bind name type).Consistent := by
  rcases scopes : s.scopes with _ | ⟨scope, outer⟩
  · exact absurd scopes consistent.opened
  have distinct := consistent.distinct
  rw [scopes] at distinct
  rcases List.forall_mem_cons.1 distinct with ⟨innermost, others⟩
  refine ⟨?_, fun i mem => ?_, ?_⟩
  · rw [scopes_bind scopes]
    exact List.cons_ne_nil _ _
  · have count : (s.bind name type).locals.length = s.locals.length + 1 := List.length_append
    rw [live_bind consistent.opened] at mem
    rw [count]
    rcases List.mem_cons.1 mem with rfl | before
    · exact Nat.lt_succ_self _
    · exact Nat.lt_succ_of_lt (consistent.slots i before)
  · rw [scopes_bind scopes]
    exact List.forall_mem_cons.2
      ⟨List.nodup_cons.2 ⟨(isBoundHere_eq_false scopes).1 new, innermost⟩, others⟩

/-- Slots may be added as long as the scopes stay. -/
theorem Keeps.consistent (kept : s.Keeps s') (consistent : s.Consistent) : s'.Consistent := by
  refine ⟨?_, fun i mem => ?_, ?_⟩
  · rw [kept.scopes]
    exact consistent.opened
  · rw [live, kept.scopes] at mem
    exact Nat.lt_of_lt_of_le (consistent.slots i mem) kept.locals.length_le
  · rw [kept.scopes]
    exact consistent.distinct

end BodyState

/-! ## Statements -/

/-- The entry that a statement adds to the innermost scope, if the next slot is `slot`: that
of a `let` whose check succeeds. -/
def gained (slot : Nat) : Stmt → Check (Analyzed Checked.Stmt) → Scope
  | .bind ident _ _ _, .ok _ => [(ident.name, slot)]
  | _, _ => []

/-- A statement leaves the scopes as they are, or it is a `let` that is right and binds its
name, which is new, to the next slot. -/
theorem stmt_cases (g : Globals) (expected : TypeId) (a : Stmt) (s : BodyState) :
    (s.Keeps (stmt g expected a s).2 ∧
        gained s.locals.length a (stmt g expected a s).1 = []) ∨
      ∃ name type, (stmt g expected a s).2 = s.bind name type ∧ s.isBoundHere name = false ∧
        gained s.locals.length a (stmt g expected a s).1 = [(name, s.locals.length)] := by
  cases a with
  | expr e =>
    rw [stmt]
    exact .inl ⟨.refl s, rfl⟩
  | cond c =>
    rw [stmt]
    exact .inl ⟨conditional_keeps c s, rfl⟩
  | ret value span =>
    rw [stmt]
    exact .inl ⟨.refl s, rfl⟩
  | bind ident annotated value span =>
    rw [stmt, bound]
    cases boundValue (s.env g) ident annotated value with
    | error es => exact .inl ⟨.refl s, rfl⟩
    | ok c =>
      cases new : s.isBoundHere ident.name with
      | true => exact .inl ⟨.refl s, rfl⟩
      | false => exact .inr ⟨ident.name, c.type, rfl, new, rfl⟩

theorem head?_scopes_stmt (consistent : s.Consistent) (a : Stmt) :
    (stmt g expected a s).2.scopes.head? =
      s.scopes.head?.map (gained s.locals.length a (stmt g expected a s).1 ++ ·) := by
  rcases stmt_cases g expected a s with ⟨kept, none⟩ | ⟨name, type, bound, _, one⟩
  · rw [none, kept.scopes]
    simp
  · rcases scopes : s.scopes with _ | ⟨scope, outer⟩
    · exact absurd scopes consistent.opened
    · rw [one, bound, BodyState.scopes_bind scopes]
      rfl

theorem BodyState.Consistent.stmt (consistent : s.Consistent) (a : Stmt) :
    (Check.stmt g expected a s).2.Consistent := by
  rcases stmt_cases g expected a s with ⟨kept, _⟩ | ⟨name, type, bound, new, _⟩
  · exact kept.consistent consistent
  · rw [bound]
    exact consistent.bind new

/-! ## All states -/

/-- The states that a body may be checked in. -/
inductive Reachable (g : Globals) (expected : TypeId) : BodyState → Prop
  | start : Reachable g expected .start
  | bind {s : BodyState} {name : String} (type : TypeId) :
    Reachable g expected s → s.isBoundHere name = false → Reachable g expected (s.bind name type)
  | enter {s : BodyState} : Reachable g expected s → Reachable g expected s.enter
  | stmt {s : BodyState} (a : Stmt) :
    Reachable g expected s → Reachable g expected (stmt g expected a s).2
  | block {s : BodyState} (body : List Stmt) :
    Reachable g expected s → Reachable g expected (block g expected body s).2

theorem Reachable.consistent (reached : Reachable g expected s) : s.Consistent := by
  induction reached with
  | start => exact .start
  | bind type _ new ih => exact ih.bind new
  | enter _ ih => exact ih.enter
  | stmt a _ ih => exact ih.stmt a
  | block body _ ih => exact (block_keeps body _).consistent ih

/-- Parameters with different names can be bound. -/
theorem Reachable.bindAll {params : List Field} (reached : Reachable g expected s)
    (new : ∀ p ∈ params, s.isBoundHere p.name = false) (distinct : (params.map Field.name).Nodup) :
    Reachable g expected (s.bindAll params) := by
  induction params generalizing s with
  | nil => exact reached
  | cons p params ih =>
    rcases List.forall_mem_cons.1 new with ⟨first, rest⟩
    rw [List.map_cons, List.nodup_cons] at distinct
    refine ih (reached.bind p.type first) (fun q mem => ?_) distinct.2
    rcases scopes : s.scopes with _ | ⟨scope, outer⟩
    · exact absurd scopes reached.consistent.opened
    have other : q.name ≠ p.name := fun same => distinct.1 (same ▸ List.mem_map_of_mem mem)
    rw [BodyState.isBoundHere_eq_false (BodyState.scopes_bind scopes), List.map_cons,
      List.mem_cons, not_or]
    exact ⟨other, (BodyState.isBoundHere_eq_false scopes).1 (rest q mem)⟩

section Programs

variable {p : Syntax.Program} {host : Builtins} {types : TypeTable}
  {builtins users : List Signature}

theorem Tables.nodup_params (tables : Tables p host types builtins users) {signature : Signature}
    (isUser : signature ∈ users) : (signature.params.map Field.name).Nodup := by
  rcases Aligned.mem_right tables.fns isUser with ⟨d, declared, made⟩
  rw [← Aligned.map_eq_map made.params fun _ _ bound => bound.1.symm]
  exact tables.params d declared

/-- The body of every function is checked in a reachable state. -/
theorem Tables.reachable (tables : Tables p host types builtins users) {signature : Signature}
    (isUser : signature ∈ users) :
    Reachable g expected (BodyState.start.bindAll signature.params) :=
  Reachable.start.bindAll (fun _ _ => rfl) (tables.nodup_params isUser)

end Programs

/-- Checking a statement or a block leaves its state consistent, whether it succeeds or not.
Bodies are checked in reachable states.  In these a scope is open, every name in scope
stands for a slot that was handed out, and no scope has a name twice; and checking leads to
a state of which all this holds again, with further slots and warnings behind those there
were before.

* A statement keeps the number of scopes and all of them but the innermost, to which it adds
  one entry if it is a `let` that is right, and none otherwise.
* A block keeps all scopes. -/
theorem reachable_frame :
    (∀ {p : Syntax.Program} {host : Builtins} {types : TypeTable} {builtins users : List Signature},
      Tables p host types builtins users → ∀ signature ∈ users,
        Reachable ⟨types, fnTable builtins users⟩ signature.returnType
          (BodyState.start.bindAll signature.params)) ∧
      ∀ {g : Globals} {expected : TypeId} {s : BodyState}, Reachable g expected s →
        s.Consistent ∧
        (∀ a : Stmt, s.Grows (stmt g expected a s).2 ∧
          (stmt g expected a s).2.scopes.head? =
            s.scopes.head?.map (gained s.locals.length a (stmt g expected a s).1 ++ ·) ∧
          (stmt g expected a s).2.Consistent) ∧
        ∀ body : List Stmt, s.Keeps (block g expected body s).2 ∧
          (block g expected body s).2.Consistent := by
  refine ⟨fun tables signature isUser => tables.reachable isUser, ?_⟩
  intro g expected s reached
  have consistent := reached.consistent
  refine ⟨consistent, fun a => ⟨stmt_grows a s, head?_scopes_stmt consistent a, ?_⟩, fun body => ?_⟩
  · exact consistent.stmt a
  · have kept : s.Keeps (block g expected body s).2 := block_keeps body s
    exact ⟨kept, kept.consistent consistent⟩

/-- The program

    fn step(n: Int) { let k = n  ... }

with the given statement behind the `let`. -/
def stepping (rest : Stmt) : Syntax.Program where
  structs := []
  fns := [⟨named "step", [⟨named "n", named "Int", .builtin⟩], none, .builtin,
    [letting "k" (.var "n" .builtin), rest], .builtin⟩]
where
  named (name : String) : Ident := ⟨name, .builtin⟩
  letting (name : String) (value : Expr) : Stmt := .bind (named name) none value .builtin

/-- The statement

    if n { let n = gone  let m = n  let m = n } else if k { return  let k = k }

in which one name is unknown and another is bound twice. -/
def faulty : Stmt :=
  .cond (.mk (.var "n" .builtin)
    [letting "n" (.var "gone" .builtin), letting "m" (.var "n" .builtin),
      letting "m" (.var "n" .builtin)]
    (.elseIf (.mk (.var "k" .builtin)
      [.ret none .builtin, letting "k" (.var "k" .builtin)] .nothing .builtin)) .builtin)
where
  letting (name : String) (value : Expr) : Stmt := .bind ⟨name, .builtin⟩ none value .builtin

/-- Behind the first statement of the body, the faulty one leaves two errors, two further
slots and a warning, and the scopes as they were. -/
theorem reachable_frame_faulty :
    ∃ g s s', (∃ types builtins users, Tables (stepping faulty) ⟨["Void", "Int", "String"], []⟩
        types builtins users ∧ g = ⟨types, fnTable builtins users⟩) ∧
      Reachable g (.builtin 0) s ∧
      s = ⟨[.builtin 1, .builtin 1], [[("k", 1)], [("n", 0)]], []⟩ ∧
      (stmt g (.builtin 0) faulty s).1.errors.length = 2 ∧ (stmt g (.builtin 0) faulty s).2 = s' ∧
      s' = ⟨[.builtin 1, .builtin 1, .builtin 1, .builtin 1], [[("k", 1)], [("n", 0)]],
        [⟨.builtin⟩]⟩ ∧
      s.Grows s' ∧ s'.scopes.head? = s.scopes.head? ∧ s'.Consistent := by
  have tables : Tables (stepping faulty) ⟨["Void", "Int", "String"], []⟩
      ⟨["Void", "Int", "String"], [], .builtin 0, .builtin 1, .builtin 2⟩ []
      [⟨"step", [⟨"n", .builtin 1⟩], .builtin 0⟩] :=
    tables_iff.2 ⟨rfl, rfl, rfl, rfl⟩
  have started := reachable_frame.1 tables _ (List.mem_singleton_self _)
  have reached := started.enter.stmt (stepping.letting "k" (.var "n" .builtin))
  rcases reachable_frame.2 reached with ⟨_, statements, _⟩
  rcases statements faulty with ⟨grown, innermost, consistent⟩
  exact ⟨_, _, _, ⟨_, _, _, tables, rfl⟩, reached, rfl, rfl, rfl, rfl, grown, innermost, consistent⟩

end NominalScript.Check
