import Mathlib.Data.List.Forall2
import NominalScript.Checked
import NominalScript.Proofs.Aligned
import NominalScript.Proofs.Syntax.Paths

/-!
# Slots and lexical scope

What the variables of a checked body stand for, said without the state of a checker.
Slots are counted along the source: the parameters have the first ones, and a `let` has
the one that comes after those of the parameters and of all `let`s written before it,
wherever they stand.  A name means the variable of the innermost block that has declared
one of that name so far.

`BlockResolved` and its companions say that a checked body is the source with its names
replaced in this way.  What does not run is left out of a block, but counts all the
same.  From the judgment alone, `BlockResolved.binds_sublist` says that no two bindings
share a slot and `BlockResolved.vars_lt` that no variable has a slot beyond those counted.
-/

/-! ## What the source names and declares -/

namespace NominalScript.Syntax

mutual

/-- The identifiers that stand for variables in an expression, in order. -/
def Expr.names : Expr → List String
  | .str _ _ => []
  | .int _ _ => []
  | .call _ args _ => Expr.namesOfAll args
  | .var name _ => [name]
  | .unary _ operand _ => operand.names
  | .binary _ left right _ => left.names ++ right.names
  | .paren inner _ => inner.names
  | .init _ fields _ _ => Expr.namesOfFields fields
  | .member base _ _ => base.names

/-- The identifiers that stand for variables in some expressions. -/
def Expr.namesOfAll : List Expr → List String
  | [] => []
  | e :: es => e.names ++ Expr.namesOfAll es

/-- The identifiers that stand for variables in the fields of a struct literal. -/
def Expr.namesOfFields : List (FieldInit Expr) → List String
  | [] => []
  | ⟨_, value, _⟩ :: fields => value.names ++ Expr.namesOfFields fields

end

theorem Expr.namesOfAll_eq_flatMap (es : List Expr) :
    Expr.namesOfAll es = es.flatMap Expr.names := by
  induction es with
  | nil => rfl
  | cons e es ih => rw [Expr.namesOfAll, ih, List.flatMap_cons]

theorem Expr.namesOfFields_eq_flatMap (fields : List (FieldInit Expr)) :
    Expr.namesOfFields fields = fields.flatMap fun f => f.value.names := by
  induction fields with
  | nil => rfl
  | cons f fields ih => rw [Expr.namesOfFields, ih, List.flatMap_cons]

mutual

/-- The number of `let`s anywhere in a statement. -/
def Stmt.letCount : Stmt → Nat
  | .expr _ => 0
  | .cond c => c.letCount
  | .ret _ _ => 0
  | .bind _ _ _ _ => 1

/-- The number of `let`s anywhere in some statements. -/
def Stmt.letCountOfAll : List Stmt → Nat
  | [] => 0
  | a :: as => a.letCount + Stmt.letCountOfAll as

/-- The number of `let`s in the blocks of a conditional. -/
def Conditional.letCount : Conditional → Nat
  | .mk _ block rest _ => Stmt.letCountOfAll block + rest.letCount

/-- The number of `let`s in what is done otherwise. -/
def Otherwise.letCount : Otherwise → Nat
  | .nothing => 0
  | .elseIf c => c.letCount
  | .block block => Stmt.letCountOfAll block

end

end NominalScript.Syntax

/-! ## What a checked body refers to and binds -/

namespace NominalScript.Checked

/-- A variable, as a checked body refers to it: its slot, and the type of its values. -/
structure Var where
  slot : Nat
  type : TypeId
deriving DecidableEq, Repr

mutual

/-- The variables in an expression, in order. -/
def Expr.vars : Expr → List Var
  | .const _ _ => []
  | .call _ args _ => Expr.varsOfAll args
  | .slot i t => [⟨i, t⟩]
  | .init _ fields _ => Expr.varsOfAll fields
  | .field base _ _ => base.vars

/-- The variables in some expressions. -/
def Expr.varsOfAll : List Expr → List Var
  | [] => []
  | e :: es => e.vars ++ Expr.varsOfAll es

end

theorem Expr.varsOfAll_eq_flatMap (es : List Expr) : Expr.varsOfAll es = es.flatMap Expr.vars := by
  induction es with
  | nil => rfl
  | cons e es ih => rw [Expr.varsOfAll, ih, List.flatMap_cons]

mutual

/-- The variables that a statement refers to. -/
def Stmt.vars : Stmt → List Var
  | .expr e => e.vars
  | .cond chain => chain.vars
  | .ret (some e) => e.vars
  | .ret none => []
  | .bind _ value => value.vars

/-- The variables that some statements refer to. -/
def Stmt.varsOfAll : List Stmt → List Var
  | [] => []
  | a :: as => a.vars ++ Stmt.varsOfAll as

/-- The variables that the branches of a conditional refer to. -/
def Chain.vars : Chain → List Var
  | .nothing => []
  | .otherwise block => Stmt.varsOfAll block
  | .branch c block rest => c.vars ++ (Stmt.varsOfAll block ++ rest.vars)

end

mutual

/-- The slots that a statement binds, in order. -/
def Stmt.binds : Stmt → List Nat
  | .expr _ => []
  | .cond chain => chain.binds
  | .ret _ => []
  | .bind i _ => [i]

/-- The slots that some statements bind. -/
def Stmt.bindsOfAll : List Stmt → List Nat
  | [] => []
  | a :: as => a.binds ++ Stmt.bindsOfAll as

/-- The slots that the branches of a conditional bind. -/
def Chain.binds : Chain → List Nat
  | .nothing => []
  | .otherwise block => Stmt.bindsOfAll block
  | .branch _ block rest => Stmt.bindsOfAll block ++ rest.binds

end

theorem Stmt.varsOfAll_append (as bs : List Stmt) :
    Stmt.varsOfAll (as ++ bs) = Stmt.varsOfAll as ++ Stmt.varsOfAll bs := by
  induction as with
  | nil => rfl
  | cons a as ih => rw [List.cons_append, Stmt.varsOfAll, Stmt.varsOfAll, ih, List.append_assoc]

theorem Stmt.bindsOfAll_append (as bs : List Stmt) :
    Stmt.bindsOfAll (as ++ bs) = Stmt.bindsOfAll as ++ Stmt.bindsOfAll bs := by
  induction as with
  | nil => rfl
  | cons a as ih => rw [List.cons_append, Stmt.bindsOfAll, Stmt.bindsOfAll, ih, List.append_assoc]

theorem Stmt.varsOfAll_take_subset (k : Nat) (as : List Stmt) :
    Stmt.varsOfAll (as.take k) ⊆ Stmt.varsOfAll as := by
  conv => rhs; rw [← List.take_append_drop k as, Stmt.varsOfAll_append]
  exact List.subset_append_left _ _

theorem Stmt.bindsOfAll_take_sublist (k : Nat) (as : List Stmt) :
    (Stmt.bindsOfAll (as.take k)).Sublist (Stmt.bindsOfAll as) := by
  conv => rhs; rw [← List.take_append_drop k as, Stmt.bindsOfAll_append]
  exact List.sublist_append_left _ _

end NominalScript.Checked

/-! ## Lexical scope -/

namespace NominalScript.Slots

open Syntax
open Checked (Var)

/-- The variables that a block has declared so far. -/
abbrev Scope := List (String × Var)

/-- The variable of a name in the innermost of the open blocks that has declared one of
that name. -/
def Nearest (scopes : List Scope) (name : String) (v : Var) : Prop :=
  ∃ (inner : List Scope) (scope : Scope) (outer : List Scope),
    scopes = inner ++ scope :: outer ∧ (∀ s ∈ inner, name ∉ s.map Prod.fst) ∧ (name, v) ∈ scope

/-- The variables of a checked expression are what the identifiers of its source mean,
one by one. -/
def Resolved (scopes : List Scope) (e : Expr) (c : Checked.Expr) : Prop :=
  List.Forall₂ (Nearest scopes) e.names c.vars

mutual

/-- A statement before which `n` slots are taken, and what is made of it, with the scopes
before and after.  The value of a `let` cannot refer to its variable. -/
inductive StmtResolved : List Scope → Nat → Stmt → Checked.Stmt → List Scope → Prop
  | expr {scopes : List Scope} {n : Nat} {e : Expr} {c : Checked.Expr} :
    Resolved scopes e c → StmtResolved scopes n (.expr e) (.expr c) scopes
  | cond {scopes : List Scope} {n : Nat} {c : Conditional} {chain : Checked.Chain} :
    ConditionalResolved scopes n c chain → StmtResolved scopes n (.cond c) (.cond chain) scopes
  | ret {scopes : List Scope} {n : Nat} {e : Expr} {span : Span} {c : Checked.Expr} :
    Resolved scopes e c → StmtResolved scopes n (.ret (some e) span) (.ret (some c)) scopes
  | retVoid {scopes : List Scope} {n : Nat} {span : Span} :
    StmtResolved scopes n (.ret none span) (.ret none) scopes
  | bind {scope : Scope} {outer : List Scope} {n : Nat} {ident : Ident} {type : Option Ident}
    {value : Expr} {span : Span} {c : Checked.Expr} :
    Resolved (scope :: outer) value c → ident.name ∉ scope.map Prod.fst →
    StmtResolved (scope :: outer) n (.bind ident type value span) (.bind n c)
      (((ident.name, ⟨n, c.type⟩) :: scope) :: outer)

/-- Statements one after the other. -/
inductive StmtsResolved : List Scope → Nat → List Stmt → List Checked.Stmt → Prop
  | nil {scopes : List Scope} {n : Nat} : StmtsResolved scopes n [] []
  | cons {scopes scopes' : List Scope} {n : Nat} {a : Stmt} {c : Checked.Stmt}
    {as : List Stmt} {cs : List Checked.Stmt} :
    StmtResolved scopes n a c scopes' → StmtsResolved scopes' (n + a.letCount) as cs →
    StmtsResolved scopes n (a :: as) (c :: cs)

/-- A conditional.  Each block has a scope of its own; what it binds is not in scope after
it, but keeps its slots.  All statements of a block are resolved, and those that may run
are kept. -/
inductive ConditionalResolved : List Scope → Nat → Conditional → Checked.Chain → Prop
  | mk {scopes : List Scope} {n : Nat} {e : Expr} {c : Checked.Expr} {body : List Stmt}
    {cs : List Checked.Stmt} {rest : Otherwise} {chain : Checked.Chain} {span : Span} :
    Resolved scopes e c → StmtsResolved ([] :: scopes) n body cs →
    OtherwiseResolved scopes (n + Stmt.letCountOfAll body) rest chain →
    ConditionalResolved scopes n (.mk e body rest span)
      (.branch c (cs.take (Stmt.liveCount body)) chain)

inductive OtherwiseResolved : List Scope → Nat → Otherwise → Checked.Chain → Prop
  | nothing {scopes : List Scope} {n : Nat} : OtherwiseResolved scopes n .nothing .nothing
  | elseIf {scopes : List Scope} {n : Nat} {c : Conditional} {chain : Checked.Chain} :
    ConditionalResolved scopes n c chain → OtherwiseResolved scopes n (.elseIf c) chain
  | block {scopes : List Scope} {n : Nat} {body : List Stmt} {cs : List Checked.Stmt} :
    StmtsResolved ([] :: scopes) n body cs →
    OtherwiseResolved scopes n (.block body) (.otherwise (cs.take (Stmt.liveCount body)))

end

/-- A block in a scope of its own, and what is kept of it. -/
def BlockResolved (scopes : List Scope) (n : Nat) (body : List Stmt)
    (block : List Checked.Stmt) : Prop :=
  ∃ cs, StmtsResolved ([] :: scopes) n body cs ∧ block = cs.take (Stmt.liveCount body)

/-! ## No two bindings share a slot -/

/-- Slots counted from one place on and those counted from where they end. -/
theorem sublist_range'_append {n k m : Nat} {is js : List Nat}
    (first : is.Sublist (List.range' n k)) (rest : js.Sublist (List.range' (n + k) m)) :
    (is ++ js).Sublist (List.range' n (k + m)) := by
  rw [← List.range'_append_1]
  exact first.append rest

mutual

/-- A statement binds slots out of those counted for it, in order. -/
theorem StmtResolved.binds_sublist : ∀ (a : Stmt) {scopes scopes' : List Scope} {n : Nat}
    {c : Checked.Stmt}, StmtResolved scopes n a c scopes' →
      c.binds.Sublist (List.range' n a.letCount)
  | .expr e, _, _, _, _, resolved => by
    cases resolved
    exact .slnil
  | .cond c, _, _, _, _, resolved => by
    cases resolved with
    | cond resolved => exact resolved.binds_sublist c
  | .ret value span, _, _, _, _, resolved => by
    cases resolved <;> exact .slnil
  | .bind ident type value span, _, _, _, _, resolved => by
    cases resolved
    exact .refl _

theorem StmtsResolved.binds_sublist : ∀ (as : List Stmt) {scopes : List Scope} {n : Nat}
    {cs : List Checked.Stmt}, StmtsResolved scopes n as cs →
      (Checked.Stmt.bindsOfAll cs).Sublist (List.range' n (Stmt.letCountOfAll as))
  | [], _, _, _, resolved => by
    cases resolved
    exact .slnil
  | a :: as, _, _, _, resolved => by
    cases resolved with
    | cons first rest =>
      exact sublist_range'_append (first.binds_sublist a) (rest.binds_sublist as)

theorem ConditionalResolved.binds_sublist : ∀ (c : Conditional) {scopes : List Scope} {n : Nat}
    {chain : Checked.Chain}, ConditionalResolved scopes n c chain →
      chain.binds.Sublist (List.range' n c.letCount)
  | .mk e body rest span, _, _, _, resolved => by
    cases resolved with
    | @mk _ _ _ _ _ cs _ _ _ _ inside others =>
      have kept := Checked.Stmt.bindsOfAll_take_sublist (Stmt.liveCount body) cs
      have block := kept.trans (inside.binds_sublist body)
      exact sublist_range'_append block (others.binds_sublist rest)

/-- What follows a block binds slots out of those counted for it; a `let` that is dropped has
been counted. -/
theorem OtherwiseResolved.binds_sublist : ∀ (o : Otherwise) {scopes : List Scope} {n : Nat}
    {chain : Checked.Chain}, OtherwiseResolved scopes n o chain →
      chain.binds.Sublist (List.range' n o.letCount)
  | .nothing, _, _, _, resolved => by
    cases resolved
    exact .slnil
  | .elseIf c, _, _, _, resolved => by
    cases resolved with
    | elseIf resolved => exact resolved.binds_sublist c
  | .block body, _, _, _, resolved => by
    cases resolved with
    | block inside =>
      exact (Checked.Stmt.bindsOfAll_take_sublist _ _).trans (inside.binds_sublist body)

end

/-- The slots that a block binds are distinct, in source order, and among those counted
for it. -/
theorem BlockResolved.binds_sublist {scopes : List Scope} {n : Nat} {body : List Stmt}
    {block : List Checked.Stmt} (resolved : BlockResolved scopes n body block) :
    (Checked.Stmt.bindsOfAll block).Sublist (List.range' n (Stmt.letCountOfAll body)) := by
  obtain ⟨cs, inside, rfl⟩ := resolved
  exact (Checked.Stmt.bindsOfAll_take_sublist _ _).trans (inside.binds_sublist body)

/-! ## No variable lies beyond the slots counted -/

/-- All variables in scope have slots counted so far. -/
def Below (n : Nat) (scopes : List Scope) : Prop :=
  ∀ scope ∈ scopes, ∀ entry ∈ scope, entry.2.slot < n

theorem Below.mono {n m : Nat} {scopes : List Scope} (below : Below n scopes) (le : n ≤ m) :
    Below m scopes :=
  fun scope opened entry mem => Nat.lt_of_lt_of_le (below scope opened entry mem) le

theorem Below.enter {n : Nat} {scopes : List Scope} (below : Below n scopes) :
    Below n ([] :: scopes) :=
  List.forall_mem_cons.2 ⟨fun _ mem => absurd mem List.not_mem_nil, below⟩

theorem Resolved.vars_lt {n : Nat} {scopes : List Scope} {e : Expr} {c : Checked.Expr}
    (resolved : Resolved scopes e c) (below : Below n scopes) : ∀ v ∈ c.vars, v.slot < n := by
  intro v mem
  obtain ⟨name, _, inner, scope, outer, rfl, _, entry⟩ := Aligned.mem_right resolved mem
  exact below scope (by simp) (name, v) entry

theorem StmtResolved.below_after {n : Nat} {scopes scopes' : List Scope} {a : Stmt}
    {c : Checked.Stmt}
    (resolved : StmtResolved scopes n a c scopes') (below : Below n scopes) :
    Below (n + a.letCount) scopes' := by
  cases resolved with
  | bind _ _ =>
    obtain ⟨innermost, others⟩ := List.forall_mem_cons.1 (below.mono (Nat.le_succ n))
    exact List.forall_mem_cons.2
      ⟨List.forall_mem_cons.2 ⟨Nat.lt_succ_self n, innermost⟩, others⟩
  | _ => exact below.mono (Nat.le_add_right _ _)

mutual

/-- The variables of a statement have slots among those taken by its end. -/
theorem StmtResolved.vars_lt : ∀ (a : Stmt) {scopes scopes' : List Scope} {n : Nat}
    {c : Checked.Stmt}, StmtResolved scopes n a c scopes' → Below n scopes →
      ∀ v ∈ c.vars, v.slot < n + a.letCount
  | .expr e, _, _, _, _, resolved, below => by
    cases resolved with
    | expr resolved => exact resolved.vars_lt below
  | .cond c, _, _, _, _, resolved, below => by
    cases resolved with
    | cond resolved => exact resolved.vars_lt c below
  | .ret value span, _, _, _, _, resolved, below => by
    cases resolved with
    | ret resolved => exact resolved.vars_lt below
    | retVoid => exact fun v mem => absurd mem List.not_mem_nil
  | .bind ident type value span, _, _, _, _, resolved, below => by
    cases resolved with
    | bind resolved _ => exact fun v mem => Nat.lt_succ_of_lt (resolved.vars_lt below v mem)

/-- The variables of statements have slots among those taken by the end of all of them; a `let`
that is dropped has taken its own. -/
theorem StmtsResolved.vars_lt : ∀ (as : List Stmt) {scopes : List Scope} {n : Nat}
    {cs : List Checked.Stmt}, StmtsResolved scopes n as cs → Below n scopes →
      ∀ v ∈ Checked.Stmt.varsOfAll cs, v.slot < n + Stmt.letCountOfAll as
  | [], _, _, _, resolved, _ => by
    cases resolved
    exact fun v mem => absurd mem List.not_mem_nil
  | a :: as, _, _, _, resolved, below => by
    cases resolved with
    | cons first rest =>
      intro v mem
      have here := first.vars_lt a below v
      have later := rest.vars_lt as (first.below_after below) v
      rw [Stmt.letCountOfAll]
      rcases List.mem_append.1 mem with mem | mem
      · have := here mem
        omega
      · have := later mem
        omega

/-- The variables of a chain have slots among those taken by its end: each block counts on from
the one before, though the scopes are those around the chain. -/
theorem ConditionalResolved.vars_lt : ∀ (c : Conditional) {scopes : List Scope} {n : Nat}
    {chain : Checked.Chain}, ConditionalResolved scopes n c chain → Below n scopes →
      ∀ v ∈ chain.vars, v.slot < n + c.letCount
  | .mk e body rest span, _, _, _, resolved, below => by
    cases resolved with
    | mk condition inside others =>
      intro v mem
      have first := condition.vars_lt below v
      have second := inside.vars_lt body below.enter v
      have third := others.vars_lt rest (below.mono (Nat.le_add_right _ _)) v
      rw [Conditional.letCount]
      rcases List.mem_append.1 mem with mem | mem
      · have := first mem
        omega
      · rcases List.mem_append.1 mem with mem | mem
        · have := second (Checked.Stmt.varsOfAll_take_subset _ _ mem)
          omega
        · have := third mem
          omega

/-- The variables of what follows a block have slots among those taken by its end. -/
theorem OtherwiseResolved.vars_lt : ∀ (o : Otherwise) {scopes : List Scope} {n : Nat}
    {chain : Checked.Chain}, OtherwiseResolved scopes n o chain → Below n scopes →
      ∀ v ∈ chain.vars, v.slot < n + o.letCount
  | .nothing, _, _, _, resolved, _ => by
    cases resolved
    exact fun v mem => absurd mem List.not_mem_nil
  | .elseIf c, _, _, _, resolved, below => by
    cases resolved with
    | elseIf resolved => exact resolved.vars_lt c below
  | .block body, _, _, _, resolved, below => by
    cases resolved with
    | block inside =>
      exact fun v mem =>
        inside.vars_lt body below.enter v (Checked.Stmt.varsOfAll_take_subset _ _ mem)

end

/-- The variables that a block refers to are in scope around it or bound in it. -/
theorem BlockResolved.vars_lt {scopes : List Scope} {n : Nat} {body : List Stmt}
    {block : List Checked.Stmt} (resolved : BlockResolved scopes n body block)
    (below : Below n scopes) :
    ∀ v ∈ Checked.Stmt.varsOfAll block, v.slot < n + Stmt.letCountOfAll body := by
  obtain ⟨cs, inside, rfl⟩ := resolved
  exact fun v mem => inside.vars_lt body below.enter v (Checked.Stmt.varsOfAll_take_subset _ _ mem)

end NominalScript.Slots
