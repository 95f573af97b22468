import NominalScript.Proofs.Evaluates

/-!
# Other numbers for the same declarations

A checked program knows structs and functions by the place of their declaration, so
the same declarations in another order give other numbers throughout.  A `Renumbering`
takes the one numbering to the other and acts on everything that holds a number: types,
signatures, expressions, statements and functions.

Values hold no numbers, so a run does not notice: where calls of renumbered functions
do what calls of the functions do, renumbered code does what the code does
(`Renumbering.run_fn`), and by induction on how deep calls are nested so do whole
programs (`Checked.Program.evaluate_renumbered`).
-/

namespace NominalScript

open Checked

/-- The new number of each struct and of each function of the script.  What the host
supplies keeps its numbers. -/
structure Renumbering where
  structIndex : Nat → Nat
  fnIndex : Nat → Nat

namespace Renumbering

variable (ρ : Renumbering)

/-! ## What holds numbers -/

def type : TypeId → TypeId
  | .builtin i => .builtin i
  | .struct i => .struct (ρ.structIndex i)

def fnId : FnId → FnId
  | .builtin i => .builtin i
  | .user i => .user (ρ.fnIndex i)

def field (f : Field) : Field := ⟨f.name, ρ.type f.type⟩

def struct (s : StructType) : StructType := ⟨s.name, s.fields.map ρ.field⟩

def signature (s : Signature) : Signature := ⟨s.name, s.params.map ρ.field, ρ.type s.returnType⟩

mutual

def expr : Expr → Expr
  | .const v t => .const v (ρ.type t)
  | .call f args t => .call (ρ.fnId f) (exprs args) (ρ.type t)
  | .slot i t => .slot i (ρ.type t)
  | .init i fields t => .init (ρ.structIndex i) (exprs fields) (ρ.type t)
  | .field base i t => .field (expr base) i (ρ.type t)

def exprs : List Expr → List Expr
  | [] => []
  | e :: es => expr e :: exprs es

end

mutual

def stmt : Stmt → Stmt
  | .expr e => .expr (ρ.expr e)
  | .cond c => .cond (chain c)
  | .ret value => .ret (value.map ρ.expr)
  | .bind i e => .bind i (ρ.expr e)

def stmts : List Stmt → List Stmt
  | [] => []
  | s :: rest => stmt s :: stmts rest

def chain : Chain → Chain
  | .nothing => .nothing
  | .otherwise block => .otherwise (stmts block)
  | .branch c block rest => .branch (ρ.expr c) (stmts block) (chain rest)

end

def fn (f : Fn) : Fn := ⟨ρ.signature f.signature, f.localCount, ρ.stmts f.body⟩

variable {ρ}

theorem exprs_eq_map (es : List Expr) : ρ.exprs es = es.map ρ.expr := by
  induction es with
  | nil => rfl
  | cons e es ih => rw [exprs, ih, List.map_cons]

theorem stmts_eq_map (ss : List Stmt) : ρ.stmts ss = ss.map ρ.stmt := by
  induction ss with
  | nil => rfl
  | cons s ss ih => rw [stmts, ih, List.map_cons]

@[simp]
theorem type_expr (e : Expr) : (ρ.expr e).type = ρ.type e.type := by
  cases e <;> simp [expr, Expr.type]

theorem paramTypes_signature (s : Signature) :
    (ρ.signature s).paramTypes = s.paramTypes.map ρ.type := by
  simp [signature, Signature.paramTypes, field, Function.comp_def]

/-- A function answers a call of the renumbered types once it is renumbered. -/
theorem answers_signature {s : Signature} {name : String} {types : List TypeId}
    (answers : s.answers name types = true) :
    (ρ.signature s).answers name (types.map ρ.type) = true := by
  simp only [Signature.answers, Bool.and_eq_true, beq_iff_eq] at answers ⊢
  rw [paramTypes_signature, answers.2]
  exact ⟨answers.1, rfl⟩

theorem field?_struct (s : StructType) (name : String) :
    (ρ.struct s).field? name = (s.field? name).map fun f => (f.1, ρ.type f.2) := by
  unfold StructType.field? struct
  rw [List.zipIdx_map, List.find?_map, Option.map_map, Option.map_map]
  rfl

/-! ## Running renumbered code -/

section Run

variable {invoke invoke' : Invoke}

mutual

theorem eval_expr (same : ∀ f vs, invoke' (ρ.fnId f) vs = invoke f vs) (slots : List Value) :
    ∀ e : Expr, (ρ.expr e).eval invoke' slots = e.eval invoke slots
  | .const v _ => rfl
  | .call f args _ => by
    rw [expr, Expr.eval, Expr.eval, evalAll_exprs same slots args]
    simp only [same]
  | .slot i _ => rfl
  | .init _ fields _ => by
    rw [expr, Expr.eval, Expr.eval, evalAll_exprs same slots fields]
  | .field base i _ => by
    rw [expr, Expr.eval, Expr.eval, eval_expr same slots base]

theorem evalAll_exprs (same : ∀ f vs, invoke' (ρ.fnId f) vs = invoke f vs) (slots : List Value) :
    ∀ es : List Expr, Expr.evalAll invoke' slots (ρ.exprs es) = Expr.evalAll invoke slots es
  | [] => rfl
  | e :: es => by
    rw [exprs, Expr.evalAll, Expr.evalAll, eval_expr same slots e, evalAll_exprs same slots es]

end

mutual

theorem exec_stmt (same : ∀ f vs, invoke' (ρ.fnId f) vs = invoke f vs) :
    ∀ (s : Stmt) (slots : List Value), (ρ.stmt s).exec invoke' slots = s.exec invoke slots
  | .expr e, slots => by
    rw [stmt, Stmt.exec, Stmt.exec, eval_expr same]
  | .cond c, slots => by
    rw [stmt, Stmt.exec, Stmt.exec, exec_chain same]
  | .ret (some e), slots => by
    rw [stmt, Option.map_some, Stmt.exec, Stmt.exec, eval_expr same]
  | .ret none, slots => rfl
  | .bind i e, slots => by
    rw [stmt, Stmt.exec, Stmt.exec, eval_expr same]

theorem execAll_stmts (same : ∀ f vs, invoke' (ρ.fnId f) vs = invoke f vs) :
    ∀ (body : List Stmt) (slots : List Value),
      Stmt.execAll invoke' (ρ.stmts body) slots = Stmt.execAll invoke body slots
  | [], slots => rfl
  | s :: rest, slots => by
    rw [stmts, Stmt.execAll, Stmt.execAll, exec_stmt same]
    congr 1
    funext flow
    cases flow with
    | onward slots' => exact execAll_stmts same rest slots'
    | returned v => rfl

theorem exec_chain (same : ∀ f vs, invoke' (ρ.fnId f) vs = invoke f vs) :
    ∀ (c : Chain) (slots : List Value), (ρ.chain c).exec invoke' slots = c.exec invoke slots
  | .nothing, slots => rfl
  | .otherwise block, slots => by
    rw [chain, Chain.exec, Chain.exec, execAll_stmts same]
  | .branch c block rest, slots => by
    rw [chain, Chain.exec, Chain.exec, eval_expr same, execAll_stmts same, exec_chain same]

end

theorem run_fn (same : ∀ f vs, invoke' (ρ.fnId f) vs = invoke f vs) (f : Fn) (args : List Value) :
    (ρ.fn f).run invoke' args = f.run invoke args := by
  have arity : (ρ.fn f).signature.params.length = f.signature.params.length := List.length_map _
  unfold Fn.run
  dsimp only
  rw [arity]
  split
  · rw [fn, execAll_stmts same]
    rfl
  · rfl

end Run

end Renumbering

/-! ## Renumbered programs -/

namespace Checked.Program

/-- The second program has the functions of the first under their new numbers, and the
same builtins.  Numbers without a function stay as they are, since an error shows them. -/
structure Renumbered (ρ : Renumbering) (p q : Program) : Prop where
  builtins : q.builtins = p.builtins
  fns : ∀ i, q.fns[ρ.fnIndex i]? = p.fns[i]?.map ρ.fn
  outside : ∀ i, p.fns.length ≤ i → ρ.fnIndex i = i

variable {ρ : Renumbering} {p q : Program}

/-- A call under the new number does what the call under the old one did, at every depth, also
where there is no such function. -/
theorem invoke_renumbered (renumbered : Renumbered ρ p q) (depth : Nat) :
    ∀ f vs, q.invoke depth (ρ.fnId f) vs = p.invoke depth f vs := by
  induction depth with
  | zero =>
    intro f vs
    cases f with
    | builtin i => simp only [Renumbering.fnId, invoke, invokeBuiltin, renumbered.builtins]
    | user i => rfl
  | succ depth ih =>
    intro f vs
    cases f with
    | builtin i => simp only [Renumbering.fnId, invoke, invokeBuiltin, renumbered.builtins]
    | user i =>
      rw [Renumbering.fnId, invoke, invoke, renumbered.fns]
      cases entry : p.fns[i]? with
      | some f => exact Renumbering.run_fn ih f vs
      | none =>
        rw [renumbered.outside i (List.getElem?_eq_none_iff.1 entry)]
        rfl

theorem evaluate_renumbered (renumbered : Renumbered ρ p q) (depth : Nat) (f : Fn)
    (args : List Value) : q.evaluate depth (ρ.fn f) args = p.evaluate depth f args :=
  Renumbering.run_fn (invoke_renumbered renumbered depth) f args

theorem evaluates_renumbered (renumbered : Renumbered ρ p q) {f : Fn} {args : List Value}
    {o : Outcome RuntimeError Value} : q.Evaluates (ρ.fn f) args o ↔ p.Evaluates f args o := by
  unfold Evaluates
  simp only [evaluate_renumbered renumbered]

end Checked.Program

/-! ## The numbers of a reordered list -/

/-- The numbers of entries behind one that stays in front. -/
def shiftIndex (index : Nat → Nat) : Nat → Nat
  | 0 => 0
  | i + 1 => index i + 1

/-- The numbers of entries of which the first two change places. -/
def swapIndex : Nat → Nat
  | 0 => 1
  | 1 => 0
  | i + 2 => i + 2

/-- Where each entry of a list stands after it was reordered. -/
theorem exists_index_of_perm {α : Type} {as bs : List α} (reordered : bs.Perm as) :
    ∃ index : Nat → Nat, (∀ i, bs[index i]? = as[i]?) ∧ ∀ i, as.length ≤ i → index i = i := by
  induction reordered with
  | nil => exact ⟨id, fun _ => rfl, fun _ _ => rfl⟩
  | @cons a bs as _ ih =>
    obtain ⟨index, stands, outside⟩ := ih
    refine ⟨shiftIndex index, ?_, ?_⟩
    · intro i
      cases i with
      | zero => rfl
      | succ i => simpa [shiftIndex] using stands i
    · intro i beyond
      cases i with
      | zero => rfl
      | succ i =>
        have fixed := outside i (by simpa using beyond)
        simp [shiftIndex, fixed]
  | swap a b as =>
    refine ⟨swapIndex, ?_, ?_⟩
    · intro i
      rcases i with _ | _ | i <;> simp [swapIndex]
    · intro i beyond
      rcases i with _ | _ | i
      · simp at beyond
      · simp at beyond
      · rfl
  | @trans cs bs as _ second first' second' =>
    obtain ⟨index, stands, outside⟩ := first'
    obtain ⟨index', stands', outside'⟩ := second'
    refine ⟨index ∘ index', ?_, ?_⟩
    · intro i
      rw [Function.comp_apply, stands, stands']
    · intro i beyond
      have fixed := outside' i beyond
      rw [Function.comp_apply, fixed, outside i (by rw [second.length_eq]; exact beyond)]

end NominalScript
