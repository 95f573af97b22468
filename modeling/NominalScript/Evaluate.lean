import NominalScript.Checked

/-!
# Running a checked program

A call has its own slots: the arguments first, then `Void` in every slot that a
`let` has not filled yet.  Expressions read slots and statements fill them; both
run from left to right and from top to bottom.

Expressions and statements are run by recursion on their tree, given a way to
call functions.  Calls recurse on a bound for how deep they may be nested, so
that running is total: a run that needs deeper calls halts as `tooDeep`, which is
neither a value nor an error of the script.
-/

namespace NominalScript

/-- Why a run ends without a value: an error, or calls nested too deep. -/
inductive Halt where
  | error (e : RuntimeError)
  | tooDeep
deriving DecidableEq, Repr

namespace Checked

/-- A way to call functions. -/
abbrev Invoke := FnId → List Value → Outcome Halt Value

/-- Fail because something that was relied on is not there. -/
def unmet (p : Precondition) : Halt := .error (.precondition p)

mutual

/-- Run an expression. -/
def Expr.eval (invoke : Invoke) (slots : List Value) : Expr → Outcome Halt Value
  | .const v _ => pure v
  | .call fn args _ => do
    let vs ← Expr.evalAll invoke slots args
    invoke fn vs
  | .slot i _ => .ofOption (unmet (.slot i)) slots[i]?
  | .init _ fields _ => do
    let vs ← Expr.evalAll invoke slots fields
    return .struct vs
  | .field base i _ => do
    let v ← Expr.eval invoke slots base
    .ofOption (unmet (.field i v)) (v.field? i)

/-- Run expressions one after the other. -/
def Expr.evalAll (invoke : Invoke) (slots : List Value) : List Expr → Outcome Halt (List Value)
  | [] => pure []
  | e :: es => do
    let v ← Expr.eval invoke slots e
    let vs ← Expr.evalAll invoke slots es
    return v :: vs

end

/-- What a statement leads to: the next one, with the slots as they are then, or
out of the function with a value. -/
inductive Flow where
  | onward (slots : List Value)
  | returned (value : Value)
deriving DecidableEq, Repr

/-- Fill a slot. -/
def fill (slots : List Value) (i : Nat) (v : Value) : Outcome Halt Flow :=
  if i < slots.length then pure (.onward (slots.set i v)) else .fail (unmet (.slot i))

mutual

/-- Run a statement. -/
def Stmt.exec (invoke : Invoke) : Stmt → List Value → Outcome Halt Flow
  | .expr e, slots => do
    let _ ← e.eval invoke slots
    return .onward slots
  | .cond chain, slots => chain.exec invoke slots
  | .ret (some e), slots => do
    let v ← e.eval invoke slots
    return .returned v
  | .ret none, _ => pure (.returned .void)
  | .bind i e, slots => do
    let v ← e.eval invoke slots
    fill slots i v

/-- Run statements until one returns. -/
def Stmt.execAll (invoke : Invoke) : List Stmt → List Value → Outcome Halt Flow
  | [], slots => pure (.onward slots)
  | s :: rest, slots => do
    match ← s.exec invoke slots with
    | .onward slots => Stmt.execAll invoke rest slots
    | .returned v => return .returned v

/-- Run the block of the first branch whose condition holds. -/
def Chain.exec (invoke : Invoke) : Chain → List Value → Outcome Halt Flow
  | .nothing, slots => pure (.onward slots)
  | .otherwise block, slots => Stmt.execAll invoke block slots
  | .branch c block rest, slots => do
    let v ← c.eval invoke slots
    if v.isTruthy then Stmt.execAll invoke block slots else rest.exec invoke slots

end

/-- The slots of a call: its arguments, and `Void` in the others. -/
def Fn.slots (f : Fn) (args : List Value) : List Value :=
  args ++ List.replicate (f.localCount - args.length) .void

/-- The value that a body ended with, which is `Void` if nothing returned. -/
def Flow.value : Flow → Value
  | .onward _ => .void
  | .returned v => v

/-- Run a function on arguments, whose number is checked and whose types are
not. -/
def Fn.run (invoke : Invoke) (f : Fn) (args : List Value) : Outcome Halt Value :=
  let arity := f.signature.params.length
  if args.length = arity then do
    let flow ← Stmt.execAll invoke f.body (f.slots args)
    return flow.value
  else .fail (.error (.arityMismatch f.signature.name arity args.length))

/-- Call a builtin of a program. -/
def Program.invokeBuiltin (p : Program) (i : Nat) (args : List Value) : Outcome Halt Value :=
  match p.builtins[i]? with
  | some b => (b.call args).mapError .error
  | none => .fail (unmet (.builtinFn i))

/-- Call a function of a program, with calls of the script's functions nested at
most `depth` deep. -/
def Program.invoke (p : Program) : Nat → Invoke
  | _, .builtin i, args => p.invokeBuiltin i args
  | 0, .user _, _ => .fail .tooDeep
  | depth + 1, .user i, args =>
    match p.fns[i]? with
    | some f => f.run (p.invoke depth) args
    | none => .fail (unmet (.userFn i))

/-- Run a function of a program, with further calls nested at most `depth`
deep. -/
def Program.evaluate (p : Program) (depth : Nat) (f : Fn) (args : List Value) :
    Outcome Halt Value :=
  f.run (p.invoke depth) args

end Checked

end NominalScript
