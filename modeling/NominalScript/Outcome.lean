import NominalScript.Value

/-!
# Outcomes of running something

Running a piece of a script prints lines and ends with a result or an error.
`Outcome` is both: lines printed before an error are kept.  Outcomes are chained
in the order in which things run, so the printed lines of a chain are those of
its parts, one after the other.
-/

namespace NominalScript

/-- The lines that were printed, and how it ended. -/
structure Outcome (ε α : Type) where
  printed : List String
  result : Except ε α

namespace Outcome

variable {ε ε' α β : Type}

/-- Run the second part on the result of the first. -/
def andThen (x : Outcome ε α) (f : α → Outcome ε β) : Outcome ε β :=
  match x.result with
  | .ok a =>
    let y := f a
    ⟨x.printed ++ y.printed, y.result⟩
  | .error e => ⟨x.printed, .error e⟩

instance : Monad (Outcome ε) where
  pure a := ⟨[], .ok a⟩
  bind := andThen

/-- End with an error. -/
def fail (e : ε) : Outcome ε α := ⟨[], .error e⟩

/-- Print one line. -/
def print (line : String) : Outcome ε Unit := ⟨[line], .ok ()⟩

/-- A result or an error without any printing. -/
def ofExcept (r : Except ε α) : Outcome ε α := ⟨[], r⟩

/-- A value that may be missing. -/
def ofOption (e : ε) : Option α → Outcome ε α
  | some a => ⟨[], .ok a⟩
  | none => ⟨[], .error e⟩

/-- Read the error in another way. -/
def mapError (f : ε → ε') (x : Outcome ε α) : Outcome ε' α :=
  ⟨x.printed, x.result.mapError f⟩

@[simp]
theorem pure_eq (a : α) : (pure a : Outcome ε α) = ⟨[], .ok a⟩ := rfl

@[simp]
theorem bind_eq (x : Outcome ε α) (f : α → Outcome ε β) : x >>= f = x.andThen f := rfl

theorem andThen_ok {x : Outcome ε α} {a : α} (f : α → Outcome ε β) (h : x.result = .ok a) :
    x.andThen f = ⟨x.printed ++ (f a).printed, (f a).result⟩ := by
  simp [andThen, h]

theorem andThen_error {x : Outcome ε α} {e : ε} (f : α → Outcome ε β)
    (h : x.result = .error e) : x.andThen f = ⟨x.printed, .error e⟩ := by
  simp [andThen, h]

end Outcome

/-! ## What can go wrong while a script runs -/

/-- Something that a running script relies on and that is not there.  The slots,
functions and fields of a checked script always are; `refused` is for natives of
a host. -/
inductive Precondition where
  | slot (index : Nat)
  | builtinFn (index : Nat)
  | userFn (index : Nat)
  | field (index : Nat) (got : Value)
  | refused (reason : String)
deriving DecidableEq, Repr

/-- The wording of a precondition that failed. -/
def Precondition.text : Precondition → String
  | .slot i => "no local slot " ++ toString i
  | .builtinFn i => "no builtin function " ++ toString i
  | .userFn i => "no user-defined function " ++ toString i
  | .field i got =>
    "expected a struct value with a field " ++ toString i ++ ", got '" ++ got.text ++ "'"
  | .refused reason => reason

/-- Why a call failed. -/
inductive RuntimeError where
  | arityMismatch (fn : String) (expected got : Nat)
  | argumentType (fn : String) (index : Nat) (expected : String)
  | returnType (fn : String) (expected : String)
  | divisionByZero
  | precondition (failed : Precondition)
deriving DecidableEq, Repr

/-- The message of a failed call. -/
def RuntimeError.message : RuntimeError → String
  | .arityMismatch fn expected got =>
    "'" ++ fn ++ "' expects " ++ toString expected ++ " arguments, got " ++ toString got
  | .argumentType fn index expected =>
    "'" ++ fn ++ "' expects argument " ++ toString index ++ " to be of type '" ++ expected ++ "'"
  | .returnType fn expected =>
    "'" ++ fn ++ "' returned a value that is not of type '" ++ expected ++ "'"
  | .divisionByZero => "division by zero"
  | .precondition failed => "precondition failed: " ++ failed.text

end NominalScript
