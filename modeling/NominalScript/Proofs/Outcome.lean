import NominalScript.Outcome

/-!
# How an outcome ends

`Outcome.Ends good bad x` is the judgment that `x` ends with a result that is
`good` or with an error that is `bad`.  Error arms are part of the judgment, so a
chain of outcomes is followed through without assuming that any part succeeds.
-/

namespace NominalScript.Outcome

variable {ε ε' α β : Type} {good : α → Prop} {bad : ε → Prop}

/-- The result is good, or the error is bad. -/
def Ends (good : α → Prop) (bad : ε → Prop) (x : Outcome ε α) : Prop :=
  match x.result with
  | .ok a => good a
  | .error e => bad e

@[simp]
theorem mapError_ok (f : ε → ε') (printed : List String) (a : α) :
    mapError f ⟨printed, .ok a⟩ = ⟨printed, .ok a⟩ := rfl

@[simp]
theorem mapError_error (f : ε → ε') (printed : List String) (e : ε) :
    mapError f (⟨printed, .error e⟩ : Outcome ε α) = ⟨printed, .error (f e)⟩ := rfl

theorem ends_ofOption {e : ε} {a? : Option α} (present : ∃ a, a? = some a ∧ good a) :
    Ends good bad (ofOption e a?) := by
  obtain ⟨a, rfl, ok⟩ := present
  exact ok

theorem Ends.bind {x : Outcome ε α} {f : α → Outcome ε β} {next : β → Prop}
    (first : Ends good bad x) (rest : ∀ a, good a → Ends next bad (f a)) :
    Ends next bad (x >>= f) := by
  rcases x with ⟨printed, result⟩
  cases result with
  | ok a => exact rest a first
  | error e => exact first

theorem Ends.mono {x : Outcome ε α} {good' : α → Prop} {bad' : ε → Prop}
    (ends : Ends good bad x) (results : ∀ a, good a → good' a) (errors : ∀ e, bad e → bad' e) :
    Ends good' bad' x := by
  rcases x with ⟨printed, result⟩
  cases result with
  | ok a => exact results a ends
  | error e => exact errors e ends

theorem Ends.mapError {x : Outcome ε α} {f : ε → ε'} {bad' : ε' → Prop}
    (ends : Ends good (fun e => bad' (f e)) x) : Ends good bad' (x.mapError f) := by
  rcases x with ⟨printed, result⟩
  cases result with
  | ok a => exact ends
  | error e => exact ends

/-- Two judgments on the results of one outcome. -/
theorem Ends.and {x : Outcome ε α} {good' : α → Prop} (first : Ends good bad x)
    (second : Ends good' (fun _ => True) x) : Ends (fun a => good a ∧ good' a) bad x := by
  rcases x with ⟨printed, result⟩
  cases result with
  | ok a => exact ⟨first, second⟩
  | error e => exact first

theorem ends_trivial (x : Outcome ε α) : Ends (fun _ => True) (fun _ => True) x := by
  rcases x with ⟨printed, result⟩
  cases result with
  | ok a => trivial
  | error e => trivial

/-- The two things a judgment on an outcome says. -/
theorem ends_iff {x : Outcome ε α} :
    Ends good bad x ↔
      (∀ a, x.result = .ok a → good a) ∧ (∀ e, x.result = .error e → bad e) := by
  rcases x with ⟨printed, result⟩
  cases result <;> simp [Ends]

end NominalScript.Outcome
