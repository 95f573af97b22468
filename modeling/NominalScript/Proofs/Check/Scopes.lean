import NominalScript.Proofs.Aligned
import NominalScript.Proofs.Check.State

/-!
# Scopes that agree

While a body is checked, a name in scope stands for a slot.  Elsewhere it stands for
something else: for a value in a run of the source, for a type in the typing rules.
`ScopesAgree R` says that two stacks of scopes have the same names, and that what
these stand for is related by `R`; then the nearest bindings of a name are related
as well.
-/

namespace NominalScript.Check

variable {β : Type} {R : Nat → β → Prop} {name : String}

/-- The same names scope by scope, and related entries. -/
def ScopesAgree (R : Nat → β → Prop) : List Scope → List (List (String × β)) → Prop :=
  List.Forall₂ (List.Forall₂ fun c r => c.1 = r.1 ∧ R c.2 r.2)

theorem lookup_eq_none {scope : List (String × β)} :
    scope.lookup name = none ↔ name ∉ scope.map Prod.fst := by
  rw [List.lookup_eq_none_iff]
  refine ⟨?_, ?_⟩
  · intro absent mem
    obtain ⟨entry, listed, same⟩ := List.mem_map.1 mem
    simpa [same] using absent entry listed
  · intro absent entry listed
    have differ : name ≠ entry.1 := fun same => absent (same ▸ List.mem_map.2 ⟨entry, listed, rfl⟩)
    simpa using differ

/-- In a scope without repetitions, each entry is found. -/
theorem lookup_eq_some {scope : List (String × β)} (distinct : (scope.map Prod.fst).Nodup) {b : β} :
    scope.lookup name = some b ↔ (name, b) ∈ scope := by
  rw [List.lookup_eq_some_iff]
  refine ⟨?_, ?_⟩
  · intro ⟨before, after, split, _⟩
    simp [split]
  · intro mem
    obtain ⟨before, after, rfl⟩ := List.append_of_mem mem
    refine ⟨before, after, rfl, fun entry earlier => ?_⟩
    rw [List.map_append, List.map_cons] at distinct
    have apart := (List.nodup_append.1 distinct).2.2 entry.1
      (List.mem_map.2 ⟨entry, earlier, rfl⟩) name (by simp)
    simpa using Ne.symm apart

/-- A name is in neither of two scopes that agree, or in both and for entries that correspond. -/
theorem lookup_agree {scope : Scope} {vars : List (String × β)}
    (entries : List.Forall₂ (fun c r => c.1 = r.1 ∧ R c.2 r.2) scope vars) :
    (scope.lookup name = none ∧ vars.lookup name = none) ∨
      ∃ i b, scope.lookup name = some i ∧ vars.lookup name = some b ∧ R i b := by
  induction entries with
  | nil => exact .inl ⟨rfl, rfl⟩
  | @cons c r scope vars entry _ ih =>
    obtain ⟨n, i⟩ := c
    obtain ⟨m, b⟩ := r
    obtain ⟨same, related⟩ := entry
    dsimp only at same
    subst same
    by_cases here : name = n
    · subst here
      exact .inr ⟨i, b, by simp, by simp, related⟩
    · have other : (name == n) = false := by simpa using here
      rw [List.lookup_cons, List.lookup_cons, other]
      exact ih

/-- The nearest bindings of a name are related, or there are none. -/
theorem ScopesAgree.nearest {scopes : List Scope} {stack : List (List (String × β))}
    (agree : ScopesAgree R scopes stack) (name : String) :
    (scopes.findSome? (·.lookup name) = none ∧ stack.findSome? (·.lookup name) = none) ∨
      ∃ i b, scopes.findSome? (·.lookup name) = some i ∧
        stack.findSome? (·.lookup name) = some b ∧ R i b := by
  induction agree with
  | nil => exact .inl ⟨rfl, rfl⟩
  | cons entries _ ih =>
    rw [List.findSome?_cons, List.findSome?_cons]
    rcases @lookup_agree _ _ name _ _ entries with ⟨absent, absent'⟩ | ⟨i, b, here, here', related⟩
    · rw [absent, absent']
      exact ih
    · rw [here, here']
      exact .inr ⟨i, b, rfl, rfl, related⟩

theorem ScopesAgree.left {scopes : List Scope} {stack : List (List (String × β))} {i : Nat}
    (agree : ScopesAgree R scopes stack) (found : scopes.findSome? (·.lookup name) = some i) :
    ∃ b, stack.findSome? (·.lookup name) = some b ∧ R i b := by
  rcases agree.nearest name with ⟨absent, _⟩ | ⟨j, b, here, there, related⟩
  · rw [absent] at found
    cases found
  · rw [here] at found
    cases found
    exact ⟨b, there, related⟩

theorem ScopesAgree.right {scopes : List Scope} {stack : List (List (String × β))} {b : β}
    (agree : ScopesAgree R scopes stack) (found : stack.findSome? (·.lookup name) = some b) :
    ∃ i, scopes.findSome? (·.lookup name) = some i ∧ R i b := by
  rcases agree.nearest name with ⟨_, absent⟩ | ⟨i, c, here, there, related⟩
  · rw [absent] at found
    cases found
  · rw [there] at found
    cases found
    exact ⟨i, here, related⟩

theorem ScopesAgree.mono {R' : Nat → β → Prop} {scopes : List Scope}
    {stack : List (List (String × β))} (agree : ScopesAgree R scopes stack)
    (weaker : ∀ i b, R i b → R' i b) : ScopesAgree R' scopes stack :=
  agree.imp fun _ _ entries => entries.imp fun _ _ entry => ⟨entry.1, weaker _ _ entry.2⟩

/-- Binding a name to the next slot, in scopes that are open on both sides. -/
theorem ScopesAgree.bind {s : BodyState} {scope : List (String × β)}
    {outer : List (List (String × β))} {b : β} (agree : ScopesAgree R s.scopes (scope :: outer))
    (related : R s.locals.length b) (type : TypeId) :
    ScopesAgree R (s.bind name type).scopes (((name, b) :: scope) :: outer) := by
  rcases s with ⟨locals, scopes, warnings⟩
  cases agree with
  | cons entries others => exact .cons (.cons ⟨rfl, related⟩ entries) others

end NominalScript.Check
