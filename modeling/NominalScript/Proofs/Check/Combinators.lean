import Mathlib.Data.List.Forall2
import NominalScript.Check.Structs

/-!
# Results of checking

How the combinators of checking pass success and failure on.

* `Check.Blames blame a` is the judgment on a failure: at least one error is reported, and
  each at a span of the given sort.  Each combinator passes it on.
* The lemmas `…_eq_ok` read the success of a combinator as the success of its parts.
  Parts put together by `Check.collect` all succeed when the whole does, provided that
  none of them can fail without reporting an error.
-/

namespace NominalScript.Check

open Syntax

variable {α β γ : Type} {blame : Span → Prop}

/-- A failure reports at least one error, and each at a span to blame. -/
def Blames (blame : Span → Prop) (a : Check α) : Prop :=
  ∀ es, a = .error es → es ≠ [] ∧ ∀ e ∈ es, blame e.span

/-- A failure reports at least one error. -/
def Reports (a : Check α) : Prop := Blames (fun _ => True) a

/-! ## Failure -/

theorem Reports.ne_nil {a : Check α} (reports : a.Reports) : a ≠ .error [] := by
  intro silent
  exact (reports [] silent).1 rfl

theorem blames_ok (x : α) : Blames blame (.ok x : Check α) := nofun

theorem blames_error {es : List CheckError} (some : es ≠ []) (each : ∀ e ∈ es, blame e.span) :
    Blames blame (.error es : Check α) := by
  intro _ same
  cases same
  exact ⟨some, each⟩

theorem blames_fail {fault : CheckFault} {span : Span} (here : blame span) :
    Blames blame (fail fault span : Check α) :=
  blames_error (List.cons_ne_nil _ _) (by simpa using here)

theorem Blames.errors {a : Check α} (blames : Blames blame a) : ∀ e ∈ a.errors, blame e.span := by
  cases a with
  | ok x => exact nofun
  | error es => exact (blames es rfl).2

theorem Blames.bind {a : Check α} {f : α → Check β} (first : Blames blame a)
    (rest : ∀ x, a = .ok x → Blames blame (f x)) : Blames blame (a >>= f) := by
  cases a with
  | ok x => exact rest x rfl
  | error es => exact blames_error (first es rfl).1 (first es rfl).2

theorem Blames.map {a : Check α} {f : α → β} (blames : Blames blame a) :
    Blames blame (a.map f) := by
  cases a with
  | ok x => exact blames_ok (f x)
  | error es => exact blames_error (blames es rfl).1 (blames es rfl).2

theorem Blames.both {a : Check α} {b : Check β} (first : Blames blame a)
    (second : Blames blame b) : Blames blame (both a b) := by
  match a, b with
  | .ok x, .ok y => exact blames_ok (x, y)
  | .ok _, .error fs => exact blames_error (second fs rfl).1 (second fs rfl).2
  | .error es, .ok _ => exact blames_error (first es rfl).1 (first es rfl).2
  | .error es, .error fs =>
    refine blames_error ?_ (List.forall_mem_append.2 ⟨(first es rfl).2, (second fs rfl).2⟩)
    simp [(first es rfl).1]

theorem Blames.before {a : Check α} {b : Check β} {add : α → β → β} (first : Blames blame a)
    (rest : Blames blame b) : Blames blame (before add a b) := by
  match a with
  | .ok x => exact rest.map
  | .error [] => exact absurd rfl (first [] rfl).1
  | .error (e :: es) =>
    exact blames_error (by simp) (List.forall_mem_append.2 ⟨(first _ rfl).2, rest.errors⟩)

theorem blames_collect {cs : List (Check α)} (each : ∀ c ∈ cs, Blames blame c) :
    Blames blame (collect cs) := by
  induction cs with
  | nil => exact blames_ok []
  | cons c cs ih =>
    obtain ⟨first, rest⟩ := List.forall_mem_cons.1 each
    exact first.before (ih rest)

theorem blames_unlessAny {es : List CheckError} (each : ∀ e ∈ es, blame e.span) :
    Blames blame (unlessAny es) := by
  cases es with
  | nil => exact blames_ok ()
  | cons e es => exact blames_error (List.cons_ne_nil e es) each

theorem snd_mem_of_mem_withEarlierFrom {earlier as : List α} {p : List α × α}
    (mem : p ∈ withEarlierFrom earlier as) : p.2 ∈ as := by
  induction as generalizing earlier with
  | nil => exact absurd mem List.not_mem_nil
  | cons a as ih =>
    rcases List.mem_cons.1 mem with rfl | later
    · exact List.mem_cons_self
    · exact List.mem_cons_of_mem a (ih later)

theorem blames_collect_withEarlier {f : List α → α → Check β} {as : List α}
    (each : ∀ a ∈ as, ∀ earlier, Blames blame (f earlier a)) :
    Blames blame (collect ((withEarlier as).map fun p => f p.1 p.2)) := by
  refine blames_collect ?_
  intro c mem
  obtain ⟨p, listed, rfl⟩ := List.mem_map.1 mem
  exact each p.2 (snd_mem_of_mem_withEarlierFrom listed) p.1

theorem resolve_blames {names : TypeNames} {type : Ident} (here : blame type.span) :
    Blames blame (resolve names type) := by
  unfold resolve
  split
  · exact blames_ok _
  · exact blames_fail here

/-! ## Success -/

theorem bind_eq_ok {x : Check α} {f : α → Check β} {b : β} :
    (x >>= f) = .ok b ↔ ∃ a, x = .ok a ∧ f a = .ok b := by
  cases x with
  | ok a => exact ⟨fun h => ⟨a, rfl, h⟩, fun ⟨_, h, hb⟩ => by cases h; exact hb⟩
  | error es => exact ⟨fun h => (nomatch h), fun ⟨_, h, _⟩ => (nomatch h)⟩

theorem map_eq_ok {x : Check α} {f : α → β} {b : β} :
    x.map f = .ok b ↔ ∃ a, x = .ok a ∧ f a = b := by
  cases x with
  | ok a => simp [Except.map]
  | error es => simp [Except.map]

theorem both_eq_ok {x : Check α} {y : Check β} {r : α × β} :
    both x y = .ok r ↔ x = .ok r.1 ∧ y = .ok r.2 := by
  rcases r with ⟨a, b⟩
  cases x <;> cases y <;> simp [both]

theorem before_eq_ok {add : α → β → β} {x : Check α} {xs : Check β} {r : β} (reports : x.Reports) :
    before add x xs = .ok r ↔ ∃ a b, x = .ok a ∧ xs = .ok b ∧ r = add a b := by
  match x, xs with
  | .ok a, .ok b => simp [before, Except.map, eq_comm]
  | .ok a, .error es => simp [before, Except.map]
  | .error [], _ => exact absurd rfl reports.ne_nil
  | .error (e :: es), _ => simp [before]

theorem cons_eq_ok {x : Check α} {xs : Check (List α)} {r : List α} (reports : x.Reports) :
    cons x xs = .ok r ↔ ∃ a as, x = .ok a ∧ xs = .ok as ∧ r = a :: as :=
  before_eq_ok reports

theorem collect_eq_ok {cs : List (Check α)} {as : List α} (reports : ∀ c ∈ cs, c.Reports) :
    collect cs = .ok as ↔ List.Forall₂ (fun c a => c = .ok a) cs as := by
  induction cs generalizing as with
  | nil => cases as <;> simp [collect]
  | cons c cs ih =>
    obtain ⟨first, rest⟩ := List.forall_mem_cons.1 reports
    simp only [collect, cons_eq_ok first, List.forall₂_cons_left_iff, ih rest]

theorem collect_map_eq_ok {f : β → Check α} {bs : List β} {as : List α}
    (reports : ∀ b ∈ bs, (f b).Reports) :
    collect (bs.map f) = .ok as ↔ List.Forall₂ (fun b a => f b = .ok a) bs as := by
  rw [collect_eq_ok (List.forall_mem_map.2 reports), List.forall₂_map_left_iff]

theorem unlessAny_eq_ok {es : List CheckError} {u : Unit} : unlessAny es = .ok u ↔ es = [] := by
  cases es <;> simp [unlessAny]

theorem resolve_eq_ok {names : TypeNames} {type : Ident} {t : TypeId} :
    resolve names type = .ok t ↔ names.resolve? type.name = some t := by
  unfold resolve
  cases names.resolve? type.name <;> simp [fail]

/-! ## Lists without repetition

Fields, parameters and structs are checked one by one, each against those before
it.  All of them pass exactly when no key comes twice and each passes alone. -/

theorem map_snd_withEarlierFrom (earlier as : List α) :
    (withEarlierFrom earlier as).map Prod.snd = as := by
  induction as generalizing earlier with
  | nil => rfl
  | cons a as ih => simp [withEarlierFrom, ih]

/-- No key is one of an earlier element just when no key repeats, which is how names are kept
apart. -/
theorem forall_fresh_withEarlierFrom {key : α → String} {earlier as : List α}
    (distinct : (earlier.map key).Nodup) :
    (∀ p ∈ withEarlierFrom earlier as, key p.2 ∉ p.1.map key) ↔
      ((earlier ++ as).map key).Nodup := by
  induction as generalizing earlier with
  | nil => simpa [withEarlierFrom] using distinct
  | cons a as ih =>
    have split : earlier ++ a :: as = (earlier ++ [a]) ++ as := by simp
    have longer : key a ∉ earlier.map key ↔ ((earlier ++ [a]).map key).Nodup := by
      rw [List.map_append, List.nodup_append]
      simp [distinct]
    simp only [withEarlierFrom, List.forall_mem_cons]
    refine ⟨?_, ?_⟩
    · rintro ⟨fresh, rest⟩
      rw [split]
      exact (ih (longer.1 fresh)).1 rest
    · intro nodup
      rw [split] at nodup
      have first : ((earlier ++ [a]).map key).Nodup := by
        rw [List.map_append, List.nodup_append] at nodup
        exact nodup.1
      exact ⟨longer.2 first, (ih first).2 nodup⟩

theorem forall_fresh_withEarlier {key : α → String} {as : List α} :
    (∀ p ∈ withEarlier as, key p.2 ∉ p.1.map key) ↔ (as.map key).Nodup :=
  forall_fresh_withEarlierFrom List.nodup_nil

/-- Declarations that are checked one by one all pass when no name repeats and each passes by
itself. -/
theorem collect_withEarlier_eq_ok {f : List α → α → Check β} {R : α → β → Prop}
    {key : α → String}
    (reports : ∀ earlier a, (f earlier a).Reports)
    (step : ∀ earlier a b, f earlier a = .ok b ↔ key a ∉ earlier.map key ∧ R a b)
    {as : List α} {bs : List β} :
    collect ((withEarlier as).map fun p => f p.1 p.2) = .ok bs ↔
      (as.map key).Nodup ∧ List.Forall₂ R as bs := by
  rw [collect_map_eq_ok fun p _ => reports p.1 p.2]
  simp only [step]
  rw [List.forall₂_and_left, forall_fresh_withEarlier]
  have parts := map_snd_withEarlierFrom [] as
  rw [← withEarlier] at parts
  conv => rhs; rw [← parts]
  rw [List.forall₂_map_left_iff, parts]

end NominalScript.Check
