import Mathlib.Data.List.Forall2

/-!
# Lists that agree entry by entry

A table of a checked program and the declarations it was made from are two lists
that agree entry by entry.  What stands at a position of one is related to what
stands there in the other, and a search that treats related entries alike finds
related entries.
-/

namespace NominalScript.Aligned

variable {α β : Type} {R : α → β → Prop} {as : List α} {bs : List β}

theorem getElem?_left (aligned : List.Forall₂ R as bs) {i : Nat} {a : α} (entry : as[i]? = some a) :
    ∃ b, bs[i]? = some b ∧ R a b := by
  induction aligned generalizing i with
  | nil => simp at entry
  | cons related _ ih =>
    cases i with
    | zero =>
      simp only [List.getElem?_cons_zero, Option.some.injEq] at entry
      exact ⟨_, rfl, entry ▸ related⟩
    | succ i => exact ih entry

theorem getElem?_right (aligned : List.Forall₂ R as bs) {i : Nat} {b : β}
    (entry : bs[i]? = some b) : ∃ a, as[i]? = some a ∧ R a b :=
  getElem?_left aligned.flip entry

theorem getLast?_left (aligned : List.Forall₂ R as bs) {a : α} (last : as.getLast? = some a) :
    ∃ b, bs.getLast? = some b ∧ R a b := by
  rw [List.getLast?_eq_getElem?] at last ⊢
  rw [← aligned.length_eq]
  exact getElem?_left aligned last

theorem mem_left (aligned : List.Forall₂ R as bs) {a : α} (mem : a ∈ as) :
    ∃ b ∈ bs, R a b := by
  obtain ⟨i, entry⟩ := List.mem_iff_getElem?.1 mem
  obtain ⟨b, found, related⟩ := getElem?_left aligned entry
  exact ⟨b, List.mem_iff_getElem?.2 ⟨i, found⟩, related⟩

theorem mem_right (aligned : List.Forall₂ R as bs) {b : β} (mem : b ∈ bs) :
    ∃ a ∈ as, R a b :=
  mem_left aligned.flip mem

theorem imp_mem {S : α → β → Prop} (aligned : List.Forall₂ R as bs)
    (step : ∀ a ∈ as, ∀ {b}, R a b → S a b) : List.Forall₂ S as bs := by
  induction aligned with
  | nil => exact .nil
  | cons related _ ih =>
    exact .cons (step _ (by simp) related) (ih fun a mem => step a (by simp [mem]))

theorem map_eq_map {γ : Type} {f : α → γ} {g : β → γ} (aligned : List.Forall₂ R as bs)
    (same : ∀ a b, R a b → f a = g b) : as.map f = bs.map g := by
  induction aligned with
  | nil => rfl
  | cons related _ ih => rw [List.map_cons, List.map_cons, ih, same _ _ related]

theorem of_map_eq {γ : Type} {f : α → γ} {g : β → γ} (same : as.map f = bs.map g) :
    List.Forall₂ (fun a b => f a = g b) as bs := by
  have aligned : List.Forall₂ Eq (as.map f) (bs.map g) := by
    rw [same, List.forall₂_eq_eq_eq]
  exact List.forall₂_map_right_iff.1 (List.forall₂_map_left_iff.1 aligned)

theorem comp {γ : Type} {S : β → γ → Prop} {cs : List γ} (first : List.Forall₂ R as bs)
    (second : List.Forall₂ S bs cs) : List.Forall₂ (fun a c => ∃ b, R a b ∧ S b c) as cs := by
  induction first generalizing cs with
  | nil =>
    cases second
    exact .nil
  | cons related _ ih =>
    cases second with
    | cons related' rest => exact .cons ⟨_, related, related'⟩ (ih rest)

/-- What a search finds on the right is aligned with what it finds on the left, if the two tests
agree on aligned elements. -/
theorem find?_right (aligned : List.Forall₂ R as bs) {P : α → Bool} {Q : β → Bool} {b : β}
    (same : ∀ a b, R a b → P a = Q b) (found : bs.find? Q = some b) :
    ∃ a, as.find? P = some a ∧ R a b := by
  induction aligned with
  | nil => simp at found
  | @cons a b' as bs related _ ih =>
    rw [List.find?_cons] at found ⊢
    rw [same a b' related]
    cases here : Q b' with
    | true =>
      rw [here] at found
      cases found
      exact ⟨a, rfl, related⟩
    | false =>
      rw [here] at found
      exact ih found

theorem findIdx_eq (aligned : List.Forall₂ R as bs) {P : α → Bool} {Q : β → Bool}
    (same : ∀ a b, R a b → P a = Q b) : as.findIdx P = bs.findIdx Q := by
  induction aligned with
  | nil => rfl
  | cons related _ ih => rw [List.findIdx_cons, List.findIdx_cons, ih, same _ _ related]

theorem of_getElem? (length : as.length = bs.length)
    (each : ∀ (i : Nat) a b, as[i]? = some a → bs[i]? = some b → R a b) : List.Forall₂ R as bs := by
  refine List.forall₂_iff_get.2 ⟨length, fun i left right => ?_⟩
  exact each i _ _ (List.getElem?_eq_getElem left) (List.getElem?_eq_getElem right)

/-- What is aligned with two lists one behind the other is itself two lists one behind the
other. -/
theorem append_left_iff {as' : List α} :
    List.Forall₂ R (as ++ as') bs ↔
      ∃ cs ds, bs = cs ++ ds ∧ List.Forall₂ R as cs ∧ List.Forall₂ R as' ds := by
  induction as generalizing bs with
  | nil => simp
  | cons a as ih =>
    simp only [List.cons_append, List.forall₂_cons_left_iff, ih]
    refine ⟨?_, ?_⟩
    · rintro ⟨b, _, first, ⟨cs, ds, rfl, rest, later⟩, rfl⟩
      exact ⟨b :: cs, ds, rfl, ⟨b, cs, first, rest, rfl⟩, later⟩
    · rintro ⟨_, ds, rfl, ⟨b, cs, first, rest, rfl⟩, later⟩
      exact ⟨b, cs ++ ds, first, ⟨cs, ds, rfl, rest, later⟩, rfl⟩

/-- Where one list stands reordered in another, so do the lists made from them. -/
theorem getElem?_reordered {γ : Type} {Q : α → γ → Prop} {as' : List α} {cs : List γ}
    {index : Nat → Nat} {f : β → γ} (aligned : List.Forall₂ R as bs)
    (aligned' : List.Forall₂ Q as' cs) (stands : ∀ i, as'[index i]? = as[i]?)
    (made : ∀ a b c, R a b → Q a c → c = f b) (i : Nat) : cs[index i]? = bs[i]?.map f := by
  cases entry : as[i]? with
  | none =>
    have missing := (stands i).trans entry
    rw [List.getElem?_eq_none_iff] at entry missing
    rw [List.getElem?_eq_none (aligned'.length_eq ▸ missing),
      List.getElem?_eq_none (aligned.length_eq ▸ entry), Option.map_none]
  | some a =>
    obtain ⟨b, here, related⟩ := getElem?_left aligned entry
    obtain ⟨c, there, related'⟩ := getElem?_left aligned' ((stands i).trans entry)
    rw [here, there, Option.map_some, made a b c related related']

/-- A list is aligned with some other when each of its elements is related to something. -/
theorem exists_iff : (∃ bs, List.Forall₂ R as bs) ↔ ∀ a ∈ as, ∃ b, R a b := by
  refine ⟨?_, ?_⟩
  · intro ⟨bs, aligned⟩ a mem
    obtain ⟨b, _, related⟩ := mem_left aligned mem
    exact ⟨b, related⟩
  · intro each
    induction as with
    | nil => exact ⟨[], .nil⟩
    | cons a as ih =>
      obtain ⟨b, related⟩ := each a (by simp)
      obtain ⟨bs, aligned⟩ := ih fun a mem => each a (by simp [mem])
      exact ⟨b :: bs, .cons related aligned⟩

/-- Keys that are equal for two elements just when they are for the aligned two repeat in
neither list or in both. -/
theorem nodup_map_iff {γ δ : Type} {f : α → γ} {g : β → δ} (aligned : List.Forall₂ R as bs)
    (same : ∀ a b a' b', R a b → R a' b' → (f a = f a' ↔ g b = g b')) :
    (as.map f).Nodup ↔ (bs.map g).Nodup := by
  induction aligned with
  | nil => simp
  | @cons a b as bs related rest ih =>
    rw [List.map_cons, List.map_cons, List.nodup_cons, List.nodup_cons, ih]
    refine and_congr_left fun _ => not_congr ?_
    refine ⟨?_, ?_⟩
    · intro mem
      obtain ⟨a', listed, equal⟩ := List.mem_map.1 mem
      obtain ⟨b', listed', related'⟩ := mem_left rest listed
      exact List.mem_map.2 ⟨b', listed', (same a' b' a b related' related).1 equal⟩
    · intro mem
      obtain ⟨b', listed, equal⟩ := List.mem_map.1 mem
      obtain ⟨a', listed', related'⟩ := mem_right rest listed
      exact List.mem_map.2 ⟨a', listed', (same a' b' a b related' related).2 equal⟩

/-- A list in between, when there is something in between at every position. -/
theorem exists_between {γ : Type} {Q : α → γ → Prop} {S : γ → β → Prop}
    (aligned : List.Forall₂ R as bs) (each : ∀ a ∈ as, ∀ b, R a b → ∃ c, Q a c ∧ S c b) :
    ∃ cs, List.Forall₂ Q as cs ∧ List.Forall₂ S cs bs := by
  induction aligned with
  | nil => exact ⟨[], .nil, .nil⟩
  | cons related _ ih =>
    obtain ⟨c, first, second⟩ := each _ (by simp) _ related
    obtain ⟨cs, firsts, seconds⟩ := ih fun a mem => each a (by simp [mem])
    exact ⟨c :: cs, .cons first firsts, .cons second seconds⟩

theorem through_zip {γ : Type} {Q : α × β → γ → Prop} {cs : List γ}
    (aligned : List.Forall₂ R as bs) (zipped : List.Forall₂ Q (as.zip bs) cs) :
    List.Forall₂ (fun a c => ∃ b, R a b ∧ Q (a, b) c) as cs := by
  induction aligned generalizing cs with
  | nil =>
    cases zipped
    exact .nil
  | cons related _ ih =>
    cases zipped with
    | cons here rest => exact .cons ⟨_, related, here⟩ (ih rest)

end NominalScript.Aligned
