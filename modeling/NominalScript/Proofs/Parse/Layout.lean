import Mathlib.Tactic.SplitIfs
import NominalScript.Proofs.Parse.Success

/-!
# Layout

Between two tokens stands a gap of trivia, and a `Gap` is all that a parser can see of
it: whether it is empty, holds comments only, holds blanks, or holds a newline.  The
`outline` of a list of kinds is what is left of it when each gap is taken for its
class and what stands behind the last token is left out.

Two cursors are `Alike` when their outlines are the same.  Whatever a parser looks at
is the same for alike cursors, apart from the trivia at the end of the tokens.
-/

namespace NominalScript

/-! ## Gaps -/

/-- What stands between two tokens. -/
inductive Gap where
  | empty
  | comments
  | blanks
  | newline
deriving DecidableEq, Repr

/-- The class of the trivia between two tokens. -/
def Gap.of (trivia : List Kind) : Gap :=
  if trivia.any (· == .blank .newline) then .newline
  else if trivia.any Kind.isBlank then .blanks
  else if trivia.isEmpty then .empty
  else .comments

/-- Is there a blank of any sort? -/
def Gap.hasBlank : Gap → Bool
  | .blanks => true
  | .newline => true
  | _ => false

theorem Gap.of_nil : Gap.of [] = .empty := rfl

theorem Gap.of_eq_newline {trivia : List Kind} :
    Gap.of trivia = .newline ↔ trivia.any (· == .blank .newline) = true := by
  unfold Gap.of
  split
  case isTrue newline => simp [newline]
  case isFalse noNewline =>
    refine ⟨?_, fun newline => absurd newline noNewline⟩
    split_ifs <;> exact nofun

theorem Gap.of_eq_empty {trivia : List Kind} : Gap.of trivia = .empty ↔ trivia = [] := by
  cases trivia with
  | nil => simp [Gap.of_nil]
  | cons k ks =>
    unfold Gap.of
    split_ifs <;> simp_all

/-- A gap has a blank when one of its tokens is one; comments do not count. -/
theorem Gap.hasBlank_of (trivia : List Kind) :
    (Gap.of trivia).hasBlank = trivia.any Kind.isBlank := by
  unfold Gap.of
  split_ifs with newline blank none
  · have some : trivia.any Kind.isBlank = true := by
      obtain ⟨k, mem, same⟩ := List.any_eq_true.1 newline
      refine List.any_eq_true.2 ⟨k, mem, ?_⟩
      rw [eq_of_beq same]
      rfl
    simp [Gap.hasBlank, some]
  · simp [Gap.hasBlank, blank]
  · simp [Gap.hasBlank, blank]
  · simp [Gap.hasBlank, blank]

/-! ## Outlines -/

/-- Each kind that is no trivia, with the gap before it, given the trivia since the
last such kind. -/
def outlineFrom (skipped : List Kind) : List Kind → List (Gap × Kind)
  | [] => []
  | k :: ks =>
    if k.isTrivia then outlineFrom (skipped ++ [k]) ks
    else (Gap.of skipped, k) :: outlineFrom [] ks

/-- Each kind that is no trivia, with the gap before it. -/
def outline (kinds : List Kind) : List (Gap × Kind) := outlineFrom [] kinds

/-- The gaps between kinds that are no trivia, from the first to the last of these. -/
def gapsBetween (kinds : List Kind) : List Gap := ((outline kinds).map Prod.fst).tail

/-- The same kinds apart from trivia, and the same gaps between them. -/
structure SameLayout (ks ks' : List Kind) : Prop where
  kinds : (ks.filter fun k => !k.isTrivia) = ks'.filter fun k => !k.isTrivia
  gaps : gapsBetween ks = gapsBetween ks'

theorem outlineFrom_of_trivia {trivia : List Kind} (all : ∀ k ∈ trivia, k.isTrivia = true)
    (skipped kinds : List Kind) :
    outlineFrom skipped (trivia ++ kinds) = outlineFrom (skipped ++ trivia) kinds := by
  induction trivia generalizing skipped with
  | nil => simp
  | cons k trivia ih =>
    obtain ⟨first, rest⟩ := List.forall_mem_cons.1 all
    rw [List.cons_append, outlineFrom, if_pos first, ih rest]
    simp

theorem map_snd_outlineFrom (skipped kinds : List Kind) :
    (outlineFrom skipped kinds).map Prod.snd = kinds.filter fun k => !k.isTrivia := by
  fun_induction outlineFrom skipped kinds with
  | case1 => rfl
  | case2 skipped k ks trivia ih => simp [trivia, ih]
  | case3 skipped k ks other ih => simp [other, ih]

namespace Syntax

variable {c c₁ d d₁ : Cursor}

namespace Cursor

/-- The outline of the tokens ahead. -/
def outline (c : Cursor) : List (Gap × Kind) := NominalScript.outline (c.rest.map Token.kind)

/-- The gap ahead. -/
def gap (c : Cursor) : Gap := .of (c.trivia.map Token.kind)

/-- The tokens ahead have the same outline. -/
def Alike (c d : Cursor) : Prop := c.outline = d.outline

/-! ## Trivia ahead -/

theorem rest_afterRun (p : Kind → Bool) (tokens : List Token) (lastEnd : Location) :
    (afterRun p tokens lastEnd).rest = tokens.dropWhile fun t => p t.kind := by
  induction tokens generalizing lastEnd with
  | nil => rfl
  | cons t rest ih =>
    cases run : p t.kind with
    | true => simp [afterRun, run, ih]
    | false => simp [afterRun, run]

theorem trivia_append_pastTrivia (c : Cursor) : c.trivia ++ c.pastTrivia.rest = c.rest := by
  rw [trivia, pastTrivia, skipWhile, rest_afterRun]
  exact List.takeWhile_append_dropWhile

theorem isTrivia_of_mem_trivia {t : Token} (mem : t ∈ c.trivia) : t.kind.isTrivia = true := by
  have all := List.all_takeWhile (p := fun t : Token => t.kind.isTrivia) (l := c.rest)
  exact List.all_eq_true.1 all t mem

theorem not_isTrivia_pastTrivia {k : Kind} (next : c.pastTrivia.kind? = some k) :
    k.isTrivia = false := by
  rw [kind?_pastTrivia, kindPastTrivia?] at next
  obtain ⟨t, found, rfl⟩ := Option.map_eq_some_iff.1 next
  simpa using List.find?_some found

theorem pastTrivia_of_trivia_nil (none : c.trivia = []) : c.pastTrivia = c := by
  rcases c with ⟨rest, lastEnd⟩
  cases rest with
  | nil => rfl
  | cons t rest =>
    have other : ¬ t.kind.isTrivia = true := by
      intro isTrivia
      simp [trivia, isTrivia] at none
    simp [pastTrivia, skipWhile, afterRun, other]

theorem trivia_of_kind? {k : Kind} (next : c.kind? = some k) (other : k.isTrivia = false) :
    c.trivia = [] := by
  obtain ⟨t, c', rfl, takes⟩ := exists_takes next
  simp [trivia, takes.rest, other]

theorem trivia_pastTrivia (c : Cursor) : c.pastTrivia.trivia = [] := by
  cases next : c.pastTrivia.kind? with
  | none => simp [trivia, kind?_eq_none.1 next]
  | some k => exact trivia_of_kind? next (not_isTrivia_pastTrivia next)

@[simp]
theorem pastTrivia_pastTrivia (c : Cursor) : c.pastTrivia.pastTrivia = c.pastTrivia :=
  pastTrivia_of_trivia_nil c.trivia_pastTrivia

@[simp]
theorem gap_pastTrivia (c : Cursor) : c.pastTrivia.gap = .empty := by
  simp [gap, c.trivia_pastTrivia, Gap.of_nil]

/-- A kind that is no trivia is next if there is no gap before it. -/
theorem kind?_eq_iff {k : Kind} (other : k.isTrivia = false) :
    c.kind? = some k ↔ c.gap = .empty ∧ c.pastTrivia.kind? = some k := by
  constructor
  · intro next
    have none := trivia_of_kind? next other
    rw [pastTrivia_of_trivia_nil none]
    exact ⟨by simp [gap, none, Gap.of_nil], next⟩
  · intro ⟨empty, next⟩
    have none : c.trivia = [] := by simpa [gap, Gap.of_eq_empty] using empty
    rwa [pastTrivia_of_trivia_nil none] at next

/-- Trivia is next if there is a gap. -/
theorem isTrivia_kind?_iff : (c.kind?.map Kind.isTrivia).getD false = true ↔ c.gap ≠ .empty := by
  have empty : c.gap = .empty ↔ c.trivia = [] := by simp [gap, Gap.of_eq_empty]
  rw [Ne, empty]
  cases next : c.kind? with
  | none => simp [trivia, kind?_eq_none.1 next]
  | some k =>
    obtain ⟨t, c', rfl, takes⟩ := exists_takes next
    cases isTrivia : t.kind.isTrivia <;> simp [trivia, takes.rest, isTrivia]

theorem skipped_eq (c : Cursor) : c.skipped = ⟨c.gap.hasBlank, c.gap == .newline⟩ := by
  have newline : (c.gap == .newline) = c.trivia.any (·.kind == .blank .newline) := by
    rw [Bool.eq_iff_iff, beq_iff_eq, gap, Gap.of_eq_newline]
    simp
  rw [newline, gap, Gap.hasBlank_of, skipped, List.any_map]
  rfl

/-! ## Alike cursors -/

theorem outline_eq_nil (ended : c.pastTrivia.rest = []) : c.outline = [] := by
  have all : ∀ k ∈ c.trivia.map Token.kind, k.isTrivia = true := by
    simpa using fun t mem => isTrivia_of_mem_trivia mem
  rw [outline, NominalScript.outline, ← c.trivia_append_pastTrivia, ended, List.map_append,
    outlineFrom_of_trivia all]
  rfl

theorem outline_eq_cons {t : Token} (takes : c.pastTrivia.Takes t c₁) :
    c.outline = (c.gap, t.kind) :: c₁.outline := by
  have all : ∀ k ∈ c.trivia.map Token.kind, k.isTrivia = true := by
    simpa using fun t mem => isTrivia_of_mem_trivia mem
  have other := not_isTrivia_pastTrivia takes.kind?
  rw [outline, NominalScript.outline, ← c.trivia_append_pastTrivia, takes.rest, List.map_append,
    outlineFrom_of_trivia all, List.map_cons, outlineFrom, other]
  rfl

/-- Alike cursors are both at the end, or both before a token of the same kind with the
same gap before it and alike cursors behind it. -/
theorem Alike.cases (alike : c.Alike d) :
    (c.pastTrivia.rest = [] ∧ d.pastTrivia.rest = []) ∨
      ∃ t c₁ t' d₁, c.pastTrivia.Takes t c₁ ∧ d.pastTrivia.Takes t' d₁ ∧ t.kind = t'.kind ∧
        c.gap = d.gap ∧ c₁.Alike d₁ := by
  unfold Alike at alike
  cases left : c.pastTrivia.kind? with
  | none =>
    have ended := kind?_eq_none.1 left
    rw [outline_eq_nil ended] at alike
    cases right : d.pastTrivia.kind? with
    | none => exact .inl ⟨ended, kind?_eq_none.1 right⟩
    | some k =>
      obtain ⟨t', d₁, _, takes⟩ := exists_takes right
      rw [outline_eq_cons takes] at alike
      cases alike
  | some k =>
    obtain ⟨t, c₁, _, takes⟩ := exists_takes left
    rw [outline_eq_cons takes] at alike
    cases right : d.pastTrivia.kind? with
    | none =>
      rw [outline_eq_nil (kind?_eq_none.1 right)] at alike
      cases alike
    | some k' =>
      obtain ⟨t', d₁, _, takes'⟩ := exists_takes right
      rw [outline_eq_cons takes'] at alike
      obtain ⟨first, rest⟩ := List.cons.inj alike
      obtain ⟨gap, kind⟩ := Prod.mk.inj first
      exact .inr ⟨t, c₁, t', d₁, takes, takes', kind, gap, rest⟩

theorem Alike.symm (alike : c.Alike d) : d.Alike c := Eq.symm alike

theorem Alike.kindPastTrivia (alike : c.Alike d) : c.pastTrivia.kind? = d.pastTrivia.kind? := by
  obtain ⟨left, right⟩ | ⟨t, c₁, t', d₁, takes, takes', kind, _⟩ := alike.cases
  · rw [kind?_eq_none.2 left, kind?_eq_none.2 right]
  · rw [takes.kind?, takes'.kind?, kind]

/-- Past the trivia ahead there is no gap. -/
theorem outline_pastTrivia (c : Cursor) :
    c.pastTrivia.outline =
      (c.outline.head?.map fun s => (.empty, s.2)).toList ++ c.outline.tail := by
  cases next : c.pastTrivia.kind? with
  | none =>
    have ended := kind?_eq_none.1 next
    rw [outline_eq_nil ended, outline_eq_nil (by simpa using ended)]
    rfl
  | some k =>
    obtain ⟨t, c₁, _, takes⟩ := exists_takes next
    rw [outline_eq_cons takes, outline_eq_cons (by simpa using takes), gap_pastTrivia]
    rfl

theorem Alike.pastTrivia (alike : c.Alike d) : c.pastTrivia.Alike d.pastTrivia := by
  rw [Alike, outline_pastTrivia, outline_pastTrivia, alike]

/-- Alike cursors see the same gap, unless they are at the end. -/
theorem Alike.gap_eq {k : Kind} (alike : c.Alike d) (next : c.pastTrivia.kind? = some k) :
    c.gap = d.gap := by
  obtain ⟨left, _⟩ | ⟨_, _, _, _, _, _, _, gap, _⟩ := alike.cases
  · rw [kind?_eq_none.2 left] at next
    cases next
  · exact gap

/-- Alike cursors see the same token that is no trivia right ahead. -/
theorem Alike.kind?_iff {k : Kind} (alike : c.Alike d) (other : k.isTrivia = false) :
    c.kind? = some k ↔ d.kind? = some k := by
  rw [kind?_eq_iff other, kind?_eq_iff (c := d) other, alike.kindPastTrivia]
  constructor
  · intro ⟨empty, next⟩
    exact ⟨(alike.gap_eq (alike.kindPastTrivia.trans next)).symm.trans empty, next⟩
  · intro ⟨empty, next⟩
    exact ⟨(alike.gap_eq (alike.kindPastTrivia.trans next)).trans empty, next⟩

theorem Alike.kind?_eq (alike : c.Alike d) (past : c.trivia = []) (past' : d.trivia = []) :
    c.kind? = d.kind? := by
  have kinds := alike.kindPastTrivia
  rwa [pastTrivia_of_trivia_nil past, pastTrivia_of_trivia_nil past'] at kinds

/-- A token of the same kind is taken from alike cursors, and they stay alike. -/
theorem Alike.takes {t : Token} (alike : c.Alike d) (takes : c.Takes t c₁)
    (other : t.kind.isTrivia = false) :
    ∃ t' d₁, t'.kind = t.kind ∧ d.Takes t' d₁ ∧ c₁.Alike d₁ := by
  obtain ⟨t', d₁, kind, takes'⟩ := exists_takes ((alike.kind?_iff other).1 takes.kind?)
  refine ⟨t', d₁, kind, takes', ?_⟩
  have past := pastTrivia_of_trivia_nil (trivia_of_kind? takes.kind? other)
  have past' := pastTrivia_of_trivia_nil (trivia_of_kind? takes'.kind? (kind ▸ other))
  rw [← past] at takes
  rw [← past'] at takes'
  have same : (c.gap, t.kind) :: c₁.outline = (d.gap, t'.kind) :: d₁.outline := by
    rw [← outline_eq_cons takes, ← outline_eq_cons takes', alike]
  exact (List.cons.inj same).2

/-! ## The rest of a line -/

/-- Skip the trivia ahead up to the end of the line. -/
def toLineEnd (c : Cursor) : Cursor := c.skipWhile fun k => k.isTrivia && k != .blank .newline

/-- With no newline in the gap ahead, all of it is skipped. -/
theorem toLineEnd_of_ne (noNewline : c.gap ≠ .newline) : c.toLineEnd = c.pastTrivia := by
  rcases c with ⟨rest, lastEnd⟩
  have none : ∀ t ∈ rest.takeWhile fun t => t.kind.isTrivia, t.kind ≠ .blank .newline := by
    rw [gap, Ne, Gap.of_eq_newline] at noNewline
    simpa [trivia] using noNewline
  clear noNewline
  unfold toLineEnd pastTrivia skipWhile
  induction rest generalizing lastEnd with
  | nil => rfl
  | cons t rest ih =>
    cases isTrivia : t.kind.isTrivia with
    | false => simp [afterRun, isTrivia]
    | true =>
      rw [List.takeWhile_cons, if_pos isTrivia] at none
      obtain ⟨first, rest⟩ := List.forall_mem_cons.1 none
      simp only [afterRun, isTrivia, first, bne_iff_ne, ne_eq, not_false_eq_true, Bool.true_and,
        if_true]
      exact ih t.stop rest

/-- With a newline in the gap ahead, it is found, and the rest of the gap is left. -/
theorem toLineEnd_of_eq (newline : c.gap = .newline) :
    c.toLineEnd.kind? = some (.blank .newline) ∧ c.toLineEnd.pastTrivia = c.pastTrivia := by
  rcases c with ⟨rest, lastEnd⟩
  have some : ∃ t ∈ rest.takeWhile fun t => t.kind.isTrivia, t.kind = .blank .newline := by
    rw [gap, Gap.of_eq_newline] at newline
    simpa [trivia] using newline
  clear newline
  unfold toLineEnd pastTrivia skipWhile
  induction rest generalizing lastEnd with
  | nil => simp at some
  | cons t rest ih =>
    by_cases found : t.kind = .blank .newline
    · simp [afterRun, found, Kind.isTrivia, kind?]
    · cases isTrivia : t.kind.isTrivia with
      | false => simp [isTrivia] at some
      | true =>
        rw [List.takeWhile_cons, if_pos isTrivia] at some
        obtain ⟨u, mem, newline⟩ := some
        have later : u ∈ rest.takeWhile fun t => t.kind.isTrivia := by
          refine (List.mem_cons.1 mem).resolve_left ?_
          rintro rfl
          exact found newline
        simp only [afterRun, isTrivia, found, bne_iff_ne, ne_eq, not_false_eq_true, Bool.true_and,
          if_true]
        exact ih t.stop ⟨u, later, newline⟩

theorem pastTrivia_toLineEnd (c : Cursor) : c.toLineEnd.pastTrivia = c.pastTrivia := by
  by_cases newline : c.gap = .newline
  · exact (toLineEnd_of_eq newline).2
  · rw [toLineEnd_of_ne newline, pastTrivia_pastTrivia]

theorem gap_toLineEnd (c : Cursor) :
    c.toLineEnd.gap = if c.gap = .newline then .newline else .empty := by
  split
  case isTrue newline =>
    obtain ⟨t, c₁, kind, takes⟩ := exists_takes (toLineEnd_of_eq newline).1
    have isTrivia : t.kind.isTrivia = true := by
      rw [kind]
      rfl
    rw [gap, Gap.of_eq_newline, trivia, takes.rest, List.takeWhile_cons, if_pos isTrivia]
    simp [kind]
  case isFalse noNewline => rw [toLineEnd_of_ne noNewline, gap_pastTrivia]

theorem Alike.toLineEnd (alike : c.Alike d) : c.toLineEnd.Alike d.toLineEnd := by
  unfold Alike
  obtain ⟨left, right⟩ | ⟨t, c₁, t', d₁, takes, takes', kind, gap, rest⟩ := alike.cases
  · rw [← pastTrivia_toLineEnd] at left right
    rw [outline_eq_nil left, outline_eq_nil right]
  · rw [← pastTrivia_toLineEnd] at takes takes'
    rw [outline_eq_cons takes, outline_eq_cons takes', gap_toLineEnd, gap_toLineEnd, gap, kind,
      rest]

/-- Is there nothing more on the line: no token, or the brace that ends a block? -/
def lineEnded (c : Cursor) : Prop :=
  c.toLineEnd.kind? = none ∨ c.toLineEnd.kind? = some .rightBrace ∨
    c.toLineEnd.kind? = some (.blank .newline)

theorem lineEnded_iff :
    c.lineEnded ↔ c.gap = .newline ∨ c.pastTrivia.kind? = none ∨
      c.pastTrivia.kind? = some .rightBrace := by
  unfold lineEnded
  by_cases newline : c.gap = .newline
  · simp [newline, (toLineEnd_of_eq newline).1]
  · have noNewline : c.pastTrivia.kind? ≠ some (.blank .newline) := by
      intro next
      cases not_isTrivia_pastTrivia next
    simp [newline, toLineEnd_of_ne newline, noNewline]

theorem Alike.lineEnded_iff (alike : c.Alike d) : c.lineEnded ↔ d.lineEnded := by
  rw [Cursor.lineEnded_iff, Cursor.lineEnded_iff, alike.kindPastTrivia]
  cases next : d.pastTrivia.kind? with
  | none => simp
  | some k => rw [alike.gap_eq (alike.kindPastTrivia.trans next)]

/-! ## Lists of tokens -/

/-- Token lists of the same layout are alike past the trivia they start with. -/
theorem alike_of_sameLayout {ts us : List Token} {l l' : Location}
    (same : SameLayout (ts.map Token.kind) (us.map Token.kind)) :
    (pastTrivia ⟨ts, l⟩).Alike (pastTrivia ⟨us, l'⟩) := by
  generalize left : outline ⟨ts, l⟩ = o
  generalize right : outline ⟨us, l'⟩ = o'
  have kinds : o.map Prod.snd = o'.map Prod.snd := by
    rw [← left, ← right]
    exact (map_snd_outlineFrom [] _).trans (same.kinds.trans (map_snd_outlineFrom [] _).symm)
  have gaps : (o.map Prod.fst).tail = (o'.map Prod.fst).tail := by
    rw [← left, ← right]
    exact same.gaps
  have first : (o.head?.map fun s => (Gap.empty, s.2)) =
      o'.head?.map fun s => (Gap.empty, s.2) := by
    have heads := congrArg (fun ks : List Kind => ks.head?.map (Prod.mk Gap.empty)) kinds
    simpa [Function.comp_def] using heads
  have rest : o.tail = o'.tail := by
    have tails := congrArg List.tail kinds
    rw [← List.map_tail, ← List.map_tail] at tails gaps
    exact (List.zip_of_prod gaps tails).trans (List.zip_of_prod rfl rfl).symm
  rw [Alike, outline_pastTrivia, outline_pastTrivia, left, right, first, rest]

end Cursor

end Syntax

end NominalScript
