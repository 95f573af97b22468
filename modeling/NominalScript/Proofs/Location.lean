import Mathlib.Data.List.DropRight
import NominalScript.Proofs.Token.Tiling
import NominalScript.Text.Lines

/-!
# Locations in a text

A location stands in a text when it is the location behind a part that the text starts
with.  One place is left out: between the carriage return that ends a line and the end
of that line, since a line is shown without that carriage return.  A location that
stands in a text is on one of its lines, and no further right than just behind what is
shown of it (`Location.StandsIn.within`).

A span stands in a text when both ends do, in reading order; the join of two spans does
if both of them do.
-/

namespace NominalScript

/-! ## Reading order -/

namespace Location

variable {a b c : Location}

theorem before_iff :
    a.before b = true ↔ a.line < b.line ∨ a.line = b.line ∧ a.column ≤ b.column := by
  simp [Location.before]

theorem before_refl (a : Location) : a.before a = true := by
  simp [Location.before]

theorem before_trans (first : a.before b = true) (second : b.before c = true) :
    a.before c = true := by
  rw [before_iff] at first second ⊢
  omega

theorem before_of_not_before (h : ¬ a.before b = true) : b.before a = true := by
  rw [before_iff] at h ⊢
  omega

theorem earlier_before_left (a b : Location) : (a.earlier b).before a = true := by
  unfold Location.earlier
  split
  · exact before_refl a
  · next h => exact before_of_not_before h

theorem before_later_left (a b : Location) : a.before (a.later b) = true := by
  unfold Location.later
  split
  · assumption
  · exact before_refl a

/-- Walking over a text never goes back. -/
theorem before_advance (l : Location) (text : List Char) :
    l.before (l.advance text) = true := by
  induction text generalizing l with
  | nil => exact before_refl l
  | cons c cs ih =>
    refine before_trans ?_ (ih (l.step c))
    rw [before_iff]
    unfold Location.step
    split
    · exact .inl (Nat.lt_succ_self _)
    · exact .inr ⟨rfl, Nat.le_succ _⟩

end Location

/-! ## Lines -/

namespace Text

/-- What a text has on its last line. -/
def lastLine (text : List Char) : List Char := text.rtakeWhile (· ≠ '\n')

/-- What a text has on its first line. -/
def firstLine (text : List Char) : List Char := text.takeWhile (· ≠ '\n')

theorem lastLine_suffix (text : List Char) : lastLine text <:+ text :=
  text.rtakeWhile_suffix _

/-- A further character in front belongs to the last line if that is the only one. -/
theorem lastLine_cons (c : Char) (cs : List Char) :
    lastLine (c :: cs) =
      if c = '\n' ∨ cs.count '\n' ≠ 0 then lastLine cs else c :: lastLine cs := by
  unfold lastLine List.rtakeWhile
  rw [List.reverse_cons, List.takeWhile_append]
  by_cases more : cs.count '\n' = 0
  · have whole : cs.reverse.takeWhile (· ≠ '\n') = cs.reverse := by
      rw [List.takeWhile_eq_self_iff]
      intro x mem
      rw [List.count_eq_zero] at more
      exact decide_eq_true fun same => more (same ▸ List.mem_reverse.1 mem)
    rw [whole, if_pos rfl]
    by_cases feed : c = '\n' <;> simp [feed, more]
  · have cut : (cs.reverse.takeWhile (· ≠ '\n')).length ≠ cs.reverse.length := by
      intro same
      have whole := (cs.reverse.takeWhile_prefix (· ≠ '\n')).eq_of_length same
      rw [List.takeWhile_eq_self_iff] at whole
      refine more (List.count_eq_zero.2 fun mem => ?_)
      exact of_decide_eq_true (whole '\n' (List.mem_reverse.2 mem)) rfl
    rw [if_neg cut, if_pos (.inr more)]

theorem head?_lines (cs : List Char) : (lines cs).head? = some (firstLine cs) := by
  induction cs with
  | nil => rfl
  | cons c cs ih =>
    obtain ⟨rest, split⟩ := List.head?_eq_some_iff.1 ih
    by_cases feed : c = '\n' <;> simp [lines, firstLine, feed, split]

/-- The line that two parts of a text meet on: the last line of the one, carried on by
the first line of the other. -/
theorem getElem?_lines (before rest : List Char) :
    (lines (before ++ rest))[before.count '\n']? = some (lastLine before ++ firstLine rest) := by
  induction before with
  | nil =>
    rw [List.count_nil, ← List.head?_eq_getElem?]
    exact head?_lines rest
  | cons c cs ih =>
    obtain ⟨others, split⟩ := List.head?_eq_some_iff.1 (head?_lines (cs ++ rest))
    rw [List.cons_append, lastLine_cons]
    by_cases feed : c = '\n'
    · simp [lines, feed, ih]
    · rw [List.count_cons_of_ne feed]
      rw [split] at ih
      rw [lines, if_neg feed, split]
      cases more : cs.count '\n' with
      | zero =>
        rw [more] at ih
        simpa [feed, more] using ih
      | succ n =>
        rw [more] at ih
        simpa [feed, more] using ih

/-- One carriage return at the end of a line is not shown. -/
theorem withoutReturn_eq (line : List Char) :
    withoutReturn line = if line.getLast? = some '\r' then line.dropLast else line := by
  fun_induction withoutReturn line with
  | case1 => rfl
  | case2 => rfl
  | case3 c cs notLone ih =>
    cases cs with
    | nil =>
      have other : c ≠ '\r' := fun same => notLone same rfl
      simp [withoutReturn, other]
    | cons d ds =>
      rw [ih, List.getLast?_cons_cons]
      split <;> rfl

/-- What is shown of a line reaches as far as a part of the line in front, unless that
part is the whole line and ends with a carriage return. -/
theorem length_le_withoutReturn {front back : List Char}
    (kept : front.getLast? = some '\r' → back ≠ []) :
    front.length ≤ (withoutReturn (front ++ back)).length := by
  rw [withoutReturn_eq]
  split
  · next ending =>
    have nonempty : back ≠ [] := by
      rintro rfl
      rw [List.append_nil] at ending
      exact kept ending rfl
    have := List.length_pos_iff.2 nonempty
    rw [List.length_dropLast, List.length_append]
    omega
  · simp

end Text

/-! ## Locations -/

/-- The location stands in the text, and not between the carriage return that ends a
line and the end of that line. -/
def Location.StandsIn (text : List Char) (l : Location) : Prop :=
  ∃ before rest, before ++ rest = text ∧ l = .after before ∧
    (before.getLast? = some '\r' → Text.firstLine rest ≠ [])

theorem Location.after_eq (text : List Char) :
    Location.after text = ⟨1 + text.count '\n', 1 + (Text.lastLine text).length⟩ := by
  simp [Location.after, Text.lastLine, List.rtakeWhile]

theorem Location.after_before_append (text more : List Char) :
    (Location.after text).before (.after (text ++ more)) = true := by
  rw [← Location.advance_after]
  exact before_advance _ more

/-- Where a text is taken apart, and the part in front does not end with a carriage
return, there is a location in it. -/
theorem Location.standsIn_after {before rest text : List Char} (split : before ++ rest = text)
    (noReturn : before.getLast? ≠ some '\r') : (Location.after before).StandsIn text :=
  ⟨before, rest, split, rfl, fun ending => absurd ending noReturn⟩

/-- The location is on a line of the text, and no further right than just behind what
is shown of that line. -/
structure Location.Within (source : String) (l : Location) : Prop where
  counted : 1 ≤ l.line
  inText : l.line ≤ (Text.lines source.toList).length
  onLine : ∃ line, (Text.shownLines source)[l.line - 1]? = some line ∧
    1 ≤ l.column ∧ l.column ≤ line.length + 1

/-- A location in a text is on one of its lines, as these are shown: a carriage return that is
not shown has no location behind it. -/
theorem Location.StandsIn.within {source : String} {l : Location}
    (stands : l.StandsIn source.toList) : l.Within source := by
  obtain ⟨before, rest, split, rfl, kept⟩ := stands
  rw [Location.after_eq]
  have lines := congrArg (List.count '\n') split
  rw [List.count_append] at lines
  refine ⟨Nat.le_add_right .., ?_, ?_⟩
  · rw [Text.length_lines]
    dsimp only
    omega
  · have meet := Text.getElem?_lines before rest
    rw [split] at meet
    have reach : (Text.lastLine before).length ≤
        (Text.withoutReturn (Text.lastLine before ++ Text.firstLine rest)).length :=
      Text.length_le_withoutReturn fun ending => kept <| by
        obtain ⟨front, whole⟩ := Text.lastLine_suffix before
        rw [← whole, List.getLast?_append, ending]
        rfl
    refine ⟨String.ofList (Text.withoutReturn (Text.lastLine before ++ Text.firstLine rest)),
      ?_, Nat.le_add_right .., ?_⟩
    · simp [Text.shownLines, meet]
    · rw [String.length_ofList]
      dsimp only
      omega

/-! ## Spans -/

/-- The span, if it has a place in a text, has one in this text. -/
def Span.StandsIn (text : List Char) : Span → Prop
  | .source start stop => start.StandsIn text ∧ stop.StandsIn text ∧ start.before stop = true
  | .builtin => True

theorem Location.StandsIn.earlier {text : List Char} {a b : Location} (left : a.StandsIn text)
    (right : b.StandsIn text) : (a.earlier b).StandsIn text := by
  unfold Location.earlier
  split <;> assumption

theorem Location.StandsIn.later {text : List Char} {a b : Location} (left : a.StandsIn text)
    (right : b.StandsIn text) : (a.later b).StandsIn text := by
  unfold Location.later
  split <;> assumption

/-- The span around two spans starts where the first does and ends where the second does,
whichever way round they stand. -/
theorem Span.StandsIn.join {text : List Char} {s t : Span} (left : s.StandsIn text)
    (right : t.StandsIn text) : (s.join t).StandsIn text := by
  cases s with
  | builtin => rwa [Span.builtin_join]
  | source start stop =>
    cases t with
    | builtin => rwa [Span.join_builtin]
    | source start' stop' =>
      obtain ⟨startIn, stopIn, ordered⟩ := left
      obtain ⟨startIn', stopIn', _⟩ := right
      refine ⟨startIn.earlier startIn', stopIn.later stopIn', ?_⟩
      exact Location.before_trans (Location.earlier_before_left start start')
        (Location.before_trans ordered (Location.before_later_left stop stop'))

end NominalScript
