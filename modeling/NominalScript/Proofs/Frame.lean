import Mathlib.Data.List.Basic
import NominalScript.Diagnostic
import NominalScript.Proofs.Location

/-!
# What a frame shows

The frame of a diagnostic is described by the lines of the text alone: there is one just
when the place starts on a line of the text, and its rows are the lines that the place
covers, as many as the limit admits (`Diagnostic.annotation?_exact`).  Nothing is asked
of the place: it may end before it starts, or behind the last line.

A text is taken apart twice, once by the reader of lines and once by cutting the list of
its characters at every line feed; `Text.lines_eq_splitOn` says that it comes to the same.
-/

namespace NominalScript

/-! ## Lines -/

namespace Text

/-- The lines of a text are its pieces between line feeds. -/
theorem lines_eq_splitOn (cs : List Char) : lines cs = cs.splitOn '\n' := by
  induction cs with
  | nil => rfl
  | cons c cs ih =>
    rw [List.splitOn_cons_eq_if_modifyHead, ← ih]
    by_cases feed : c = '\n'
    · simp [lines, feed]
    · obtain ⟨first, rest, split⟩ := List.exists_cons_of_ne_nil (lines_ne_nil cs)
      simp [lines, feed, split]

end Text

namespace Diagnostic

variable {d : Diagnostic} {start stop : Location} {source : String} {limit : Nat}

/-- The row of a line: indented, and without the carriage return that it may end with. -/
def rowOf (line : List Char) : String :=
  indent ++ String.ofList (if line.getLast? = some '\r' then line.dropLast else line)

theorem map_indent_shownLines (source : String) :
    (Text.shownLines source).map (indent ++ ·) = (source.toList.splitOn '\n').map rowOf := by
  rw [Text.shownLines, Text.lines_eq_splitOn, List.map_map]
  refine List.map_congr_left fun line _ => ?_
  rw [Function.comp_apply, Text.withoutReturn_eq, rowOf]

theorem length_shownLines (source : String) :
    (Text.shownLines source).length = (source.toList.splitOn '\n').length := by
  rw [Text.shownLines, List.length_map, Text.lines_eq_splitOn]

/-! ## Covered lines -/

/-- A place that starts on a line covers this one at least, and none behind the last. -/
theorem length_coveredLines {lines : List String} (first : 1 ≤ start.line)
    (inside : start.line ≤ lines.length) :
    (coveredLines start stop lines).length =
      max 1 (min stop.line lines.length + 1 - start.line) := by
  rw [coveredLines, List.length_take, List.length_drop]
  omega

theorem getElem?_coveredLines {lines : List String} {i : Nat}
    (covered : i < (coveredLines start stop lines).length) :
    (coveredLines start stop lines)[i]? = lines[start.line - 1 + i]? := by
  rw [coveredLines, List.length_take] at covered
  rw [coveredLines, List.getElem?_take, if_pos (by omega), List.getElem?_drop]

theorem coveredLines_eq_nil {lines : List String} (first : 1 ≤ start.line) :
    coveredLines start stop lines = [] ↔ lines.length < start.line := by
  rw [coveredLines, List.take_eq_nil_iff, List.drop_eq_nil_iff]
  omega

/-! ## Rows -/

theorem frameRows_single {covered : List String} (alone : covered.length = 1) :
    frameRows start stop limit covered = covered.map (indent ++ ·) ++ [markRow start stop] := by
  obtain ⟨line, rfl⟩ := List.length_eq_one_iff.1 alone
  rfl

theorem frameRows_several {covered : List String} (several : 1 < covered.length) :
    frameRows start stop limit covered =
      (covered.map (indent ++ ·)).take limit ++
        if limit < covered.length then [indent ++ "..."] else [] := by
  match covered with
  | first :: second :: others =>
    rw [frameRows, List.map_take]
    · exact List.cons_ne_nil _ _
    · exact fun _ => by simp

/-- There is a frame just when the place has lines that are counted from one and starts
on a line of the text; the rows are then those of the lines it covers. -/
theorem frame?_eq (place : d.place.bind Place.ends? = some (start, stop)) :
    d.frame? source limit =
      if 1 ≤ start.line ∧ start.line ≤ (Text.shownLines source).length ∧ 1 ≤ stop.line then
        some (frameRows start stop (max limit 1)
          (coveredLines start stop (Text.shownLines source)))
      else none := by
  simp only [frame?, place, Option.bind_eq_bind, Option.bind_some]
  by_cases counted : start.line = 0 ∨ stop.line = 0
  · rw [if_pos counted, if_neg (by omega)]
  · have first : 1 ≤ start.line := by omega
    have empty : coveredLines start stop (Text.shownLines source) = [] ↔
        (Text.shownLines source).length < start.line := coveredLines_eq_nil first
    rw [if_neg counted]
    split
    · next none => rw [if_neg (by have := empty.1 none; omega)]
    · next some => rw [if_pos (by have := mt empty.2 some; omega)]

theorem annotation?_eq_none (nowhere : d.place.bind Place.ends? = none) :
    d.annotation? source limit = none := by
  simp [annotation?, frame?, nowhere]

/-- What a frame shows.  There is one when the place is in a text and starts on one
of its lines, and ends on a line that is counted from one.  Its rows are those of the
lines from there to where the place ends, or to the last line of the text: with one such
line, the line and a row of marks; with several, the first of them, as many as the limit
admits, and a row of dots if that is not all.  So a higher limit adds lines behind those
shown before and changes none of them. -/
theorem annotation?_exact (d : Diagnostic) (source : String) :
    (∀ limit, (d.annotation? source limit).isSome ↔
      ∃ start stop, d.place.bind Place.ends? = some (start, stop) ∧ 1 ≤ start.line ∧
        start.line ≤ (source.toList.splitOn '\n').length ∧ 1 ≤ stop.line) ∧
    ∀ start stop, d.place.bind Place.ends? = some (start, stop) → 1 ≤ start.line →
      start.line ≤ (source.toList.splitOn '\n').length → 1 ≤ stop.line →
      ∃ rows : List String,
        rows.length =
          max 1 (min stop.line (source.toList.splitOn '\n').length + 1 - start.line) ∧
        (∀ i < rows.length,
          rows[i]? = ((source.toList.splitOn '\n')[start.line - 1 + i]?).map rowOf) ∧
        (rows.length = 1 → ∀ limit,
          d.annotation? source limit = some ("\n".intercalate (rows ++ [markRow start stop]))) ∧
        (1 < rows.length → ∀ limit,
          d.annotation? source limit = some ("\n".intercalate (rows.take (max limit 1) ++
            if max limit 1 < rows.length then [indent ++ "..."] else []))) ∧
        ∀ limit limit', limit ≤ limit' → rows.take (max limit 1) <+: rows.take (max limit' 1) := by
  refine ⟨fun limit => ?_, fun start stop place first inside last => ?_⟩
  · cases place : d.place.bind Place.ends? with
    | none => simp [annotation?_eq_none place]
    | some ends =>
      obtain ⟨start, stop⟩ := ends
      rw [annotation?, Option.isSome_map, frame?_eq place, length_shownLines, Option.isSome_ite]
      simp only [Option.some.injEq, Prod.mk.injEq, and_assoc, exists_and_left, exists_eq_left']
  · have inText : start.line ≤ (Text.shownLines source).length := length_shownLines source ▸ inside
    -- The frame is made from the same lines whatever the limit.
    have frame : ∀ limit, d.annotation? source limit = some ("\n".intercalate (frameRows start
        stop (max limit 1) (coveredLines start stop (Text.shownLines source)))) := by
      intro limit
      rw [annotation?, frame?_eq place, if_pos ⟨first, inText, last⟩]
      rfl
    refine ⟨(coveredLines start stop (Text.shownLines source)).map (indent ++ ·), ?_, ?_, ?_,
      ?_, ?_⟩
    · rw [List.length_map, length_coveredLines first inText, length_shownLines]
    · intro i bound
      rw [List.length_map] at bound
      rw [List.getElem?_map, getElem?_coveredLines bound, ← List.getElem?_map,
        map_indent_shownLines, List.getElem?_map]
    · intro alone limit
      rw [List.length_map] at alone
      rw [frame, frameRows_single alone]
    · intro several limit
      rw [List.length_map] at several
      rw [frame, frameRows_several several, List.length_map]
    · intro limit limit' raised
      exact List.take_prefix_take_left (by omega)

/-- An error about a place that starts on the second line and ends behind the text. -/
def overlong : Diagnostic := errorOver "too long" (.source ⟨2, 1⟩ ⟨9, 2⟩)

/-- The place covers three lines of the text: with room for two of them dots stand for the last,
with room for three all are shown. -/
theorem annotation?_exact_overlong :
    (overlong.annotation? "a\nb\r\nc\nd" 1).isSome ∧
      overlong.annotation? "a\nb\r\nc\nd" 2 = some "    b\n    c\n    ..." ∧
      overlong.annotation? "a\nb\r\nc\nd" 3 = some "    b\n    c\n    d" := by
  have count : ("a\nb\r\nc\nd".toList.splitOn '\n').length = 4 := by decide +kernel
  obtain ⟨there, shape⟩ := annotation?_exact overlong "a\nb\r\nc\nd"
  rw [count] at there shape
  obtain ⟨rows, length, lines, _, several, _⟩ :=
    shape ⟨2, 1⟩ ⟨9, 2⟩ rfl (by decide) (by decide) (by decide)
  obtain ⟨first, second, third, rfl⟩ := List.length_eq_three.1 (show rows.length = 3 from length)
  have firstLine : some first = some "    b" := (lines 0 (by simp)).trans (by decide +kernel)
  have secondLine : some second = some "    c" := (lines 1 (by simp)).trans (by decide +kernel)
  have thirdLine : some third = some "    d" := (lines 2 (by simp)).trans (by decide +kernel)
  cases firstLine
  cases secondLine
  cases thirdLine
  refine ⟨(there 1).2 ⟨⟨2, 1⟩, ⟨9, 2⟩, rfl, by decide, by decide, by decide⟩, ?_, ?_⟩
  · exact (several (by decide) 2).trans (by decide +kernel)
  · exact (several (by decide) 3).trans (by decide +kernel)

end Diagnostic

end NominalScript
