/-!
# The lines of a text

A line feed ends a line and belongs to none, so a text has one line more than
it has line feeds.  A carriage return that stands last in a line is not shown.
-/

namespace NominalScript.Text

/-- The lines of a text, cut at its line feeds. -/
def lines : List Char → List (List Char)
  | [] => [[]]
  | c :: cs =>
    if c = '\n' then [] :: lines cs
    else match lines cs with
      | [] => [[c]]
      | first :: rest => (c :: first) :: rest

/-- A line without the one carriage return it may end with. -/
def withoutReturn : List Char → List Char
  | [] => []
  | ['\r'] => []
  | c :: cs => c :: withoutReturn cs

/-- The lines of a text as they are shown. -/
def shownLines (text : String) : List String :=
  (lines text.toList).map fun l => String.ofList (withoutReturn l)

/-- There is one line more than there are line feeds. -/
theorem length_lines (cs : List Char) : (lines cs).length = cs.count '\n' + 1 := by
  induction cs with
  | nil => rfl
  | cons c cs ih =>
    by_cases hc : c = '\n'
    · simp [lines, hc, ih]
    · cases h : lines cs with
      | nil => simp [h] at ih
      | cons first rest => simp_all [lines]

theorem lines_ne_nil (cs : List Char) : lines cs ≠ [] := by
  intro h
  have := length_lines cs
  simp [h] at this

end NominalScript.Text
