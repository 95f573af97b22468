/-!
# Places in a source text

A `Location` is a line and a column, both counted from one; columns count
characters.  A `Span` is the half-open stretch between two locations, or the
mark of something that stands in no text at all.  A `Size` is the extent of one
token: how many lines it touches and how many characters it has on the last of
them.

* `Location.advance` walks over characters: only a line feed opens a new line.
* `Size.of` measures characters, and `Location.plus` adds a size to a location;
  `Location.plus_sizeOf` says that the two together are `advance`.
* `Span.join` is the least span around two spans.
-/

namespace NominalScript

/-- A line and a column, both counted from one. -/
structure Location where
  line : Nat
  column : Nat
deriving DecidableEq, Repr, Inhabited

/-- Where a text starts. -/
def Location.origin : Location := ⟨1, 1⟩

/-- Reading order: by line, then by column. -/
def Location.before (a b : Location) : Bool :=
  a.line < b.line || (a.line == b.line && a.column ≤ b.column)

/-- The one of two locations that comes first in reading order. -/
def Location.earlier (a b : Location) : Location :=
  if a.before b then a else b

/-- The one of two locations that comes last in reading order. -/
def Location.later (a b : Location) : Location :=
  if a.before b then b else a

/-- The location after one more character. -/
def Location.step (l : Location) (c : Char) : Location :=
  if c = '\n' then ⟨l.line + 1, 1⟩ else ⟨l.line, l.column + 1⟩

/-- The location after some more characters. -/
def Location.advance (l : Location) (text : List Char) : Location :=
  text.foldl Location.step l

/-- A location is written as its line and column with a colon between. -/
def Location.text (l : Location) : String :=
  toString l.line ++ ":" ++ toString l.column

/-- The extent of a token: the number of lines it touches, and the number of
characters it has on the last of them. -/
structure Size where
  lines : Nat
  lastColumns : Nat
deriving DecidableEq, Repr, Inhabited

/-- The extent of some characters. -/
def Size.of (text : List Char) : Size :=
  let last := text.reverse.takeWhile (· ≠ '\n')
  ⟨text.count '\n' + 1, last.length⟩

/-- The end of something of the given size. -/
def Location.plus (l : Location) (s : Size) : Location :=
  if s.lines ≤ 1 then ⟨l.line, l.column + s.lastColumns⟩
  else ⟨l.line + s.lines - 1, s.lastColumns + 1⟩

/-- A half-open stretch of a text, or the mark of what a host supplies and no
text contains. -/
inductive Span where
  | source (start stop : Location)
  | builtin
deriving DecidableEq, Repr, Inhabited

/-- The stretch from one location until another. -/
def Location.until (start stop : Location) : Span := .source start stop

/-- The least span that covers both; the builtin span covers nothing. -/
def Span.join : Span → Span → Span
  | .source s₁ e₁, .source s₂ e₂ => .source (s₁.earlier s₂) (e₁.later e₂)
  | .builtin, s => s
  | s, .builtin => s

/-- A span is written as its two ends with a tilde between. -/
def Span.text : Span → String
  | .source start stop => start.text ++ "~" ++ stop.text
  | .builtin => "<builtin>"

/-! ## Sizes and locations agree -/

@[simp]
theorem Location.advance_nil (l : Location) : l.advance [] = l := rfl

@[simp]
theorem Location.advance_cons (l : Location) (c : Char) (cs : List Char) :
    l.advance (c :: cs) = (l.step c).advance cs := rfl

/-- Walking over two pieces is walking over one and then the other. -/
theorem Location.advance_append (l : Location) (a b : List Char) :
    l.advance (a ++ b) = (l.advance a).advance b := by
  simp [Location.advance, List.foldl_append]

theorem Location.advance_concat (l : Location) (cs : List Char) (c : Char) :
    l.advance (cs ++ [c]) = (l.advance cs).step c := by
  simp [Location.advance_append]

/-- Adding the size of some characters is walking over them. -/
theorem Location.plus_sizeOf (l : Location) (text : List Char) :
    l.plus (Size.of text) = l.advance text := by
  suffices h : ∀ r : List Char, l.plus (Size.of r.reverse) = l.advance r.reverse by
    simpa using h text.reverse
  intro r
  induction r with
  | nil => rfl
  | cons c r ih =>
    rw [List.reverse_cons, Location.advance_concat, ← ih]
    have lines : r.count '\n' = 0 ∨ r.count '\n' ≠ 0 := Decidable.em _
    rcases lines with h | h <;> by_cases hc : c = '\n' <;>
      simp [Size.of, Location.plus, Location.step, hc, h] <;> omega

@[simp]
theorem Span.join_builtin (s : Span) : s.join .builtin = s := by
  cases s <;> rfl

@[simp]
theorem Span.builtin_join (s : Span) : Span.builtin.join s = s := by
  cases s <;> rfl

end NominalScript
