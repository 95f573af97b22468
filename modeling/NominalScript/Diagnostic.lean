import NominalScript.Location
import NominalScript.Text.Lines

/-!
# Diagnostics

A `Diagnostic` is one error or warning, with the place it is about.  It is
written as one summary line, followed by a *frame*: the source lines it points
at.

* A stretch within one line is underlined: a caret under its first character
  and a tilde under each further one.
* A stretch over several lines shows the first of them, up to a limit, and a row
  of three dots where the limit cut some off.
* There is no frame for a place that the text does not have.
-/

namespace NominalScript

/-- How bad it is. -/
inductive Level where
  | warning
  | error
deriving DecidableEq, Repr

/-- The word a summary line starts with. -/
def Level.text : Level → String
  | .warning => "warning"
  | .error => "error"

/-- What a diagnostic points at: one location, or a span. -/
inductive Place where
  | point (location : Location)
  | stretch (span : Span)
deriving DecidableEq, Repr

/-- The first location of a place and the one after its last, if it stands in a
text at all. -/
def Place.ends? : Place → Option (Location × Location)
  | .point l => some (l, l)
  | .stretch (.source start stop) => some (start, stop)
  | .stretch .builtin => none

/-- One error or warning. -/
structure Diagnostic where
  level : Level
  message : String
  place : Option Place
deriving DecidableEq, Repr

namespace Diagnostic

/-- An error about one location. -/
def errorAt (message : String) (l : Location) : Diagnostic :=
  ⟨.error, message, some (.point l)⟩

/-- An error about a span. -/
def errorOver (message : String) (s : Span) : Diagnostic :=
  ⟨.error, message, some (.stretch s)⟩

/-- An error about no place. -/
def errorNowhere (message : String) : Diagnostic := ⟨.error, message, none⟩

/-- A warning about a span. -/
def warningOver (message : String) (s : Span) : Diagnostic :=
  ⟨.warning, message, some (.stretch s)⟩

/-- Is it an error? -/
def isError (d : Diagnostic) : Bool := d.level == .error

/-- The place as the summary line names it, with the colon in front. -/
def placeText : Option Place → String
  | some (.point l) => ":" ++ l.text
  | some (.stretch (.source start stop)) => ":" ++ (Span.source start stop).text
  | some (.stretch .builtin) => ""
  | none => ""

/-- The one-line summary: level, place if it is in a text, and message. -/
def summary (d : Diagnostic) : String :=
  d.level.text ++ placeText d.place ++ ": " ++ d.message

/-! ## Frames -/

/-- What every row of a frame starts with. -/
def indent : String := "    "

/-- The row of marks under a stretch within one line. -/
def markRow (start stop : Location) : String :=
  indent ++ String.ofList (List.replicate (start.column - 1) ' ') ++ "^" ++
    String.ofList (List.replicate (stop.column - (start.column + 1)) '~')

/-- The rows of a frame that covers the given lines. -/
def frameRows (start stop : Location) (limit : Nat) : List String → List String
  | [] => []
  | [line] => [indent ++ line, markRow start stop]
  | covered =>
    (covered.take limit).map (indent ++ ·) ++
      if covered.length > limit then [indent ++ "..."] else []

/-- The lines of a text that a stretch covers, its last line being at least its
first. -/
def coveredLines (start stop : Location) (lines : List String) : List String :=
  (lines.drop (start.line - 1)).take (max start.line stop.line + 1 - start.line)

/-- The rows of the frame: none when the place is in no text, when one of its
lines is numbered zero, or when the text ends before it.  A limit of zero lines
counts as one. -/
def frame? (d : Diagnostic) (source : String) (limit : Nat) : Option (List String) := do
  let (start, stop) ← d.place.bind Place.ends?
  if start.line = 0 ∨ stop.line = 0 then none
  else
    match coveredLines start stop (Text.shownLines source) with
    | [] => none
    | covered => some (frameRows start stop (max limit 1) covered)

/-- The frame as one text. -/
def annotation? (d : Diagnostic) (source : String) (limit : Nat) : Option String :=
  (d.frame? source limit).map ("\n".intercalate ·)

/-- The summary line, and the frame under it if there is one. -/
def formatted (d : Diagnostic) (source : String) (limit : Nat) : String :=
  match d.annotation? source limit with
  | some frame => d.summary ++ "\n" ++ frame
  | none => d.summary

/-- How many source lines a frame shows unless told otherwise. -/
def defaultLimit : Nat := 5

end Diagnostic

end NominalScript
