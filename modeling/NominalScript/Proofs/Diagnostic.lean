import NominalScript.Proofs.Check.Report
import NominalScript.Proofs.Parse.Places
import NominalScript.Script

/-!
# Where diagnostics point

Whatever compiling reports about a place of the text, an error of any stage or a
warning, points into the text, and the frame of the diagnostic shows the line it points
at and marks the right characters of it (`compile_points_into_source`).

The stages count lines and columns each in their own way.  They agree since all that
they report is a location behind a part of the text (`Location.StandsIn`): the tokens
have such locations, a parser keeps to those of its tokens, and a check blames the
spans of the tree and joins of them.
-/

namespace NominalScript

open Syntax

/-! ## Frames -/

namespace Diagnostic

variable {start stop : Location} {source : String} {line : String}

/-- A stretch covers the line it starts on, and if it stops there, no other. -/
theorem coveredLines_eq_cons {lines : List String} (first : lines[start.line - 1]? = some line) :
    ∃ more, coveredLines start stop lines = line :: more ∧
      (stop.line = start.line → more = []) := by
  rw [← List.head?_drop] at first
  obtain ⟨rest, split⟩ := List.head?_eq_some_iff.1 first
  obtain ⟨n, width⟩ : ∃ n, max start.line stop.line + 1 - start.line = n + 1 :=
    ⟨max start.line stop.line - start.line, by omega⟩
  refine ⟨rest.take n, ?_, fun sameLine => ?_⟩
  · rw [coveredLines, split, width, List.take_succ_cons]
  · have none : n = 0 := by omega
    rw [none, List.take_zero]

/-- A frame starts with the first line it covers. -/
theorem frameRows_eq_cons (limit : Nat) (more : List String) :
    ∃ rest, frameRows start stop (max limit 1) (line :: more) = (indent ++ line) :: rest ∧
      (more = [] → rest = [markRow start stop]) := by
  cases more with
  | nil => exact ⟨[markRow start stop], rfl, fun _ => rfl⟩
  | cons second others =>
    obtain ⟨n, limited⟩ : ∃ n, max limit 1 = n + 1 := ⟨max limit 1 - 1, by omega⟩
    rw [limited]
    exact ⟨_, rfl, nofun⟩

/-- The marks are under the characters of the stretch, and one at least. -/
theorem markRow_eq (start stop : Location) :
    ∃ tildes, 1 + tildes = max 1 (stop.column - start.column) ∧
      markRow start stop = indent ++
        String.ofList
          (List.replicate (start.column - 1) ' ' ++ '^' :: List.replicate tildes '~') := by
  refine ⟨stop.column - (start.column + 1), by omega, ?_⟩
  rw [markRow, String.ofList_append, ← List.singleton_append, String.ofList_append]
  simp only [String.append_assoc]

/-- The frame of a diagnostic about a stretch that starts on a line of the text: the
line comes first, and if the stretch stops on it, only the row of marks follows. -/
theorem frame?_eq_some {d : Diagnostic} (place : d.place.bind Place.ends? = some (start, stop))
    (first : (Text.shownLines source)[start.line - 1]? = some line) (counted : 1 ≤ start.line)
    (counted' : 1 ≤ stop.line) (limit : Nat) :
    ∃ rest, d.frame? source limit = some ((indent ++ line) :: rest) ∧
      (stop.line = start.line → rest = [markRow start stop]) := by
  obtain ⟨more, covered, alone⟩ := coveredLines_eq_cons first
  obtain ⟨rest, rows, marked⟩ := frameRows_eq_cons limit more
  refine ⟨rest, ?_, fun sameLine => marked (alone sameLine)⟩
  have inText : ¬ (start.line = 0 ∨ stop.line = 0) := by omega
  simp only [frame?, place, Option.bind_eq_bind, Option.bind_some, if_neg inText, covered]
  exact congrArg some rows

/-! ## Places -/

/-- If the diagnostic is about a place of a text, then of this text. -/
def StandsIn (text : List Char) (d : Diagnostic) : Prop :=
  ∀ start stop, d.place.bind Place.ends? = some (start, stop) →
    start.StandsIn text ∧ stop.StandsIn text ∧ start.before stop = true

theorem errorAt_standsIn {text : List Char} {l : Location} (stands : l.StandsIn text)
    (message : String) : (errorAt message l).StandsIn text := by
  rintro _ _ ⟨⟩
  exact ⟨stands, stands, Location.before_refl l⟩

theorem over_standsIn {text : List Char} {s : Span} (stands : s.StandsIn text) (level : Level)
    (message : String) : StandsIn text ⟨level, message, some (.stretch s)⟩ := by
  cases s with
  | builtin => exact nofun
  | source start stop =>
    rintro _ _ ⟨⟩
    exact stands

end Diagnostic

/-! ## Compiling -/

/-- Compiling stops at the first stage that fails, with the errors of that stage. -/
theorem compile_cases (source : String) (host : Builtins) :
    (∃ e, Token.scan source = .error e ∧ compile source host = .error (.lex e)) ∨
    ∃ tokens, Token.scan source = .ok tokens ∧
      ((∃ e, Syntax.Program.parse tokens = .error e ∧ compile source host = .error (.parse e)) ∨
      ∃ p, Syntax.Program.parse tokens = .ok p ∧
        compile source host = (p.check host).mapError (.check (p.typeNames host.types))) := by
  unfold compile Syntax.Program.ofSource
  cases Token.scan source with
  | error e => exact .inl ⟨e, rfl, rfl⟩
  | ok tokens =>
    refine .inr ⟨tokens, rfl, ?_⟩
    cases parsed : Syntax.Program.parse tokens with
    | error e => exact .inl ⟨e, rfl, by simp [Except.mapError, bind, Except.bind, parsed]⟩
    | ok p => exact .inr ⟨p, rfl, by simp [Except.mapError, bind, Except.bind, parsed]⟩

/-- Whatever compiling reports about a place in a text is about one of the source. -/
theorem reported_standsIn (source : String) (host : Builtins) :
    ∀ d ∈ reported (compile source host), d.StandsIn source.toList := by
  obtain ⟨e, scanned, failed⟩ | ⟨tokens, scanned, later⟩ := compile_cases source host
  · rw [failed]
    refine List.forall_mem_singleton.2 ?_
    exact Diagnostic.errorAt_standsIn (Token.standsIn_of_scan_error scanned) _
  have placed := Syntax.Program.parse_placed scanned
  obtain ⟨e, parsed, failed⟩ | ⟨p, parsed, checks⟩ := later
  · rw [parsed] at placed
    rw [failed]
    refine List.forall_mem_singleton.2 ?_
    exact Diagnostic.errorAt_standsIn placed _
  have joins : Check.JoinsBlame (Span.StandsIn source.toList) := fun _ _ => Span.StandsIn.join
  rw [parsed] at placed
  rw [checks]
  cases checked : p.check host with
  | error es =>
    have blamed := (p.check_blames joins trivial placed host es checked).2
    refine List.forall_mem_map.2 fun e mem => ?_
    exact Diagnostic.over_standsIn (blamed e mem) _ _
  | ok a =>
    have blamed := Syntax.Program.warnings_blamed joins placed checked
    refine List.forall_mem_map.2 fun w mem => ?_
    exact Diagnostic.over_standsIn (blamed w mem) _ _

/-- Every place that compiling reports lies in the source: its ends are in reading order
and on lines of the text, no further right than just behind what is shown of the line.
So there is always a frame, it starts with the line that the place starts on, and the
marks under a place within one line are under its characters. -/
theorem compile_points_into_source {source : String} {host : Builtins} {d : Diagnostic}
    {start stop : Location} (mem : d ∈ reported (compile source host))
    (place : d.place.bind Place.ends? = some (start, stop)) :
    start.before stop = true ∧ start.Within source ∧ stop.Within source ∧
      ∀ limit, ∃ line rest, (Text.shownLines source)[start.line - 1]? = some line ∧
        d.annotation? source limit =
          some ("\n".intercalate ((Diagnostic.indent ++ line) :: rest)) ∧
        (start.line = stop.line → ∃ tildes, 1 + tildes = max 1 (stop.column - start.column) ∧
          rest = [Diagnostic.indent ++ String.ofList
            (List.replicate (start.column - 1) ' ' ++ '^' :: List.replicate tildes '~')]) := by
  obtain ⟨startIn, stopIn, ordered⟩ := reported_standsIn source host d mem start stop place
  have starts := startIn.within
  have stops := stopIn.within
  obtain ⟨line, first, _⟩ := starts.onLine
  refine ⟨ordered, starts, stops, fun limit => ?_⟩
  obtain ⟨rest, frame, marked⟩ :=
    Diagnostic.frame?_eq_some place first starts.counted stops.counted limit
  refine ⟨line, rest, first, ?_, fun sameLine => ?_⟩
  · rw [Diagnostic.annotation?, frame, Option.map_some]
  · obtain ⟨tildes, width, row⟩ := Diagnostic.markRow_eq start stop
    exact ⟨tildes, width, by rw [marked sameLine.symm, row]⟩

/-- A call of a function that there is not, in a text whose lines end with a carriage
return and a line feed. -/
def unknownCall : String := "fn f() \x7b\r\n  g(1)\r\n\x7d"

/-- The call is marked below the line as it is shown, without its carriage return. -/
theorem compile_points_into_source_call :
    ∃ d ∈ reported (compile unknownCall .standard),
      d.place.bind Place.ends? = some (⟨2, 3⟩, ⟨2, 7⟩) ∧
      Location.Within unknownCall ⟨2, 3⟩ ∧ Location.Within unknownCall ⟨2, 7⟩ ∧
      d.annotation? unknownCall 1 = some "      g(1)\n      ^~~~" := by
  have mem : Diagnostic.errorOver "No such function 'g' with parameters '(Int)'"
      (.source ⟨2, 3⟩ ⟨2, 7⟩) ∈ reported (compile unknownCall .standard) := by
    decide +kernel
  obtain ⟨_, starts, stops, frames⟩ := compile_points_into_source mem rfl
  obtain ⟨line, rest, first, frame, marked⟩ := frames 1
  obtain ⟨tildes, width, rfl⟩ := marked rfl
  have shown : line = "  g(1)" := by
    have second : (Text.shownLines unknownCall)[1]? = some "  g(1)" := by decide +kernel
    exact Option.some.inj (first.symm.trans second)
  have three : tildes = 3 := Nat.add_left_cancel (show 1 + tildes = 1 + 3 from width)
  subst shown three
  refine ⟨_, mem, rfl, starts, stops, frame.trans ?_⟩
  decide +kernel

end NominalScript
