import NominalScript.Proofs.Location

/-!
# Where tokens and lexical errors stand

No token is written with a carriage return at its end, so the place between two tokens
of a text is never between the carriage return that ends a line and the end of that
line.  Both ends of a token, and the place where cutting a text into tokens fails,
are locations of the text.
-/

namespace NominalScript

/-- No token ends with a carriage return: one that stands in a line end has the line feed behind
it, and a comment holds none. -/
theorem Kind.Writes.getLast?_ne {k : Kind} {text : List Char} (writes : k.Writes text) :
    text.getLast? ≠ some '\r' := by
  intro ending
  have mem := List.mem_of_getLast? ending
  cases writes with
  | mark listed =>
    cases List.mem_singleton.1 mem
    simp [marks] at listed
  | crlf => simp at ending
  | ident word =>
    cases text with
    | nil => cases mem
    | cons c cs =>
      simp only [Text.isWord, Bool.and_eq_true, List.all_eq_true] at word
      cases mem with
      | head => exact absurd word.1 (by decide)
      | tail _ mem => exact absurd (word.2 _ mem) (by decide)
  | @keyword k => cases k <;> exact absurd mem (by decide)
  | int _ digits => exact absurd (digits _ mem) (by decide)
  | str =>
    rw [← List.cons_append, List.getLast?_concat] at ending
    exact absurd ending (by decide)
  | comment inside =>
    simp only [List.mem_cons, Char.reduceEq, false_or] at mem
    exact absurd (inside _ mem) (by decide)
  | op run =>
    simp only [Text.isOperatorRun, Bool.and_eq_true, List.all_eq_true] at run
    exact absurd (run.1.2 _ mem) (by decide)

theorem getLast?_append_ne {a b : List Char} {c : Char} (first : a.getLast? ≠ some c)
    (second : b.getLast? ≠ some c) : (a ++ b).getLast? ≠ some c := by
  rw [List.getLast?_append]
  cases last : b.getLast? with
  | none => exact first
  | some d => rwa [last] at second

/-- The text that some tokens tile does not end with a carriage return, if what is in
front of it does not. -/
theorem Token.Tiled.getLast?_ne {before tail : List Char} {tokens : List Token}
    {lexemes : List (List Char)} (tiled : Token.Tiled before tokens lexemes tail)
    (noReturn : before.getLast? ≠ some '\r') :
    (before ++ lexemes.flatten).getLast? ≠ some '\r' := by
  induction tiled with
  | nil => rwa [List.flatten_nil, List.append_nil]
  | cons writes _ _ _ _ ih =>
    rw [List.flatten_cons, ← List.append_assoc]
    exact ih (getLast?_append_ne noReturn writes.getLast?_ne)

/-- Cutting a text into tokens fails at a location of the text: at a character that
starts a lexeme, or at a backslash. -/
theorem Token.standsIn_of_scan_error {source : String} {e : LexError}
    (failed : Token.scan source = .error e) : e.location.StandsIn source.toList := by
  obtain ⟨tokens, lexemes, rest, skipped, flat, tiled, found, _, location⟩ :=
    Token.tiled_of_scanFrom_error [] failed
  have noReturn : lexemes.flatten.getLast? ≠ some '\r' := tiled.getLast?_ne (by simp)
  have start : (Location.after (lexemes.flatten ++ [])).StandsIn source.toList := by
    rw [List.append_nil]
    exact Location.standsIn_after flat noReturn
  rw [location, List.nil_append]
  rcases e with ⟨fault, l⟩
  cases found with
  | unexpected => exact start
  | unterminated => exact start
  | integerOutOfRange => exact start
  | @invalidEscape text value rest e =>
    refine ⟨lexemes.flatten ++ '"' :: text, '\\' :: e :: rest, ?_, rfl, fun _ => ?_⟩
    · simpa using flat
    · simp [Text.firstLine]

end NominalScript
