import NominalScript.Proofs.Parse.Reformat
import NominalScript.Proofs.Print.Neat
import NominalScript.Script

/-!
# Printing and reading again

A program that is read from a text is printed as a text that is read as the same
program, up to spans.  Its kinds are canonical and so are cut as they were printed, and
where the tokens stand does not matter to what they are read as.
-/

namespace NominalScript.Syntax

open NominalScript.Syntax.Parser

/-- What is known of a program that is read from the tokens of a text. -/
theorem Program.printable_of_parse {tokens : List Token} {p : Program}
    (canonical : Canonical (tokens.map Token.kind)) (parsed : Program.parse tokens = .ok p) :
    Neat p.printed ∧ ∀ d ∈ p.fns, (∀ s ∈ d.body, s.Shaped) ∧ Stmt.AllParted d.body := by
  obtain ⟨_, read⟩ := Program.parse_eq_ok.1 parsed
  have scanned : Cursor.Scanned ⟨tokens, .origin⟩ := canonical
  obtain ⟨structs, fns⟩ := declarations_neat scanned.pastTrivia read
  obtain ⟨_, shaped⟩ := declarations_spell (Nat.le_refl _) read
  exact ⟨Program.neat_printed structs fun d mem => (fns d mem).1,
    fun d mem => ⟨shaped d mem, (fns d mem).2⟩⟩

theorem Program.ofSource_eq_ok {source : String} {p : Program} :
    Program.ofSource source = .ok p ↔
      ∃ tokens, Token.scan source = .ok tokens ∧ Program.parse tokens = .ok p := by
  unfold Program.ofSource
  cases Token.scan source with
  | error e => simp [Except.mapError, bind, Except.bind]
  | ok tokens =>
    cases parsed : Program.parse tokens <;> simp [Except.mapError, bind, Except.bind, parsed]

/-- A program that is read from a text is printed as a text that is read as the same
program, up to spans. -/
theorem Program.ofSource_print {source : String} {p : Program}
    (read : Program.ofSource source = .ok p) :
    ∃ q, Program.ofSource p.print = .ok q ∧ q.erase = p.erase := by
  obtain ⟨tokens, scanned, parsed⟩ := Program.ofSource_eq_ok.1 read
  have canonical := canonical_of_kindsOf (kindsOf_eq_ok.2 ⟨tokens, scanned, rfl⟩)
  obtain ⟨neat, each⟩ := Program.printable_of_parse canonical parsed
  obtain ⟨again, scannedAgain, kinds⟩ := kindsOf_eq_ok.1 (kindsOf_render neat.canonical)
  have parsedKinds := Program.parse_printed each
  have sameKinds : (p.printed.map Kind.token).map Token.kind = again.map Token.kind := by
    rw [kinds, List.map_map]
    exact List.map_id p.printed
  have layout : SameLayout ((p.printed.map Kind.token).map Token.kind) (again.map Token.kind) :=
    sameKinds ▸ ⟨rfl, rfl⟩
  have same := parse_of_sameLayout layout
  rw [parsedKinds] at same
  cases parsedAgain : Program.parse again with
  | error e =>
    rw [parsedAgain] at same
    cases same
  | ok q =>
    rw [parsedAgain] at same
    have erased : p.erase.erase = q.erase := Option.some.inj same
    refine ⟨q, Program.ofSource_eq_ok.2 ⟨again, scannedAgain, parsedAgain⟩, ?_⟩
    rw [← erased, p.erase_erase]

/-- A text with blanks where none are printed and hardly any where some are.  One line is
carried on by an operator on the next; another, a `return`, is not. -/
def cramped : String :=
  "struct P\x7bx:Int,\x7dfn f(p:P)\x7bif p.x<(P\x7bx:1\x7d).x\n* -07\x7breturn\n-p.x//\n\x7d" ++
    "\"\\r\n\"\x7d"

/-- The program of that text as it is printed. -/
def laidOut : String :=
  "struct P \x7bx: Int\x7d\nfn f(p: P) \x7b\nif p.x < (P \x7bx: 1\x7d).x * -7 \x7b\n" ++
    "return\n-p.x\n\x7d\n\"\\r\\n\"\n\x7d\n"

/-- A cramped text is printed with the usual blanks and lines, and these are read as the same
program. -/
theorem ofSource_print_cramped :
    ∃ p q, Program.ofSource cramped = .ok p ∧ p.print = laidOut ∧
      Program.ofSource laidOut = .ok q ∧ q.erase = p.erase := by
  have printed : (Program.ofSource cramped).map Program.print = .ok laidOut := by decide +kernel
  cases read : Program.ofSource cramped with
  | error e =>
    rw [read] at printed
    cases printed
  | ok p =>
    rw [read] at printed
    have text : p.print = laidOut := Except.ok.inj printed
    obtain ⟨q, readAgain, same⟩ := Program.ofSource_print read
    exact ⟨p, q, rfl, text, text ▸ readAgain, same⟩

end NominalScript.Syntax
