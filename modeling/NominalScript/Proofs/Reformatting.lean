import NominalScript.Proofs.Check.Spans
import NominalScript.Proofs.Parse.Reformat

/-!
# Reformatting

Trivia matter to the parser by the class of each gap between two tokens, and to nothing
else; where a tree is written matters to no decision of the checker.  So a text whose
layout is kept may be reformatted freely.
-/

namespace NominalScript

open Syntax

/-- Two programs are accepted as the same checked program with as many warnings, or both
are refused with the same messages. -/
def SameVerdict (p q : Program) (host : Builtins) : Prop :=
  match p.check host, q.check host with
  | .ok a, .ok b => a.program = b.program ∧ a.warnings.length = b.warnings.length
  | .error es, .error fs =>
    (es.map fun e => e.fault.message (p.typeNames host.types)) =
      fs.map fun e => e.fault.message (q.typeNames host.types)
  | _, _ => False

theorem typeNames_of_erase {p q : Program} (same : p.erase = q.erase) (builtins : List String) :
    p.typeNames builtins = q.typeNames builtins := by
  rw [← p.typeNames_erase, same, q.typeNames_erase]

/-- Both trees check like the erased one, and a message says nothing of places. -/
theorem sameVerdict_of_erase {p q : Program} (same : p.erase = q.erase) (host : Builtins) :
    SameVerdict p q host := by
  have outcomes : Check.bare ((p.check host).map Accepted.outcome) =
      Check.bare ((q.check host).map Accepted.outcome) := by
    rw [← p.check_erase, same, q.check_erase]
  unfold SameVerdict
  rw [typeNames_of_erase same]
  revert outcomes
  generalize p.check host = x
  generalize q.check host = y
  intro outcomes
  match x, y with
  | .ok a, .ok b => exact Prod.mk.inj (Except.ok.inj outcomes)
  | .ok a, .error fs => cases outcomes
  | .error es, .ok b => cases outcomes
  | .error es, .error fs =>
    have faults : es.map CheckError.fault = fs.map CheckError.fault := Except.error.inj outcomes
    have messages := congrArg (List.map (CheckFault.message (q.typeNames host.types))) faults
    rwa [List.map_map, List.map_map] at messages

/-- Token lists of the same layout are read alike, and trees that are equal up to spans
are checked alike. -/
theorem reformatting_keeps_program :
    (∀ ts us : List Token, SameLayout (ts.map Token.kind) (us.map Token.kind) →
      (Program.parse ts).toOption.map Program.erase =
        (Program.parse us).toOption.map Program.erase) ∧
    ∀ (p q : Program) (host : Builtins), p.erase = q.erase → SameVerdict p q host :=
  ⟨fun _ _ same => parse_of_sameLayout same, fun _ _ host same => sameVerdict_of_erase same host⟩

/-- The tokens of

    fn f()->Int{return 1
    return-2}

all said to stand at the origin. -/
def closeSet : List Token :=
  List.map (fun kind => ⟨kind, .origin, ⟨1, 1⟩⟩) [.keyword .kwFn, .blank .space, .ident "f",
    .leftParen, .rightParen, .op "->", .ident "Int", .leftBrace, .keyword .kwReturn, .blank .space,
    .int 1, .blank .newline, .keyword .kwReturn, .op "-", .int 2, .rightBrace]

/-- The same, with tabs for spaces, with comments at the end of lines, and with lines
before, between and behind. -/
def wideSet : List Token :=
  List.map (fun kind => ⟨kind, ⟨7, 7⟩, ⟨2, 0⟩⟩) [.comment "f", .blank .newline, .keyword .kwFn,
    .blank .tab, .ident "f", .leftParen, .rightParen, .op "->", .ident "Int", .leftBrace,
    .keyword .kwReturn, .blank .tab, .blank .space, .int 1, .blank .space, .comment "1",
    .blank .newline, .blank .newline, .keyword .kwReturn, .op "-", .int 2, .rightBrace,
    .blank .newline, .comment ""]

/-- The two lists of tokens have the same layout, and both are accepted as a program. -/
theorem reformatting_keeps_program_wide :
    ∃ p q, Program.parse closeSet = .ok p ∧ Program.parse wideSet = .ok q ∧ p.erase = q.erase ∧
      SameVerdict p q .standard := by
  have layout : SameLayout (closeSet.map Token.kind) (wideSet.map Token.kind) :=
    ⟨by decide, by decide⟩
  have same := reformatting_keeps_program.1 closeSet wideSet layout
  cases left : Program.parse closeSet with
  | error e =>
    have parsed : (Program.parse closeSet).isOk = true := rfl
    simp [left, Except.isOk, Except.toBool] at parsed
  | ok p =>
    cases right : Program.parse wideSet with
    | error e =>
      have parsed : (Program.parse wideSet).isOk = true := rfl
      simp [right, Except.isOk, Except.toBool] at parsed
    | ok q =>
      rw [left, right] at same
      have erased : p.erase = q.erase := Option.some.inj same
      exact ⟨p, q, rfl, rfl, erased, reformatting_keeps_program.2 p q .standard erased⟩

end NominalScript
