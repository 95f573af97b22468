import NominalScript.CommandLine
import NominalScript.Proofs.Check.Overloads
import NominalScript.Proofs.Diagnostic
import NominalScript.Proofs.Evaluates

/-!
# What the command line leaves behind

The exit status says whether all went well, the standard output holds what the script
printed and nothing else, and the standard error holds every diagnostic once, in order,
with a closing line if something failed.

* `EntryRun` says what comes of an entry name in a checked program, without looking
  functions up and without a bound on how deep calls are nested.  Overloads are
  unambiguous, so there is at most one entry and one way to run it (`EntryRun.unique`).
* `CommandLine.Faithful` is what a report says about a source text, and
  `runEntry_of_ends` that a run which is given enough depth comes to what `EntryRun` says.
-/

namespace NominalScript

open Check (check_eq_ok fn_signature apart_append apart_nil_iff fnNamed?_eq_some)
open Checked (Signature)

/-! ## Entries -/

/-- A function of the script that can be run by its name alone. -/
structure Checked.Program.IsEntry (p : Checked.Program) (name : String) (f : Checked.Fn) :
    Prop where
  mem : f ∈ p.fns
  name : f.signature.name = name
  params : f.signature.params = []

/-- What comes of an entry name: the lines that are printed, and the error if there is
one. -/
inductive EntryRun (p : Checked.Program) (name : String) : List String → Option ScriptError → Prop
  | missing : (∀ f, ¬ p.IsEntry name f) → EntryRun p name [] (some (.missingEntry name))
  | notVoid {f : Checked.Fn} : p.IsEntry name f → f.signature.returnType ≠ p.types.void →
    EntryRun p name [] (some (.entryNotVoid name))
  | succeeded {f : Checked.Fn} {printed : List String} {v : Value} : p.IsEntry name f →
    f.signature.returnType = p.types.void → p.Evaluates f [] ⟨printed, .ok v⟩ →
    EntryRun p name printed none
  | failed {f : Checked.Fn} {printed : List String} {e : RuntimeError} : p.IsEntry name f →
    f.signature.returnType = p.types.void → p.Evaluates f [] ⟨printed, .error e⟩ →
    EntryRun p name printed (some (.runtime e))

section Entries

variable {p : Checked.Program} {name : String} {f f' : Checked.Fn}

theorem Checked.Program.IsEntry.key (entry : p.IsEntry name f) :
    f.signature.key = (name, []) := by
  rw [Signature.key, Signature.paramTypes, entry.name, entry.params]
  rfl

theorem isEntry_of_answers {i : Nat} (listed : p.fns[i]? = some f)
    (answers : f.signature.answers name [] = true) : p.IsEntry name f := by
  have key := Signature.answers_iff.1 answers
  rw [Signature.key, Prod.mk.injEq, Signature.paramTypes, List.map_eq_nil_iff] at key
  exact ⟨List.mem_of_getElem? listed, key.1, key.2⟩

variable (distinct : (p.fns.map fun f => f.signature.key).Nodup)

include distinct

theorem Checked.Program.IsEntry.unique (entry : p.IsEntry name f) (entry' : p.IsEntry name f') :
    f = f' :=
  List.inj_on_of_nodup_map distinct entry.mem entry'.mem (entry.key.trans entry'.key.symm)

/-- An entry name comes to one thing only. -/
theorem EntryRun.unique {printed printed' : List String} {error? error?' : Option ScriptError}
    (run : EntryRun p name printed error?) (run' : EntryRun p name printed' error?') :
    printed = printed' ∧ error? = error?' := by
  cases run with
  | missing none =>
    cases run' with
    | missing => exact ⟨rfl, rfl⟩
    | notVoid entry | succeeded entry | failed entry => exact absurd entry (none _)
  | notVoid entry other =>
    cases run' with
    | missing none => exact absurd entry (none _)
    | notVoid => exact ⟨rfl, rfl⟩
    | succeeded entry' void | failed entry' void =>
      cases entry.unique distinct entry'
      exact absurd void other
  | succeeded entry void ran =>
    cases run' with
    | missing none => exact absurd entry (none _)
    | notVoid entry' other =>
      cases entry.unique distinct entry'
      exact absurd void other
    | succeeded entry' _ ran' =>
      cases entry.unique distinct entry'
      cases ran.unique ran'
      exact ⟨rfl, rfl⟩
    | failed entry' _ ran' =>
      cases entry.unique distinct entry'
      cases ran.unique ran'
  | failed entry void ran =>
    cases run' with
    | missing none => exact absurd entry (none _)
    | notVoid entry' other =>
      cases entry.unique distinct entry'
      exact absurd void other
    | succeeded entry' _ ran' =>
      cases entry.unique distinct entry'
      cases ran.unique ran'
    | failed entry' _ ran' =>
      cases entry.unique distinct entry'
      cases ran.unique ran'
      exact ⟨rfl, rfl⟩

/-- Given enough depth, running an entry name comes to what it should. -/
theorem runEntry_of_ends {depth : Nat}
    (ends : ∀ f, p.IsEntry name f → f.signature.returnType = p.types.void →
      ∃ o : Outcome RuntimeError Value, p.evaluate depth f [] = o.mapError .error) :
    ∃ printed error?, EntryRun p name printed error? ∧
      p.runEntry name depth = ⟨printed, error?.elim (.ok ()) .error⟩ := by
  unfold Checked.Program.runEntry
  cases found : p.fnNamed? name [] with
  | none =>
    refine ⟨[], some (.missingEntry name), .missing fun f entry => ?_, rfl⟩
    rcases List.mem_iff_getElem?.1 entry.mem with ⟨i, listed⟩
    rw [(fnNamed?_eq_some distinct).2 ⟨listed, Signature.answers_iff.2 entry.key⟩] at found
    cases found
  | some found' =>
    rcases found' with ⟨f, i⟩
    rcases (fnNamed?_eq_some distinct).1 found with ⟨listed, answers⟩
    have entry := isEntry_of_answers listed answers
    dsimp only
    split
    · next void =>
      rcases ends f entry void with ⟨⟨printed, result⟩, ran⟩
      unfold Checked.Program.runForHost
      rw [ran]
      cases result with
      | ok v =>
        refine ⟨printed, none, .succeeded entry void ⟨depth, ran⟩, ?_⟩
        simp [Outcome.andThen]
      | error e => exact ⟨printed, some (.runtime e), .failed entry void ⟨depth, ran⟩, rfl⟩
    · next other => exact ⟨[], some (.entryNotVoid name), .notVoid entry other, rfl⟩

end Entries

/-- No two functions of an accepted program have the same name and parameter types. -/
theorem nodup_keys_of_check {p : Syntax.Program} {host : Builtins} {a : Accepted}
    (accepted : p.check host = .ok a) : (a.program.fns.map fun f => f.signature.key).Nodup := by
  rcases check_eq_ok.1 accepted with ⟨types, builtins, users, fns, tables, bodies, rfl⟩
  have distinct := apart_nil_iff.1 tables.apart
  rw [List.map_append] at distinct
  have users_eq : (p.fns.zip users).map Prod.snd = users :=
    List.map_snd_zip (Nat.le_of_eq tables.fns.length_eq.symm)
  have keys : users.map Signature.key = fns.map fun r => r.1.signature.key := by
    rw [← users_eq, List.map_map]
    apply Aligned.map_eq_map bodies
    intro f r checked
    rw [Function.comp_apply, fn_signature checked]
  rw [List.map_map]
  exact keys ▸ (List.nodup_append.1 distinct).2.1

/-- A source that compiles is that of a program which is accepted. -/
theorem exists_check_of_compile {source : String} {host : Builtins} {a : Accepted}
    (compiled : compile source host = .ok a) : ∃ p : Syntax.Program, p.check host = .ok a := by
  rcases compile_cases source host with
    ⟨e, _, failed⟩ | ⟨tokens, _, ⟨e, _, failed⟩ | ⟨p, _, checks⟩⟩
  · cases failed.symm.trans compiled
  · cases failed.symm.trans compiled
  · rw [compiled] at checks
    refine ⟨p, ?_⟩
    cases checked : p.check host with
    | error es =>
      rw [checked] at checks
      cases checks
    | ok b =>
      rw [checked] at checks
      cases checks
      rfl

theorem ScriptError.level_diagnostics (e : ScriptError) :
    ∀ d ∈ e.diagnostics, d.level = .error := by
  intro d mem
  cases e with
  | check names errors =>
    rcases List.mem_map.1 mem with ⟨error, _, rfl⟩
    rfl
  | _ =>
    rw [List.mem_singleton.1 mem]
    rfl

/-! ## Reports -/

namespace CommandLine

/-- With calls nested at most `depth` deep, running the entry comes to an end. -/
def EndsWithin (o : Options) (source : String) (depth : Nat) : Prop :=
  ∀ a f, compile source .standard = .ok a → o.checkOnly = false → a.program.IsEntry o.entry f →
    f.signature.returnType = a.program.types.void →
    ∃ out : Outcome RuntimeError Value, a.program.evaluate depth f [] = out.mapError .error

/-- What a report says about a source text. -/
structure Faithful (o : Options) (source : String) (r : Report) : Prop where
  /-- The status is zero just when all went well. -/
  status : r.status = 0 ↔ ∃ a, compile source .standard = .ok a ∧ (o.checkOnly = true ∨
    ∃ f printed v, a.program.IsEntry o.entry f ∧
      f.signature.returnType = a.program.types.void ∧ a.program.Evaluates f [] ⟨printed, .ok v⟩)
  status_le : r.status ≤ 1
  /-- A source that does not compile: its errors and nothing else, and how many there are. -/
  rejected : ∀ e, compile source .standard = .error e → r.stdout = "" ∧
    (∀ d ∈ e.diagnostics, d.level = .error) ∧
    r.stderr = endLines (o.format source e.diagnostics ++
      [closing ("could not compile '" ++ o.scriptName ++ "' due to " ++
        errorCount e.diagnostics.length)])
  /-- A source that is only checked: its warnings. -/
  checked : ∀ a, compile source .standard = .ok a → o.checkOnly = true → r.stdout = "" ∧
    r.stderr = endLines (o.format source (a.warnings.map Warning.diagnostic))
  /-- A source that is run: what its entry prints; its warnings, and the error if the entry
  fails. -/
  ran : ∀ a, compile source .standard = .ok a → o.checkOnly = false →
    ∃ printed error?, EntryRun a.program o.entry printed error? ∧ r.stdout = endLines printed ∧
      r.stderr = endLines (o.format source (a.warnings.map Warning.diagnostic ++
          error?.toList.map fun e => .errorNowhere e.message) ++
        error?.toList.map fun _ => closing ("failed to run '" ++ o.scriptName ++ "'"))

theorem EndsWithin.mono {o : Options} {source : String} {depth depth' : Nat}
    (ends : EndsWithin o source depth) (deeper : depth ≤ depth') : EndsWithin o source depth' := by
  intro a f compiled running entry void
  rcases ends a f compiled running entry void with ⟨out, ran⟩
  have within := Checked.Program.evaluate_within deeper f [] (p := a.program)
  rw [ran] at within
  exact ⟨out, (Outcome.within_mapError_error within).symm⟩

section Runs

variable {o : Options} {source : String} {depth : Nat} {a : Accepted}

/-- A source that does not compile leaves status 1, its errors and their number. -/
theorem faithful_of_error {e : ScriptError} (compiled : compile source .standard = .error e) :
    Faithful o source (run o source depth) := by
  have made : run o source depth = ⟨1, "", endLines (o.format source e.diagnostics ++
      [closing ("could not compile '" ++ o.scriptName ++ "' due to " ++
        errorCount e.diagnostics.length)])⟩ := by
    simp only [run, compiled, reported]
  rw [made]
  have never : ∀ a, compile source .standard ≠ .ok a := by
    intro a ok
    cases compiled.symm.trans ok
  refine ⟨?_, Nat.le_refl 1, ?_, fun a ok => absurd ok (never a), fun a ok => absurd ok (never a)⟩
  · constructor
    · exact nofun
    · rintro ⟨a, ok, _⟩
      exact absurd ok (never a)
  · intro e' failed
    cases compiled.symm.trans failed
    exact ⟨rfl, e.level_diagnostics, rfl⟩

/-- A source that is only checked leaves status zero and its warnings, whatever its functions
would do. -/
theorem faithful_of_checkOnly (compiled : compile source .standard = .ok a)
    (checkOnly : o.checkOnly = true) : Faithful o source (run o source depth) := by
  have made : run o source depth =
      ⟨0, "", endLines (o.format source (a.warnings.map Warning.diagnostic))⟩ := by
    simp only [run, compiled, checkOnly, reported, if_true]
  rw [made]
  refine ⟨?_, Nat.zero_le 1, ?_, ?_, ?_⟩
  · exact ⟨fun _ => ⟨a, compiled, .inl checkOnly⟩, fun _ => rfl⟩
  · intro e failed
    cases compiled.symm.trans failed
  · intro a' ok _
    cases compiled.symm.trans ok
    exact ⟨rfl, rfl⟩
  · intro a' _ running
    cases checkOnly.symm.trans running

/-- A run of an entry is reported by its lines, its error if there is one, and a status that
is zero if there is none. -/
theorem run_of_entryRun {printed : List String} {error? : Option ScriptError}
    (compiled : compile source .standard = .ok a) (running : o.checkOnly = false)
    (entry : EntryRun a.program o.entry printed error?)
    (ran : a.program.runEntry o.entry depth = ⟨printed, error?.elim (.ok ()) .error⟩) :
    run o source depth = ⟨if error? = none then 0 else 1, endLines printed,
      endLines (o.format source (a.warnings.map Warning.diagnostic ++
          error?.toList.map fun e => .errorNowhere e.message) ++
        error?.toList.map fun _ => closing ("failed to run '" ++ o.scriptName ++ "'"))⟩ := by
  simp only [run, compiled, running, reported, ran]
  cases error? with
  | none => simp [Options.format]
  | some e =>
    have alone : e.diagnostics = [.errorNowhere e.message] := by
      cases entry <;> rfl
    simp [Options.format, alone]

/-- A run of the entry leaves what the run says: its printed lines, and the closing error line
if it fails. -/
theorem faithful_of_entryRun {printed : List String} {error? : Option ScriptError}
    (compiled : compile source .standard = .ok a) (running : o.checkOnly = false)
    (entry : EntryRun a.program o.entry printed error?)
    (ran : a.program.runEntry o.entry depth = ⟨printed, error?.elim (.ok ()) .error⟩) :
    Faithful o source (run o source depth) := by
  rcases exists_check_of_compile compiled with ⟨p, accepted⟩
  have distinct := nodup_keys_of_check accepted
  rw [run_of_entryRun compiled running entry ran]
  refine ⟨?_, ?_, ?_, ?_, ?_⟩
  · constructor
    · intro zero
      cases entry with
      | succeeded isEntry void ended =>
        exact ⟨a, compiled, .inr ⟨_, _, _, isEntry, void, ended⟩⟩
      | missing | notVoid | failed => cases zero
    · rintro ⟨a', ok, checkOnly | ⟨f, printed', v, isEntry, void, ended⟩⟩
      · cases checkOnly.symm.trans running
      · cases compiled.symm.trans ok
        rcases entry.unique distinct (.succeeded isEntry void ended) with ⟨_, none⟩
        exact if_pos none
  · dsimp only
    split <;> omega
  · intro e failed
    cases compiled.symm.trans failed
  · intro a' _ checkOnly
    cases checkOnly.symm.trans running
  · intro a' ok _
    cases compiled.symm.trans ok
    exact ⟨printed, error?, entry, rfl, rfl⟩

end Runs

end CommandLine

open CommandLine

/-- A run of the command line that is given enough depth leaves a faithful report. -/
theorem CommandLine.run_faithful {o : Options} {source : String} {enough depth : Nat}
    (ends : EndsWithin o source enough) (deeper : enough ≤ depth) :
    Faithful o source (run o source depth) := by
  have ends := ends.mono deeper
  cases compiled : compile source .standard with
  | error e => exact faithful_of_error compiled
  | ok a =>
    cases mode : o.checkOnly with
    | true => exact faithful_of_checkOnly compiled mode
    | false =>
      rcases exists_check_of_compile compiled with ⟨p, accepted⟩
      rcases runEntry_of_ends (nodup_keys_of_check accepted) (ends a · compiled mode) with
        ⟨printed, error?, entry, ran⟩
      exact faithful_of_entryRun compiled mode entry ran

/-- A script that prints a line and then divides by zero, with a statement after that which
never runs. -/
def stopping : String :=
  "fn main() \x7b\n  print(7)\n  print(1 / 0)\n  return\n  print(8)\n\x7d\n"

/-- The entry calls no function of the script, so that it ends at depth zero. -/
theorem endsWithin_stopping : EndsWithin {} stopping 0 := by
  have ended : ((compile stopping .standard).toOption.elim false fun a =>
      a.program.fns.all fun f => (a.program.evaluate 0 f []).result matches
        .ok _ | .error (.error _)) = true := by
    decide +kernel
  intro a f compiled _ entry _
  rw [compiled] at ended
  have halted := List.all_eq_true.1 ended f entry.mem
  rcases ran : a.program.evaluate 0 f [] with ⟨printed, result⟩
  rw [ran] at halted
  cases result with
  | ok v => exact ⟨⟨printed, .ok v⟩, rfl⟩
  | error h =>
    cases h with
    | error e => exact ⟨⟨printed, .error e⟩, rfl⟩
    | tooDeep => cases halted

theorem CommandLine.run_faithful_stopping :
    Faithful {} stopping (run {} stopping 1) ∧
      run {} stopping 1 = ⟨1, "7\n", "warning:5:3~5:11: Unreachable statements\n" ++
        "      print(8)\n      ^~~~~~~~\nerror: division by zero\n" ++
        "Error: failed to run '<stdin>'\n"⟩ :=
  ⟨run_faithful endsWithin_stopping (Nat.zero_le 1), by decide +kernel⟩

end NominalScript
