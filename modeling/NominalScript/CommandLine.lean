import NominalScript.Script

/-!
# The command line

`CommandLine.run` is all that the program does with a source text: it compiles
the text, reports what there is to report, and runs the entry function unless
told only to check.  Printed lines go to the standard output, diagnostics and
the closing error line to the standard error.
-/

namespace NominalScript.CommandLine

/-- What the arguments ask for. -/
structure Options where
  /-- The script, or none to read the standard input. -/
  file : Option String := none
  checkOnly : Bool := false
  entry : String := "main"
  maxCodeLines : Nat := Diagnostic.defaultLimit
deriving DecidableEq, Repr

/-- What is left when the program ends. -/
structure Report where
  status : Nat
  stdout : String
  stderr : String
deriving DecidableEq, Repr

/-- Every line of a list, ended. -/
def endLines (lines : List String) : String :=
  String.join (lines.map (· ++ "\n"))

/-- A number of errors in words. -/
def errorCount : Nat → String
  | 1 => "1 error"
  | n => toString n ++ " errors"

/-- The last line of a failed run. -/
def closing (what : String) : String := "Error: " ++ what

/-- What scripts from the standard input are called. -/
def stdinName : String := "<stdin>"

/-- What a script is called in messages. -/
def Options.scriptName (o : Options) : String := o.file.getD stdinName

/-- The lines of some diagnostics. -/
def Options.format (o : Options) (source : String) (ds : List Diagnostic) : List String :=
  ds.map (·.formatted source (max o.maxCodeLines 1))

/-- Compile a source text, and run its entry function unless only checking. -/
def run (o : Options) (source : String) (depth : Nat := depthLimit) : Report :=
  let compiled := compile source .standard
  let report := o.format source (reported compiled)
  match compiled with
  | .error e =>
    let what := "could not compile '" ++ o.scriptName ++ "' due to " ++
      errorCount e.diagnostics.length
    ⟨1, "", endLines (report ++ [closing what])⟩
  | .ok accepted =>
    if o.checkOnly then ⟨0, "", endLines report⟩
    else
      let outcome := accepted.program.runEntry o.entry depth
      match outcome.result with
      | .ok () => ⟨0, endLines outcome.printed, endLines report⟩
      | .error e =>
        let what := "failed to run '" ++ o.scriptName ++ "'"
        ⟨1, endLines outcome.printed,
          endLines (report ++ o.format source e.diagnostics ++ [closing what])⟩

/-- The report on a file that cannot be read. -/
def unreadable (file reason : String) : Report :=
  ⟨1, "", endLines [closing ("Failed to read '" ++ file ++ "'"), "", "Caused by:",
    "    " ++ reason]⟩

/-- What is said of a file that does not exist. -/
def noSuchFile : String := "No such file or directory (os error 2)"

/-- The report on a script, given its text or why there is none. -/
def respond (o : Options) : Except String String → Report
  | .ok source => run o source
  | .error reason => unreadable o.scriptName reason

end NominalScript.CommandLine
