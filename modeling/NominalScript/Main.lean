import NominalScript.CommandLine

/-!
# The program

Reads the arguments and the script, and leaves all else to `CommandLine.respond`.

The arguments are read in the plainest way: the value of an option is an argument of
its own (`--entry NAME`, not `--entry=NAME`), an option given twice counts as given last,
a file's name cannot start with `--`, and there is neither `--help` nor `--version`.
Whatever else stands there is answered with the line of usage and status 2.
-/

open NominalScript NominalScript.CommandLine

namespace NominalScript.CommandLine

/-- How the program is called. -/
def usage : String :=
  "Usage: [--check] [--entry NAME] [--max-code-lines N] [FILE]"

/-- Read the arguments, in any order. -/
def Options.read (o : Options) : List String → Except String Options
  | [] => .ok o
  | "--check" :: rest => { o with checkOnly := true }.read rest
  | "--entry" :: name :: rest => { o with entry := name }.read rest
  | "--max-code-lines" :: n :: rest =>
    match n.toNat? with
    | some n => { o with maxCodeLines := n }.read rest
    | none => .error usage
  | arg :: rest =>
    if o.file.isNone && !arg.startsWith "--" then { o with file := some arg }.read rest
    else .error usage

/-- The text of the script, or why it cannot be read. -/
def readScript (o : Options) : IO (Except String String) :=
  match o.file with
  | none => do return .ok (← (← IO.getStdin).readToEnd)
  | some file => do
    try return .ok (← IO.FS.readFile file)
    catch
      | .noFileOrDirectory .. => return .error noSuchFile
      | e => return .error (toString e)

end NominalScript.CommandLine

/-- Check and run the script that the arguments name. -/
def main (args : List String) : IO UInt32 := do
  match ({} : Options).read args with
  | .error message =>
    IO.eprintln message
    return 2
  | .ok o =>
    let report := respond o (← readScript o)
    IO.print report.stdout
    IO.eprint report.stderr
    return report.status.toUInt32
