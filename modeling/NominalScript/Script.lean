import NominalScript.Check
import NominalScript.Evaluate
import NominalScript.Syntax.Parse
import NominalScript.Token.Scan

/-!
# Scripts in a host

A host compiles a source text against its builtins, and then runs an entry
function or calls a function by name.  It passes and receives values of its own
types only, so structs cannot go in or out.  `ScriptError` is all that can go
wrong on the way, from the first character to the last call.
-/

namespace NominalScript

/-- Why an argument cannot be passed from a host. -/
inductive ArgumentFault where
  | isStruct
  | noBuiltinType (name : String)
deriving DecidableEq, Repr

/-- The wording of why an argument cannot be passed. -/
def ArgumentFault.text : ArgumentFault → String
  | .isStruct => "struct values cannot be passed from the host"
  | .noBuiltinType name => "no builtin type named '" ++ name ++ "'"

/-- What can go wrong with a script. -/
inductive ScriptError where
  | lex (e : LexError)
  | parse (e : Syntax.ParseError)
  | check (names : TypeNames) (errors : List CheckError)
  | missingEntry (name : String)
  | entryNotVoid (name : String)
  | noSuchFunction (name : String) (params : List String)
  | noSuchReturnType (name : String) (returnType : String)
  | unsupportedArgument (fn : String) (index : Nat) (fault : ArgumentFault)
  | runtime (e : RuntimeError)
  | tooDeep
deriving DecidableEq, Repr

namespace ScriptError

/-- The message of an error. -/
def message : ScriptError → String
  | .lex e => e.diagnostic.summary
  | .parse e => e.diagnostic.summary
  | .check _ errors => "type checking failed with " ++ toString errors.length ++ " error(s)"
  | .missingEntry name => "missing '" ++ name ++ "' function"
  | .entryNotVoid name => "'" ++ name ++ "' function must return 'Void'"
  | .noSuchFunction name params =>
    "no such function '" ++ name ++ "' with parameter types '(" ++ ", ".intercalate params ++ ")'"
  | .noSuchReturnType name returnType =>
    "no such function '" ++ name ++ "' with return type '" ++ returnType ++ "'"
  | .unsupportedArgument fn index fault =>
    "argument " ++ toString index ++ " of '" ++ fn ++ "' cannot be passed from the host: " ++
      fault.text
  | .runtime e => e.message
  | .tooDeep => "calls are nested too deep"

/-- The diagnostics of an error, in order: those of the stage that failed, or
one without a place. -/
def diagnostics : ScriptError → List Diagnostic
  | .lex e => [e.diagnostic]
  | .parse e => [e.diagnostic]
  | .check names errors => errors.map (·.diagnostic names)
  | e => [.errorNowhere e.message]

/-- Does the error keep the script from being run at all? -/
def isCompileError : ScriptError → Bool
  | .lex _ | .parse _ | .check _ _ => true
  | _ => false

/-- How a run that halts is reported. -/
def ofHalt : Halt → ScriptError
  | .error e => .runtime e
  | .tooDeep => .tooDeep

end ScriptError

/-! ## Compiling -/

/-- The tree of a source text. -/
def Syntax.Program.ofSource (source : String) : Except ScriptError Syntax.Program := do
  let tokens ← (Token.scan source).mapError .lex
  (Syntax.Program.parse tokens).mapError .parse

/-- A source text, read and checked. -/
def compile (source : String) (host : Builtins) : Except ScriptError Accepted := do
  let program ← Syntax.Program.ofSource source
  (program.check host).mapError (.check (program.typeNames host.types))

/-- The diagnostics that compiling reports: the errors of the stage that failed,
or the warnings. -/
def reported : Except ScriptError Accepted → List Diagnostic
  | .ok a => a.warnings.map Warning.diagnostic
  | .error e => e.diagnostics

/-! ## Calling -/

/-- How deep calls may be nested unless told otherwise. -/
def depthLimit : Nat := 10000

namespace Checked.Program

/-- Run a function for a host. -/
def runForHost (p : Program) (f : Fn) (args : List Value) (depth : Nat := depthLimit) :
    Outcome ScriptError Value :=
  (p.evaluate depth f args).mapError .ofHalt

/-- Run the entry function: it has no parameters and returns `Void`. -/
def runEntry (p : Program) (name : String) (depth : Nat := depthLimit) :
    Outcome ScriptError Unit :=
  match p.fnNamed? name [] with
  | none => .fail (.missingEntry name)
  | some (f, _) =>
    if f.signature.returnType = p.types.void then do
      let _ ← p.runForHost f [] depth
      return ()
    else .fail (.entryNotVoid name)

/-- The name and the number of the builtin type of an argument. -/
def argumentType (p : Program) (fn : String) (index : Nat) (arg : Value) :
    Except ScriptError (String × TypeId) :=
  match arg.hostTypeName? with
  | none => .error (.unsupportedArgument fn index .isStruct)
  | some name =>
    match p.types.builtinNamed? name with
    | some t => .ok (name, t)
    | none => .error (.unsupportedArgument fn index (.noBuiltinType name))

/-- The types of arguments; the first that cannot be passed is reported. -/
def argumentTypesFrom (p : Program) (fn : String) :
    Nat → List Value → Except ScriptError (List (String × TypeId))
  | _, [] => .ok []
  | i, arg :: args => do
    let t ← p.argumentType fn i arg
    let ts ← argumentTypesFrom p fn (i + 1) args
    return t :: ts

/-- Call the function of a name whose parameter types are those of the arguments
and whose return type is that of the host type `ρ`. -/
def call (p : Program) (ρ : Type) [HostType ρ] (name : String) (args : List Value)
    (depth : Nat := depthLimit) : Outcome ScriptError ρ := do
  let types ← .ofExcept (p.argumentTypesFrom name 0 args)
  let (f, _) ← .ofOption (.noSuchFunction name (types.map Prod.fst))
    (p.fnNamed? name (types.map Prod.snd))
  if p.types.builtinNamed? (HostType.typeName ρ) = some f.signature.returnType then
    let v ← p.runForHost f args depth
    .ofOption (.runtime (.returnType name (HostType.typeName ρ))) (HostType.ofValue? v)
  else .fail (.noSuchReturnType name (HostType.typeName ρ))

end Checked.Program

end NominalScript
