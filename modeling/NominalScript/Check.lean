import NominalScript.Check.Body

/-!
# Checking a program

Checking goes in three steps, each of which needs the one before it: struct
declarations, the signatures of all functions, and function bodies.  A step
reports all errors it finds and, if there are any, ends the checking.
-/

namespace NominalScript

/-- An accepted program, with its warnings. -/
structure Accepted where
  program : Checked.Program
  warnings : List Warning

/-- The names that the types of a program are known by. -/
def Syntax.Program.typeNames (p : Syntax.Program) (builtins : List String) : TypeNames :=
  ⟨builtins, p.structs.map fun d => d.ident.name⟩

/-- The functions of a program by number: builtins first, then those of the
script. -/
def Check.fnTable (builtins users : List Checked.Signature) : List (FnId × Checked.Signature) :=
  (builtins.zipIdx.map fun s => (.builtin s.2, s.1)) ++
    (users.zipIdx.map fun s => (.user s.2, s.1))

/-- Check a program against the types and functions of a host. -/
def Syntax.Program.check (p : Syntax.Program) (host : Builtins) : Check Accepted := do
  let structs ← Check.structTypes (p.typeNames host.types) p.structs
  let types ← Check.typeTable host.types structs
  let builtins ← Check.builtinSignatures types host.fns
  let users ← Check.signaturesFrom types builtins p.fns
  let globals : Check.Globals := ⟨types, Check.fnTable builtins users⟩
  let fns ← Check.collect ((p.fns.zip users).map fun f => Check.fn globals f.1 f.2)
  return ⟨⟨types, host.fns, fns.map Prod.fst⟩, fns.flatMap Prod.snd⟩

end NominalScript
