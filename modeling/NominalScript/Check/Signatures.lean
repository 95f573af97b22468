import NominalScript.Check.Structs
import NominalScript.Checked

/-!
# Checking signatures

Every function, builtin or declared, gets a signature in which types stand by
number.  No two functions of a name may have the same parameter types; what they
return does not tell them apart.
-/

namespace NominalScript.Check

open Syntax
open Checked (Signature)

/-- The report that a signature is taken. -/
def duplicateFn {α : Type} (s : Signature) (span : Span) : Check α :=
  fail (.duplicateFn s.name s.paramTypes) span

/-! ## Builtins -/

/-- A name that no text contains. -/
def hostIdent (name : String) : Ident := ⟨name, .builtin⟩

/-- The signature of a builtin. -/
def builtinSignature (types : TypeTable) (b : Builtin) : Check Signature :=
  let params := collect (b.params.map fun p =>
    (resolve types.names (hostIdent p.typeName)).map fun t => (⟨p.label, t⟩ : Field))
  let returns := resolve types.names (hostIdent b.returnType)
  (both params returns).map fun r => ⟨b.name, r.1, r.2⟩

/-- The signatures of builtins after those already there.  The first builtin in
error ends it. -/
def builtinSignaturesFrom (types : TypeTable) (taken : List Signature) :
    List Builtin → Check (List Signature)
  | [] => .ok taken
  | b :: bs => do
    let s ← builtinSignature types b
    if taken.any (·.overlaps s) then duplicateFn s .builtin
    else builtinSignaturesFrom types (taken ++ [s]) bs

/-- The signatures of all builtins, in order. -/
def builtinSignatures (types : TypeTable) (builtins : List Builtin) : Check (List Signature) :=
  builtinSignaturesFrom types [] builtins

/-! ## Declared functions -/

/-- One parameter, given those before it. -/
def param (names : TypeNames) (earlier : List Binding) (b : Binding) : Check Field :=
  if earlier.any fun e => e.ident.name == b.ident.name then
    fail (.duplicateParam b.ident.name) b.span
  else (resolve names b.type).map fun t => ⟨b.ident.name, t⟩

/-- The return type, which is `Void` when none is written. -/
def returnType (types : TypeTable) : Option Ident → Check TypeId
  | some t => resolve types.names t
  | none => .ok types.void

/-- The signature of a declared function. -/
def declaredSignature (types : TypeTable) (d : FnDecl) : Check Signature :=
  let params := collect ((withEarlier d.params).map fun p => param types.names p.1 p.2)
  (both params (returnType types d.returnType)).map fun r => ⟨d.ident.name, r.1, r.2⟩

/-- The signature of a declared function, which must not be taken. -/
def newSignature (types : TypeTable) (taken : List Signature) (d : FnDecl) : Check Signature := do
  let s ← declaredSignature types d
  if taken.any (·.overlaps s) then duplicateFn s d.ident.span else return s

/-- The signatures of declared functions, given those already taken. -/
def signaturesFrom (types : TypeTable) (taken : List Signature) :
    List FnDecl → Check (List Signature)
  | [] => .ok []
  | d :: ds =>
    match newSignature types taken d with
    | .ok s => cons (.ok s) (signaturesFrom types (taken ++ [s]) ds)
    | .error es => cons (.error es) (signaturesFrom types taken ds)

end NominalScript.Check
