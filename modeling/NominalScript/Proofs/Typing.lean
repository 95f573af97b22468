import Mathlib.Data.List.Forall2
import Mathlib.Logic.Relation
import NominalScript.Builtin
import NominalScript.Proofs.Syntax

/-!
# Typing rules

What makes a program well typed, said of the source tree alone and with types
called by their names.  There are no numbers, slots, states or errors here, and no
order in which things are found out.

* `HasType` gives expressions their types.  A call has the type of a function of
  the name that takes exactly the types of the arguments.
* `StmtTyped` and its companions say which statements may stand where; a `let` adds
  to the scope of its block.
* `FallsThrough` holds of a body with a path to its end that meets no `return`.
* `WellTyped` puts these together with the rules on declarations.
-/

namespace NominalScript.Typing

open Syntax

/-! ## What code refers to -/

/-- A function by its name, the types of its parameters and the type it returns. -/
structure FnType where
  name : String
  params : List String
  returns : String
deriving DecidableEq, Repr

def FnType.ofBuiltin (b : Builtin) : FnType :=
  ⟨b.name, b.params.map BuiltinParam.typeName, b.returnType⟩

def FnType.ofDecl (d : FnDecl) : FnType :=
  ⟨d.ident.name, d.params.map fun b => b.type.name, d.returnName⟩

/-- The builtin types, structs and functions of a program. -/
structure Context where
  builtins : List String
  structs : List StructDecl
  fns : List FnType

/-- What the code of a program may refer to. -/
def Context.of (p : Program) (host : Builtins) : Context :=
  ⟨host.types, p.structs, host.fns.map .ofBuiltin ++ p.fns.map .ofDecl⟩

/-- There is a type of this name. -/
def Context.IsType (cx : Context) (name : String) : Prop :=
  name ∈ cx.builtins ∨ ∃ d ∈ cx.structs, d.ident.name = name

/-- The variables of a block, each with its type. -/
abbrev Scope := List (String × String)

/-- The nearest binding of a name has this type. -/
inductive Bound : List Scope → String → String → Prop
  | here {scope : Scope} {outer : List Scope} {name type : String} :
    (name, type) ∈ scope → Bound (scope :: outer) name type
  | outside {scope : Scope} {outer : List Scope} {name type : String} :
    name ∉ scope.map Prod.fst → Bound outer name type → Bound (scope :: outer) name type

/-! ## Expressions -/

/-- The type of an expression, with the given variables in scope. -/
inductive HasType (cx : Context) (scopes : List Scope) : Expr → String → Prop
  | str {value : String} {span : Span} : HasType cx scopes (.str value span) "String"
  | int {value : Int64} {span : Span} : HasType cx scopes (.int value span) "Int"
  | call {fn : Ident} {args : List Expr} {span : Span} {types : List String} {type : String} :
    ⟨fn.name, types, type⟩ ∈ cx.fns → List.Forall₂ (HasType cx scopes) args types →
    HasType cx scopes (.call fn args span) type
  | var {name : String} {span : Span} {type : String} :
    Bound scopes name type → HasType cx scopes (.var name span) type
  | unary {op : Ident} {operand : Expr} {span : Span} {t type : String} :
    ⟨op.name, [t], type⟩ ∈ cx.fns → HasType cx scopes operand t →
    HasType cx scopes (.unary op operand span) type
  | binary {op : Ident} {left right : Expr} {span : Span} {t u type : String} :
    ⟨op.name, [t, u], type⟩ ∈ cx.fns → HasType cx scopes left t → HasType cx scopes right u →
    HasType cx scopes (.binary op left right span) type
  | paren {inner : Expr} {span : Span} {type : String} :
    HasType cx scopes inner type → HasType cx scopes (.paren inner span) type
  | init {type : Ident} {fields : List (FieldInit Expr)} {fieldsSpan span : Span} {d : StructDecl} :
    d ∈ cx.structs → d.ident.name = type.name →
    List.Forall₂ (fun f b => f.ident.name = b.ident.name) fields d.fields →
    List.Forall₂ (fun f b => HasType cx scopes (FieldInit.value f) b.type.name) fields d.fields →
    HasType cx scopes (.init type fields fieldsSpan span) type.name
  | member {base : Expr} {field : Ident} {span : Span} {d : StructDecl} {b : Binding} :
    HasType cx scopes base d.ident.name → d ∈ cx.structs → b ∈ d.fields →
    b.ident.name = field.name → HasType cx scopes (.member base field span) b.type.name

/-! ## Statements -/

mutual

/-- A statement of a function that returns `returns`, with the variables in scope
before it and after it. -/
inductive StmtTyped (cx : Context) (returns : String) : List Scope → Stmt → List Scope → Prop
  | expr {scopes : List Scope} {e : Expr} {type : String} :
    HasType cx scopes e type → StmtTyped cx returns scopes (.expr e) scopes
  | cond {scopes : List Scope} {c : Conditional} :
    ConditionalTyped cx returns scopes c → StmtTyped cx returns scopes (.cond c) scopes
  | ret {scopes : List Scope} {e : Expr} {span : Span} :
    HasType cx scopes e returns → StmtTyped cx returns scopes (.ret (some e) span) scopes
  | retVoid {scopes : List Scope} {span : Span} :
    returns = "Void" → StmtTyped cx returns scopes (.ret none span) scopes
  | bind {scope : Scope} {outer : List Scope} {ident : Ident} {stated : Option Ident}
    {value : Expr} {span : Span} {type : String} :
    HasType cx (scope :: outer) value type → (∀ a, stated = some a → a.name = type) →
    ident.name ∉ scope.map Prod.fst →
    StmtTyped cx returns (scope :: outer) (.bind ident stated value span)
      (((ident.name, type) :: scope) :: outer)

/-- Statements one after the other. -/
inductive StmtsTyped (cx : Context) (returns : String) : List Scope → List Stmt → Prop
  | nil {scopes : List Scope} : StmtsTyped cx returns scopes []
  | cons {scopes scopes' : List Scope} {s : Stmt} {rest : List Stmt} :
    StmtTyped cx returns scopes s scopes' → StmtsTyped cx returns scopes' rest →
    StmtsTyped cx returns scopes (s :: rest)

/-- A conditional, each of its blocks in a scope of its own. -/
inductive ConditionalTyped (cx : Context) (returns : String) : List Scope → Conditional → Prop
  | mk {scopes : List Scope} {c : Expr} {block : List Stmt} {rest : Otherwise} {span : Span} :
    HasType cx scopes c "Int" → StmtsTyped cx returns ([] :: scopes) block →
    OtherwiseTyped cx returns scopes rest →
    ConditionalTyped cx returns scopes (.mk c block rest span)

/-- What is done when a condition does not hold. -/
inductive OtherwiseTyped (cx : Context) (returns : String) : List Scope → Otherwise → Prop
  | nothing {scopes : List Scope} : OtherwiseTyped cx returns scopes .nothing
  | elseIf {scopes : List Scope} {c : Conditional} :
    ConditionalTyped cx returns scopes c → OtherwiseTyped cx returns scopes (.elseIf c)
  | block {scopes : List Scope} {block : List Stmt} :
    StmtsTyped cx returns ([] :: scopes) block → OtherwiseTyped cx returns scopes (.block block)

end

/-! ## Paths -/

mutual

/-- Some path through the statement meets no `return`. -/
inductive FallsThrough : Stmt → Prop
  | expr {e : Expr} : FallsThrough (.expr e)
  | bind {ident : Ident} {type : Option Ident} {value : Expr} {span : Span} :
    FallsThrough (.bind ident type value span)
  | cond {c : Conditional} : ConditionalFallsThrough c → FallsThrough (.cond c)

/-- Some path through all the statements meets no `return`. -/
inductive AllFallThrough : List Stmt → Prop
  | nil : AllFallThrough []
  | cons {s : Stmt} {rest : List Stmt} :
    FallsThrough s → AllFallThrough rest → AllFallThrough (s :: rest)

/-- A condition may hold or not. -/
inductive ConditionalFallsThrough : Conditional → Prop
  | holds {c : Expr} {block : List Stmt} {rest : Otherwise} {span : Span} :
    AllFallThrough block → ConditionalFallsThrough (.mk c block rest span)
  | fails {c : Expr} {block : List Stmt} {rest : Otherwise} {span : Span} :
    OtherwiseFallsThrough rest → ConditionalFallsThrough (.mk c block rest span)

inductive OtherwiseFallsThrough : Otherwise → Prop
  | nothing : OtherwiseFallsThrough .nothing
  | elseIf {c : Conditional} : ConditionalFallsThrough c → OtherwiseFallsThrough (.elseIf c)
  | block {block : List Stmt} : AllFallThrough block → OtherwiseFallsThrough (.block block)

end

/-! ## Programs -/

/-- The one struct has a field of the type of the other. -/
structure Contains (p : Program) (whole part : StructDecl) : Prop where
  whole_mem : whole ∈ p.structs
  part_mem : part ∈ p.structs
  field : ∃ b ∈ whole.fields, b.type.name = part.ident.name

/-- The parameters of a function as the scope around its body, the latest first. -/
def paramScope (d : FnDecl) : Scope := d.params.reverse.map fun b => (b.ident.name, b.type.name)

/-- The rules for one struct declaration. -/
structure StructTyped (cx : Context) (d : StructDecl) : Prop where
  new : d.ident.name ∉ cx.builtins
  fieldNames : (d.fields.map (·.ident.name)).Nodup
  fieldTypes : ∀ b ∈ d.fields, cx.IsType b.type.name

/-- The rules for one function declaration. -/
structure FnTyped (cx : Context) (d : FnDecl) : Prop where
  paramNames : (d.params.map (·.ident.name)).Nodup
  paramTypes : ∀ b ∈ d.params, cx.IsType b.type.name
  returnType : cx.IsType d.returnName
  body : StmtsTyped cx d.returnName [[], paramScope d] d.body
  returns : d.returnName = "Void" ∨ ¬ AllFallThrough d.body

/-- The rules for a program and the types and functions of its host. -/
structure WellTyped (p : Program) (host : Builtins) : Prop where
  needed : "Void" ∈ host.types ∧ "Int" ∈ host.types ∧ "String" ∈ host.types
  structNames : (p.structs.map (·.ident.name)).Nodup
  structs : ∀ d ∈ p.structs, StructTyped (.of p host) d
  finite : ∀ d, ¬ Relation.TransGen (Contains p) d d
  hostTypes : ∀ b ∈ host.fns, (∀ q ∈ b.params, (Context.of p host).IsType q.typeName) ∧
    (Context.of p host).IsType b.returnType
  signatures : ((Context.of p host).fns.map fun f => (f.name, f.params)).Nodup
  fns : ∀ d ∈ p.fns, FnTyped (.of p host) d

end NominalScript.Typing
