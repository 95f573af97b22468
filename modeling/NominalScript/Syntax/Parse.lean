import NominalScript.Syntax.Cursor

/-!
# Reading a program

`Program.parse` reads the declarations of a token list.  Trivia stands anywhere
between two tokens but for a few places where it matters:

* a blank follows a reserved word that starts a declaration, binding or
  conditional;
* the parenthesis of a call or of a parameter list follows the name at once, and
  so does the period of a member access;
* an operator with trivia after it is no prefix of an operand, and an operator
  between operands has blanks on both sides or on neither;
* a returned value starts on the line of its `return`;
* statements end with a newline, unless a block ends them.

The parsers of expressions and conditionals call themselves after taking a
token, so they recurse on a bound for the tokens left; `expression` and
`conditional` start them with the number of tokens there are.  With no token
left they report that the text has ended.
-/

namespace NominalScript.Syntax

open NominalScript.Syntax.Parser

/-! ## Expressions -/

/-- What an opening brace after a name starts: a struct literal, or the block of
a conditional whose condition ends here. -/
inductive BraceRole where
  | literal
  | block
deriving DecidableEq, Repr

/-- A field of a struct literal. -/
def fieldInit (value : Parser Expr) : Parser (FieldInit Expr) := do
  let start ← here
  let ident ← expectIdent
  let _ ← skipTrivia
  expect .colon
  let _ ← skipTrivia
  let e ← value
  return ⟨ident, e, ← spanFrom start⟩

/-- The expression that the name `t` starts: a call, a struct literal, or a
variable. -/
def named (sub : BraceRole → Parser Expr) (role : BraceRole) (t : Token) (name : String) :
    Parser Expr := do
  if (← peek) = some .leftParen then
    let args ← delimited .leftParen .rightParen (sub .literal)
    return .call ⟨name, t.span⟩ args (← spanFrom t.start)
  else if role = .literal ∧ (← peekPastTrivia) = some .leftBrace then
    let _ ← skipTrivia
    let start ← here
    let fields ← delimited .leftBrace .rightBrace (fieldInit (sub .literal))
    return .init ⟨name, t.span⟩ fields (← spanFrom start) (← spanFrom t.start)
  else return .var name (← spanFrom t.start)

/-- The expression that the token `t` starts, up to any member access or
operator behind it. -/
def primary (sub : BraceRole → Parser Expr) (role : BraceRole) (t : Token) : Parser Expr := do
  match t.kind with
  | .ident name => named sub role t name
  | .str value => return .str value (← spanFrom t.start)
  | .int value => return .int value (← spanFrom t.start)
  | .op op =>
    if ((← peek).map Kind.isTrivia).getD false then fail .detachedOperator t.start
    else
      let operand ← sub role
      return .unary ⟨op, t.span⟩ operand (← spanFrom t.start)
  | .leftParen =>
    let _ ← skipTrivia
    let inner ← sub .literal
    let _ ← skipTrivia
    expect .rightParen
    return .paren inner (← spanFrom t.start)
  | kind => fail (.expectedExpr kind) t.start

/-- Member accesses behind an expression, each period following at once. -/
def members (start : Location) : Nat → Expr → Parser Expr
  | 0, e => return e
  | rounds + 1, e => do
    if (← peek) = some .period then
      let _ ← next
      let field ← expectIdent
      members start rounds (.member e field (← spanFrom start))
    else return e

/-- An operator and its right operand behind an expression.  Without an operator
nothing is read, not even trivia. -/
def operation (right : Parser Expr) (start : Location) (e : Expr) : Parser Expr := do
  let saved ← get
  let before ← skipTrivia
  match (← get).rest with
  | ⟨.op op, l, size⟩ :: _ =>
    let _ ← next
    let after ← skipTrivia
    if before.blank ≠ after.blank then fail .lopsidedOperator l
    else
      let r ← right
      return .binary ⟨op, (Token.mk (.op op) l size).span⟩ e r (← spanFrom start)
  | _ =>
    set saved
    return e

/-- An expression of at most `bound` tokens. -/
def expressionWithin : Nat → BraceRole → Parser Expr
  | 0, _ => do fail .endInExpr (← here)
  | bound + 1, role => do
    let start ← here
    match ← next with
    | none => fail .endInExpr start
    | some t =>
      let e ← primary (expressionWithin bound) role t
      let e ← members start (← get).rest.length e
      operation (expressionWithin bound role) start e

/-- An expression. -/
def expression (role : BraceRole) : Parser Expr := do
  expressionWithin (← get).rest.length role

/-! ## Statements -/

/-- The statements of a block, up to its closing brace. -/
def statements (stmt : Parser Stmt) : Nat → Parser (List Stmt)
  | 0 => pure []
  | rounds + 1 => do
    let k ← peek
    if k = none ∨ k = some .rightBrace then return []
    else
      let s ← stmt
      if s.endsWithBlock then
        let _ ← skipTrivia
      else expectNewline
      return s :: (← statements stmt rounds)

/-- Statements between braces. -/
def block (stmt : Parser Stmt) : Parser (List Stmt) := do
  expect .leftBrace
  let _ ← skipTrivia
  let stmts ← statements stmt (← get).rest.length
  expect .rightBrace
  return stmts

/-- The value behind a `return`, on the same line. -/
def returnValue : Parser (Option Expr) := do
  expect (.keyword .kwReturn)
  skipToLineEnd
  let k ← peek
  if k = none ∨ k = some .rightBrace ∨ k = some (.blank .newline) then return none
  else return some (← expression .literal)

/-- The type of a `let`, with the trivia after it. -/
def annotation : Parser (Option Ident) := do
  if (← peek) = some .colon then
    let _ ← next
    let _ ← skipTrivia
    let type ← expectIdent
    let _ ← skipTrivia
    return some type
  else return none

/-- A `let` statement. -/
def binding (start : Location) : Parser Stmt := do
  expect (.keyword .kwLet)
  expectBlank
  let ident ← expectIdent
  let _ ← skipTrivia
  let type ← annotation
  expect (.op "=")
  let _ ← skipTrivia
  let value ← expression .literal
  return .bind ident type value (← spanFrom start)

/-- A statement, given how to read a conditional. -/
def statementWith (cond : Parser Conditional) : Parser Stmt := do
  let start ← here
  match ← peek with
  | some (.keyword .kwIf) => return .cond (← cond)
  | some (.keyword .kwReturn) =>
    let value ← returnValue
    return .ret value (← spanFrom start)
  | some (.keyword .kwLet) => binding start
  | _ => return .expr (← expression .literal)

/-- What follows the block of a conditional. -/
def otherwise (cond : Parser Conditional) : Parser Otherwise := do
  if (← peekPastTrivia) = some (.keyword .kwElse) then
    let _ ← skipTrivia
    let _ ← next
    let _ ← skipTrivia
    match ← peek with
    | some (.keyword .kwIf) => return .elseIf (← cond)
    | some .leftBrace => return .block (← block (statementWith cond))
    | k => fail (.expectedBranch k) (← here)
  else return .nothing

/-- A conditional of at most `bound` tokens. -/
def conditionalWithin : Nat → Parser Conditional
  | 0 => do fail (.expected (.keyword .kwIf) none) (← here)
  | bound + 1 => do
    let start ← here
    expect (.keyword .kwIf)
    expectBlank
    let condition ← expression .block
    let _ ← skipTrivia
    let stmts ← block (statementWith (conditionalWithin bound))
    let rest ← otherwise (conditionalWithin bound)
    return .mk condition stmts rest (← spanFrom start)

/-- A conditional. -/
def conditional : Parser Conditional := do
  conditionalWithin (← get).rest.length

/-- A statement. -/
def statement : Parser Stmt := statementWith conditional

/-! ## Declarations -/

/-- A name, a colon and the name of a type. -/
def typedName : Parser Binding := do
  let start ← here
  let ident ← expectIdent
  let _ ← skipTrivia
  expect .colon
  let _ ← skipTrivia
  let type ← expectIdent
  return ⟨ident, type, ← spanFrom start⟩

/-- A struct declaration. -/
def structDecl : Parser StructDecl := do
  let start ← here
  expect (.keyword .kwStruct)
  expectBlank
  let ident ← expectIdent
  let _ ← skipTrivia
  let fields ← delimited .leftBrace .rightBrace typedName
  return ⟨ident, fields, ← spanFrom start⟩

/-- The return type behind a parameter list. -/
def returnType : Parser (Option Ident) := do
  if (← peekPastTrivia) = some (.op "->") then
    let _ ← skipTrivia
    let _ ← next
    let _ ← skipTrivia
    return some (← expectIdent)
  else return none

/-- A function declaration. -/
def fnDecl : Parser FnDecl := do
  let start ← here
  expect (.keyword .kwFn)
  expectBlank
  let ident ← expectIdent
  let params ← delimited .leftParen .rightParen typedName
  let returns ← returnType
  let signatureSpan ← spanFrom start
  let _ ← skipTrivia
  let body ← block statement
  return ⟨ident, params, returns, signatureSpan, body, ← spanFrom start⟩

/-- At most `bound` declarations, up to the end of the tokens. -/
def declarations : Nat → Parser Program
  | 0 => return ⟨[], []⟩
  | bound + 1 => do
    match ← peek with
    | none => return ⟨[], []⟩
    | some (.keyword .kwStruct) =>
      let d ← structDecl
      let _ ← skipTrivia
      let p ← declarations bound
      return { p with structs := d :: p.structs }
    | some (.keyword .kwFn) =>
      let d ← fnDecl
      let _ ← skipTrivia
      let p ← declarations bound
      return { p with fns := d :: p.fns }
    | some kind => fail (.unexpectedAtTop kind) (← here)

/-- All declarations. -/
def program : Parser Program := do
  let _ ← skipTrivia
  declarations (← get).rest.length

/-- The program that a token list stands for. -/
def Program.parse (tokens : List Token) : Except ParseError Program :=
  (program.run ⟨tokens, .origin⟩).map Prod.fst

end NominalScript.Syntax
