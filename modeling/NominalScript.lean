import NominalScript.Builtin
import NominalScript.Check
import NominalScript.Check.Body
import NominalScript.Check.Error
import NominalScript.Check.Expr
import NominalScript.Check.Signatures
import NominalScript.Check.Structs
import NominalScript.Checked
import NominalScript.CommandLine
import NominalScript.Diagnostic
import NominalScript.Evaluate
import NominalScript.Graph
import NominalScript.Location
import NominalScript.Main
import NominalScript.Outcome
import NominalScript.Script
import NominalScript.Syntax
import NominalScript.Syntax.Cursor
import NominalScript.Syntax.Parse
import NominalScript.Text.Hidden
import NominalScript.Text.Lines
import NominalScript.Text.Shown
import NominalScript.Token
import NominalScript.Token.Lexeme
import NominalScript.Token.Scan
import NominalScript.Types
import NominalScript.Value
import NominalScript.Proofs.Syntax.Spans
import NominalScript.Proofs.Check.Success
import NominalScript.Proofs.Check.Tables
import NominalScript.Proofs.Aligned
import NominalScript.Proofs.Outcome
import NominalScript.Proofs.Types
import NominalScript.Proofs.ValueType
import NominalScript.Proofs.WellTyped
import NominalScript.Proofs.Check.State
import NominalScript.Proofs.Check.WellTyped
import NominalScript.Proofs.Evaluates
import NominalScript.Proofs.Soundness
import NominalScript.Proofs.Reference
import NominalScript.Proofs.Refinement.Names
import NominalScript.Proofs.Refinement
import NominalScript.Proofs.Cycles
import NominalScript.Proofs.Typing
import NominalScript.Proofs.Containment
import NominalScript.Proofs.Typing.Expr
import NominalScript.Proofs.Typing.Body
import NominalScript.Proofs.Accepts
import NominalScript.Proofs.Parse.Success
import NominalScript.Proofs.Parse.Tree
import NominalScript.Proofs.Parse.Reads
import NominalScript.Proofs.Parse.Expr
import NominalScript.Proofs.Parse
import NominalScript.Proofs.Token.Spelling
import NominalScript.Proofs.Token.Lexeme
import NominalScript.Proofs.Token.Tiling
import NominalScript.Proofs.Token.Render
import NominalScript.Proofs.Token.LineBreak
import NominalScript.Proofs.Parse.Agree
import NominalScript.Proofs.Parse.Reformat
import NominalScript.Proofs.Parse.Followed
import NominalScript.Proofs.Concatenation
import NominalScript.Proofs.Check.Spans
import NominalScript.Proofs.Reformatting
import NominalScript.Proofs.Renumbering
import NominalScript.Proofs.Print.Printer
import NominalScript.Proofs.Print.Expr
import NominalScript.Proofs.Print.Stmt
import NominalScript.Proofs.Print.Neat
import NominalScript.Proofs.Print
import NominalScript.Proofs.Check.Mirror
import NominalScript.Proofs.Location
import NominalScript.Proofs.Token.Places
import NominalScript.Proofs.Parse.Places
import NominalScript.Proofs.Diagnostic
import NominalScript.Proofs.Cycles.Enumeration
import NominalScript.Proofs.HostTypes
import NominalScript.Proofs.CommandLine
import NominalScript.Proofs.Check.Renumbering
import NominalScript.Proofs.DeclarationOrder
import NominalScript.Proofs.Extension
import NominalScript.Proofs.Arithmetic
import NominalScript.Proofs.Syntax.Paths
import NominalScript.Proofs.Check.Reachability
import NominalScript.Proofs.Slots
import NominalScript.Proofs.Check.Slots
import NominalScript.Proofs.Syntax.Nodes
import NominalScript.Proofs.Parse.Covers
import NominalScript.Proofs.Parse.Writes
import NominalScript.Proofs.Nesting
import NominalScript.Proofs.Frame
import NominalScript.Proofs.Check.Literals
import NominalScript.Proofs.Checked.Nodes
import NominalScript.Proofs.CallGraph
import NominalScript.Proofs.Cycles.Tables
import NominalScript.Proofs.Checked.InRange
import NominalScript.Proofs.Check.Faults
import NominalScript.Proofs.InRange
import NominalScript.Proofs.Check.Consistency
import NominalScript.Proofs.Parse.Moves
import NominalScript.Proofs.Parse.Rounds
import NominalScript.Proofs.Progress
import NominalScript.Proofs.Cycles.Rotation
