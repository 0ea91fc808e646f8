import TinyImp.Bindings
import TinyImp.CommandLine
import TinyImp.Diagnostic
import TinyImp.Execution.Channel
import TinyImp.Execution.Expression
import TinyImp.Execution.Failure
import TinyImp.Execution.Machine
import TinyImp.Execution.Statement
import TinyImp.Fault
import TinyImp.Grammar.Cursor
import TinyImp.Grammar.Expression
import TinyImp.Grammar.Production
import TinyImp.Grammar.Program
import TinyImp.Grammar.Recovery
import TinyImp.Grammar.Statement
import TinyImp.Integer
import TinyImp.Job
import TinyImp.Journal
import TinyImp.Main
import TinyImp.Position
import TinyImp.Proofs.Computation
import TinyImp.Proofs.Execution.Agenda
import TinyImp.Proofs.Execution.Effect
import TinyImp.Proofs.Scope.Declaration
import TinyImp.Proofs.Tree.Address
import TinyImp.Proofs.Typing.Judgement
import TinyImp.Report.Drawing
import TinyImp.Report.Excerpt
import TinyImp.Report.Span
import TinyImp.Scope.Analysis
import TinyImp.Scope.SymbolTable
import TinyImp.Text.Blank
import TinyImp.Text.CellWidth
import TinyImp.Text.Extender
import TinyImp.Text.Ignorable
import TinyImp.Text.Printable
import TinyImp.Text.Quoted
import TinyImp.Text.Ranges
import TinyImp.Token.Basic
import TinyImp.Token.Lexeme
import TinyImp.Token.Stream
import TinyImp.Tree.Basic
import TinyImp.Tree.Outline
import TinyImp.Typing.Check
import TinyImp.Typing.Inference
import TinyImp.Typing.TypeError
import TinyImp.Value
import TinyImp.Proofs.Execution.Lookup
import TinyImp.Proofs.Execution.Binding
import TinyImp.Proofs.Execution.Soundness
import TinyImp.Proofs.Grammar.ExpressionReading
import TinyImp.Proofs.Grammar.StatementReading
import TinyImp.Proofs.Grammar.Acceptance
import TinyImp.Proofs.Typing.Decision
import TinyImp.Proofs.Tree.Preorder
import TinyImp.Proofs.Scope.Rules
import TinyImp.Proofs.Token.Lines
import TinyImp.Proofs.Token.Pattern
import TinyImp.Proofs.Token.Spelling
import TinyImp.Proofs.Token.Tiling
import TinyImp.Proofs.Grammar.Locality
import TinyImp.Proofs.Grammar.Segments
import TinyImp.Proofs.Grammar.Progress
import TinyImp.Proofs.Execution.Output
import TinyImp.Proofs.Job.Stages
import TinyImp.Proofs.Job.Truncation
import TinyImp.Proofs.Grammar.Provenance
import TinyImp.Proofs.Text.OneLine
import TinyImp.Proofs.Job.Reporting
import TinyImp.Proofs.Rephrasing.Basic
import TinyImp.Proofs.Rephrasing.Judging
import TinyImp.Proofs.Rephrasing.Running
import TinyImp.Proofs.Rephrasing.LoneOperands
import TinyImp.Proofs.Grammar.Relocation
import TinyImp.Proofs.Rephrasing.Layout
import TinyImp.Proofs.Execution.Input
import TinyImp.Proofs.Execution.Rounds
import TinyImp.Proofs.Grammar.Failures
import TinyImp.Proofs.Grammar.Forms
import TinyImp.Proofs.Grammar.MissingSemicolons
import TinyImp.Proofs.Grammar.BrokenLoops
import TinyImp.Proofs.Grammar.EndOfInput
import TinyImp.Proofs.Grammar.SourceOrder
import TinyImp.Proofs.Grammar.StrayClosers
import TinyImp.Proofs.Execution.Exactness
import TinyImp.Proofs.Execution.Agreement
import TinyImp.Proofs.Execution.Unrolling
import TinyImp.Proofs.Scope.FirstDeclarations
import TinyImp.Proofs.Token.StringLiterals
import TinyImp.Proofs.Token.IntegerLiterals
import TinyImp.Proofs.Numerals
import TinyImp.Proofs.Text.Trimming
import TinyImp.Proofs.Execution.ReadingBack
import TinyImp.Proofs.Report.Offsets
