import Codeweave.Builder
import Codeweave.Command.Grammar
import Codeweave.Command.Options
import Codeweave.Command.Run
import Codeweave.Decimal.Exact
import Codeweave.Decimal.Fixed
import Codeweave.Decimal.Shortest
import Codeweave.Decimal.Written
import Codeweave.Directive.Block
import Codeweave.Directive.Config
import Codeweave.Directive.Mark
import Codeweave.Directive.Outline
import Codeweave.Directive.Regenerate
import Codeweave.Directive.Report
import Codeweave.Directive.Splice
import Codeweave.Escape
import Codeweave.Fault
import Codeweave.FileTree.Basic
import Codeweave.FileTree.Path
import Codeweave.FileTree.Regenerate
import Codeweave.Journal
import Codeweave.Main
import Codeweave.Proofs.Command.Agreement
import Codeweave.Proofs.Command.Alone
import Codeweave.Proofs.Command.Candidates
import Codeweave.Proofs.Command.EveryText
import Codeweave.Proofs.Command.OneByOne
import Codeweave.Proofs.Command.Prediction
import Codeweave.Proofs.Command.Prefilter
import Codeweave.Proofs.Command.Visit
import Codeweave.Proofs.Command.Work
import Codeweave.Proofs.Directive.Blocks
import Codeweave.Proofs.Directive.Change
import Codeweave.Proofs.Directive.Concatenation
import Codeweave.Proofs.Directive.Containment
import Codeweave.Proofs.Directive.Damage
import Codeweave.Proofs.Directive.EditsApart
import Codeweave.Proofs.Directive.EmptyScript
import Codeweave.Proofs.Directive.FaultLine
import Codeweave.Proofs.Directive.Grammar
import Codeweave.Proofs.Directive.Idempotence
import Codeweave.Proofs.Directive.LineEnding
import Codeweave.Proofs.Directive.Mark
import Codeweave.Proofs.Directive.Newline
import Codeweave.Proofs.Directive.Outline
import Codeweave.Proofs.Directive.PathScript
import Codeweave.Proofs.Directive.Pieces
import Codeweave.Proofs.Directive.Placement
import Codeweave.Proofs.Directive.ReadBack
import Codeweave.Proofs.Directive.Regeneration
import Codeweave.Proofs.Directive.Renewal
import Codeweave.Proofs.Directive.RenewedLines
import Codeweave.Proofs.Directive.Rereading
import Codeweave.Proofs.Directive.Rerun
import Codeweave.Proofs.Directive.Respelling
import Codeweave.Proofs.Directive.RestyledReport
import Codeweave.Proofs.Directive.Restyling
import Codeweave.Proofs.Directive.Results
import Codeweave.Proofs.Directive.SettledCounts
import Codeweave.Proofs.Directive.Spans
import Codeweave.Proofs.Directive.Splice
import Codeweave.Proofs.Directive.SplicedOutput
import Codeweave.Proofs.FileTree.Atomicity
import Codeweave.Proofs.FileTree.Entries
import Codeweave.Proofs.FileTree.Replacement
import Codeweave.Proofs.FileTree.Undisturbed
import Codeweave.Proofs.Script.Attribution
import Codeweave.Proofs.Script.Capture
import Codeweave.Proofs.Script.CodeLines
import Codeweave.Proofs.Script.Confinement
import Codeweave.Proofs.Script.Correspondence
import Codeweave.Proofs.Script.CorrespondingCalls
import Codeweave.Proofs.Script.CorrespondingExpressions
import Codeweave.Proofs.Script.CorrespondingRun
import Codeweave.Proofs.Script.CorrespondingStatements
import Codeweave.Proofs.Script.CorrespondingValues
import Codeweave.Proofs.Script.Emission
import Codeweave.Proofs.Script.ErrorPath
import Codeweave.Proofs.Script.Framing
import Codeweave.Proofs.Script.Keeping
import Codeweave.Proofs.Script.Leaves
import Codeweave.Proofs.Script.NamedText
import Codeweave.Proofs.Script.Output
import Codeweave.Proofs.Script.Page
import Codeweave.Proofs.Script.Redirection
import Codeweave.Proofs.Script.Run
import Codeweave.Proofs.Script.ScratchOutput
import Codeweave.Proofs.Script.Shortening
import Codeweave.Proofs.Script.Steady
import Codeweave.Proofs.Script.SteadyRun
import Codeweave.Proofs.Script.Writing
import Codeweave.Proofs.Template.Concatenation
import Codeweave.Proofs.Template.Encoding
import Codeweave.Proofs.Template.Reading
import Codeweave.Proofs.Template.Ticks
import Codeweave.Proofs.Text.Dedent
import Codeweave.Proofs.Text.Digits
import Codeweave.Proofs.Text.Lines
import Codeweave.Proofs.Text.Restyling
import Codeweave.Proofs.Text.Rows
import Codeweave.Proofs.Text.Strip
import Codeweave.Script.Arguments
import Codeweave.Script.Arithmetic
import Codeweave.Script.Binding
import Codeweave.Script.Builtins
import Codeweave.Script.Code
import Codeweave.Script.Compare
import Codeweave.Script.Datum
import Codeweave.Script.Diagnosis.Basic
import Codeweave.Script.Diagnosis.Expression
import Codeweave.Script.Diagnosis.Parameters
import Codeweave.Script.Diagnosis.Statement
import Codeweave.Script.ErrorClass
import Codeweave.Script.Evaluate
import Codeweave.Script.Execute
import Codeweave.Script.Iterate
import Codeweave.Script.Legality
import Codeweave.Script.Legality.Mention
import Codeweave.Script.Legality.Places
import Codeweave.Script.Legality.Regions
import Codeweave.Script.Lexer
import Codeweave.Script.Machine
import Codeweave.Script.Members
import Codeweave.Script.Names
import Codeweave.Script.Order
import Codeweave.Script.Parser.Basic
import Codeweave.Script.Parser.Expression
import Codeweave.Script.Parser.Literal
import Codeweave.Script.Parser.Statement
import Codeweave.Script.Percent
import Codeweave.Script.Program
import Codeweave.Script.Quotation
import Codeweave.Script.Raising
import Codeweave.Script.Render
import Codeweave.Script.Scope
import Codeweave.Script.Sequence
import Codeweave.Script.Session
import Codeweave.Script.Shown
import Codeweave.Script.TextMethods
import Codeweave.Script.Token
import Codeweave.Script.Value
import Codeweave.Template
import Codeweave.Text.Blank
import Codeweave.Text.CombiningClass
import Codeweave.Text.Composition
import Codeweave.Text.DecimalDigit
import Codeweave.Text.Decomposition
import Codeweave.Text.Dedent
import Codeweave.Text.Identifier
import Codeweave.Text.Integer
import Codeweave.Text.LetterCase
import Codeweave.Text.Lines
import Codeweave.Text.NormalForm
import Codeweave.Text.Printable
import Codeweave.Text.Quoted
import Codeweave.Text.Ranges
import Codeweave.Text.TableText
import Codeweave.Text.WordEnd
