import TestEngine.CommandLine
import TestEngine.Demo
import TestEngine.Diagnostic
import TestEngine.Engine.Basic
import TestEngine.Engine.Chain
import TestEngine.Engine.Context
import TestEngine.Engine.Dispatch
import TestEngine.Engine.Perform
import TestEngine.Expectation
import TestEngine.Level
import TestEngine.LogEvent
import TestEngine.Main
import TestEngine.Mode
import TestEngine.Path
import TestEngine.Path.Cell
import TestEngine.Path.Registers
import TestEngine.Pattern.CharSet
import TestEngine.Pattern.Expr
import TestEngine.Pattern.Reader
import TestEngine.Program
import TestEngine.Run.Case
import TestEngine.Run.Process
import TestEngine.Run.Resolve
import TestEngine.Run.Summary
import TestEngine.Script
import TestEngine.Session
import TestEngine.Tap.Buffer
import TestEngine.Tap.Line
import TestEngine.Text.Ansi
import TestEngine.Text.Blank
import TestEngine.Text.Category
import TestEngine.Text.Fold
import TestEngine.Text.Lines
import TestEngine.Text.Quoted
import TestEngine.Text.Ranges
import TestEngine.Text.Word
import TestEngine.Tree.Basic
import TestEngine.Tree.Build
import TestEngine.Verdict
import TestEngine.Violation
import TestEngine.Proofs.Effect
import TestEngine.Proofs.Script
import TestEngine.Proofs.Engine.Respect
import TestEngine.Proofs.Tree.View
import TestEngine.Proofs.Tree.Forest
import TestEngine.Proofs.Tree.Construction
import TestEngine.Proofs.Tree.Representation
import TestEngine.Proofs.Tree.Remembered
import TestEngine.Proofs.Tree.Selection
import TestEngine.Proofs.Tree.Linking
import TestEngine.Proofs.Tree.Attach
import TestEngine.Proofs.Path
import TestEngine.Proofs.Path.Reading
import TestEngine.Proofs.Path.Registers
import TestEngine.Proofs.Path.Prefix
import TestEngine.Proofs.Engine.Advance
import TestEngine.Proofs.Engine.Outcome
import TestEngine.Proofs.Engine.Occurrence
import TestEngine.Proofs.Engine.Extent
import TestEngine.Proofs.Engine.Spared
import TestEngine.Proofs.Engine.Kin
import TestEngine.Proofs.Engine.Unwinding
import TestEngine.Proofs.Engine.Ledger
import TestEngine.Proofs.Engine.Registry
import TestEngine.Proofs.Run.Case
import TestEngine.Proofs.Run.Settle
import TestEngine.Proofs.Run.Progress
import TestEngine.Proofs.Run.Resolve
import TestEngine.Proofs.Run.Report
import TestEngine.Proofs.Run.Results
import TestEngine.Proofs.Run.Listing
import TestEngine.Proofs.Run.Coverage
import TestEngine.Proofs.Run.Plan
import TestEngine.Proofs.Run.Respect
import TestEngine.Proofs.Run.Reached
import TestEngine.Proofs.Run.Chain
import TestEngine.Proofs.LogEvent
import TestEngine.Proofs.Run.Timeline
import TestEngine.Proofs.Engine.Classify
import TestEngine.Proofs.Engine.Inert
import TestEngine.Proofs.Engine.Trail
import TestEngine.Proofs.Engine.Dispatch
import TestEngine.Proofs.Run.Emission
import TestEngine.Proofs.Run.Trial
import TestEngine.Proofs.Run.Classified
import TestEngine.Proofs.Run.Escalated
import TestEngine.Proofs.Run.Turn
import TestEngine.Proofs.Run.Bracket
import TestEngine.Proofs.Run.Stall
import TestEngine.Proofs.Run.Behaved
import TestEngine.Proofs.Run.Halt
import TestEngine.Proofs.Run.Assertions
import TestEngine.Proofs.Tap.Decode
import TestEngine.Proofs.Tap.Stream
import TestEngine.Proofs.Tap.Forgery
import TestEngine.Proofs.Tap.Sinks
import TestEngine.Proofs.Run.Stream
import TestEngine.Proofs.Run.Rejection
import TestEngine.Proofs.Run.Discipline
import TestEngine.Proofs.Run.Order
import TestEngine.Proofs.Run.Simulation
import TestEngine.Proofs.Run.FailFast
import TestEngine.Proofs.Run.Handle
import TestEngine.Proofs.Run.Tally
import TestEngine.Proofs.Run.Kin
import TestEngine.Proofs.Run.Abreast
import TestEngine.Proofs.Run.Series
import TestEngine.Proofs.Run.Settings
import TestEngine.Proofs.Run.Interference
import TestEngine.Proofs.Run.Aborted
import TestEngine.Proofs.Run.Enabled
import TestEngine.Proofs.Run.Subunits
import TestEngine.Proofs.Run.Credit
import TestEngine.Proofs.Run.Ledger
