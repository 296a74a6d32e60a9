import Typeset.Build.Outcome
import Typeset.Build.Pipes
import Typeset.Build.Run
import Typeset.Build.Session
import Typeset.Cleanup.Sweep
import Typeset.Cleanup.Wildcard
import Typeset.Command.Request
import Typeset.Command.Run
import Typeset.Command.Words
import Typeset.Config.Basic
import Typeset.Config.Load
import Typeset.Config.Validate
import Typeset.Console.Emoji
import Typeset.Console.Emoji.Names
import Typeset.Console.Message
import Typeset.Console.Output
import Typeset.Console.Report
import Typeset.Console.Table
import Typeset.Data.Json
import Typeset.Data.Moment
import Typeset.Data.Value
import Typeset.Decimal.Dyadic
import Typeset.Decimal.Fixed
import Typeset.Decimal.Parse
import Typeset.Decimal.Shortest
import Typeset.Diagnostic
import Typeset.Diagnostic.Record
import Typeset.Environment
import Typeset.Events.Channel
import Typeset.Events.Hub
import Typeset.Events.Subscription
import Typeset.Failure
import Typeset.Files
import Typeset.Latexmk.Command
import Typeset.Latexmk.MagicComment
import Typeset.Latexmk.Settings
import Typeset.Lint
import Typeset.Log.Continuation
import Typeset.Log.File
import Typeset.Log.FileStack
import Typeset.Log.Heading
import Typeset.Log.Interpreter
import Typeset.Log.Scan
import Typeset.Main
import Typeset.Path
import Typeset.Progress
import Typeset.Registry.Address
import Typeset.Registry.Basic
import Typeset.Registry.Hub
import Typeset.Remark
import Typeset.Text.Basic
import Typeset.Text.Blank
import Typeset.Text.Cells
import Typeset.Text.Cells.Ranges
import Typeset.Text.Digit
import Typeset.Text.Expression
import Typeset.Text.Lines
import Typeset.Text.Printable
import Typeset.Text.Quoted
import Typeset.Text.Utf8
import Typeset.Text.Utf8.Fault
import Typeset.Text.Word
import Typeset.Text.Wrap
import Typeset.Yaml.Assembly
import Typeset.Yaml.Bytes
import Typeset.Yaml.Content
import Typeset.Yaml.Label
import Typeset.Yaml.Merge
import Typeset.Yaml.Moment
import Typeset.Yaml.Node
import Typeset.Yaml.Number
import Typeset.Yaml.Problem
import Typeset.Yaml.Resolve
import Typeset.Yaml.Scalar.Block
import Typeset.Yaml.Scalar.Plain
import Typeset.Yaml.Scalar.Quoted
import Typeset.Yaml.Source
import Typeset.Yaml.Token
import Typeset.Yaml.Value
import Typeset.Proofs.Log.Partition
import Typeset.Proofs.Log.Boundary
import Typeset.Proofs.Log.ErrorLine
import Typeset.Proofs.Events.Disposal
import Typeset.Proofs.Events.Emission
import Typeset.Proofs.Events.Move
import Typeset.Proofs.Events.Script
import Typeset.Proofs.Events.Account
import Typeset.Proofs.Events.Confined
import Typeset.Proofs.Events.Hearing
import Typeset.Proofs.Registry.Order
import Typeset.Proofs.Registry.Change
import Typeset.Proofs.Registry.Independence
import Typeset.Proofs.Events.Executed
import Typeset.Proofs.Events.Membership
import Typeset.Proofs.Events.Registration
import Typeset.Proofs.Registry.Tracking
import Typeset.Proofs.Path.Written
import Typeset.Proofs.Build.Step
import Typeset.Proofs.Build.Course
import Typeset.Proofs.Build.Drain
import Typeset.Proofs.Build.Once
import Typeset.Proofs.Build.Agreement
import Typeset.Proofs.Build.Interrupt
import Typeset.Proofs.Build.Together
import Typeset.Proofs.Build.Shown
import Typeset.Proofs.Log.Repeats
import Typeset.Proofs.Text.Mark
import Typeset.Proofs.Text.Numeral
import Typeset.Proofs.Log.Attribution
import Typeset.Proofs.Log.Wrapping
import Typeset.Proofs.Log.Item
import Typeset.Proofs.Log.RoundTrip
import Typeset.Proofs.Log.Silence
import Typeset.Proofs.Path.Normal
import Typeset.Proofs.Log.LineNumber
import Typeset.Proofs.Log.WellFormed
import Typeset.Proofs.Log.Reuse
import Typeset.Proofs.Files.Removal
import Typeset.Proofs.Cleanup.Beside
import Typeset.Proofs.Cleanup.Deleted
import Typeset.Proofs.Cleanup.Placeholder
import Typeset.Proofs.Log.Trace
import Typeset.Proofs.Log.ErrorTail
import Typeset.Proofs.Log.Snippet
import Typeset.Proofs.Log.NamedLine
import Typeset.Proofs.Lint.Firsts
import Typeset.Proofs.Log.InputLine
import Typeset.Proofs.Log.Excerpt
import Typeset.Proofs.Cleanup.Translation
import Typeset.Proofs.Cleanup.Tally
import Typeset.Proofs.Registry.Spelling
import Typeset.Proofs.Text.Headline
import Typeset.Proofs.Failure.Trail
import Typeset.Proofs.Console.Order
import Typeset.Proofs.Latexmk.MagicComment
import Typeset.Proofs.Latexmk.Call
import Typeset.Proofs.Config.Record
import Typeset.Proofs.Yaml.Assembly
import Typeset.Proofs.Yaml.Misfit
import Typeset.Proofs.Yaml.Reading
import Typeset.Proofs.Yaml.Token
import Typeset.Proofs.Config.Load
