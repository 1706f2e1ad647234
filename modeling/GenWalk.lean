import GenWalk.Adapter.Basic
import GenWalk.Adapter.Mock
import GenWalk.Adapter.Process
import GenWalk.Calendar
import GenWalk.CommandLine.Arguments
import GenWalk.CommandLine.Print
import GenWalk.CommandLine.Report
import GenWalk.CommandLine.Run
import GenWalk.CommandLine.Usage
import GenWalk.Config.Check
import GenWalk.Config.Load
import GenWalk.Config.Search
import GenWalk.Directive.Basic
import GenWalk.Directive.Line
import GenWalk.Ending
import GenWalk.Environment
import GenWalk.Fault
import GenWalk.Generate
import GenWalk.Host
import GenWalk.Journey
import GenWalk.Json
import GenWalk.Log.Journal
import GenWalk.Log.Level
import GenWalk.Machine.Basic
import GenWalk.Machine.Bench
import GenWalk.Machine.Disk
import GenWalk.Machine.Files
import GenWalk.Machine.Launch
import GenWalk.Machine.Lookup
import GenWalk.Machine.Program
import GenWalk.Machine.Tool
import GenWalk.Machine.Tool.Basic
import GenWalk.Machine.Tool.Calculation
import GenWalk.Machine.Tool.Characters
import GenWalk.Machine.Tool.Condition
import GenWalk.Machine.Tool.Edit
import GenWalk.Machine.Tool.Escape
import GenWalk.Machine.Tool.Expression
import GenWalk.Machine.Tool.Files
import GenWalk.Machine.Tool.Finding
import GenWalk.Machine.Tool.Format
import GenWalk.Machine.Tool.Lines
import GenWalk.Machine.Tool.Listing
import GenWalk.Machine.Tool.Mode
import GenWalk.Machine.Tool.Order
import GenWalk.Machine.Tool.Search
import GenWalk.Machine.Tool.Sequence
import GenWalk.Main
import GenWalk.Numeral
import GenWalk.Numeral.Leading
import GenWalk.Numeral.Loose
import GenWalk.Numeral.Rounded
import GenWalk.Opener
import GenWalk.Path
import GenWalk.Proofs.Adapter.Arguments
import GenWalk.Proofs.Adapter.History
import GenWalk.Proofs.Adapter.Launching
import GenWalk.Proofs.CommandLine.Arguments
import GenWalk.Proofs.CommandLine.ExitCode
import GenWalk.Proofs.CommandLine.Printing
import GenWalk.Proofs.Config.Agreement
import GenWalk.Proofs.Config.CustomKeyword
import GenWalk.Proofs.Config.Loading
import GenWalk.Proofs.Config.Nearest
import GenWalk.Proofs.Config.Searching
import GenWalk.Proofs.Config.Unconfigured
import GenWalk.Proofs.Directive.Line
import GenWalk.Proofs.Directive.Spelling
import GenWalk.Proofs.Directive.Surroundings
import GenWalk.Proofs.Directive.Writing
import GenWalk.Proofs.Log.Delivery
import GenWalk.Proofs.Log.FailedSetup
import GenWalk.Proofs.Log.LastSetup
import GenWalk.Proofs.Log.Tagging
import GenWalk.Proofs.Machine.Apart
import GenWalk.Proofs.Machine.Lookup
import GenWalk.Proofs.Machine.Paths
import GenWalk.Proofs.Machine.Writing
import GenWalk.Proofs.Template.Concatenation
import GenWalk.Proofs.Template.Language
import GenWalk.Proofs.Template.Reference
import GenWalk.Proofs.Template.Settled
import GenWalk.Proofs.Text.Carried
import GenWalk.Proofs.Text.Clean
import GenWalk.Proofs.Text.Decoded
import GenWalk.Proofs.Text.LineEnds
import GenWalk.Proofs.Text.Trim
import GenWalk.Proofs.Text.Utf8
import GenWalk.Proofs.Text.Words
import GenWalk.Proofs.Traversal.Alike
import GenWalk.Proofs.Traversal.Changing
import GenWalk.Proofs.Traversal.Course
import GenWalk.Proofs.Traversal.Diary
import GenWalk.Proofs.Traversal.Eligible
import GenWalk.Proofs.Traversal.Itinerary
import GenWalk.Proofs.Traversal.Keeping
import GenWalk.Proofs.Traversal.Nameable
import GenWalk.Proofs.Traversal.Names
import GenWalk.Proofs.Traversal.Outside
import GenWalk.Proofs.Traversal.Place
import GenWalk.Proofs.Traversal.Snapshot
import GenWalk.Proofs.Traversal.Spoiling
import GenWalk.Proofs.Traversal.Tour
import GenWalk.Proofs.Walk.Abreast
import GenWalk.Proofs.Walk.Alike
import GenWalk.Proofs.Walk.Balance
import GenWalk.Proofs.Walk.Conclusion
import GenWalk.Proofs.Walk.Deed
import GenWalk.Proofs.Walk.Handing
import GenWalk.Proofs.Walk.Inherited
import GenWalk.Proofs.Walk.Invariant
import GenWalk.Proofs.Walk.Preview
import GenWalk.Proofs.Walk.Pruned
import GenWalk.Proofs.Walk.Staged
import GenWalk.Proofs.Walk.Step
import GenWalk.Proofs.Walk.Watched
import GenWalk.Receipt
import GenWalk.Script.Arithmetic
import GenWalk.Script.Basic
import GenWalk.Script.Builtin
import GenWalk.Script.Builtin.Course
import GenWalk.Script.Builtin.Variables
import GenWalk.Script.Expansion
import GenWalk.Script.Pattern
import GenWalk.Script.Reader
import GenWalk.Script.Reader.Word
import GenWalk.Script.Run
import GenWalk.Script.Shell
import GenWalk.Settings
import GenWalk.Template
import GenWalk.Text.Basic
import GenWalk.Text.Blank
import GenWalk.Text.ByteRange
import GenWalk.Text.DecimalDigit
import GenWalk.Text.Likeness
import GenWalk.Text.Lower
import GenWalk.Text.Printable
import GenWalk.Text.Quoted
import GenWalk.Text.Scan
import GenWalk.Text.Utf8
import GenWalk.Traversal
import GenWalk.Validation
import GenWalk.Value
import GenWalk.Walk
import GenWalk.Yaml.Cursor
import GenWalk.Yaml.Document
import GenWalk.Yaml.Fault
import GenWalk.Yaml.Node
import GenWalk.Yaml.Quotation
import GenWalk.Yaml.Scalar
import GenWalk.Yaml.Token
import GenWalk.Yaml.Token.Lexer
import GenWalk.Yaml.Token.Word
