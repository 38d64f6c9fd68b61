import Assay.CommandLine.Help
import Assay.CommandLine.Likeness
import Assay.CommandLine.Parser
import Assay.CommandLine.Setting
import Assay.CommandLine.Stop
import Assay.Diagnostic
import Assay.Execution
import Assay.Files
import Assay.Files.Tree
import Assay.Footprint
import Assay.Golden.Config
import Assay.Golden.Run
import Assay.IoError
import Assay.IoError.Kind
import Assay.IoError.Numbered
import Assay.Kernel.Image
import Assay.Kernel.Limit
import Assay.Kernel.Request
import Assay.Kernel.Schedule
import Assay.Kernel.Service
import Assay.Kernel.Signal
import Assay.Kernel.Task
import Assay.Kernel.World
import Assay.Log
import Assay.Log.Directive
import Assay.Log.Filter
import Assay.Log.ValuePattern
import Assay.Machine
import Assay.Machine.Layout
import Assay.Main
import Assay.Manifest
import Assay.Outcome
import Assay.Path
import Assay.Process
import Assay.Program
import Assay.Replay
import Assay.RunError
import Assay.Selection
import Assay.Session
import Assay.Shell.Builtin.Condition
import Assay.Shell.Builtin.Directory
import Assay.Shell.Builtin.Input
import Assay.Shell.Builtin.Job
import Assay.Shell.Builtin.Limit
import Assay.Shell.Builtin.Name
import Assay.Shell.Builtin.Option
import Assay.Shell.Builtin.Output
import Assay.Shell.Builtin.Variable
import Assay.Shell.Evaluation
import Assay.Shell.Expansion
import Assay.Shell.Field
import Assay.Shell.Format
import Assay.Shell.Glob
import Assay.Shell.Interpreter
import Assay.Shell.Invocation
import Assay.Shell.Number
import Assay.Shell.Parser
import Assay.Shell.Reader
import Assay.Shell.Redirection
import Assay.Shell.Search
import Assay.Shell.Setting
import Assay.Shell.Sum
import Assay.Shell.Syntax
import Assay.Shell.Token
import Assay.Shell.Waiting
import Assay.Sink
import Assay.Smoke.Run
import Assay.Test
import Assay.Text.Alphanumeric
import Assay.Text.Binary64
import Assay.Text.Blank
import Assay.Text.CharClass
import Assay.Text.CharClass.Table
import Assay.Text.CharSet
import Assay.Text.Columns
import Assay.Text.Columns.Ranges
import Assay.Text.Decimal
import Assay.Text.Glyph
import Assay.Text.LineBreak
import Assay.Text.LineBreak.Class
import Assay.Text.LineBreak.Ranges
import Assay.Text.Lines
import Assay.Text.Octets
import Assay.Text.Pattern
import Assay.Text.Quoted
import Assay.Text.Ranges
import Assay.Text.Regex
import Assay.Text.Regex.Program
import Assay.Text.Utf8
import Assay.Text.Visible
import Assay.Text.Wrap
import Assay.Tool
import Assay.Tool.Alternative
import Assay.Tool.Argument
import Assay.Tool.Cat
import Assay.Tool.Chmod
import Assay.Tool.Copy
import Assay.Tool.Copy.Backup
import Assay.Tool.Copy.Plan
import Assay.Tool.Echo
import Assay.Tool.Grep
import Assay.Tool.Grep.Exclusion
import Assay.Tool.Grep.Expression
import Assay.Tool.Grep.Perl
import Assay.Tool.Grep.Search
import Assay.Tool.Mode
import Assay.Tool.Name
import Assay.Tool.Sleep
import Assay.Tool.Work
import Assay.Verdict
import Assay.Proofs.Text.Utf8
import Assay.Proofs.Printing
import Assay.Proofs.Series
import Assay.Proofs.Golden.Trial
import Assay.Proofs.Golden.Course
import Assay.Proofs.Smoke.Course
import Assay.Proofs.Truncation
import Assay.Proofs.Collection
import Assay.Proofs.Indifference
import Assay.Proofs.ExitCode
import Assay.Proofs.Chronicle
import Assay.Proofs.Golden.Chronicle
import Assay.Proofs.Smoke.Chronicle
import Assay.Proofs.Lockstep
import Assay.Proofs.Story
import Assay.Proofs.Parts
import Assay.Proofs.Golden.Sharing
import Assay.Proofs.Anchoring
import Assay.Proofs.Golden.Reading
import Assay.Proofs.Manifest.Grammar
import Assay.Proofs.Manifest.Joining
import Assay.Proofs.Reporting
import Assay.Proofs.CommandLine.Spelling
import Assay.Proofs.Golden.Precedence
import Assay.Proofs.Components
import Assay.Proofs.Text.Lossy
import Assay.Proofs.Smoke.Block
import Assay.Proofs.Text.Layout
import Assay.Proofs.Explanation
