import ChartManifests.Calendar
import ChartManifests.Calendar.Clock
import ChartManifests.Command
import ChartManifests.CommandLine.Arguments
import ChartManifests.CommandLine.Task
import ChartManifests.CommandLine.Tool
import ChartManifests.Config
import ChartManifests.Config.Defaults
import ChartManifests.Config.Document
import ChartManifests.Failure
import ChartManifests.Generator
import ChartManifests.Helm
import ChartManifests.Host.Entry
import ChartManifests.Host.FileFault
import ChartManifests.Host.Files
import ChartManifests.Host.Mode
import ChartManifests.Host.Ordinary
import ChartManifests.Log
import ChartManifests.Main
import ChartManifests.Number.Double
import ChartManifests.Number.Numeral
import ChartManifests.Number.Places
import ChartManifests.Number.Shortest
import ChartManifests.Number.Whole
import ChartManifests.Path
import ChartManifests.Program.Assigning
import ChartManifests.Program.Beginning
import ChartManifests.Program.Builtin
import ChartManifests.Program.Builtin.Place
import ChartManifests.Program.Builtin.Plain
import ChartManifests.Program.Builtin.Reading
import ChartManifests.Program.Builtin.Settings
import ChartManifests.Program.Builtin.Signals
import ChartManifests.Program.Calculation
import ChartManifests.Program.Condition
import ChartManifests.Program.Enclosing
import ChartManifests.Program.Escape
import ChartManifests.Program.Field
import ChartManifests.Program.Home
import ChartManifests.Program.Interpreter
import ChartManifests.Program.Items
import ChartManifests.Program.Machine
import ChartManifests.Program.Parameter
import ChartManifests.Program.PathPattern
import ChartManifests.Program.Printing
import ChartManifests.Program.Requoting
import ChartManifests.Program.Rich.Basic
import ChartManifests.Program.Rich.Beginning
import ChartManifests.Program.Rich.Declaring
import ChartManifests.Program.Rich.Directories
import ChartManifests.Program.Rich.Expansion
import ChartManifests.Program.Rich.Meaning
import ChartManifests.Program.Rich.Means
import ChartManifests.Program.Rich.Options
import ChartManifests.Program.Rich.Performing
import ChartManifests.Program.Rich.Plain
import ChartManifests.Program.Rich.Reading
import ChartManifests.Program.Rich.Redirecting
import ChartManifests.Program.Rich.Running
import ChartManifests.Program.Rich.Signals
import ChartManifests.Program.Rich.Testing
import ChartManifests.Program.Ruled.Evaluation
import ChartManifests.Program.Ruled.Store
import ChartManifests.Program.Ruled.Streams
import ChartManifests.Program.Run
import ChartManifests.Program.Scheduler
import ChartManifests.Program.Search
import ChartManifests.Program.Signal
import ChartManifests.Program.State
import ChartManifests.Program.Substitution
import ChartManifests.Program.Transfer
import ChartManifests.Program.Transformation
import ChartManifests.Program.Utility
import ChartManifests.Program.Utility.Basic
import ChartManifests.Program.Utility.Bytes
import ChartManifests.Program.Utility.Columns
import ChartManifests.Program.Utility.Copying
import ChartManifests.Program.Utility.Editing
import ChartManifests.Program.Utility.Editing.Script
import ChartManifests.Program.Utility.Finding
import ChartManifests.Program.Utility.Launch
import ChartManifests.Program.Utility.Lines
import ChartManifests.Program.Utility.Listing
import ChartManifests.Program.Utility.Matching
import ChartManifests.Program.Utility.Naming
import ChartManifests.Program.Utility.Order
import ChartManifests.Program.Utility.Ruled
import ChartManifests.Program.Utility.Sum
import ChartManifests.Program.Utility.Tree
import ChartManifests.Proofs.Action
import ChartManifests.Proofs.CommandLine.Orders
import ChartManifests.Proofs.CommandLine.Tool
import ChartManifests.Proofs.Config.Blanks
import ChartManifests.Proofs.Config.Containment
import ChartManifests.Proofs.Config.Defaults
import ChartManifests.Proofs.Config.Entries
import ChartManifests.Proofs.Config.Faults
import ChartManifests.Proofs.Config.Grammar
import ChartManifests.Proofs.Config.Labels
import ChartManifests.Proofs.Config.Restated
import ChartManifests.Proofs.Config.RoundTrip
import ChartManifests.Proofs.Generator.Apart
import ChartManifests.Proofs.Generator.Attribution
import ChartManifests.Proofs.Generator.Company
import ChartManifests.Proofs.Generator.Course
import ChartManifests.Proofs.Generator.Lifecycle
import ChartManifests.Proofs.Generator.Objects
import ChartManifests.Proofs.Generator.Pipeline
import ChartManifests.Proofs.Generator.Presence
import ChartManifests.Proofs.Generator.Settling
import ChartManifests.Proofs.Generator.Shelter
import ChartManifests.Proofs.Generator.Stage
import ChartManifests.Proofs.Helm
import ChartManifests.Proofs.Helm.Gate
import ChartManifests.Proofs.Helm.Isolation
import ChartManifests.Proofs.Helm.Options
import ChartManifests.Proofs.Helm.Words
import ChartManifests.Proofs.Host.Paths
import ChartManifests.Proofs.Host.Places
import ChartManifests.Proofs.Host.Unlinked
import ChartManifests.Proofs.Host.Writing
import ChartManifests.Proofs.Number.Rounding
import ChartManifests.Proofs.Path
import ChartManifests.Proofs.Program.Machine
import ChartManifests.Proofs.Resolve
import ChartManifests.Proofs.Result
import ChartManifests.Proofs.Rules.Fields
import ChartManifests.Proofs.Runner.Endings
import ChartManifests.Proofs.Runner.Launch
import ChartManifests.Proofs.Runner.Turns
import ChartManifests.Proofs.Shell.Pattern
import ChartManifests.Proofs.Text.Base64
import ChartManifests.Proofs.Text.ByteForm
import ChartManifests.Proofs.Text.Decoding
import ChartManifests.Proofs.Text.Expression
import ChartManifests.Proofs.Text.Expression.Reader
import ChartManifests.Proofs.Text.ShellWords
import ChartManifests.Proofs.Text.Utf8
import ChartManifests.Proofs.Trace
import ChartManifests.Proofs.Version
import ChartManifests.Proofs.WorkingDirectory
import ChartManifests.Proofs.Yaml.Reading
import ChartManifests.Proofs.Yaml.Stream
import ChartManifests.Resolve
import ChartManifests.Rules.Datum
import ChartManifests.Rules.Fields
import ChartManifests.Rules.Format
import ChartManifests.Rules.Grammar
import ChartManifests.Rules.Items
import ChartManifests.Rules.Reader
import ChartManifests.Rules.Spelling
import ChartManifests.Rules.Token
import ChartManifests.Runner
import ChartManifests.Runner.Canned
import ChartManifests.Runner.Subprocess
import ChartManifests.Shell.Arithmetic
import ChartManifests.Shell.Brace
import ChartManifests.Shell.Calculation
import ChartManifests.Shell.Cursor
import ChartManifests.Shell.Display
import ChartManifests.Shell.Document
import ChartManifests.Shell.Escaped
import ChartManifests.Shell.Grammar
import ChartManifests.Shell.Pattern
import ChartManifests.Shell.Reader
import ChartManifests.Text.Base64
import ChartManifests.Text.ByteForm
import ChartManifests.Text.CharacterClass
import ChartManifests.Text.CodePoint
import ChartManifests.Text.Expression
import ChartManifests.Text.Expression.Reader
import ChartManifests.Text.LowerCase
import ChartManifests.Text.NameForm
import ChartManifests.Text.Printable
import ChartManifests.Text.Quoted
import ChartManifests.Text.ShellWords
import ChartManifests.Text.Split
import ChartManifests.Text.Utf16
import ChartManifests.Text.Utf8
import ChartManifests.Trace
import ChartManifests.Value
import ChartManifests.Value.Display
import ChartManifests.Value.Key
import ChartManifests.Version
import ChartManifests.WorkingDirectory
import ChartManifests.World
import ChartManifests.Yaml.Construction
import ChartManifests.Yaml.Cursor
import ChartManifests.Yaml.Fault
import ChartManifests.Yaml.Form
import ChartManifests.Yaml.Graph
import ChartManifests.Yaml.Graph.Reader
import ChartManifests.Yaml.Scalar
import ChartManifests.Yaml.Stream
import ChartManifests.Yaml.Timestamp
import ChartManifests.Yaml.Token
import ChartManifests.Yaml.Token.Block
import ChartManifests.Yaml.Token.Scalar
import ChartManifests.Yaml.Token.Stream
