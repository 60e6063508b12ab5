import BootLayer.CommandLine.Arguments
import BootLayer.CommandLine.Command
import BootLayer.CommandLine.Execute
import BootLayer.CommandLine.Process
import BootLayer.CommandLine.Style
import BootLayer.Config
import BootLayer.Entries
import BootLayer.Environment
import BootLayer.Error
import BootLayer.FileTree
import BootLayer.Handle
import BootLayer.Host
import BootLayer.Json
import BootLayer.Json.Numeral
import BootLayer.Json.Printer
import BootLayer.Json.Reader
import BootLayer.Main
import BootLayer.Merge
import BootLayer.Number.Decimal
import BootLayer.Number.Double
import BootLayer.Number.Hexadecimal
import BootLayer.Number.Layout
import BootLayer.Number.Reader
import BootLayer.Number.Shortest
import BootLayer.Primitives
import BootLayer.Primitives.Recorder
import BootLayer.Primitives.Request
import BootLayer.Shell
import BootLayer.Shell.Arithmetic
import BootLayer.Shell.Builtin
import BootLayer.Shell.Condition
import BootLayer.Shell.Expansion
import BootLayer.Shell.Field
import BootLayer.Shell.Format
import BootLayer.Shell.Interpreter
import BootLayer.Shell.Name
import BootLayer.Shell.Numeral
import BootLayer.Shell.Pattern
import BootLayer.Shell.Reader
import BootLayer.Shell.Redirection
import BootLayer.Shell.Regex
import BootLayer.Shell.Script
import BootLayer.Shell.Session
import BootLayer.Shell.Signal
import BootLayer.Shell.Utility
import BootLayer.Shell.Utility.Basic
import BootLayer.Shell.Utility.Batch
import BootLayer.Shell.Utility.Dump
import BootLayer.Shell.Utility.Editor
import BootLayer.Shell.Utility.Editor.Program
import BootLayer.Shell.Utility.Expression
import BootLayer.Shell.Utility.Files
import BootLayer.Shell.Utility.Lines
import BootLayer.Shell.Utility.Produce
import BootLayer.Shell.Utility.Search
import BootLayer.Shell.Utility.Stream
import BootLayer.Shell.Utility.Translate
import BootLayer.Shell.Utility.Walk
import BootLayer.Text.Blank
import BootLayer.Text.Hex
import BootLayer.Text.Latin1
import BootLayer.Text.Quoted
import BootLayer.Text.Utf8
import BootLayer.Toml
import BootLayer.Toml.Quoted
import BootLayer.Toml.Reader
import BootLayer.Toml.Scalar
import BootLayer.Toml.Writer
import BootLayer.Value
import BootLayer.Value.Display
import BootLayer.Value.Equality
import BootLayer.Value.Tag
import BootLayer.World
import BootLayer.Proofs.Run
import BootLayer.Proofs.Dispatch
import BootLayer.Proofs.Decimal
import BootLayer.Proofs.NumberText
import BootLayer.Proofs.Hex
import BootLayer.Proofs.Packing
import BootLayer.Proofs.PrintedDouble
import BootLayer.Proofs.Store
import BootLayer.Proofs.IntegerText
import BootLayer.Proofs.JsonTree
import BootLayer.Proofs.JsonScalar
import BootLayer.Proofs.Insertion
import BootLayer.Proofs.JsonText
import BootLayer.Proofs.FrontEnd
import BootLayer.Proofs.Effects
import BootLayer.Proofs.Detection
import BootLayer.Proofs.PathText
import BootLayer.Proofs.Search
import BootLayer.Proofs.TomlText
import BootLayer.Proofs.ConfigText
import BootLayer.Proofs.Lookup
import BootLayer.Proofs.Merge
import BootLayer.Proofs.Nearest
import BootLayer.Proofs.HexadecimalText
import BootLayer.Proofs.Join
import BootLayer.Proofs.Failures
import BootLayer.Proofs.RoundingError
import BootLayer.Proofs.Equality
import BootLayer.Proofs.Interchange
import BootLayer.Proofs.Scaling
import BootLayer.Proofs.JsonDouble
import BootLayer.Proofs.JsonDrift
import BootLayer.Proofs.Utf8
import BootLayer.Proofs.FileText
import BootLayer.Proofs.DecimalText
import BootLayer.Proofs.PackedDouble
import BootLayer.Proofs.Options
import BootLayer.Proofs.Payload
import BootLayer.Proofs.WrittenLine
import BootLayer.Proofs.Transport
import BootLayer.Proofs.Assignment
