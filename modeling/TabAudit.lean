import TabAudit.Bytes.NulReader
import TabAudit.Bytes.NulScan
import TabAudit.Bytes.Source
import TabAudit.Checker
import TabAudit.Command.Arguments
import TabAudit.Command.Check
import TabAudit.Command.Glob
import TabAudit.Command.Outcome
import TabAudit.Command.Run
import TabAudit.Config.CommaList
import TabAudit.Config.Defaults
import TabAudit.Config.Environment
import TabAudit.Config.File
import TabAudit.Config.Section
import TabAudit.Config.Settings
import TabAudit.Console.Cells
import TabAudit.Console.Emoji
import TabAudit.Console.Markup
import TabAudit.Console.Page
import TabAudit.Console.Panel
import TabAudit.Console.Terminal
import TabAudit.Console.Wrap
import TabAudit.Disk.Change
import TabAudit.Disk.Error
import TabAudit.Disk.Lookup
import TabAudit.Disk.Node
import TabAudit.Disk.Resolve
import TabAudit.Encoding.Charset
import TabAudit.Encoding.Codec
import TabAudit.Encoding.Decoder
import TabAudit.Encoding.Name
import TabAudit.Glob.Collection
import TabAudit.Glob.Pattern
import TabAudit.Glob.Token
import TabAudit.Json.Fault
import TabAudit.Json.Read
import TabAudit.Json.Write
import TabAudit.Library
import TabAudit.Log
import TabAudit.Log.Format
import TabAudit.Log.View
import TabAudit.Main
import TabAudit.Memory
import TabAudit.Number.Binary64
import TabAudit.Number.Decimal
import TabAudit.Number.Numeral
import TabAudit.Number.Shortest
import TabAudit.Path.Basic
import TabAudit.Path.Relative
import TabAudit.Path.Windows
import TabAudit.Position.Tracker
import TabAudit.Regex.Basic
import TabAudit.Regex.Text
import TabAudit.Runtime
import TabAudit.Scan.File
import TabAudit.Scan.Report
import TabAudit.Scan.Root
import TabAudit.Scan.Scanner
import TabAudit.Scan.Session
import TabAudit.Scan.Walk
import TabAudit.Terminal
import TabAudit.Text.Basic
import TabAudit.Text.Blank
import TabAudit.Text.Case
import TabAudit.Text.CharSet
import TabAudit.Text.Digit
import TabAudit.Text.Hex
import TabAudit.Text.Lines
import TabAudit.Text.Names
import TabAudit.Text.Pieces
import TabAudit.Text.Printable
import TabAudit.Text.Quoted
import TabAudit.Text.Word
import TabAudit.Value.Basic
import TabAudit.Value.Calendar
import TabAudit.Value.Display
import TabAudit.Value.Slots
import TabAudit.Value.Web
import TabAudit.Yaml.Binary
import TabAudit.Yaml.Cursor
import TabAudit.Yaml.Fault
import TabAudit.Yaml.Kind
import TabAudit.Yaml.Layout
import TabAudit.Yaml.Library
import TabAudit.Yaml.Literal
import TabAudit.Yaml.Node
import TabAudit.Yaml.Read
import TabAudit.Yaml.Scalar
import TabAudit.Yaml.Token
import TabAudit.Yaml.Write
import TabAudit.Proofs.Bytes.ZeroRun
import TabAudit.Proofs.Bytes.Reading
import TabAudit.Proofs.Bytes.Session
import TabAudit.Proofs.Disk.Tree
import TabAudit.Proofs.Glob.Acceptance
import TabAudit.Proofs.Glob.Language
import TabAudit.Proofs.Glob.Translation
import TabAudit.Proofs.Scan.Collect
import TabAudit.Proofs.Scan.Coverage
import TabAudit.Proofs.Checker
import TabAudit.Proofs.Binary
import TabAudit.Proofs.Faults
import TabAudit.Proofs.Scan.Shut
import TabAudit.Proofs.Scan.Walk
import TabAudit.Proofs.Scan.Files
import TabAudit.Proofs.Command.Settings
import TabAudit.Proofs.Log.View
import TabAudit.Proofs.Scan.Decoded
import TabAudit.Proofs.Scan.Report
import TabAudit.Proofs.Command.Told
import TabAudit.Proofs.Command.Exit
import TabAudit.Proofs.Scan.Session
import TabAudit.Proofs.Scan.Sight
import TabAudit.Proofs.Config.Validity
import TabAudit.Proofs.Number.Decimal
import TabAudit.Proofs.Json.Text
import TabAudit.Proofs.Text.Ascii
import TabAudit.Proofs.Json.RoundTrip
import TabAudit.Proofs.Yaml.Ascii
import TabAudit.Proofs.Config.RoundTrip
import TabAudit.Proofs.Position.Pieces
import TabAudit.Proofs.Bytes.Refusal
import TabAudit.Proofs.Glob.Join
import TabAudit.Proofs.Glob.Context
import TabAudit.Proofs.Glob.Separators
import TabAudit.Proofs.Glob.Spanning
import TabAudit.Proofs.Glob.Components
import TabAudit.Proofs.Glob.Escaping
import TabAudit.Proofs.Bytes.Alike
import TabAudit.Proofs.Bytes.Failure
import TabAudit.Proofs.Bytes.Closing
import TabAudit.Proofs.Bytes.Counter
import TabAudit.Proofs.Bytes.Request
import TabAudit.Proofs.Bytes.Rounds
import TabAudit.Proofs.Command.Exclusion
import TabAudit.Proofs.Config.Fields
import TabAudit.Proofs.Path.Relative
import TabAudit.Proofs.Text.Case
import TabAudit.Proofs.Path.Windows
import TabAudit.Proofs.Config.Layers
import TabAudit.Proofs.Text.Names
import TabAudit.Proofs.Terminal.Laws
import TabAudit.Proofs.Console.Emoji
import TabAudit.Proofs.Console.Markup
import TabAudit.Proofs.Console.Page
import TabAudit.Proofs.Console.Terminal
import TabAudit.Proofs.Command.Places
