import Syscat.Cache.Fetch
import Syscat.Cache.History
import Syscat.Cache.Run
import Syscat.Cache.Session
import Syscat.Cache.Task
import Syscat.Capability
import Syscat.Catalog
import Syscat.Code
import Syscat.Code.Lookup
import Syscat.Container
import Syscat.Container.Resolution
import Syscat.Definition
import Syscat.Document
import Syscat.Document.File
import Syscat.Document.Format
import Syscat.Document.ReadFailure
import Syscat.Export
import Syscat.Failure
import Syscat.Identifier
import Syscat.Json.Reader
import Syscat.Json.Writer
import Syscat.Mapping
import Syscat.Notice
import Syscat.Number.Based
import Syscat.Number.Decimal
import Syscat.Number.Double
import Syscat.Number.Exact
import Syscat.Number.Numeral
import Syscat.Proofs.Cache.Alone
import Syscat.Proofs.Cache.Clearing
import Syscat.Proofs.Cache.Copying
import Syscat.Proofs.Cache.Failing
import Syscat.Proofs.Cache.FailingTasks
import Syscat.Proofs.Cache.Faithful
import Syscat.Proofs.Cache.Fetching
import Syscat.Proofs.Cache.Laws
import Syscat.Proofs.Cache.Locks
import Syscat.Proofs.Cache.Loop
import Syscat.Proofs.Cache.Marks
import Syscat.Proofs.Cache.Memo
import Syscat.Proofs.Cache.Overlap
import Syscat.Proofs.Cache.Reentrance
import Syscat.Proofs.Cache.Replay
import Syscat.Proofs.Cache.Sharing
import Syscat.Proofs.Cache.Sparing
import Syscat.Proofs.Cache.Tasks
import Syscat.Proofs.Cache.Ways
import Syscat.Proofs.Catalog.Attribution
import Syscat.Proofs.Catalog.Described
import Syscat.Proofs.Catalog.Order
import Syscat.Proofs.Catalog.Partition
import Syscat.Proofs.Definition
import Syscat.Proofs.Document.Order
import Syscat.Proofs.Document.Stored
import Syscat.Proofs.Document.Tree
import Syscat.Proofs.Export.Dump
import Syscat.Proofs.Export.Json
import Syscat.Proofs.Export.Mapped
import Syscat.Proofs.Export.Toml
import Syscat.Proofs.Export.Yaml
import Syscat.Proofs.Json.Failures
import Syscat.Proofs.Json.Layout
import Syscat.Proofs.Json.Text
import Syscat.Proofs.Json.Tree
import Syscat.Proofs.Logged
import Syscat.Proofs.Mapping.Checks
import Syscat.Proofs.Mapping.Codes
import Syscat.Proofs.Mapping.Contents
import Syscat.Proofs.Mapping.Decided
import Syscat.Proofs.Mapping.Failures
import Syscat.Proofs.Mapping.Gating
import Syscat.Proofs.Mapping.Lenient
import Syscat.Proofs.Mapping.Octets
import Syscat.Proofs.Mapping.Scan
import Syscat.Proofs.Mapping.Source
import Syscat.Proofs.Mapping.TwoRuns
import Syscat.Proofs.Naming.Identifier
import Syscat.Proofs.Naming.Qualified
import Syscat.Proofs.Number.Based
import Syscat.Proofs.Number.Grouped
import Syscat.Proofs.Number.Numeral
import Syscat.Proofs.Results
import Syscat.Proofs.Row.Access
import Syscat.Proofs.Row.Integer
import Syscat.Proofs.Row.Lookup
import Syscat.Proofs.Row.Relation
import Syscat.Proofs.Row.Text
import Syscat.Proofs.Row.Timestamp
import Syscat.Proofs.Settings.Loaded
import Syscat.Proofs.Spelling
import Syscat.Proofs.Text.Hex
import Syscat.Proofs.Text.Lossy
import Syscat.Proofs.Text.Part
import Syscat.Proofs.Text.Sequences
import Syscat.Proofs.Text.Span
import Syscat.Proofs.Text.Utf8
import Syscat.Proofs.Time.Unreadable
import Syscat.Proofs.Toml.Body
import Syscat.Proofs.Toml.Entry
import Syscat.Proofs.Toml.Escapes
import Syscat.Proofs.Toml.Layout
import Syscat.Proofs.Toml.Levels
import Syscat.Proofs.Toml.Opened
import Syscat.Proofs.Toml.Passing
import Syscat.Proofs.Toml.Quoting
import Syscat.Proofs.Version.Dotted
import Syscat.Proofs.Version.Order
import Syscat.Proofs.Version.Trailing
import Syscat.Query
import Syscat.Record
import Syscat.Routine
import Syscat.Row
import Syscat.Settings
import Syscat.Settings.Loading
import Syscat.Signal
import Syscat.Text.Alphanumeric
import Syscat.Text.Base64
import Syscat.Text.Blank
import Syscat.Text.CharSet
import Syscat.Text.Digit
import Syscat.Text.Hex
import Syscat.Text.Part
import Syscat.Text.Printable
import Syscat.Text.Quoted
import Syscat.Text.Upper
import Syscat.Text.Utf8
import Syscat.Time.Catalog
import Syscat.Time.Fault
import Syscat.Time.Iso
import Syscat.Time.Timestamp
import Syscat.Toml.Entry
import Syscat.Toml.Lines
import Syscat.Toml.Reader
import Syscat.Toml.Simple
import Syscat.Toml.Text
import Syscat.Toml.Writer
import Syscat.Value
import Syscat.Version
import Syscat.Yaml.Content
import Syscat.Yaml.Cursor
import Syscat.Yaml.Node
import Syscat.Yaml.Reader
import Syscat.Yaml.Scalar
import Syscat.Yaml.Tag
import Syscat.Yaml.Token
import Syscat.Yaml.Writer
