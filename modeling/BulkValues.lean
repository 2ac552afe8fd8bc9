import BulkValues.Batch.Execute
import BulkValues.Batch.Script
import BulkValues.Batch.Tuple
import BulkValues.Cache.Basic
import BulkValues.Cache.Key
import BulkValues.Cache.Step
import BulkValues.Calendar.Basic
import BulkValues.Calendar.Text
import BulkValues.CommandLine.Arguments
import BulkValues.CommandLine.Help
import BulkValues.CommandLine.Run
import BulkValues.ConnectionConfig
import BulkValues.Error
import BulkValues.Fields
import BulkValues.FileTree
import BulkValues.Json.Basic
import BulkValues.Json.Known
import BulkValues.Json.Printer
import BulkValues.Json.Reader
import BulkValues.Literal.Basic
import BulkValues.Main
import BulkValues.Number.BigEndian
import BulkValues.Number.Binary
import BulkValues.Number.Reader
import BulkValues.Number.Rounded
import BulkValues.Number.Shortest
import BulkValues.Number.Style
import BulkValues.Params
import BulkValues.Pool.Basic
import BulkValues.Pool.Config
import BulkValues.Pool.Schedule
import BulkValues.Pool.Stats
import BulkValues.Pool.Step
import BulkValues.Postgres.Cell
import BulkValues.Postgres.ColumnType
import BulkValues.Postgres.Connect
import BulkValues.Postgres.Numeric
import BulkValues.Postgres.Parameter
import BulkValues.Postgres.Pem
import BulkValues.Postgres.Report
import BulkValues.Postgres.Server
import BulkValues.Postgres.Session
import BulkValues.Postgres.Tls
import BulkValues.Proofs.Batch.Dump
import BulkValues.Proofs.Batch.Ending
import BulkValues.Proofs.Batch.Paging
import BulkValues.Proofs.Cache.Answers
import BulkValues.Proofs.Cache.Closing
import BulkValues.Proofs.Cache.Keys
import BulkValues.Proofs.Cache.Serving
import BulkValues.Proofs.Cache.Sharing
import BulkValues.Proofs.Json.Steady
import BulkValues.Proofs.Literal.Decoding
import BulkValues.Proofs.Params
import BulkValues.Proofs.Pool.Closing
import BulkValues.Proofs.Pool.Freshness
import BulkValues.Proofs.Pool.Obtainable
import BulkValues.Proofs.Postgres.Binding
import BulkValues.Proofs.Postgres.BlankParameters
import BulkValues.Proofs.Postgres.CastScope
import BulkValues.Proofs.Postgres.CellForm
import BulkValues.Proofs.Postgres.Exclusive
import BulkValues.Proofs.Postgres.NumericLiteral
import BulkValues.Proofs.Postgres.NumericScale
import BulkValues.Proofs.Postgres.NumericValue
import BulkValues.Proofs.Postgres.NumericWords
import BulkValues.Proofs.Postgres.UrlReadBack
import BulkValues.Proofs.Record.Adapting
import BulkValues.Proofs.Record.Rows
import BulkValues.Proofs.Registry
import BulkValues.Proofs.Row
import BulkValues.Proofs.Settings.Conninfo
import BulkValues.Proofs.Site.Splicing
import BulkValues.Proofs.Sqlite.AffectedRows
import BulkValues.Proofs.Sqlite.AllOrNothing
import BulkValues.Proofs.Sqlite.Handles
import BulkValues.Proofs.Sqlite.Journal
import BulkValues.Proofs.Sqlite.Literals
import BulkValues.Proofs.Sqlite.PathSetting
import BulkValues.Proofs.Template.Canonical
import BulkValues.Proofs.Template.Enclosed
import BulkValues.Proofs.Template.Markers
import BulkValues.Proofs.Tuple.Contained
import BulkValues.Proofs.Tuple.Lookup
import BulkValues.Proofs.Value.Tagged
import BulkValues.Record.Basic
import BulkValues.Record.Document
import BulkValues.Registry
import BulkValues.Row
import BulkValues.Settings.Node
import BulkValues.Settings.Section
import BulkValues.Site
import BulkValues.Sqlite.Affinity
import BulkValues.Sqlite.Batch
import BulkValues.Sqlite.Connect
import BulkValues.Sqlite.Constant
import BulkValues.Sqlite.Engine
import BulkValues.Sqlite.Items
import BulkValues.Sqlite.Lexeme
import BulkValues.Sqlite.Path
import BulkValues.Sqlite.Session
import BulkValues.Sqlite.Statement
import BulkValues.Sqlite.Stored
import BulkValues.Table
import BulkValues.Template.Basic
import BulkValues.Template.Cast
import BulkValues.Text.Blank
import BulkValues.Text.Cased
import BulkValues.Text.Hex
import BulkValues.Text.Lowercase
import BulkValues.Text.Ranges
import BulkValues.Text.Width
import BulkValues.Text.Word
import BulkValues.Toml.Basic
import BulkValues.Toml.Document
import BulkValues.Toml.Scalar
import BulkValues.Uuid
import BulkValues.Value.Basic
import BulkValues.Value.Display
import BulkValues.Value.Json
import BulkValues.Value.Tagged
