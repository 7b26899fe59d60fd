import SqlMapper.Binds
import SqlMapper.Cache.Basic
import SqlMapper.Cache.Key
import SqlMapper.Client.Basic
import SqlMapper.Client.Failure
import SqlMapper.Client.Scripted
import SqlMapper.Condition.Basic
import SqlMapper.Condition.Compile
import SqlMapper.Condition.Membership
import SqlMapper.Condition.Similarity
import SqlMapper.Decimal.Extended
import SqlMapper.Decimal.Integer
import SqlMapper.Decimal.Layout
import SqlMapper.Decimal.Reading
import SqlMapper.Decimal.Shortest
import SqlMapper.Dialect.Basic
import SqlMapper.Dialect.Catalog
import SqlMapper.Dialect.MySql
import SqlMapper.Dialect.Sqlite
import SqlMapper.Digest.Sha256
import SqlMapper.Engine.Database
import SqlMapper.Engine.Execute
import SqlMapper.Engine.Maintenance
import SqlMapper.Engine.Migration
import SqlMapper.Engine.Options
import SqlMapper.Engine.Query
import SqlMapper.Engine.Reading
import SqlMapper.Engine.Registry
import SqlMapper.Engine.State
import SqlMapper.Engine.Transaction
import SqlMapper.Envelope
import SqlMapper.Error
import SqlMapper.Identifier
import SqlMapper.Json.Basic
import SqlMapper.Json.Merge
import SqlMapper.Json.Node
import SqlMapper.Json.Numeral
import SqlMapper.Json.Printer
import SqlMapper.Json.Shape
import SqlMapper.Log
import SqlMapper.OrderedMap
import SqlMapper.Placeholder
import SqlMapper.Program.Basic
import SqlMapper.Program.Run
import SqlMapper.Proofs.Binds.Edits
import SqlMapper.Proofs.Cache.Deadlines
import SqlMapper.Proofs.Cache.Freshness
import SqlMapper.Proofs.Cache.History
import SqlMapper.Proofs.Cache.Keys
import SqlMapper.Proofs.Cache.Reads
import SqlMapper.Proofs.Cache.Spellings
import SqlMapper.Proofs.Cache.Tracking
import SqlMapper.Proofs.Client.Backing
import SqlMapper.Proofs.Client.Fates
import SqlMapper.Proofs.Client.Open
import SqlMapper.Proofs.Client.Recorded
import SqlMapper.Proofs.Condition.Apart
import SqlMapper.Proofs.Condition.Belonging
import SqlMapper.Proofs.Condition.Compiling
import SqlMapper.Proofs.Condition.Conjunction
import SqlMapper.Proofs.Condition.Dangling
import SqlMapper.Proofs.Condition.Distinct
import SqlMapper.Proofs.Condition.Equalities
import SqlMapper.Proofs.Condition.Evenness
import SqlMapper.Proofs.Condition.Formula
import SqlMapper.Proofs.Condition.Freshness
import SqlMapper.Proofs.Condition.Interchange
import SqlMapper.Proofs.Condition.Lexing
import SqlMapper.Proofs.Condition.Listing
import SqlMapper.Proofs.Condition.Operands
import SqlMapper.Proofs.Condition.Origins
import SqlMapper.Proofs.Condition.Parts
import SqlMapper.Proofs.Condition.Quotes
import SqlMapper.Proofs.Condition.Rebinding
import SqlMapper.Proofs.Condition.Rewording
import SqlMapper.Proofs.Condition.Written
import SqlMapper.Proofs.Crowd.Alone
import SqlMapper.Proofs.Crowd.Basic
import SqlMapper.Proofs.Crowd.Invalidation
import SqlMapper.Proofs.Dialect.Constraints
import SqlMapper.Proofs.Dialect.Indexes
import SqlMapper.Proofs.Dialect.MySqlTables
import SqlMapper.Proofs.Dialect.Paths
import SqlMapper.Proofs.Dialect.Quoting
import SqlMapper.Proofs.Dialect.Registered
import SqlMapper.Proofs.Dialect.SqliteTables
import SqlMapper.Proofs.Engine.Frame
import SqlMapper.Proofs.Engine.Inserting
import SqlMapper.Proofs.Engine.Law
import SqlMapper.Proofs.Engine.Retrying
import SqlMapper.Proofs.Engine.Sending
import SqlMapper.Proofs.Engine.Switching
import SqlMapper.Proofs.Json.Acceptance
import SqlMapper.Proofs.Json.Envelopes
import SqlMapper.Proofs.Json.Grammar
import SqlMapper.Proofs.Json.Lexemes
import SqlMapper.Proofs.Json.Merging
import SqlMapper.Proofs.Json.Overlays
import SqlMapper.Proofs.Json.Rereading
import SqlMapper.Proofs.Json.Tokens
import SqlMapper.Proofs.Migration.Brought
import SqlMapper.Proofs.Migration.Dropping
import SqlMapper.Proofs.Migration.History
import SqlMapper.Proofs.Migration.Ledger
import SqlMapper.Proofs.Migration.Probing
import SqlMapper.Proofs.Migration.Record
import SqlMapper.Proofs.Migration.Relinquishing
import SqlMapper.Proofs.Migration.Sent
import SqlMapper.Proofs.Migration.Standing
import SqlMapper.Proofs.Migration.Step
import SqlMapper.Proofs.Migration.Trace
import SqlMapper.Proofs.Migration.Upgrading
import SqlMapper.Proofs.Migration.Vouching
import SqlMapper.Proofs.Program.Bracketing
import SqlMapper.Proofs.Program.FreshReads
import SqlMapper.Proofs.Program.Invalid
import SqlMapper.Proofs.Program.Routine
import SqlMapper.Proofs.Program.Texts
import SqlMapper.Proofs.Program.Truthful
import SqlMapper.Proofs.Registry.Fingerprint
import SqlMapper.Proofs.Registry.Handles
import SqlMapper.Proofs.Registry.Interleaving
import SqlMapper.Proofs.Registry.Separation
import SqlMapper.Proofs.Schema.Acceptance
import SqlMapper.Proofs.Schema.UpgradePaths
import SqlMapper.Proofs.Schema.WellFormed
import SqlMapper.Proofs.Select.Evaluation
import SqlMapper.Proofs.Select.Pages
import SqlMapper.Proofs.Select.Sums
import SqlMapper.Proofs.Select.Tiling
import SqlMapper.Proofs.Settings.Layering
import SqlMapper.Proofs.Settings.Saving
import SqlMapper.Proofs.Settings.Variables
import SqlMapper.Proofs.Sqlite.Fingerprints
import SqlMapper.Proofs.Sqlite.Survival
import SqlMapper.Proofs.Statement.Assignments
import SqlMapper.Proofs.Statement.Cells
import SqlMapper.Proofs.Statement.Checks
import SqlMapper.Proofs.Statement.Clauses
import SqlMapper.Proofs.Statement.Filtering
import SqlMapper.Proofs.Statement.Kinds
import SqlMapper.Proofs.Statement.Mentions
import SqlMapper.Proofs.Statement.Refusals
import SqlMapper.Proofs.Statement.Rendering
import SqlMapper.Proofs.Statement.Selections
import SqlMapper.Proofs.Statement.Writes
import SqlMapper.Proofs.Text.Scanning
import SqlMapper.Proofs.Text.Utf8
import SqlMapper.Proofs.Value.Literal
import SqlMapper.Retry
import SqlMapper.Row
import SqlMapper.Schema.Basic
import SqlMapper.Schema.Column
import SqlMapper.Schema.Record
import SqlMapper.Settings.Basic
import SqlMapper.Settings.Config
import SqlMapper.Settings.Environment
import SqlMapper.Settings.Load
import SqlMapper.Sqlite.Cell
import SqlMapper.Sqlite.FileTree
import SqlMapper.Sqlite.Numeral
import SqlMapper.Sqlite.Path
import SqlMapper.Sqlite.Store
import SqlMapper.Sqlite.Uri
import SqlMapper.Statement.Basic
import SqlMapper.Statement.Insert
import SqlMapper.Statement.Preview
import SqlMapper.Statement.Select
import SqlMapper.Statement.Targets
import SqlMapper.Statement.Update
import SqlMapper.Text.Blank
import SqlMapper.Text.CharSet
import SqlMapper.Text.Hex
import SqlMapper.Text.Keyword
import SqlMapper.Text.Lowercase
import SqlMapper.Text.Quoted
import SqlMapper.Text.Scan
import SqlMapper.Text.Split
import SqlMapper.Text.Utf8
import SqlMapper.Text.Word
import SqlMapper.Value
