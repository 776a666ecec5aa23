import StagedTables.Connection.Text
import StagedTables.Entity.Row
import StagedTables.Failure.Report
import StagedTables.Filter.Query
import StagedTables.Json.Reader
import StagedTables.Json.Writer
import StagedTables.Logging.Setup
import StagedTables.Memory
import StagedTables.Redaction
import StagedTables.Session.Connect
import StagedTables.Session.Table
import StagedTables.Session.Write
import StagedTables.Settings.Manager
import StagedTables.Settings.Usual
import StagedTables.Proofs.Filter.RoundTrip
import StagedTables.Proofs.Filter.Composition
import StagedTables.Proofs.Filter.LiteralFault
import StagedTables.Proofs.Filter.Refusal
import StagedTables.Proofs.Filter.Splicing
import StagedTables.Proofs.Filter.GuidLiteral
import StagedTables.Proofs.Filter.Tiling
import StagedTables.Proofs.Filter.TextLiteral
import StagedTables.Proofs.Filter.DateTimeOffset
import StagedTables.Proofs.Table.Sharing
import StagedTables.Proofs.Session.Sequence
import StagedTables.Proofs.Session.Store
import StagedTables.Proofs.Session.Staging
import StagedTables.Proofs.Session.Writing
import StagedTables.Proofs.Session.Building
import StagedTables.Proofs.Session.Finality
import StagedTables.Proofs.Session.Querying
import StagedTables.Proofs.Session.Naming
import StagedTables.Proofs.Session.Retrying
import StagedTables.Proofs.Redaction.Secrecy
import StagedTables.Proofs.Logging.Secrecy
import StagedTables.Proofs.Settings.Reloading
import StagedTables.Proofs.Logging.Levels
import StagedTables.Proofs.Redaction.Repetition
import StagedTables.Proofs.Settings.Merging
import StagedTables.Proofs.Session.Answering
import StagedTables.Proofs.Session.Batching
import StagedTables.Proofs.Redaction.Segments
import StagedTables.Proofs.Entity.DateTimeProperty
import StagedTables.Proofs.Filter.Interchange
import StagedTables.Proofs.Filter.Recasing
