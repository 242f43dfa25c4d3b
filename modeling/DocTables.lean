import DocTables.Calendar
import DocTables.Model
import DocTables.CommandLine.Run
import DocTables.Main
import DocTables.Query.Call
import DocTables.Query.Execution
import DocTables.Storage.Script
import DocTables.Proofs.Migration.CheckedNames
import DocTables.Proofs.Migration.Classification
import DocTables.Proofs.Migration.ColumnIdentity
import DocTables.Proofs.Migration.Convergence
import DocTables.Proofs.Migration.CopyBeforeDrop
import DocTables.Proofs.Migration.CrashSafety
import DocTables.Proofs.Migration.DryRun
import DocTables.Proofs.Migration.Indexes
import DocTables.Proofs.Migration.Recovery
import DocTables.Proofs.Query.Accumulation
import DocTables.Proofs.Query.Expressibility
import DocTables.Proofs.Query.Finalization
import DocTables.Proofs.Query.Grammar
import DocTables.Proofs.Query.Meaning
import DocTables.Proofs.Query.Paging
import DocTables.Proofs.Query.PendingField
import DocTables.Proofs.Query.QueryByExample
import DocTables.Proofs.Query.Representation
import DocTables.Proofs.Query.RoundTrip
import DocTables.Proofs.Query.StatementRoundTrip
import DocTables.Proofs.Schema.DefinitionRoundTrip
import DocTables.Proofs.Migration.Batches
import DocTables.Proofs.Query.Insertion
import DocTables.Proofs.Migration.CopyShape
import DocTables.Proofs.Migration.Additions
import DocTables.Proofs.Query.ComparedFields
import DocTables.Proofs.Query.Membership
import DocTables.Proofs.Query.CallOrder
import DocTables.Proofs.Query.Execution
import DocTables.Proofs.Query.Creation
import DocTables.Proofs.Schema.PropertySet
import DocTables.Proofs.Schema.Declaration
import DocTables.Proofs.Calendar.Date
import DocTables.Proofs.Calendar.Instant
import DocTables.Proofs.Name.Grammar
import DocTables.Proofs.Query.Sorting
import DocTables.Proofs.Migration.LiveMetadata
