import RecordSql.Derive.Code
import RecordSql.Engine.Script
import RecordSql.Proofs.Calendar.Instant
import RecordSql.Proofs.Connection.Addressing
import RecordSql.Proofs.Connection.Atomic
import RecordSql.Proofs.Connection.Batches
import RecordSql.Proofs.Connection.Failures
import RecordSql.Proofs.Connection.ForeignKeys
import RecordSql.Proofs.Connection.Opening
import RecordSql.Proofs.Connection.Retries
import RecordSql.Proofs.Derive.Expansion
import RecordSql.Proofs.Json.Stability
import RecordSql.Proofs.Reading.Trees
import RecordSql.Proofs.Scalar
import RecordSql.Proofs.Session.Built
import RecordSql.Proofs.Session.Denoting
import RecordSql.Proofs.Session.Filtered
import RecordSql.Proofs.Session.FirstError
import RecordSql.Proofs.Session.Interleaving
import RecordSql.Proofs.Session.Iteration
import RecordSql.Proofs.Session.Lists
import RecordSql.Proofs.Session.Ownership
import RecordSql.Proofs.Session.Transcript
import RecordSql.Proofs.Statement.Keys
import RecordSql.Proofs.Statement.Literals
import RecordSql.Proofs.Statement.Nested
import RecordSql.Proofs.Statement.Requirements
import RecordSql.Proofs.Statement.Sentences
import RecordSql.Proofs.Statement.Upserts
import RecordSql.Proofs.Table.Declaration
import RecordSql.Proofs.Table.Nullability
import RecordSql.Proofs.Table.Rows
import RecordSql.Session.Run
