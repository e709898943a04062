import RecordSql.Value
import RecordSql.Text.Quoted

/-! What can go wrong, by cause, and the wording of each. -/

namespace RecordSql

inductive SchemaError where
  | duplicateTable (table : String)
  | duplicateRecordType (recordType : String)
  | emptyTable (table : String)
  | duplicateColumn (table column : String)
  | multiplePrimaryKeys (table : String)
  | missingPrimaryKey (table : String)
  | invalidAutoincrement (table column : String)
  | unknownReferencedTable (table column referenced : String)
  | unknownReferencedColumn (table column referencedTable referencedColumn : String)
  | unknownTable (table : String)
  | unknownColumn (place column : String)
  | ambiguousColumn (column : String)
deriving DecidableEq

namespace SchemaError

/-- The place of an unknown column is given in its own quotes, since it can be several sources. -/
def message : SchemaError → String
  | .duplicateTable t => "table " ++ quoted t ++ " is declared more than once"
  | .duplicateRecordType r => "record type " ++ quoted r ++ " is mapped by more than one table"
  | .emptyTable t => "table " ++ quoted t ++ " declares no columns"
  | .duplicateColumn t c =>
    "column " ++ quoted c ++ " is declared more than once in table " ++ quoted t
  | .multiplePrimaryKeys t => "table " ++ quoted t ++ " declares more than one primary key"
  | .missingPrimaryKey t => "table " ++ quoted t ++ " has no primary key"
  | .invalidAutoincrement t c =>
    "column " ++ qualified t c ++ " uses AUTOINCREMENT but is not an INTEGER PRIMARY KEY"
  | .unknownReferencedTable t c r =>
    "foreign key " ++ qualified t c ++ " references unknown table " ++ quoted r
  | .unknownReferencedColumn t c r rc =>
    "foreign key " ++ qualified t c ++ " references unknown column " ++ qualified r rc
  | .unknownTable t => "table " ++ quoted t ++ " is not part of this query"
  | .unknownColumn place c => "no column " ++ quoted c ++ " in " ++ place
  | .ambiguousColumn c => "column " ++ quoted c ++ " is ambiguous in this query"

end SchemaError

inductive Error where
  | schema (fault : SchemaError)
  | typeMismatch (column : String) (expected : StorageClass) (found : String)
  | notFound (detail : String)
  | prepare (sql detail : String)
  | step (detail : String)
  | uniqueViolation (detail : String)
  | foreignKeyViolation (detail : String)
  | notNullViolation (detail : String)
  | connection (detail : String)
  | validation (detail : String)
  | serialization (detail : String)
deriving DecidableEq

namespace Error

def message : Error → String
  | .schema fault => "Schema error: " ++ fault.message
  | .typeMismatch column expected found =>
    "Type mismatch on column '" ++ column ++ "': expected " ++ expected.sql ++ ", found " ++ found
  | .notFound detail => "Not found: " ++ detail
  | .prepare sql detail => "Prepare error: " ++ detail ++ " (sql: " ++ sql ++ ")"
  | .step detail => "Step error: " ++ detail
  | .uniqueViolation detail => "Unique constraint violation: " ++ detail
  | .foreignKeyViolation detail => "Foreign key violation: " ++ detail
  | .notNullViolation detail => "Not null violation: " ++ detail
  | .connection detail => "Connection error: " ++ detail
  | .validation detail => "Validation error: " ++ detail
  | .serialization detail => "Serialization error: " ++ detail

def mismatch (column : String) (expected : StorageClass) (found : Value) : Error :=
  .typeMismatch column expected found.typeName

def isUniqueViolation : Error → Bool
  | .uniqueViolation _ => true
  | _ => false

def isNotFound : Error → Bool
  | .notFound _ => true
  | _ => false

def isTypeMismatch : Error → Bool
  | .typeMismatch .. => true
  | _ => false

def schemaFault? : Error → Option SchemaError
  | .schema fault => some fault
  | _ => none

end Error

inductive EngineFailure where
  | code (extended : Int) (detail : Option String)
  | noRows
  | notReadOnly
  | noColumnAt (index : Nat)
  | noColumnNamed (name : String)
deriving DecidableEq

namespace EngineFailure

/-- Result codes and the engine's text for each. The low eight bits of a code are the kind of
failure. -/
def codeTexts : List (Int × String) :=
  [(0, "Successful result"), (1, "SQL error or missing database"),
   (2, "Internal logic error in SQLite"), (3, "Access permission denied"),
   (4, "Callback routine requested an abort"), (5, "The database file is locked"),
   (6, "A table in the database is locked"), (7, "A malloc() failed"),
   (8, "Attempt to write a readonly database"),
   (9, "Operation terminated by sqlite3_interrupt()"),
   (10, "Some kind of disk I/O error occurred"), (11, "The database disk image is malformed"),
   (12, "Unknown opcode in sqlite3_file_control()"),
   (13, "Insertion failed because database is full"), (14, "Unable to open the database file"),
   (15, "Database lock protocol error"), (16, "Database is empty"),
   (17, "The database schema changed"), (18, "String or BLOB exceeds size limit"),
   (19, "Abort due to constraint violation"), (20, "Data type mismatch"),
   (21, "Library used incorrectly"), (22, "Uses OS features not supported on host"),
   (23, "Authorization denied"), (24, "Auxiliary database format error"),
   (25, "2nd parameter to sqlite3_bind out of range"),
   (26, "File opened that is not a database file"), (27, "Notifications from sqlite3_log()"),
   (28, "Warnings from sqlite3_log()"), (100, "sqlite3_step() has another row ready"),
   (101, "sqlite3_step() has finished executing"), (257, "SQLITE_ERROR_MISSING_COLLSEQ"),
   (513, "SQLITE_ERROR_RETRY"), (769, "SQLITE_ERROR_SNAPSHOT"),
   (516, "Transaction was rolled back"),
   (261, "Another process is recovering a WAL mode database file"),
   (517, "Cannot promote read transaction to write transaction because of writes by another connection"),
   (773, "SQLITE_BUSY_TIMEOUT"),
   (262, "Locking conflict due to another connection with a shared cache"),
   (518, "SQLITE_LOCKED_VTAB"),
   (264, "WAL mode database file needs recovery (requires write access)"),
   (520, "Shared-memory file associated with WAL mode database is read-only"),
   (776, "Database has hot journal that must be rolled back (requires write access)"),
   (1032, "Database cannot be modified because database file has moved"),
   (1288, "SQLITE_READONLY_CANTINIT"), (1544, "SQLITE_READONLY_DIRECTORY"),
   (266, "Error reading from disk"),
   (522, "Unable to obtain number of requested bytes (file truncated?)"),
   (778, "Error writing to disk"), (1034, "Error flushing data to persistent storage (fsync)"),
   (1290, "Error calling fsync on a directory"), (1546, "Error attempting to truncate file"),
   (1802, "Error invoking fstat to get file metadata"),
   (2058, "I/O error within xUnlock of a VFS object"),
   (2314, "I/O error within xLock of a VFS object (trying to obtain a read lock)"),
   (2570, "I/O error within xDelete of a VFS object"), (2826, "SQLITE_IOERR_BLOCKED"),
   (3082, "Out of memory in I/O layer"), (3338, "I/O error within xAccess of a VFS object"),
   (3594, "I/O error within then xCheckReservedLock method"),
   (3850, "I/O error in the advisory file locking layer"),
   (4106, "I/O error within the xClose method"), (4362, "SQLITE_IOERR_DIR_CLOSE"),
   (4618, "I/O error within the xShmMap method (trying to open a new shared-memory segment)"),
   (4874, "I/O error within the xShmMap method (trying to resize an existing shared-memory segment)"),
   (5130, "SQLITE_IOERR_SHMLOCK"),
   (5386, "I/O error within the xShmMap method (trying to map a shared-memory segment into process address space)"),
   (5642, "I/O error within the xRead or xWrite (trying to seek within a file)"),
   (5898, "File being deleted does not exist"),
   (6154, "I/O error while trying to map or unmap part of the database file into process address space"),
   (6410, "VFS is unable to determine suitable directory for temporary files"),
   (6666, "cygwin_conv_path() system call failed"), (6922, "SQLITE_IOERR_VNODE"),
   (7178, "SQLITE_IOERR_AUTH"), (7434, "SQLITE_IOERR_BEGIN_ATOMIC"),
   (7690, "SQLITE_IOERR_COMMIT_ATOMIC"), (7946, "SQLITE_IOERR_ROLLBACK_ATOMIC"),
   (8202, "SQLITE_IOERR_DATA"), (8458, "SQLITE_IOERR_CORRUPTFS"), (8714, "SQLITE_IOERR_IN_PAGE"),
   (267, "Content in the virtual table is corrupt"), (523, "SQLITE_CORRUPT_SEQUENCE"),
   (779, "SQLITE_CORRUPT_INDEX"), (270, "SQLITE_CANTOPEN_NOTEMPDIR"),
   (526, "Attempted to open directory as file"),
   (782, "Unable to convert filename into full pathname"),
   (1038, "cygwin_conv_path() system call failed"), (1550, "SQLITE_CANTOPEN_SYMLINK"),
   (275, "A CHECK constraint failed"), (531, "Commit hook caused rollback"),
   (787, "Foreign key constraint failed"), (1043, "Error returned from extension function"),
   (1299, "A NOT NULL constraint failed"), (1555, "A PRIMARY KEY constraint failed"),
   (1811, "A RAISE function within a trigger fired"), (2067, "A UNIQUE constraint failed"),
   (2323, "An application-defined virtual table error occurred"),
   (2579, "A non-unique rowid occurred"), (2835, "SQLITE_CONSTRAINT_PINNED"),
   (3091, "SQLITE_CONSTRAINT_DATATYPE"), (279, "SQLITE_AUTH_USER"),
   (283, "A WAL mode database file was recovered"), (539, "Hot journal was rolled back"),
   (795, "SQLITE_NOTICE_RBU"),
   (284, "Automatic indexing used - database might benefit from additional indexes")]

def codeText (extended : Int) : String :=
  ((codeTexts.find? (·.1 = extended)).map (·.2)).getD "Unknown error code"

def detail : EngineFailure → String
  | .code _ (some own) => own
  | .code extended none => "Error code " ++ toString extended ++ ": " ++ codeText extended
  | .noRows => "Query returned no rows"
  | .notReadOnly => "Query is not read-only"
  | .noColumnAt index => "Invalid column index: " ++ toString index
  | .noColumnNamed name => "Invalid column name: " ++ name

def toError (f : EngineFailure) : Error :=
  match f with
  | .code extended _ =>
    if extended = 2067 ∨ extended = 1555 then .uniqueViolation f.detail
    else if extended = 787 then .foreignKeyViolation f.detail
    else if extended = 1299 then .notNullViolation f.detail
    else .step f.detail
  | _ => .step f.detail

end EngineFailure

end RecordSql
