import RecordSql.Error
import RecordSql.Text.Boundary

/-! The log: statements on their way to the engine, and events in the life of a connection. -/

namespace RecordSql

inductive Level where
  | error
  | warn
  | info
  | debug
  | trace
deriving DecidableEq, Repr

def Level.name : Level → String
  | .error => "ERROR"
  | .warn => "WARN"
  | .info => "INFO"
  | .debug => "DEBUG"
  | .trace => "TRACE"

inductive StatementKind where
  | select
  | insert
  | update
  | delete
  | schema
deriving DecidableEq, Repr

def StatementKind.name : StatementKind → String
  | .select => "Select"
  | .insert => "Insert"
  | .update => "Update"
  | .delete => "Delete"
  | .schema => "Schema"

structure LogConfig where
  enabled : Bool := true
  level : Level := .debug
  limit : Option Nat := some 200
deriving DecidableEq

namespace LogConfig

def shown (config : LogConfig) (sql : String) : String :=
  match config.limit with
  | some limit =>
    if limit < sql.utf8ByteSize then Boundary.cut sql limit ++ "..." else sql
  | none => sql

end LogConfig

inductive Activity where
  | tableDeclaration
  | schemaValidation
  | createTables
  | foreignKeyPragma
  | commit
  | rollback
deriving DecidableEq, Repr

def Activity.name : Activity → String
  | .tableDeclaration => "table declaration"
  | .schemaValidation => "schema validation"
  | .createTables => "create tables"
  | .foreignKeyPragma => "foreign key pragma"
  | .commit => "commit"
  | .rollback => "rollback"

inductive Event where
  | statement (level : Level) (kind : StatementKind) (params : Nat) (sql : String)
  | opened (tables : Nat)
  | tablesCreated (tables : Nat)
  | foreignKeys (enabled : Bool)
  | begun (nested : Bool)
  | committed (nested : Bool)
  | rolledBack (nested : Bool) (cause : Error)
  | failed (activity : Activity) (cause : Error)
deriving DecidableEq

namespace Event

def level : Event → Level
  | .statement level .. => level
  | .opened _ | .tablesCreated _ => .info
  | .foreignKeys _ | .begun _ | .committed _ | .rolledBack .. => .debug
  | .failed .. => .error

def target : Event → String
  | .statement .. => "litorm.sql"
  | _ => "litorm"

def fields : Event → List (String × String)
  | .statement _ kind params sql =>
    [("kind", kind.name), ("param_count", toString params), ("sql", sql)]
  | .opened tables =>
    [("message", "opened connection on custom driver"), ("tables", toString tables)]
  | .tablesCreated tables => [("message", "created tables"), ("tables", toString tables)]
  | .foreignKeys enabled => [("message", "foreign keys"), ("enabled", toString enabled)]
  | .begun nested => [("message", "transaction begin"), ("nested", toString nested)]
  | .committed nested => [("message", "transaction commit"), ("nested", toString nested)]
  | .rolledBack nested cause =>
    [("message", "transaction rollback"), ("nested", toString nested), ("error", cause.message)]
  | .failed activity cause => [("message", activity.name ++ " failed"), ("error", cause.message)]

end Event

end RecordSql
