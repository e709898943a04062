import RecordSql.Connection.Basic

/-! Opening a connection on declared tables, and the statements that define its schema. -/

namespace RecordSql.Connection

variable {σ : Type}

def declared : List (Except Error Table) → Except Error (List Table)
  | [] => .ok []
  | .error e :: _ => .error e
  | .ok t :: rest => (declared rest).map (t :: ·)

def checkedSchema (declarations : List (Except Error Table)) : Run σ Schema := do
  let tables ← logged .tableDeclaration (Run.ofExcept (declared declarations))
  logged .schemaValidation (Run.ofExcept (Schema.ofTables tables))

def setForeignKeys (c : Connection σ) (enabled : Bool) : Run σ Unit := do
  (Act.emit (.foreignKeys enabled) : Act σ Unit)
  logged .foreignKeyPragma
    (c.batch (if enabled then "PRAGMA foreign_keys = ON;" else "PRAGMA foreign_keys = OFF;"))

def openOn (engine : Engine σ) (config : Config) (declarations : List (Except Error Table)) :
    Run σ (Connection σ) := do
  let schema ← checkedSchema declarations
  (Act.emit (.opened schema.tables.length) : Act σ Unit)
  let c : Connection σ := ⟨engine, schema, config⟩
  c.setForeignKeys config.foreignKeys
  return c

variable (c : Connection σ)

def createTables (ifNotExists : Bool) : Run σ Unit := do
  c.schema.tables.forM fun t => logged .createTables (c.batch (t.creation ifNotExists))
  (Act.emit (.tablesCreated c.schema.tables.length) : Act σ Unit)

/-- The number of tables in the database that the engine does not keep for itself. -/
def countTables : Run σ Int64 :=
  c.scalar
    (.ofText ("SELECT COUNT(*) FROM " ++ quoted "sqlite_schema" ++ " WHERE " ++ quoted "type" ++
      " = 'table' AND " ++ quoted "name" ++ " NOT LIKE 'sqlite_%';"))
    "sqlite_schema returned no row"

def lastInsertRowid : Run σ Int64 := (Act.observe c.engine.lastInsertRowid : Act σ Int64)

def view : View :=
  .record "Connection"
    [("tables", .items (c.schema.tables.map fun t => .text t.name)), ("config", c.config.view)] true

end RecordSql.Connection
