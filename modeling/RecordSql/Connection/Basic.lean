import RecordSql.Engine.Basic
import RecordSql.Inspect

/-! A connection: an engine, the schema of its tables and its settings. -/

namespace RecordSql

structure Connection (σ : Type) where
  engine : Engine σ
  schema : Schema
  config : Config

namespace Connection

def logged {σ α : Type} (activity : Activity) (body : Run σ α) : Run σ α := do
  match ← Run.outcome body with
  | .ok a => return a
  | .error e =>
    (Act.emit (.failed activity e) : Act σ Unit)
    throw e

variable {σ α : Type} (c : Connection σ)

def table (recordType : String) : Except Error Table := c.schema.table recordType

def announce (kind : StatementKind) (sql : String) (params : Nat) : Act σ Unit :=
  if c.config.log.enabled then
    Act.emit (.statement c.config.log.level kind params (c.config.log.shown sql))
  else pure ()

def batch (sql : String) : Run σ Unit := do
  c.announce .schema sql 0
  Run.call (.batch sql) (c.engine.batch sql)

/-- Compile a statement and bind its values; a statement that cannot be bound is finalized. -/
def compile (kind : StatementKind) (sql : Sql) : Run σ StatementId := do
  c.announce kind sql.text sql.params.length
  let s ← Run.freshId
  Run.call (.prepare s sql.text) (c.engine.prepare s sql.text)
  match ← Run.outcome (c.engine.bindFrom s 1 sql.params) with
  | .ok () => return s
  | .error e =>
    c.engine.finalizeStatement s
    throw e

def scalar (sql : Sql) (missing : String) : Run σ Int64 := do
  let s ← c.compile .select sql
  c.engine.owning s do
    Run.call (.query s) (c.engine.query s)
    match ← Run.call (.step s) (c.engine.step s) with
    | some row =>
      let i ← Run.ofExcept (row.field 0 ⟨.integer .i64, false⟩)
      return i.val
    | none => throw (.notFound missing)

end Connection

end RecordSql
