import RecordSql.Connection.Basic

/-! Transactions. The outermost level is a transaction of the engine; a level inside it is a
savepoint, so that its failure undoes its own changes only. -/

namespace RecordSql.Connection

variable {σ α : Type} (c : Connection σ)

def beginText (nested : Bool) : String :=
  if nested then "SAVEPOINT litorm;" else "BEGIN TRANSACTION;"

def commitText (nested : Bool) : String :=
  if nested then "RELEASE SAVEPOINT litorm;" else "COMMIT TRANSACTION;"

/-- Rolling back to a savepoint leaves it open, so it is released too. -/
def rollbackText (nested : Bool) : String :=
  if nested then "ROLLBACK TO SAVEPOINT litorm; RELEASE SAVEPOINT litorm;"
  else "ROLLBACK TRANSACTION;"

def beginLevel : Run σ Bool := do
  let autocommit ← (Act.observe c.engine.autocommit : Act σ Bool)
  let nested := !autocommit
  c.batch (beginText nested)
  (Act.emit (.begun nested) : Act σ Unit)
  return nested

def unrecovered (cause rollback : Error) : Error :=
  .step (cause.message ++ " (rollback failed: " ++ rollback.message ++ ")")

def abandon (nested : Bool) (cause : Error) : Run σ α := do
  (Act.emit (.rolledBack nested cause) : Act σ Unit)
  match ← Run.outcome (c.batch (rollbackText nested)) with
  | .ok () => throw cause
  | .error e => logged .rollback (throw (unrecovered cause e))

def commitLevel (nested : Bool) (result : α) : Run σ α := do
  match ← Run.outcome (c.batch (commitText nested)) with
  | .ok () =>
    (Act.emit (.committed nested) : Act σ Unit)
    return result
  | .error e =>
    match ← Run.outcome (c.batch (rollbackText nested)) with
    | .ok () => logged .commit (throw e)
    | .error e' => logged .commit (throw (unrecovered e e'))

def endLevel (nested : Bool) : Except Error α → Run σ α
  | .ok result => c.commitLevel nested result
  | .error cause => c.abandon nested cause

def transaction (body : Run σ α) : Run σ α := do
  let nested ← c.beginLevel
  c.endLevel nested (← Run.outcome body)

end RecordSql.Connection
