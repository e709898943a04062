import RecordSql.Schema
import RecordSql.Sql

/-! INSERT: rows of values for every column that the engine does not assign, and what happens to a
row that is in conflict with one that is there. -/

namespace RecordSql

inductive ConflictAction where
  | nothing
  | updateInserted
  | update (columns : List String)
deriving DecidableEq

/-- The ON CONFLICT clause. Without a target any conflict counts. -/
structure OnConflict where
  target : List String
  action : ConflictAction
deriving DecidableEq

structure Insert where
  table : Table
  rows : List (List Value) := []
  onConflict : Option OnConflict := none

namespace Insert

def row (t : Table) (r : Record) : List Value := t.inserted.map (·.extract r)

def quotedColumn (t : Table) (name : String) : Except Error String :=
  match t.find? name with
  | some c => .ok (quoted c.name)
  | none => .error (.schema (.unknownColumn (quoted t.name) name))

def overwritten (t : Table) (clause : OnConflict) : Except Error (List String) :=
  match clause.action with
  | .nothing => .ok []
  | .updateInserted =>
    .ok ((t.inserted.filter fun c => !clause.target.contains c.name).map fun c => quoted c.name)
  | .update columns => columns.mapM (quotedColumn t)

def targetText (target : List String) : String :=
  if target.isEmpty then "" else " (" ++ commaSeparated target ++ ")"

def conflictText (t : Table) (clause : OnConflict) : Except Error String := do
  let target ← clause.target.mapM (quotedColumn t)
  let updated ← overwritten t clause
  if clause.action = .nothing then
    return " ON CONFLICT" ++ targetText target ++ " DO NOTHING"
  if target.isEmpty then
    throw (.validation "ON CONFLICT DO UPDATE requires a conflict target")
  if updated.isEmpty then
    throw (.validation "ON CONFLICT DO UPDATE has no columns to update")
  return " ON CONFLICT" ++ targetText target ++ " DO UPDATE SET " ++
    commaSeparated (updated.map fun column => column ++ " = excluded." ++ column)

def tuples (columns : List Column) (rows : List (List Value)) : Except Error Sql := do
  rows.forM fun row => (columns.zip row).forM fun (c, v) => c.check v
  return .commaSeparated (rows.map fun row =>
    .parenthesized (.holes ((columns.zip row).map (·.2))))

/-- What is inserted: tuples for the given columns, or one row of defaults if there are none. -/
def source (q : Insert) : Except Error Sql := do
  let columns := q.table.inserted
  if columns.isEmpty then
    if 1 < q.rows.length then throw (.validation "DEFAULT VALUES inserts exactly one row")
    return .ofText " DEFAULT VALUES"
  let names := commaSeparated (columns.map fun c => quoted c.name)
  return .ofText (" (" ++ names ++ ") VALUES ") ++ (← tuples columns q.rows)

def build (q : Insert) : Except Error Sql := do
  if q.rows.isEmpty then
    throw (.validation ("INSERT into " ++ quoted q.table.name ++ " has no rows"))
  let source ← q.source
  let conflict ← match q.onConflict with
    | some clause => conflictText q.table clause
    | none => .ok ""
  return .ofText ("INSERT INTO " ++ quoted q.table.name) ++ source ++ .ofText (conflict ++ ";")

end Insert

end RecordSql
