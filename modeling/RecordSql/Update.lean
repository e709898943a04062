import RecordSql.Schema
import RecordSql.Scope

/-! UPDATE: assignments of values to columns, and the condition on the rows that they change. -/

namespace RecordSql

structure Update where
  table : Table
  assignments : List (String × Value) := []
  condition : Option Condition := none

namespace Update

def scope (q : Update) : Scope := [⟨q.table.name, q.table.columns⟩]

def assignment (t : Table) (name : String) (v : Value) : Except Error Sql :=
  match t.find? name with
  | none => .error (.schema (.unknownColumn (quoted t.name) name))
  | some c => do
    c.check v
    return .ofText (quoted c.name ++ " = ") ++ .hole v

def setRecord (q : Update) (r : Record) : Update :=
  let columns := q.table.columns.filter (!·.isPrimaryKey)
  { q with assignments := q.assignments ++ columns.map fun c => (c.name, c.extract r) }

def build (q : Update) : Except Error Sql := do
  if q.assignments.isEmpty then
    throw (.validation ("UPDATE of " ++ quoted q.table.name ++ " has no SET columns"))
  let assignments ← q.assignments.mapM fun (name, v) => assignment q.table name v
  q.condition.forM (·.check q.scope)
  let condition := match q.condition with
    | some c => .ofText " WHERE " ++ c.render
    | none => Sql.empty
  return .ofText ("UPDATE " ++ quoted q.table.name ++ " SET ") ++ .commaSeparated assignments ++
    condition ++ .ofText ";"

end Update

end RecordSql
