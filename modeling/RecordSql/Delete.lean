import RecordSql.Schema
import RecordSql.Scope

/-! DELETE: the condition on the rows that go; without one every row goes. -/

namespace RecordSql

structure Delete where
  table : Table
  condition : Option Condition := none

namespace Delete

def scope (q : Delete) : Scope := [⟨q.table.name, q.table.columns⟩]

def build (q : Delete) : Except Error Sql := do
  q.condition.forM (·.check q.scope)
  let condition := match q.condition with
    | some c => .ofText " WHERE " ++ c.render
    | none => Sql.empty
  return .ofText ("DELETE FROM " ++ quoted q.table.name) ++ condition ++ .ofText ";"

end Delete

end RecordSql
