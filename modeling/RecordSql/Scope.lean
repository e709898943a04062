import RecordSql.Column
import RecordSql.Condition.Basic
import RecordSql.Condition.Placeholder

/-! Scopes: the sources that column references of a statement are resolved against, and the checks
that a condition has to pass in a scope. -/

namespace RecordSql

structure Exposed where
  name : String
  columns : List Column

def Exposed.find? (e : Exposed) (column : String) : Option Column :=
  e.columns.find? (·.name = column)

abbrev Scope := List Exposed

namespace Scope

def describe (scope : Scope) : String := commaSeparated (scope.map fun e => quoted e.name)

/-- The column that a reference denotes: with a table, the first source of that name decides, and
without one the column has to be in exactly one source. -/
def resolve (scope : Scope) (r : ColumnRef) : Except Error Column :=
  match r.table with
  | some table =>
    match scope.find? (·.name = table) with
    | none => .error (.schema (.unknownTable table))
    | some e =>
      match e.find? r.column with
      | some c => .ok c
      | none => .error (.schema (.unknownColumn (quoted table) r.column))
  | none =>
    match scope.filterMap (·.find? r.column) with
    | [] => .error (.schema (.unknownColumn scope.describe r.column))
    | [c] => .ok c
    | _ => .error (.schema (.ambiguousColumn r.column))

def checkValues (scope : Scope) (r : ColumnRef) (values : List Value) : Except Error Unit := do
  let c ← scope.resolve r
  values.forM c.check

end Scope

/-- A condition is sound in a scope when its references resolve, its values fit their columns, and
each raw part has as many values as placeholders. The first fault in the order of the text is
reported. -/
def Condition.check (scope : Scope) : Condition → Except Error Unit
  | .compare column _ value => scope.checkValues column [value]
  | .columns left _ right => do
    scope.checkValues left []
    scope.checkValues right []
  | .logical _ left right => do
    left.check scope
    right.check scope
  | .not inner => inner.check scope
  | .nullCheck column _ => scope.checkValues column []
  | .inList column values _ => scope.checkValues column values
  | .between column low high _ => scope.checkValues column [low, high]
  | .raw sql params =>
    if Placeholder.count sql = params.length then .ok ()
    else
      .error (.validation ("raw condition has " ++ toString (Placeholder.count sql) ++
        " placeholders but " ++ toString params.length ++ " values"))

end RecordSql
