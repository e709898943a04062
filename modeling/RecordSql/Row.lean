import RecordSql.Error
import RecordSql.Scalar

/-! Result rows. -/

namespace RecordSql

structure Row where
  columns : List String
  values : List Value
deriving DecidableEq

namespace Row

def indexOf? (row : Row) (name : String) : Option Nat := row.columns.findIdx? (· = name)

def value (row : Row) (index : Nat) (expected : StorageClass) : Except Error Value :=
  match row.values[index]? with
  | some v => .ok (v.coerce expected)
  | none => .error (.notFound ("result column " ++ toString index))

def field (row : Row) (index : Nat) (type : FieldType) : Except Error type.Carrier := do
  let v ← row.value index type.storage
  match type.decode v with
  | some x => .ok x
  | none => .error (.mismatch (row.columns[index]?.getD (toString index)) type.storage v)

end Row

end RecordSql
