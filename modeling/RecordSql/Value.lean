import RecordSql.Numeric.Binary

/-! Storage classes and the values a table can hold. -/

namespace RecordSql

inductive StorageClass where
  | integer
  | real
  | text
  | blob
deriving DecidableEq, Repr, Inhabited

namespace StorageClass

def all : List StorageClass := [.integer, .real, .text, .blob]

def sql : StorageClass → String
  | .integer => "INTEGER"
  | .real => "REAL"
  | .text => "TEXT"
  | .blob => "BLOB"

/-- Whether a column of the first class takes values of the second: an integer widens to a real, and
otherwise the classes agree. -/
def accepts (column found : StorageClass) : Bool :=
  column = found || (column = .real && found = .integer)

end StorageClass

inductive Value where
  | null
  | integer (i : Int64)
  | real (x : Binary64)
  | text (s : String)
  | blob (bytes : List UInt8)
deriving DecidableEq, Inhabited

namespace Value

def storage? : Value → Option StorageClass
  | .null => none
  | .integer _ => some .integer
  | .real _ => some .real
  | .text _ => some .text
  | .blob _ => some .blob

def typeName (v : Value) : String :=
  match v.storage? with
  | some s => s.sql
  | none => "NULL"

def ofBool (b : Bool) : Value := .integer (if b then 1 else 0)

def isNull (v : Value) : Bool := v = .null

/-- The affinity of a column: a real column turns integers into reals. -/
def coerce (v : Value) (column : StorageClass) : Value :=
  match column, v with
  | .real, .integer i => .real (Binary64.ofInt i.toInt)
  | _, v => v

def same : Value → Value → Bool
  | .real x, .real y => x.same y
  | v, w => v = w

end Value

end RecordSql
