import RecordSql.Constraint
import RecordSql.Record
import RecordSql.Row

/-! Columns: what statements know of them, and how a column reads and writes its field of a
record. -/

namespace RecordSql

structure Column where
  name : String
  storage : StorageClass
  optional : Bool
  ordinal : Nat := 0
  constraints : List Constraint := []
deriving DecidableEq

namespace Column

/-- Whether NULL is admitted: a flag that starts from the type and changes with each constraint. -/
def nullable (c : Column) : Bool := c.constraints.foldl Constraint.flagAfter c.optional

def isPrimaryKey (c : Column) : Bool := c.constraints.any Constraint.isPrimaryKey

def isAutoincrement (c : Column) : Bool := c.constraints.any Constraint.isAutoincrement

def reference? (c : Column) : Option Reference := c.constraints.findSome? Constraint.reference?

def notNullPolicy? (c : Column) : Option ConflictPolicy :=
  match c.constraints.findSome? Constraint.notNullPolicy? with
  | some conflict => some conflict
  | none => if c.nullable then none else some .abort

/-- The constraints in the order of the definition: NOT NULL once and first, then the others. -/
def clauses (c : Column) : List Constraint :=
  (c.notNullPolicy?.map Constraint.notNull).toList ++ c.constraints.filter (!·.isNotNull)

def definition (c : Column) : String :=
  " ".intercalate ((quoted c.name ++ " " ++ c.storage.sql) :: c.clauses.map Constraint.sql)

def check (c : Column) (v : Value) : Except Error Unit :=
  match v.storage? with
  | some found => if c.storage.accepts found then .ok () else .error (.mismatch c.name c.storage v)
  | none => .ok ()

def bind (c : Column) (slot : Nat) (v : Value) : Except Error (Nat × Value) := do
  c.check v
  return (slot, v)

def extract (c : Column) (r : Record) : Value := r.value c.ordinal

def assign (c : Column) (r : Record) (v : Value) : Except Error Record :=
  match r.store c.ordinal (v.coerce c.storage) with
  | some r => .ok r
  | none => .error (.mismatch c.name c.storage (v.coerce c.storage))

def load (c : Column) (r : Record) (row : Row) (index : Nat) : Except Error Record := do
  c.assign r (← row.value index c.storage)

end Column

structure Field where
  name : String
  type : FieldType
  constraints : List Constraint := []
deriving DecidableEq

namespace Field

def column (f : Field) (ordinal : Nat) : Column :=
  { name := f.name, storage := f.type.storage, optional := f.type.optional, ordinal,
    constraints := f.constraints }

def isPrimaryKey (f : Field) : Bool := f.constraints.any Constraint.isPrimaryKey

def isAutoincrement (f : Field) : Bool := f.constraints.any Constraint.isAutoincrement

end Field

end RecordSql
