import RecordSql.Scalar

/-! Records: a typed cell for each field. -/

namespace RecordSql

structure Cell where
  type : FieldType
  content : type.Carrier

namespace Cell

def value (c : Cell) : Value := c.type.encode c.content

def store (c : Cell) (v : Value) : Option Cell := (c.type.decode v).map fun x => ⟨c.type, x⟩

end Cell

abbrev Record := List Cell

namespace Record

def value (r : Record) (i : Nat) : Value := (r[i]?.map Cell.value).getD .null

def values (r : Record) : List Value := r.map Cell.value

def store (r : Record) (i : Nat) (v : Value) : Option Record := do
  let cell ← r[i]?
  let cell ← cell.store v
  return r.set i cell

end Record

end RecordSql
