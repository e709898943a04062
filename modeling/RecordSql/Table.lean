import RecordSql.Column

/-! Tables: named, ordered columns that map onto the fields of a record type. A table is well formed
by construction; `Table.fault?` says what is wrong with a declaration that is not. -/

namespace RecordSql

namespace Table

def fieldFault? (table : String) : List String → List Field → Option SchemaError
  | _, [] => none
  | earlier, f :: rest =>
    if f.name ∈ earlier then some (.duplicateColumn table f.name)
    else if f.isAutoincrement ∧ f.type.storage ≠ .integer then
      some (.invalidAutoincrement table f.name)
    else fieldFault? table (earlier ++ [f.name]) rest

def fault? (table : String) (fields : List Field) : Option SchemaError :=
  if fields.isEmpty then some (.emptyTable table)
  else
    match fieldFault? table [] fields with
    | some fault => some fault
    | none =>
      if 1 < (fields.filter Field.isPrimaryKey).length then some (.multiplePrimaryKeys table)
      else none

end Table

/-- The default record of the record type holds `defaults f` in the field `f`. No name is repeated, so
any record can be the default one. -/
structure Table where
  name : String
  recordType : String
  fields : List Field
  wellFormed : Table.fault? name fields = none
  defaults : (f : Field) → f.type.Carrier := fun f => f.type.initial

namespace Table

def declare (name recordType : String) (fields : List Field)
    (defaults : (f : Field) → f.type.Carrier := fun f => f.type.initial) : Except Error Table :=
  match h : fault? name fields with
  | some fault => .error (.schema fault)
  | none => .ok ⟨name, recordType, fields, h, defaults⟩

def columns (t : Table) : List Column := t.fields.mapIdx fun i f => f.column i

def column (t : Table) (index : Nat) : Except Error Column :=
  match t.columns[index]? with
  | some c => .ok c
  | none =>
    .error (.notFound ("column " ++ toString index ++ " of table " ++ quoted t.name))

def find? (t : Table) (name : String) : Option Column := t.columns.find? (·.name = name)

theorem of_find? {t : Table} {name : String} {c : Column} (h : t.find? name = some c) :
    c ∈ t.columns ∧ c.name = name := by
  unfold find? at h
  exact ⟨List.mem_of_find?_eq_some h, by simpa using List.find?_some h⟩

def columnNamed (t : Table) (name : String) : Except Error Column :=
  match t.find? name with
  | some c => .ok c
  | none => .error (.notFound ("column " ++ quoted name ++ " in table " ++ quoted t.name))

def primaryKey? (t : Table) : Option Column := t.columns.find? Column.isPrimaryKey

def primaryKey (t : Table) : Except Error Column :=
  match t.primaryKey? with
  | some c => .ok c
  | none => .error (.schema (.missingPrimaryKey t.name))

/-- The key of a record that the engine assigns: an INTEGER key that is AUTOINCREMENT or absent. -/
def assignedKey? (t : Table) (r : Record) : Option Column :=
  t.primaryKey?.filter fun pk =>
    (pk.isAutoincrement || (pk.extract r).isNull) && pk.storage = .integer

/-- The columns that an INSERT gives values for: the engine assigns the others. -/
def inserted (t : Table) : List Column := t.columns.filter (!·.isAutoincrement)

def references (t : Table) : List (Column × Reference) :=
  t.columns.filterMap fun c => c.reference?.map (c, ·)

def creation (t : Table) (ifNotExists : Bool) : String :=
  "CREATE TABLE " ++ (if ifNotExists then "IF NOT EXISTS " else "") ++ t.name ++ " (\n" ++
    ",\n".intercalate (t.columns.map fun c => "    " ++ c.definition) ++ "\n);\n"

def initial (t : Table) : Record := t.fields.map fun f => ⟨f.type, t.defaults f⟩

/-- Assign values to columns one after the other, up to the first that does not fit; a column
without a value is passed over. -/
def fillColumns (r : Record) : List Column → List (Option Value) → Record × Except Error Unit
  | c :: columns, some v :: values =>
    match c.assign r v with
    | .ok r => fillColumns r columns values
    | .error e => (r, .error e)
  | _ :: columns, none :: values => fillColumns r columns values
  | _, _ => (r, .ok ())

def fill (t : Table) (r : Record) (values : List (Option Value)) : Record × Except Error Unit :=
  fillColumns r t.columns values

def record (t : Table) (values : List (Option Value)) : Except Error Record :=
  match t.fill t.initial values with
  | (r, .ok ()) => .ok r
  | (_, .error e) => .error e

/-- Read a record from a row, matching columns by name; a column that the row lacks keeps its
default. -/
def ofRow (t : Table) (row : Row) : Except Error Record :=
  t.columns.foldlM (fun r c =>
    match row.indexOf? c.name with
    | some index => c.load r row index
    | none => .ok r) t.initial

end Table

end RecordSql
