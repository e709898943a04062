import RecordSql.Table

/-! Schemas: the tables of a connection, checked against each other. -/

namespace RecordSql

namespace Schema

def named? (tables : List Table) (name : String) : Option Table := tables.find? (·.name = name)

def repetition? : List Table → List Table → Option SchemaError
  | _, [] => none
  | earlier, t :: rest =>
    if earlier.any (·.name = t.name) then some (.duplicateTable t.name)
    else if earlier.any (·.recordType = t.recordType) then some (.duplicateRecordType t.recordType)
    else repetition? (earlier ++ [t]) rest

def referenceFault? (tables : List Table) (t : Table) (c : Column) (r : Reference) :
    Option SchemaError :=
  match named? tables r.table with
  | none => some (.unknownReferencedTable t.name c.name r.table)
  | some target =>
    if (target.find? r.column).isNone then
      some (.unknownReferencedColumn t.name c.name r.table r.column)
    else none

/-- What is wrong with a list of tables: repetitions first, then references. -/
def fault? (tables : List Table) : Option SchemaError :=
  match repetition? [] tables with
  | some fault => some fault
  | none =>
    tables.findSome? fun t => t.references.findSome? fun (c, r) => referenceFault? tables t c r

end Schema

structure Schema where
  tables : List Table
  wellFormed : Schema.fault? tables = none

namespace Schema

def ofTables (tables : List Table) : Except Error Schema :=
  match h : fault? tables with
  | some fault => .error (.schema fault)
  | none => .ok ⟨tables, h⟩

def table (s : Schema) (recordType : String) : Except Error Table :=
  match s.tables.find? (·.recordType = recordType) with
  | some t => .ok t
  | none => .error (.notFound ("no table registered for record type " ++ quoted recordType))

end Schema

end RecordSql
