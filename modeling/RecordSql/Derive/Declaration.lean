import RecordSql.Derive.Item
import RecordSql.Derive.Phrase.Canonical

/-! Record declarations, and the table that a declaration stands for: its name, and a column for
each field that is not skipped, in order. -/

namespace RecordSql.Derive

structure FieldDeclaration where
  name : String
  type : List Tree
  attributes : List Attribute

inductive Body where
  | named (fields : List FieldDeclaration)
  | unnamed
  | other

structure Declaration where
  name : String
  generics : List Tree
  attributes : List Attribute
  body : Body

structure FieldSource where
  name : String
  type : String
  attributes : List String

inductive BodySource where
  | named (fields : List FieldSource)
  | unnamed
  | other

structure Source where
  name : String
  generics : String
  attributes : List String
  body : BodySource

def FieldSource.declaration? (f : FieldSource) : Option FieldDeclaration := do
  return ⟨f.name, ← Tree.ofText? f.type, ← f.attributes.mapM Attribute.ofText?⟩

def Source.declaration? (s : Source) : Option Declaration := do
  let body ← match s.body with
    | .named fields => do pure (Body.named (← fields.mapM FieldSource.declaration?))
    | .unnamed => pure .unnamed
    | .other => pure .other
  return ⟨s.name, ← Tree.ofText? s.generics, ← s.attributes.mapM Attribute.ofText?, body⟩

inductive Binding where
  | field (name : String)
  | accessor (reader writer : String)
deriving DecidableEq

structure ColumnPlan where
  name : String
  type : List String
  binding : Binding
  constraints : List Constraint
deriving DecidableEq

structure Plan where
  record : String
  table : String
  columns : List ColumnPlan
deriving DecidableEq

/-- A field's name without the mark that lets a keyword be a name. -/
def plainName (name : String) : String :=
  match name.toList with
  | 'r' :: '#' :: rest => String.ofList rest
  | _ => name

/-- A method that reads needs one that writes, also on a field that is skipped. -/
def binding (field : String) (items : List FieldItem) : Except Fault Binding :=
  match last? FieldItem.reader? items, last? FieldItem.writer? items with
  | some reader, some writer => .ok (.accessor reader writer)
  | none, none => .ok (.field field)
  | _, _ => .error .halfAccessor

def FieldDeclaration.ofItems (f : FieldDeclaration) (items : List FieldItem) :
    Except Fault (Option ColumnPlan) := do
  let binding ← binding f.name items
  if items.contains .skip then return none
  return some
    { name := (last? FieldItem.column? items).getD (plainName f.name)
      type := Tree.typeWords f.type
      binding
      constraints := items.filterMap FieldItem.constraint? }

def FieldDeclaration.column (f : FieldDeclaration) : Except Fault (Option ColumnPlan) := do
  f.ofItems (← Attribute.allItems FieldItem.read f.attributes)

def isGeneric : List Tree → Bool
  | .leaf (.mark "<") :: .leaf (.mark ">") :: _ => false
  | .leaf (.mark "<") :: _ => true
  | _ => false

def Body.fields : Body → Except Fault (List FieldDeclaration)
  | .named fields => .ok fields
  | .unnamed => .error .unnamedFields
  | .other => .error .withoutFields

namespace Declaration

def table (d : Declaration) : Except Fault String := do
  match (← Attribute.allItems readTable d.attributes).getLast? with
  | some name => return name
  | none => throw .withoutTable

def plan (d : Declaration) : Except Fault Plan := do
  if isGeneric d.generics then throw .generic
  let fields ← d.body.fields
  let table ← d.table
  let columns ← fields.mapM FieldDeclaration.column
  return ⟨d.name, table, columns.filterMap id⟩

end Declaration

end RecordSql.Derive
