import RecordSql.Builder.Basic
import RecordSql.Delete
import RecordSql.Insert
import RecordSql.Select
import RecordSql.Update

/-! The edits of each kind of statement. A later list of columns, limit, offset or conflict clause
replaces an earlier one; conditions are conjoined; everything else is appended. -/

namespace RecordSql

inductive Select.Edit where
  | columns (refs : List ColumnRef)
  | distinct
  | join (kind : JoinKind) (source : Source) (on : Condition)
  | order (r : ColumnRef) (direction : Direction)
  | limit (n : Nat)
  | offset (n : Nat)
  | filter (condition : Condition)

def Select.Edit.clause : Select.Edit → Clause
  | .columns _ => .columns
  | .distinct => .distinct
  | .join .. => .joins
  | .order .. => .order
  | .limit _ => .limit
  | .offset _ => .offset
  | .filter _ => .condition

def Clauses.edit (q : Clauses) : Select.Edit → Clauses
  | .columns refs => { q with columns := some refs }
  | .distinct => { q with distinct := true }
  | .join .. => q
  | .order r direction => { q with order := q.order ++ [(r, direction)] }
  | .limit n => { q with limit := some n }
  | .offset n => { q with offset := some n }
  | .filter condition => { q with condition := some (Condition.conjoin q.condition condition) }

def Joined.edit (j : Joined) : Select.Edit → Joined
  | .join kind source on => .join j kind source on
  | _ => j

instance : Statement Select where
  kind := .select
  Edit := Select.Edit
  clause := Select.Edit.clause
  apply e q := { q with sources := q.sources.edit e, clauses := q.clauses.edit e }
  build := Select.build

inductive Insert.Edit where
  | row (values : List Value)
  | onConflict (clause : OnConflict)

instance : Statement Insert where
  kind := .insert
  Edit := Insert.Edit
  clause
    | .row _ => .values
    | .onConflict _ => .conflict
  apply e q :=
    match e with
    | .row values => { q with rows := q.rows ++ [values] }
    | .onConflict clause => { q with onConflict := some clause }
  build := Insert.build

inductive Update.Edit where
  | set (column : String) (v : Value)
  | filter (condition : Condition)

instance : Statement Update where
  kind := .update
  Edit := Update.Edit
  clause
    | .set .. => .assignments
    | .filter _ => .condition
  apply e q :=
    match e with
    | .set column v => { q with assignments := q.assignments ++ [(column, v)] }
    | .filter condition => { q with condition := some (Condition.conjoin q.condition condition) }
  build := Update.build

inductive Delete.Edit where
  | filter (condition : Condition)

instance : Statement Delete where
  kind := .delete
  Edit := Delete.Edit
  clause _ := .condition
  apply
    | .filter condition, q =>
      { q with condition := some (Condition.conjoin q.condition condition) }
  build := Delete.build

namespace Builder

variable {σ : Type}

def addRecords (records : List Record) (b : Builder Insert) : Builder Insert :=
  b.edits (records.map fun r => Insert.Edit.row (Insert.row b.content.table r))

/-- Join the table of a record type; one without a table is an error of the builder. -/
def joinRecords (c : Connection σ) (recordType : String) (kind : JoinKind) (on : Condition)
    (b : Builder Select) : Builder Select :=
  match c.table recordType with
  | .ok t => b.edit (Select.Edit.join kind (.table t) on)
  | .error e => b.fail e

/-- Assign a document as compact text; `none` stands for data that JSON cannot express. -/
def setJson (column : String) (document : Option Json) (b : Builder Update) : Builder Update :=
  match document with
  | some j => b.edit (Update.Edit.set column (.text j.compact))
  | none => b.fail (.serialization "key must be a string")

def buildCount (b : Builder Select) : Except Error Sql := do
  b.slot.check
  b.content.buildCount

def subquery (name : String) (b : Builder Select) : Except Error Subquery := do
  b.slot.check
  b.content.subquery name

def count (c : Connection σ) (b : Builder Select) : Run σ Int64 := do
  let sql ← Run.ofExcept b.buildCount
  c.scalar sql "COUNT(*) returned no row"

end Builder

end RecordSql
