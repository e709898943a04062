import RecordSql.Sql

/-! Conditions of WHERE and ON clauses: trees over column references and values. -/

namespace RecordSql

structure ColumnRef where
  table : Option String
  column : String
deriving DecidableEq

namespace ColumnRef

def plain (column : String) : ColumnRef := ⟨none, column⟩

def ofTable (table column : String) : ColumnRef := ⟨some table, column⟩

/-- A text with a point names a source before the first one and a column after it. -/
def ofText (s : String) : ColumnRef :=
  match s.toList.span (· ≠ '.') with
  | (table, _ :: column) => .ofTable (String.ofList table) (String.ofList column)
  | (_, []) => .plain s

def sql (r : ColumnRef) : String :=
  match r.table with
  | some table => qualified table r.column
  | none => quoted r.column

end ColumnRef

inductive Comparison where
  | eq
  | ne
  | lt
  | le
  | gt
  | ge
  | like
deriving DecidableEq, Repr

def Comparison.sql : Comparison → String
  | .eq => "="
  | .ne => "!="
  | .lt => "<"
  | .le => "<="
  | .gt => ">"
  | .ge => ">="
  | .like => "LIKE"

inductive Connective where
  | and
  | or
deriving DecidableEq, Repr

def Connective.sql : Connective → String
  | .and => "AND"
  | .or => "OR"

inductive Condition where
  | compare (column : ColumnRef) (op : Comparison) (value : Value)
  | columns (left : ColumnRef) (op : Comparison) (right : ColumnRef)
  | logical (op : Connective) (left right : Condition)
  | not (inner : Condition)
  | nullCheck (column : ColumnRef) (isNull : Bool)
  | inList (column : ColumnRef) (values : List Value) (negated : Bool)
  | between (column : ColumnRef) (low high : Value) (negated : Bool)
  | raw (sql : String) (params : Params)
deriving DecidableEq

namespace Condition

def join (op : Connective) : List Condition → Option Condition
  | [] => none
  | c :: rest => some (rest.foldl (.logical op) c)

def conjoin : Option Condition → Condition → Condition
  | none, c => c
  | some given, c => .logical .and given c

def render : Condition → Sql
  | .compare column op value => .ofText (column.sql ++ " " ++ op.sql ++ " ") ++ .hole value
  | .columns left op right => .ofText (left.sql ++ " " ++ op.sql ++ " " ++ right.sql)
  | .logical op left right =>
    .parenthesized (left.render ++ .ofText (" " ++ op.sql ++ " ") ++ right.render)
  | .not inner => .ofText "NOT " ++ .parenthesized inner.render
  | .nullCheck column isNull =>
    .ofText (column.sql ++ if isNull then " IS NULL" else " IS NOT NULL")
  | .inList column values negated =>
    .ofText (column.sql ++ if negated then " NOT IN " else " IN ") ++
      .parenthesized (.holes values)
  | .between column low high negated =>
    .ofText (column.sql ++ if negated then " NOT BETWEEN " else " BETWEEN ") ++ .hole low ++
      .ofText " AND " ++ .hole high
  | .raw sql params => ⟨sql, params⟩

end Condition

end RecordSql
