import RecordSql.Schema
import RecordSql.Scope

/-! SELECT: sources joined from the left, each a table or a nested query under an alias, and the
clauses around them. -/

namespace RecordSql

inductive JoinKind where
  | inner
  | left
deriving DecidableEq, Repr

def JoinKind.sql : JoinKind → String
  | .inner => "JOIN"
  | .left => "LEFT JOIN"

inductive Direction where
  | asc
  | desc
deriving DecidableEq, Repr

def Direction.sql : Direction → String
  | .asc => "ASC"
  | .desc => "DESC"

/-- The clauses of a query apart from its sources. Without a list of columns it projects every
column of its first source. -/
structure Clauses where
  columns : Option (List ColumnRef) := none
  distinct : Bool := false
  condition : Option Condition := none
  order : List (ColumnRef × Direction) := []
  limit : Option Nat := none
  offset : Option Nat := none

mutual

inductive Source where
  | table (t : Table)
  | subquery (name : String) (clauses : Clauses) (inner : Joined)

inductive Joined where
  | base (s : Source)
  | join (left : Joined) (kind : JoinKind) (right : Source) (on : Condition)

end

def Source.name : Source → String
  | .table t => t.name
  | .subquery name _ _ => name

def Joined.first : Joined → Source
  | .base s => s
  | .join left _ _ _ => left.first

def Joined.sources : Joined → List Source
  | .base s => [s]
  | .join left _ right _ => left.sources ++ [right]

def Joined.conditions : Joined → List Condition
  | .base _ => []
  | .join left _ _ on => left.conditions ++ [on]

namespace Clauses

def exposes (q : Clauses) (scope : Scope) : List Column :=
  match q.columns with
  | some refs => refs.filterMap fun r => (scope.resolve r).toOption
  | none => (scope.head?.map Exposed.columns).getD []

def projection (q : Clauses) (scope : Scope) : List String :=
  match q.columns with
  | some refs => refs.map ColumnRef.sql
  | none => (scope.head?.map fun e => e.columns.map fun c => qualified e.name c.name).getD []

def distinctText (q : Clauses) : String := if q.distinct then "DISTINCT " else ""

def whereSql (q : Clauses) : Sql :=
  match q.condition with
  | some c => .ofText " WHERE " ++ c.render
  | none => .empty

def orderText (q : Clauses) : String :=
  if q.order.isEmpty then ""
  else " ORDER BY " ++ commaSeparated (q.order.map fun (r, d) => r.sql ++ " " ++ d.sql)

/-- An offset alone needs a limit too: -1 is none. -/
def limitText (q : Clauses) : String :=
  match q.limit, q.offset with
  | some limit, some offset => " LIMIT " ++ toString limit ++ " OFFSET " ++ toString offset
  | some limit, none => " LIMIT " ++ toString limit
  | none, some offset => " LIMIT -1 OFFSET " ++ toString offset
  | none, none => ""

def render (q : Clauses) (scope : Scope) (sources : Sql) : Sql :=
  .ofText ("SELECT " ++ q.distinctText ++ commaSeparated (q.projection scope) ++ " FROM ") ++
    sources ++ q.whereSql ++ .ofText (q.orderText ++ q.limitText)

def renderCount (q : Clauses) (sources : Sql) : Sql :=
  .ofText "SELECT COUNT(*) FROM " ++ sources ++ q.whereSql

/-- Whether the rows of a query are fewer than those that meet its condition. -/
def isWindow (q : Clauses) : Bool := q.distinct || q.limit.isSome || q.offset.isSome

end Clauses

mutual

def Source.exposed : Source → Exposed
  | .table t => ⟨t.name, t.columns⟩
  | .subquery name q inner => ⟨name, q.exposes inner.scope⟩

def Joined.scope : Joined → Scope
  | .base s => [s.exposed]
  | .join left _ right _ => left.scope ++ [right.exposed]

end

mutual

def Source.render : Source → Sql
  | .table t => .ofText (quoted t.name)
  | .subquery name q inner =>
    .parenthesized (q.render inner.scope inner.render) ++ .ofText (" AS " ++ quoted name)

def Joined.render : Joined → Sql
  | .base s => s.render
  | .join left kind right on =>
    left.render ++ .ofText (" " ++ kind.sql ++ " ") ++ right.render ++ .ofText " ON " ++ on.render

end

structure Select where
  table : Table
  sources : Joined
  clauses : Clauses := {}

structure Subquery where
  name : String
  clauses : Clauses
  sources : Joined

namespace Subquery

def source (s : Subquery) : Source := .subquery s.name s.clauses s.sources

def sql (s : Subquery) : Sql := s.clauses.render s.sources.scope s.sources.render

def columns (s : Subquery) : List Column := s.clauses.exposes s.sources.scope

end Subquery

namespace Select

def ofTable (t : Table) : Select := { table := t, sources := .base (.table t) }

def ofSubquery (t : Table) (s : Subquery) : Select := { table := t, sources := .base s.source }

/-- The first fault in the order of the text: projection, join conditions, WHERE, ORDER BY. -/
def check (q : Select) : Except Error Unit := do
  let scope := q.sources.scope
  (q.clauses.columns.getD []).forM fun r => scope.checkValues r []
  q.sources.conditions.forM (·.check scope)
  q.clauses.condition.forM (·.check scope)
  q.clauses.order.forM fun (r, _) => scope.checkValues r []

def sql (q : Select) : Sql := q.clauses.render q.sources.scope q.sources.render

def build (q : Select) : Except Error Sql := do
  q.check
  return q.sql ++ .ofText ";"

def buildCount (q : Select) : Except Error Sql := do
  q.check
  if q.clauses.isWindow then
    return .ofText "SELECT COUNT(*) FROM (" ++ q.sql ++ .ofText ");"
  return q.clauses.renderCount q.sources.render ++ .ofText ";"

def subquery (q : Select) (name : String) : Except Error Subquery := do
  q.check
  return ⟨name, q.clauses, q.sources⟩

end Select

end RecordSql
