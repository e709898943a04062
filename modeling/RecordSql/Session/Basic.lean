import RecordSql.Connection.Open
import RecordSql.Connection.Records

/-! Sessions: a connection in use, with the builders and nested queries that are kept under
names. -/

namespace RecordSql

inductive AnyBuilder where
  | select (b : Builder Select)
  | insert (b : Builder Insert)
  | update (b : Builder Update)
  | delete (b : Builder Delete)

namespace AnyBuilder

def slot : AnyBuilder → Slot
  | .select b => b.slot
  | .insert b => b.slot
  | .update b => b.slot
  | .delete b => b.slot

def stage (b : AnyBuilder) : Stage := b.slot.stage

def kind : AnyBuilder → StatementKind
  | .select _ => .select
  | .insert _ => .insert
  | .update _ => .update
  | .delete _ => .delete

def build : AnyBuilder → Except Error Sql
  | .select b => b.build
  | .insert b => b.build
  | .update b => b.build
  | .delete b => b.build

def drop {σ : Type} (c : Connection σ) : AnyBuilder → Act σ Unit
  | .select b => b.drop c
  | .insert b => b.drop c
  | .update b => b.drop c
  | .delete b => b.drop c

end AnyBuilder

inductive Request where
  | build
  | text
  | stage
  | filter (condition : Condition)
  | columns (refs : List ColumnRef)
  | distinct
  | join (recordType : String) (kind : JoinKind) (on : Condition)
  | joinSubquery (name : String) (kind : JoinKind) (on : Condition)
  | order (r : ColumnRef) (direction : Direction)
  | limit (n : Nat)
  | offset (n : Nat)
  | buildCount
  | count
  | subquery (name key : String)
  | rows (n : Nat)
  | fetchAll
  | fetchFirst
  | fetchOne
  | one
  | set (column : String) (v : Value)
  | setJson (column : String) (document : Option Json)
  | values (rows : List (List (Option Value)))
  | onConflict (clause : OnConflict)
  | prepare
  | exec

inductive Op (σ : Type) where
  | adjust (f : σ → σ)
  | createTables (ifNotExists : Bool)
  | setForeignKeys (enabled : Bool)
  | countTables
  | batch (sql : String)
  | lastInsertRowid
  | inspect
  | tables
  | table (recordType : String)
  | select (name recordType : String)
  | selectFrom (name recordType subquery : String)
  | insert (name recordType : String) (values : List (Option Value))
  | insertMany (name recordType : String) (rows : List (List (Option Value)))
  | update (name recordType : String)
  | delete (name recordType : String)
  | insertRecord (recordType : String) (values : List (Option Value))
  | insertManyRecords (recordType : String) (rows : List (List (Option Value))) (batchSize : Nat)
  | updateRecord (recordType : String) (values : List (Option Value))
  | findRecord (recordType : String) (key : Value)
  | deleteRecord (recordType : String) (key : Value)
  | first (recordType : String)
  | last (recordType : String)
  | truncate (recordType : String)
  | drop (name : String)
  | call (name : String) (request : Request)

inductive Reply where
  | done
  | nat (n : Nat)
  | integer (i : Int64)
  | text (s : String)
  | built (kind : StatementKind) (sql : Sql)
  | rowCount (n : Nat)
  | record (r : Option Record)
  | records (rs : List Record)
  | items (items : List (Option (Except Error Record)))
  | subquery (s : Subquery)
  | table (t : Table)
  | tables (ts : List Table)
  /-- No builder or nested query is kept under the name, or the builder does not take the
  request. -/
  | missing (name : String)

structure Session (σ : Type) where
  world : World σ
  builders : List (String × AnyBuilder) := []
  subqueries : List (String × Subquery) := []

namespace Session

variable {σ α : Type}

def builder? (s : Session σ) (name : String) : Option AnyBuilder :=
  (s.builders.find? (·.1 = name)).map (·.2)

def subquery? (s : Session σ) (name : String) : Option Subquery :=
  (s.subqueries.find? (·.1 = name)).map (·.2)

def without (s : Session σ) (name : String) : Session σ :=
  { s with builders := s.builders.filter (·.1 ≠ name) }

def keep (s : Session σ) (name : String) (b : AnyBuilder) : Session σ :=
  { s with builders := (name, b) :: (s.without name).builders }

def keepSubquery (s : Session σ) (name : String) (q : Subquery) : Session σ :=
  { s with subqueries := (name, q) :: s.subqueries.filter (·.1 ≠ name) }

def act (s : Session σ) (a : Act σ α) : α × Session σ :=
  let (r, world) := a s.world
  (r, { s with world })

def dropBuilder (c : Connection σ) (s : Session σ) (name : String) : Session σ :=
  match s.builder? name with
  | some b => ((s.act (b.drop c)).2).without name
  | none => s

def create (c : Connection σ) (s : Session σ) (name : String) :
    Except Error AnyBuilder → Except Error Reply × Session σ
  | .ok b => (.ok .done, (s.dropBuilder c name).keep name b)
  | .error e => (.error e, s)

def answer (s : Session σ) (run : Run σ α) (reply : α → Reply) : Except Error Reply × Session σ :=
  let (r, s) := s.act run.run
  (r.map reply, s)

end Session

def Connection.record {σ : Type} (c : Connection σ) (recordType : String)
    (values : List (Option Value)) : Except Error Record :=
  match c.table recordType with
  | .ok t => t.record values
  | .error _ => .ok []

end RecordSql
