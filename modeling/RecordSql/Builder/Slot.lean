import RecordSql.Engine.Basic

/-! What a builder keeps apart from its clauses: the statement it owns, how far that statement has
been run, and the first misuse. -/

namespace RecordSql

inductive Stage where
  | unprepared
  | prepared
  | stepped
  | exhausted
deriving DecidableEq, Repr

/-- The clauses that cannot change once there is a statement. -/
inductive Clause where
  | columns
  | distinct
  | joins
  | order
  | limit
  | offset
  | condition
  | values
  | conflict
  | assignments
deriving DecidableEq, Repr

def Clause.description : Clause → String
  | .columns => "the column list"
  | .distinct => "DISTINCT"
  | .joins => "the JOIN list"
  | .order => "ORDER BY"
  | .limit => "LIMIT"
  | .offset => "OFFSET"
  | .condition => "the WHERE clause"
  | .values => "the VALUES list"
  | .conflict => "ON CONFLICT"
  | .assignments => "the SET list"

structure Slot where
  statement : Option StatementId := none
  stage : Stage := .unprepared
  error : Option Error := none

namespace Slot

def fail (s : Slot) (e : Error) : Slot := { s with error := some (s.error.getD e) }

def guard (s : Slot) (clause : Clause) : Slot :=
  if s.stage = .unprepared then s
  else s.fail (.validation ("cannot change " ++ clause.description ++ " after prepare()"))

def check (s : Slot) : Except Error Unit :=
  match s.error with
  | some e => .error e
  | none => .ok ()

def ready (s : Slot) : Except Error StatementId := do
  s.check
  match s.statement with
  | some id => .ok id
  | none => .error (.validation "statement is not prepared")

end Slot

end RecordSql
