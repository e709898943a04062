import RecordSql.Builder.Slot
import RecordSql.Connection.Basic

/-! Builders: the clauses of a statement of any kind, changed one edit at a time, and the statement
compiled from them. -/

namespace RecordSql

class Statement (κ : Type) where
  kind : StatementKind
  Edit : Type
  clause : Edit → Clause
  apply : Edit → κ → κ
  build : κ → Except Error Sql

structure Builder (κ : Type) where
  content : κ
  slot : Slot := {}

namespace Builder

variable {σ κ : Type} [Statement κ]

def edit (e : Statement.Edit κ) (b : Builder κ) : Builder κ :=
  ⟨Statement.apply e b.content, b.slot.guard (Statement.clause e)⟩

def edits (es : List (Statement.Edit κ)) (b : Builder κ) : Builder κ :=
  es.foldl (fun b e => b.edit e) b

omit [Statement κ] in
def fail (e : Error) (b : Builder κ) : Builder κ := { b with slot := b.slot.fail e }

def build (b : Builder κ) : Except Error Sql := do
  b.slot.check
  Statement.build b.content

def drop (c : Connection σ) (b : Builder κ) : Act σ Unit :=
  match b.slot.statement with
  | some s => c.engine.finalizeStatement s
  | none => pure ()

def prepare (c : Connection σ) (b : Builder κ) : Act σ (Except Error Unit × Builder κ) := do
  match b.build with
  | .error e => return (.error e, b)
  | .ok sql =>
    b.drop c
    let empty := { b with slot := { b.slot with statement := none, stage := .unprepared } }
    match ← (c.compile (Statement.kind κ) sql).run with
    | .error e => return (.error e, empty)
    | .ok s =>
      return (.ok (), { b with slot := { b.slot with statement := some s, stage := .prepared } })

def ensurePrepared (c : Connection σ) (b : Builder κ) : Act σ (Except Error Unit × Builder κ) :=
  if b.slot.stage = .prepared then return (.ok (), b) else b.prepare c

def execute (c : Connection σ) (b : Builder κ) : Act σ (Except Error Nat × Builder κ) := do
  match b.slot.ready with
  | .error e => return (.error e, b)
  | .ok s =>
    match ← (Run.call (.execute s) (c.engine.execute s)).run with
    | .error e => return (.error e, b)
    | .ok n => return (.ok n, { b with slot := { b.slot with stage := .exhausted } })

def exec (c : Connection σ) (b : Builder κ) : Act σ (Except Error Nat × Builder κ) := do
  match ← b.ensurePrepared c with
  | (.error e, b) => return (.error e, b)
  | (.ok (), b) => b.execute c

def execOnce (c : Connection σ) (b : Builder κ) : Run σ Nat := ExceptT.mk do
  let (r, b) ← b.exec c
  b.drop c
  return r

end Builder

end RecordSql
