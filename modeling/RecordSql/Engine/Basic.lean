import RecordSql.Log
import RecordSql.Row
import RecordSql.Sql

/-! Storage engines, and the journal of what is asked of one. An engine is any state machine that
answers calls; the only law is that a result set ends. -/

namespace RecordSql

/-- Statements are told apart by the order in which they were compiled. -/
abbrev StatementId := Nat

structure Engine (σ : Type) where
  batch : String → σ → Except Error Unit × σ
  prepare : StatementId → String → σ → Except Error Unit × σ
  bind : StatementId → Nat → Value → σ → Except Error Unit × σ
  execute : StatementId → σ → Except Error Nat × σ
  query : StatementId → σ → Except Error Unit × σ
  step : StatementId → σ → Except Error (Option Row) × σ
  finalize : StatementId → σ → σ
  lastInsertRowid : σ → Int64
  autocommit : σ → Bool
  /-- A bound on the rows that the statement's result set still has. -/
  pending : StatementId → σ → Nat
  pending_step : ∀ s state row state', step s state = (.ok (some row), state') →
    pending s state' < pending s state

inductive Call where
  | batch (sql : String)
  | prepare (s : StatementId) (sql : String)
  | bind (s : StatementId) (slot : Nat) (v : Value)
  | execute (s : StatementId)
  | query (s : StatementId)
  | step (s : StatementId)
  | finalize (s : StatementId)
deriving DecidableEq

/-- A call that the engine received, and whether it accepted it, or an event of the log. -/
inductive Entry where
  | call (c : Call) (accepted : Bool)
  | event (e : Event)
deriving DecidableEq

def Entry.call? : Entry → Option Call
  | .call c _ => some c
  | .event _ => none

def Entry.event? : Entry → Option Event
  | .call .. => none
  | .event e => some e

structure World (σ : Type) where
  engine : σ
  journal : List Entry := []
  fresh : StatementId := 0

abbrev Act (σ : Type) := StateM (World σ)

abbrev Run (σ : Type) := ExceptT Error (Act σ)

variable {σ α : Type}

def succeeded : Except Error α → Bool
  | .ok _ => true
  | .error _ => false

namespace Act

def emit (e : Event) : Act σ Unit := fun w => ((), { w with journal := w.journal ++ [.event e] })

def observe (f : σ → α) : Act σ α := fun w => (f w.engine, w)

end Act

namespace Run

def call (c : Call) (answer : σ → Except Error α × σ) : Run σ α := fun w =>
  let (r, state) := answer w.engine
  (r, { w with engine := state, journal := w.journal ++ [.call c (succeeded r)] })

def freshId : Run σ StatementId := fun w => (.ok w.fresh, { w with fresh := w.fresh + 1 })

def ofExcept (r : Except Error α) : Run σ α := fun w => (r, w)

def outcome (body : Run σ α) : Run σ (Except Error α) := fun w =>
  let (r, w) := body w
  (.ok r, w)

end Run

namespace Engine

variable (E : Engine σ)

def finalizeStatement (s : StatementId) : Act σ Unit := fun w =>
  ((), { w with
    engine := E.finalize s w.engine
    journal := w.journal ++ [.call (.finalize s) true] })

def bindFrom (s : StatementId) : Nat → Params → Run σ Unit
  | _, [] => pure ()
  | slot, v :: rest => do
    Run.call (.bind s slot v) (E.bind s slot v)
    bindFrom s (slot + 1) rest

def owning (s : StatementId) (body : Run σ α) : Run σ α := fun w =>
  let (r, w) := body w
  (r, (E.finalizeStatement s w).2)

end Engine

end RecordSql
