import RecordSql.Builder.Edit

/-! Reading the rows of a query as records, one at a time or all at once. -/

namespace RecordSql

/-- A running query. It is done once the engine reported the end or a failure. -/
structure Cursor where
  statement : StatementId
  table : Table
  ended : Bool := false
  done : Bool := false

namespace Cursor

variable {σ : Type} (c : Connection σ)

def next (k : Cursor) : Act σ (Option (Except Error Record) × Cursor) := do
  if k.done then return (none, k)
  match ← (Run.call (.step k.statement) (c.engine.step k.statement)).run with
  | .ok (some row) => return (some (k.table.ofRow row), k)
  | .ok none => return (none, { k with ended := true, done := true })
  | .error e => return (some (.error e), { k with done := true })

def take : Nat → Cursor → Act σ (List (Option (Except Error Record)) × Cursor)
  | 0, k => return ([], k)
  | n + 1, k => do
    let (item, k) ← k.next c
    let (items, k) ← take n k
    return (item :: items, k)

/-- The records up to the end, or the first failure. The bound is that of the engine's result
set. -/
def collect : Nat → Cursor → Act σ (Except Error (List Record))
  | 0, _ => return .ok []
  | bound + 1, k => do
    match ← k.next c with
    | (none, _) => return .ok []
    | (some (.error e), _) => return .error e
    | (some (.ok r), k) => return (← collect bound k).map (r :: ·)

end Cursor

namespace Builder

variable {σ : Type} (c : Connection σ)

def start (b : Builder Select) : Act σ (Except Error Cursor × Builder Select) := do
  match ← b.ensurePrepared c with
  | (.error e, b) => return (.error e, b)
  | (.ok (), b) =>
    match b.slot.ready with
    | .error e => return (.error e, b)
    | .ok s =>
      match ← (Run.call (.query s) (c.engine.query s)).run with
      | .error e => return (.error e, b)
      | .ok () =>
        let b := { b with slot := { b.slot with stage := .stepped } }
        return (.ok { statement := s, table := b.content.table }, b)

def settle (k : Cursor) (b : Builder Select) : Builder Select :=
  if k.ended then { b with slot := { b.slot with stage := .exhausted } } else b

def rows (n : Nat) (b : Builder Select) :
    Act σ (Except Error (List (Option (Except Error Record))) × Builder Select) := do
  match ← b.start c with
  | (.error e, b) => return (.error e, b)
  | (.ok k, b) =>
    let (items, k) ← k.take c n
    return (.ok items, b.settle k)

def reading {α : Type} (b : Builder Select) (read : Cursor → Act σ (Except Error α)) : Run σ α :=
  ExceptT.mk do
    let (started, b) ← b.start c
    let r ← match started with
      | .error e => pure (.error e)
      | .ok k => read k
    b.drop c
    return r

def fetchAll (b : Builder Select) : Run σ (List Record) :=
  b.reading c fun k => do
    let bound ← Act.observe (c.engine.pending k.statement)
    k.collect c (bound + 1)

def fetchFirst (b : Builder Select) : Run σ (Option Record) :=
  b.reading c fun k => do
    match ← k.next c with
    | (none, _) => return .ok none
    | (some r, _) => return r.map some

def fetchOne (b : Builder Select) : Run σ Record := do
  let name := b.content.table.name
  match ← b.fetchFirst c with
  | some r => return r
  | none => throw (.notFound ("no row in " ++ quoted name ++ " matched"))

def one (b : Builder Select) : Run σ (Option Record) :=
  (b.edit (Select.Edit.limit 1)).fetchFirst c

end Builder

end RecordSql
