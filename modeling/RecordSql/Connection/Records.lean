import RecordSql.Builder.Cursor
import RecordSql.Connection.Transaction

/-! Calls on whole records, addressed by the primary key of their table. -/

namespace RecordSql

def pieces {α : Type} (size : Nat) (xs : List α) : List (List α) :=
  (List.range ((xs.length + size - 1) / size)).map fun i => (xs.drop (i * size)).take size

namespace Connection

variable {σ : Type} (c : Connection σ)

def select (recordType : String) : Except Error (Builder Select) := do
  return { content := .ofTable (← c.table recordType) }

def selectFrom (recordType : String) (s : Subquery) : Except Error (Builder Select) := do
  return { content := .ofSubquery (← c.table recordType) s }

def insertMany (recordType : String) (records : List Record) : Except Error (Builder Insert) := do
  let b : Builder Insert := { content := { table := ← c.table recordType } }
  return b.addRecords records

def insert (recordType : String) (r : Record) : Except Error (Builder Insert) :=
  c.insertMany recordType [r]

def update (recordType : String) : Except Error (Builder Update) := do
  return { content := { table := ← c.table recordType } }

def delete (recordType : String) : Except Error (Builder Delete) := do
  return { content := { table := ← c.table recordType } }

def insertRecord (recordType : String) (r : Record) : Run σ Record := do
  let t ← Run.ofExcept (c.table recordType)
  let b ← Run.ofExcept (c.insert recordType r)
  let _ ← b.execOnce c
  match t.assignedKey? r with
  | some pk =>
    let rowid ← (Act.observe c.engine.lastInsertRowid : Act σ Int64)
    Run.ofExcept (pk.assign r (.integer rowid))
  | none => return r

/-- The insertion of a record in place: it leaves a record behind whatever comes of it. -/
def insertInPlace (recordType : String) (r : Record) : Act σ (Except Error Unit × Record) :=
  fun w =>
    match c.table recordType, c.insert recordType r with
    | .ok t, .ok b =>
      match b.execOnce c w with
      | (.ok _, w) =>
        match t.assignedKey? r with
        | some pk =>
          let rowid := c.engine.lastInsertRowid w.engine
          let (after, result) := Table.fillColumns r [pk] [some (.integer rowid)]
          ((result, after), w)
        | none => ((.ok (), r), w)
      | (.error e, w) => ((.error e, r), w)
    | .error e, _ | _, .error e => ((.error e, r), w)

def insertBatches (recordType : String) : List (List Record) → Run σ Nat
  | [] => return 0
  | batch :: rest => do
    let b ← Run.ofExcept (c.insertMany recordType batch)
    let n ← b.execOnce c
    return n + (← insertBatches recordType rest)

def insertManyRecords (recordType : String) (records : List Record) (batchSize : Nat) : Run σ Nat :=
  if batchSize = 0 then throw (.validation "batch size must be at least 1")
  else if records.isEmpty then return 0
  else c.transaction (c.insertBatches recordType (pieces batchSize records))

def updateRecord (recordType : String) (r : Record) : Run σ Nat := do
  let t ← Run.ofExcept (c.table recordType)
  let pk ← Run.ofExcept t.primaryKey
  let b : Builder Update := { content := Update.setRecord { table := t } r }
  let key := Condition.compare (.ofText pk.name) .eq (pk.extract r)
  (b.edit (Update.Edit.filter key)).execOnce c

def findRecord (recordType : String) (key : Value) : Run σ (Option Record) := do
  let t ← Run.ofExcept (c.table recordType)
  let pk ← Run.ofExcept t.primaryKey
  let b : Builder Select := { content := .ofTable t }
  (b.edit (Select.Edit.filter (.compare (.ofText pk.name) .eq key))).one c

def deleteRecord (recordType : String) (key : Value) : Run σ Nat := do
  let t ← Run.ofExcept (c.table recordType)
  let pk ← Run.ofExcept t.primaryKey
  let b : Builder Delete := { content := { table := t } }
  (b.edit (Delete.Edit.filter (.compare (.ofText pk.name) .eq key))).execOnce c

def extreme (recordType : String) (direction : Direction) : Run σ (Option Record) := do
  let t ← Run.ofExcept (c.table recordType)
  let pk ← Run.ofExcept t.primaryKey
  let b : Builder Select := { content := .ofTable t }
  (b.edit (Select.Edit.order (.ofText pk.name) direction)).one c

def first (recordType : String) : Run σ (Option Record) := c.extreme recordType .asc

def last (recordType : String) : Run σ (Option Record) := c.extreme recordType .desc

def truncate (recordType : String) : Run σ Nat := do
  let t ← Run.ofExcept (c.table recordType)
  let b : Builder Delete := { content := { table := t } }
  b.execOnce c

end Connection

end RecordSql
