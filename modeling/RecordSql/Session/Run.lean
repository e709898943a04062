import RecordSql.Session.Call

/-! Running the operations of a session, transactions inside transactions included, with an account
of each one. -/

namespace RecordSql

/-- An operation, or operations inside a transaction that fails in the end if `fail` is given. One
that must succeed ends the operations it stands among when it fails. One that refers to a nested
query is left out if nothing is kept under that name. -/
inductive Session.Task (σ : Type) where
  | op (must : Bool) (refersTo : Option String) (op : Op σ)
  | transaction (must : Bool) (refersTo : Option String) (fail : Option Error)
    (body : List (Session.Task σ))

/-- The account of a task: its result and what the journal gained. Of a transaction whose body ran,
the entries before the body, the accounts of the body and the entries after it are kept apart. -/
inductive Account where
  | op (result : Except Error Reply) (stage : Option Stage) (entries : List Entry)
  | unopened (result : Except Error Unit) (entries : List Entry)
  | transaction (result : Except Error Unit) (before : List Entry) (body : List Account)
    (after : List Entry)

namespace Session

variable {σ : Type}

def createInsert (c : Connection σ) (s : Session σ) (name recordType : String)
    (values : List (List (Option Value))) : Except Error Reply × Session σ :=
  s.create c name do
    let records ← values.mapM (c.record recordType)
    return .insert (← c.insertMany recordType records)

def perform (c : Connection σ) (s : Session σ) :
    Op σ → Except Error Reply × Option Stage × Session σ
  | .adjust f => (.ok .done, none, { s with world := { s.world with engine := f s.world.engine } })
  | .createTables ifNotExists => plain (s.answer (c.createTables ifNotExists) fun () => .done)
  | .setForeignKeys enabled => plain (s.answer (c.setForeignKeys enabled) fun () => .done)
  | .countTables => plain (s.answer c.countTables .integer)
  | .batch sql => plain (s.answer (c.batch sql) fun () => .done)
  | .lastInsertRowid => plain (s.answer c.lastInsertRowid .integer)
  | .inspect => (.ok (.text c.view.render), none, s)
  | .tables => (.ok (.tables c.schema.tables), none, s)
  | .table recordType => ((c.table recordType).map .table, none, s)
  | .select name recordType => plain (s.create c name ((c.select recordType).map .select))
  | .selectFrom name recordType sub =>
    match s.subquery? sub with
    | some q => plain (s.create c name ((c.selectFrom recordType q).map .select))
    | none => (.ok (.missing sub), none, s)
  | .insert name recordType values => plain (s.createInsert c name recordType [values])
  | .insertMany name recordType rows => plain (s.createInsert c name recordType rows)
  | .update name recordType => plain (s.create c name ((c.update recordType).map .update))
  | .delete name recordType => plain (s.create c name ((c.delete recordType).map .delete))
  | .insertRecord recordType values => plain (s.answer (do
      let r ← Run.ofExcept (c.record recordType values)
      c.insertRecord recordType r) fun r => .record (some r))
  | .insertManyRecords recordType rows batchSize => plain (s.answer (do
      let records ← Run.ofExcept (rows.mapM (c.record recordType))
      c.insertManyRecords recordType records batchSize) .nat)
  | .updateRecord recordType values => plain (s.answer (do
      let r ← Run.ofExcept (c.record recordType values)
      c.updateRecord recordType r) .nat)
  | .findRecord recordType key => plain (s.answer (c.findRecord recordType key) .record)
  | .deleteRecord recordType key => plain (s.answer (c.deleteRecord recordType key) .nat)
  | .first recordType => plain (s.answer (c.first recordType) .record)
  | .last recordType => plain (s.answer (c.last recordType) .record)
  | .truncate recordType => plain (s.answer (c.truncate recordType) .nat)
  | .drop name => (.ok .done, none, s.dropBuilder c name)
  | .call name r => s.call c name r
where
  plain (r : Except Error Reply × Session σ) : Except Error Reply × Option Stage × Session σ :=
    (r.1, none, r.2)

def gained (earlier later : Session σ) : List Entry :=
  later.world.journal.drop earlier.world.journal.length

def fatal {α : Type} (must : Bool) : Except Error α → Option Error
  | .ok _ => none
  | .error e => if must then some e else none

def unresolved (s : Session σ) : Task σ → Option String
  | .op _ refersTo _ => refersTo.filter fun name => (s.subquery? name).isNone
  | .transaction _ refersTo _ _ => refersTo.filter fun name => (s.subquery? name).isNone

mutual

def runTask (c : Connection σ) : Task σ → Session σ → Account × Option Error × Session σ
  | .op must refersTo op, s =>
    match s.unresolved (.op must refersTo op) with
    | some name => (.op (.ok (.missing name)) none [], none, s)
    | none =>
      let (result, stage, s') := s.perform c op
      (.op result stage (gained s s'), fatal must result, s')
  | .transaction must refersTo fail body, s =>
    match s.unresolved (.transaction must refersTo fail body) with
    | some name => (.op (.ok (.missing name)) none [], none, s)
    | none =>
      let (opened, s₁) := s.act c.beginLevel.run
      match opened with
      | .error e =>
        (.unopened (.error e) (gained s s₁), fatal must (.error e : Except Error Unit), s₁)
      | .ok nested =>
        let (accounts, ended, s₂) := runTasks c body s₁
        let outcome : Except Error Unit :=
          match ended, fail with
          | some e, _ => .error e
          | none, some e => .error e
          | none, none => .ok ()
        let (result, s₃) := s₂.act (c.endLevel nested outcome).run
        (.transaction result (gained s s₁) accounts (gained s₂ s₃), fatal must result, s₃)

def runTasks (c : Connection σ) : List (Task σ) → Session σ →
    List Account × Option Error × Session σ
  | [], s => ([], none, s)
  | t :: rest, s =>
    match runTask c t s with
    | (account, some e, s) => ([account], some e, s)
    | (account, none, s) =>
      let (accounts, ended, s) := runTasks c rest s
      (account :: accounts, ended, s)

end

def run (engine : Engine σ) (state : σ) (config : Config)
    (declarations : List (Except Error Table)) (tasks : List (Task σ)) :
    Except Error (List Account) × List Entry :=
  let (opened, world) := (Connection.openOn engine config declarations).run { engine := state }
  match opened with
  | .error e => (.error e, world.journal)
  | .ok c => (.ok (runTasks c tasks { world }).1, world.journal)

end Session

end RecordSql
