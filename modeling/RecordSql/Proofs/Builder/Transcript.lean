import RecordSql.Session.Basic
import RecordSql.Proofs.Connection.Transcript

/-! Builders and the calls on whole records under all settings of the log: what they compile is what
some builder builds, and the settings change neither their results nor what the engine is asked
for. -/

namespace RecordSql

variable {σ κ α : Type} {P : StatementKind → Sql → Prop}

open Act (uniform_pure uniform_finalize uniform_observe)

namespace Cursor

variable (c : Connection σ)

theorem uniform_next (k : Cursor) : Act.Uniform P fun log => k.next (c.withLog log) := by
  unfold next
  split
  · exact uniform_pure _
  · refine Act.Uniform.bind
      (Run.uniform_call (.step k.statement) (c.engine.step k.statement) trivial) fun r => ?_
    rcases r with _ | _ | row <;> exact uniform_pure _

theorem uniform_take (n : Nat) (k : Cursor) :
    Act.Uniform P fun log => k.take (c.withLog log) n := by
  induction n generalizing k with
  | zero => exact uniform_pure _
  | succ n ih =>
    exact (k.uniform_next c).bind fun x => (ih x.2).bind fun y => uniform_pure (x.1 :: y.1, y.2)

theorem uniform_collect (bound : Nat) (k : Cursor) :
    Act.Uniform P fun log => k.collect (c.withLog log) bound := by
  induction bound generalizing k with
  | zero => exact uniform_pure _
  | succ bound ih =>
    refine (k.uniform_next c).bind fun x => ?_
    rcases x with ⟨_ | _ | r, k'⟩
    · exact uniform_pure _
    · exact uniform_pure _
    · exact (ih k').bind fun rs => uniform_pure _

end Cursor

namespace Builder

variable (c : Connection σ)

section

variable [Statement κ]

omit [Statement κ] in
theorem uniform_drop (b : Builder κ) : Act.Uniform P fun log => b.drop (c.withLog log) := by
  unfold drop
  cases b.slot.statement with
  | some s => exact uniform_finalize c.engine s
  | none => exact uniform_pure ()

theorem uniform_prepare {b : Builder κ} (h : ∀ sql, b.build = .ok sql → P (Statement.kind κ) sql) :
    Act.Uniform P fun log => b.prepare (c.withLog log) := by
  unfold prepare
  cases hb : b.build with
  | error e => exact uniform_pure _
  | ok sql =>
    refine (b.uniform_drop c).bind fun _ => Act.Uniform.bind (c.uniform_compile (h sql hb))
      fun r => ?_
    cases r <;> exact uniform_pure _

theorem uniform_ensurePrepared {b : Builder κ}
    (h : ∀ sql, b.build = .ok sql → P (Statement.kind κ) sql) :
    Act.Uniform P fun log => b.ensurePrepared (c.withLog log) := by
  unfold ensurePrepared
  split
  · exact uniform_pure _
  · exact uniform_prepare c h

omit [Statement κ] in
theorem uniform_execute (b : Builder κ) : Act.Uniform P fun log => b.execute (c.withLog log) := by
  unfold execute
  cases b.slot.ready with
  | error e => exact uniform_pure _
  | ok s =>
    refine Act.Uniform.bind (Run.uniform_call (.execute s) (c.engine.execute s) trivial)
      fun r => ?_
    cases r <;> exact uniform_pure _

theorem uniform_exec {b : Builder κ} (h : ∀ sql, b.build = .ok sql → P (Statement.kind κ) sql) :
    Act.Uniform P fun log => b.exec (c.withLog log) := by
  refine (uniform_ensurePrepared c h).bind fun x => ?_
  rcases x with ⟨_ | _, b'⟩
  · exact uniform_pure _
  · exact b'.uniform_execute c

theorem uniform_execOnce {b : Builder κ}
    (h : ∀ sql, b.build = .ok sql → P (Statement.kind κ) sql) :
    Run.Uniform P fun log => b.execOnce (c.withLog log) :=
  Act.Uniform.bind (uniform_exec c h) fun x => (x.2.uniform_drop c).bind fun _ => uniform_pure x.1

end

section Rows

variable {b : Builder Select}

theorem uniform_start (h : ∀ sql, b.build = .ok sql → P .select sql) :
    Act.Uniform P fun log => b.start (c.withLog log) := by
  refine (uniform_ensurePrepared c h).bind fun x => ?_
  rcases x with ⟨_ | _, b'⟩
  · exact uniform_pure _
  · dsimp only
    cases b'.slot.ready with
    | error e => exact uniform_pure _
    | ok s =>
      refine Act.Uniform.bind (Run.uniform_call (.query s) (c.engine.query s) trivial) fun r => ?_
      cases r <;> exact uniform_pure _

theorem uniform_rows (h : ∀ sql, b.build = .ok sql → P .select sql) (n : Nat) :
    Act.Uniform P fun log => b.rows (c.withLog log) n := by
  refine (uniform_start c h).bind fun x => ?_
  rcases x with ⟨_ | k, b'⟩
  · exact uniform_pure _
  · exact (k.uniform_take c n).bind fun y => uniform_pure _

theorem uniform_reading (h : ∀ sql, b.build = .ok sql → P .select sql)
    {read : LogConfig → Cursor → Act σ (Except Error α)}
    (hread : ∀ k, Act.Uniform P fun log => read log k) :
    Run.Uniform P fun log => b.reading (c.withLog log) (read log) := by
  refine Act.Uniform.bind (uniform_start c h) fun x => ?_
  rcases x with ⟨e | k, b'⟩
  · exact (uniform_pure _).bind fun r => (b'.uniform_drop c).bind fun _ => uniform_pure r
  · exact (hread k).bind fun r => (b'.uniform_drop c).bind fun _ => uniform_pure r

theorem uniform_fetchAll (h : ∀ sql, b.build = .ok sql → P .select sql) :
    Run.Uniform P fun log => b.fetchAll (c.withLog log) :=
  uniform_reading c h fun k => (uniform_observe (c.engine.pending k.statement)).bind fun bound =>
    k.uniform_collect c (bound + 1)

theorem uniform_fetchFirst (h : ∀ sql, b.build = .ok sql → P .select sql) :
    Run.Uniform P fun log => b.fetchFirst (c.withLog log) :=
  uniform_reading c h fun k => (k.uniform_next c).bind fun x => by
    rcases x with ⟨_ | r, k'⟩ <;> exact uniform_pure _

theorem uniform_fetchOne (h : ∀ sql, b.build = .ok sql → P .select sql) :
    Run.Uniform P fun log => b.fetchOne (c.withLog log) := by
  refine (uniform_fetchFirst c h).bind fun r => ?_
  cases r with
  | none => exact Run.uniform_throw _
  | some r => exact Run.uniform_pure r

theorem uniform_one
    (h : ∀ sql, (b.edit (Select.Edit.limit 1)).build = .ok sql → P .select sql) :
    Run.Uniform P fun log => b.one (c.withLog log) := uniform_fetchFirst c h

theorem uniform_count (h : ∀ sql, b.buildCount = .ok sql → P .select sql) :
    Run.Uniform P fun log => b.count (c.withLog log) := by
  unfold count
  cases hb : b.buildCount with
  | error e => exact (Run.uniform_throw e).of_eq fun _ _ => rfl
  | ok sql => exact c.uniform_scalar (h sql hb) _

end Rows

end Builder

namespace Connection

variable (c : Connection σ) (h : ∀ (b : AnyBuilder) sql, b.build = .ok sql → P b.kind sql)

include h

theorem uniform_insertRecord (recordType : String) (r : Record) :
    Run.Uniform P fun log => (c.withLog log).insertRecord recordType r := by
  refine (Run.uniform_ofExcept (c.table recordType)).bind fun t =>
    (Run.uniform_ofExcept (c.insert recordType r)).bind fun b =>
      (Builder.uniform_execOnce c (h (.insert b))).bind fun _ => ?_
  cases t.assignedKey? r with
  | none => exact Run.uniform_pure r
  | some pk =>
    exact (Run.uniform_lift (uniform_observe c.engine.lastInsertRowid)).bind fun rowid =>
      Run.uniform_ofExcept _

theorem uniform_insertBatches (recordType : String) (batches : List (List Record)) :
    Run.Uniform P fun log => (c.withLog log).insertBatches recordType batches := by
  induction batches with
  | nil => exact Run.uniform_pure 0
  | cons batch rest ih =>
    exact (Run.uniform_ofExcept (c.insertMany recordType batch)).bind fun b =>
      (Builder.uniform_execOnce c (h (.insert b))).bind fun n => ih.bind fun m =>
        Run.uniform_pure (n + m)

theorem uniform_insertManyRecords (recordType : String) (records : List Record) (batchSize : Nat) :
    Run.Uniform P fun log => (c.withLog log).insertManyRecords recordType records batchSize := by
  unfold insertManyRecords
  split_ifs
  · exact Run.uniform_throw _
  · exact Run.uniform_pure 0
  · exact c.uniform_transaction (c.uniform_insertBatches h recordType _)

theorem uniform_updateRecord (recordType : String) (r : Record) :
    Run.Uniform P fun log => (c.withLog log).updateRecord recordType r :=
  (Run.uniform_ofExcept (c.table recordType)).bind fun t =>
    (Run.uniform_ofExcept t.primaryKey).bind fun _ =>
      Builder.uniform_execOnce c (h (.update _))

theorem uniform_findRecord (recordType : String) (key : Value) :
    Run.Uniform P fun log => (c.withLog log).findRecord recordType key :=
  (Run.uniform_ofExcept (c.table recordType)).bind fun t =>
    (Run.uniform_ofExcept t.primaryKey).bind fun _ => Builder.uniform_one c (h (.select _))

theorem uniform_deleteRecord (recordType : String) (key : Value) :
    Run.Uniform P fun log => (c.withLog log).deleteRecord recordType key :=
  (Run.uniform_ofExcept (c.table recordType)).bind fun t =>
    (Run.uniform_ofExcept t.primaryKey).bind fun _ =>
      Builder.uniform_execOnce c (h (.delete _))

theorem uniform_extreme (recordType : String) (direction : Direction) :
    Run.Uniform P fun log => (c.withLog log).extreme recordType direction :=
  (Run.uniform_ofExcept (c.table recordType)).bind fun t =>
    (Run.uniform_ofExcept t.primaryKey).bind fun _ => Builder.uniform_one c (h (.select _))

theorem uniform_truncate (recordType : String) :
    Run.Uniform P fun log => (c.withLog log).truncate recordType :=
  (Run.uniform_ofExcept (c.table recordType)).bind fun _ =>
    Builder.uniform_execOnce c (h (.delete _))

end Connection

end RecordSql
