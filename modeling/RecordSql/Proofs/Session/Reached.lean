import RecordSql.Engine.Script
import RecordSql.Proofs.Connection.Activities
import RecordSql.Session.Run

/-! The sessions that a connection comes to, whatever operations are run, however transactions are
nested and however the engine answers; and all that one step can do to a session. -/

namespace RecordSql

variable {σ α : Type}

namespace Session

inductive Move (σ : Type) where
  | perform (op : Op σ)
  | begin
  | finish (nested : Bool) (outcome : Except Error Unit)

def move (c : Connection σ) (s : Session σ) : Move σ → Session σ
  | .perform op => (s.perform c op).2.2
  | .begin => (s.act c.beginLevel.run).2
  | .finish nested outcome => (s.act (c.endLevel nested outcome).run).2

def moves (c : Connection σ) (s : Session σ) (ms : List (Move σ)) : Session σ :=
  ms.foldl (move c) s

def Move.builder? : Move σ → Option String
  | .perform (.select name _) => some name
  | .perform (.selectFrom name _ _) => some name
  | .perform (.insert name _ _) => some name
  | .perform (.insertMany name _ _) => some name
  | .perform (.update name _) => some name
  | .perform (.delete name _) => some name
  | .perform (.drop name) => some name
  | .perform (.call name _) => some name
  | _ => none

inductive Reached (c : Connection σ) : Session σ → Prop where
  | opened (state : σ) (config : Config) (declarations : List (Except Error Table)) {w : World σ}
      (h : (Connection.openOn c.engine config declarations).run { engine := state } = (.ok c, w)) :
      Reached c { world := w }
  | moved {s : Session σ} (h : Reached c s) (m : Move σ) : Reached c (s.move c m)

theorem Reached.moves {c : Connection σ} {s : Session σ} (h : Reached c s) (ms : List (Move σ)) :
    Reached c (s.moves c ms) := by
  induction ms generalizing s with
  | nil => exact h
  | cons m rest ih => exact ih (h.moved m)

mutual

theorem Reached.runTask {c : Connection σ} {s : Session σ} (h : Reached c s) :
    ∀ t : Task σ, Reached c (runTask c t s).2.2
  | .op must refersTo op => by
    unfold Session.runTask
    cases s.unresolved (.op must refersTo op) with
    | some name => exact h
    | none => exact h.moved (.perform op)
  | .transaction must refersTo fail body => by
    unfold Session.runTask
    cases s.unresolved (.transaction must refersTo fail body) with
    | some name => exact h
    | none =>
      have hb := h.moved .begin
      change Reached c (s.act c.beginLevel.run).2 at hb
      rcases hs : s.act c.beginLevel.run with ⟨_ | nested, s₁⟩ <;> rw [hs] at hb
      · exact hb
      · exact (hb.runTasks body).moved (.finish nested _)

theorem Reached.runTasks {c : Connection σ} {s : Session σ} (h : Reached c s) :
    ∀ ts : List (Task σ), Reached c (runTasks c ts s).2.2
  | [] => h
  | t :: rest => by
    have ht := h.runTask t
    unfold Session.runTasks
    rcases hs : Session.runTask c t s with ⟨account, _ | e, s'⟩ <;> rw [hs] at ht
    · exact ht.runTasks rest
    · exact ht

end

namespace Notes

def table : Table where
  name := "notes"
  recordType := "Note"
  fields :=
    [{ name := "id", type := { scalar := .integer .i64 } },
      { name := "title", type := { scalar := .text } }]
  wellFormed := rfl

def connection : Connection Script.State where
  engine := Script.engine
  schema := ⟨[table], rfl⟩
  config := {}

def opened (state : Script.State) : Session Script.State :=
  { world := ((Connection.openOn Script.engine {} [.ok table]).run { engine := state }).2 }

theorem reached_opened : Reached connection (opened {}) := .opened {} {} [.ok table] rfl

end Notes

inductive New (c : Connection σ) (s : Session σ) : AnyBuilder → Prop where
  | select {t : Table} (ht : t ∈ c.schema.tables) : New c s (.select { content := .ofTable t })
  | selectFrom {t : Table} (ht : t ∈ c.schema.tables) {sub : String} {q : Subquery}
      (hq : s.subquery? sub = some q) : New c s (.select { content := .ofSubquery t q })
  | insert {t : Table} (ht : t ∈ c.schema.tables) (records : List Record) :
      New c s (.insert (({ content := { table := t } } : Builder Insert).addRecords records))
  | update {t : Table} (ht : t ∈ c.schema.tables) : New c s (.update { content := { table := t } })
  | delete {t : Table} (ht : t ∈ c.schema.tables) : New c s (.delete { content := { table := t } })

inductive Stepped (c : Connection σ) (s : Session σ) : Move σ → Session σ → Prop where
  | stayed (m : Move σ) : Stepped c s m s
  | acted {m : Move σ} (hm : m.builder? = none) {w : World σ}
      (h : s.world.Leads none loadedRule w) : Stepped c s m { s with world := w }
  | created {m : Move σ} {name : String} (hm : m.builder? = some name) {b : AnyBuilder}
      (h : New c s b) : Stepped c s m ((s.dropBuilder c name).keep name b)
  | dropped (name : String) : Stepped c s (.perform (.drop name)) (s.dropBuilder c name)
  | called (name : String) (r : Request) :
      Stepped c s (.perform (.call name r)) (s.call c name r).2.2

theorem mem_of_table {c : Connection σ} {recordType : String} {t : Table}
    (h : c.table recordType = .ok t) : t ∈ c.schema.tables := by
  unfold Connection.table Schema.table at h
  split at h
  · next hf =>
    cases h
    exact List.mem_of_find?_eq_some hf
  · cases h

section

variable {c : Connection σ} {s : Session σ}

theorem new_select {recordType : String} (b : AnyBuilder)
    (h : (c.select recordType).map .select = .ok b) : New c s b := by
  unfold Connection.select at h
  cases ht : c.table recordType <;> rw [ht] at h <;> cases h
  exact .select (mem_of_table ht)

theorem new_selectFrom {recordType sub : String} {q : Subquery} (hq : s.subquery? sub = some q)
    (b : AnyBuilder) (h : (c.selectFrom recordType q).map .select = .ok b) : New c s b := by
  unfold Connection.selectFrom at h
  cases ht : c.table recordType <;> rw [ht] at h <;> cases h
  exact .selectFrom (mem_of_table ht) hq

theorem new_insert {recordType : String} {values : List (List (Option Value))} (b : AnyBuilder)
    (h : (do
      let records ← values.mapM (c.record recordType)
      return .insert (← c.insertMany recordType records) : Except Error AnyBuilder) = .ok b) :
    New c s b := by
  obtain ⟨records, -, hb⟩ := bind_eq_ok.1 h
  obtain ⟨b', hb', hb⟩ := bind_eq_ok.1 hb
  obtain ⟨t, ht, hb'⟩ := bind_eq_ok.1 hb'
  cases hb'
  cases hb
  exact .insert (mem_of_table ht) records

theorem new_update {recordType : String} (b : AnyBuilder)
    (h : (c.update recordType).map .update = .ok b) : New c s b := by
  unfold Connection.update at h
  cases ht : c.table recordType <;> rw [ht] at h <;> cases h
  exact .update (mem_of_table ht)

theorem new_delete {recordType : String} (b : AnyBuilder)
    (h : (c.delete recordType).map .delete = .ok b) : New c s b := by
  unfold Connection.delete at h
  cases ht : c.table recordType <;> rw [ht] at h <;> cases h
  exact .delete (mem_of_table ht)

theorem Stepped.act {m : Move σ} (hm : m.builder? = none) {a : Act σ α} (h : a.Contained) :
    Stepped c s m (s.act a).2 :=
  .acted hm (h s.world)

theorem stepped_create {m : Move σ} {name : String} (hm : m.builder? = some name)
    {r : Except Error AnyBuilder} (h : ∀ b, r = .ok b → New c s b) :
    Stepped c s m (s.create c name r).2 := by
  cases r with
  | error e => exact .stayed _
  | ok b => exact .created hm (h b rfl)

theorem stepped_perform (op : Op σ) :
    Stepped c s (.perform op) (s.perform c op).2.2 := by
  cases op with
  -- the engine is another one afterwards, but it was asked for nothing
  | adjust f => exact .acted rfl ⟨Nat.le_refl _, [], (List.append_nil _).symm, by simp, by simp⟩
  | createTables ifNotExists => exact .act rfl (c.contained_createTables ifNotExists)
  | setForeignKeys enabled => exact .act rfl (c.contained_setForeignKeys enabled)
  | countTables => exact .act rfl c.contained_countTables
  | batch sql => exact .act rfl (c.contained_batch sql)
  | lastInsertRowid => exact .act rfl (Run.contained_observe c.engine.lastInsertRowid)
  | inspect => exact .stayed _
  | tables => exact .stayed _
  | table recordType => exact .stayed _
  | select name recordType => exact stepped_create rfl new_select
  -- the nested query was kept before, so its sources are known to be sound
  | selectFrom name recordType sub =>
    dsimp only [perform]
    cases hq : s.subquery? sub with
    | none => exact .stayed _
    | some q => exact stepped_create rfl (new_selectFrom hq)
  | insert | insertMany => exact stepped_create rfl new_insert
  | update name recordType => exact stepped_create rfl new_update
  | delete name recordType => exact stepped_create rfl new_delete
  | insertRecord recordType values =>
    exact .act rfl ((Run.contained_ofExcept _).bind fun r => c.contained_insertRecord recordType r)
  | insertManyRecords recordType rows batchSize =>
    exact .act rfl ((Run.contained_ofExcept _).bind fun rs =>
      c.contained_insertManyRecords recordType rs batchSize)
  | updateRecord recordType values =>
    exact .act rfl ((Run.contained_ofExcept _).bind fun r => c.contained_updateRecord recordType r)
  | findRecord recordType key => exact .act rfl (c.contained_findRecord recordType key)
  | deleteRecord recordType key => exact .act rfl (c.contained_deleteRecord recordType key)
  | first recordType => exact .act rfl (c.contained_extreme recordType .asc)
  | last recordType => exact .act rfl (c.contained_extreme recordType .desc)
  | truncate recordType => exact .act rfl (c.contained_truncate recordType)
  | drop name => exact .dropped name
  | call name r => exact .called name r

theorem stepped_move (m : Move σ) : Stepped c s m (s.move c m) := by
  cases m with
  | perform op => exact stepped_perform op
  | begin => exact .act rfl c.contained_beginLevel
  | finish nested outcome => exact .act rfl (c.contained_endLevel nested outcome)

end

end Session

end RecordSql
