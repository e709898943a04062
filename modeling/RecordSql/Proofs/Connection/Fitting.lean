import RecordSql.Connection.Records
import RecordSql.Engine.Script
import RecordSql.Proofs.Engine.Activity
import RecordSql.Proofs.Statement.Insertion
import RecordSql.Proofs.Table

/-! Values that are taken from records fit the columns that they are for. So an INSERT of records
fails only by their number, and an UPDATE from a record passes every check of its assignments. -/

namespace RecordSql

variable {σ : Type} {t : Table} {r : Record} {records : List Record}

theorem Table.inserted_eq_nil : t.inserted = [] ↔ ∀ c ∈ t.columns, c.isAutoincrement := by
  simp [inserted, List.filter_eq_nil_iff]

namespace Insert

structure BuildsRecords (t : Table) (records : List Record) (built : Except Error Sql) :
    Prop where
  fails : ∀ e, built = .error e ↔
    records = [] ∧ e = .validation ("INSERT into " ++ quoted t.name ++ " has no rows") ∨
      (∀ c ∈ t.columns, c.isAutoincrement) ∧ 1 < records.length ∧
        e = .validation "DEFAULT VALUES inserts exactly one row"
  params : ∀ sql, built = .ok sql → sql.params = records.flatMap fun r =>
    (t.columns.filter fun c => !c.isAutoincrement).map fun c => c.extract r

theorem build_defaults (hcolumns : t.inserted = []) (hrecords : records ≠ []) :
    build { table := t, rows := records.map (row t) } =
      if 1 < records.length then .error (.validation "DEFAULT VALUES inserts exactly one row")
      else .ok (.ofText ("INSERT INTO " ++ quoted t.name) ++ .ofText " DEFAULT VALUES" ++
        .ofText ("" ++ ";")) := by
  have hrows : (records.map (row t)).isEmpty = false := by simpa using hrecords
  unfold build source
  simp only [hrows, hcolumns, List.length_map, List.isEmpty_nil, Bool.false_eq_true, if_false,
    if_true]
  split_ifs <;> rfl

theorem buildsRecords (hall : ∀ r ∈ records, t.Holds r) :
    BuildsRecords t records (build { table := t, rows := records.map (row t) }) := by
  by_cases hrecords : records = []
  · subst hrecords
    refine ⟨fun e => ⟨?_, ?_⟩, nofun⟩
    · rintro ⟨⟩
      exact .inl ⟨rfl, rfl⟩
    · rintro (⟨-, rfl⟩ | ⟨-, hmany, -⟩)
      · rfl
      · exact absurd hmany (by simp)
  by_cases hcolumns : t.inserted = []
  · have hauto := Table.inserted_eq_nil.1 hcolumns
    rw [build_defaults hcolumns hrecords]
    split_ifs with hmany
    · refine ⟨fun e => ⟨?_, ?_⟩, nofun⟩
      · rintro ⟨⟩
        exact .inr ⟨hauto, hmany, rfl⟩
      · rintro (⟨hnone, -⟩ | ⟨-, -, rfl⟩)
        · exact absurd hnone hrecords
        · rfl
    · refine ⟨fun e => by simp [hrecords, hmany], ?_⟩
      rintro _ ⟨⟩
      change [] = records.flatMap (row t)
      simp [row, hcolumns]
  · have hauto : ¬∀ c ∈ t.columns, c.isAutoincrement := mt Table.inserted_eq_nil.2 hcolumns
    rw [build_rows hcolumns hrecords hall]
    refine ⟨fun e => by simp [hrecords, hauto], ?_⟩
    rintro _ ⟨⟩
    rfl

end Insert

namespace Connection

def revision (t : Table) (pk : Column) (r : Record) : Builder Update :=
  { content :=
      { Update.setRecord { table := t } r with
        condition := some (.compare (.ofText pk.name) .eq (pk.extract r)) } }

variable {c : Connection σ} {recordType : String}

theorem keyed_apply (ht : c.table recordType = .ok t) {pk : Column}
    (hpk : t.primaryKey? = some pk) {α : Type} (f : Table → Column → Run σ α) (w : World σ) :
    (do
      let t ← Run.ofExcept (c.table recordType)
      let pk ← Run.ofExcept t.primaryKey
      f t pk : Run σ α) w = f t pk w := by
  have hprimary : t.primaryKey = .ok pk := by rw [Table.primaryKey, hpk]
  rw [Run.ofExcept_bind_apply, ht]
  dsimp only
  rw [Run.ofExcept_bind_apply, hprimary]

theorem updateRecord_eq (ht : c.table recordType = .ok t) {pk : Column}
    (hpk : t.primaryKey? = some pk) :
    c.updateRecord recordType r = (revision t pk r).execOnce c :=
  funext fun w => keyed_apply ht hpk _ w

structure TakesRecords (c : Connection σ) (recordType : String) (t : Table) : Prop where
  insertMany : ∀ records, (∀ r ∈ records, t.Holds r) →
    ∃ b, c.insertMany recordType records = .ok b ∧ Insert.BuildsRecords t records b.build
  insert : ∀ r, t.Holds r →
    ∃ b, c.insert recordType r = .ok b ∧ Insert.BuildsRecords t [r] b.build
  updateRecord : ∀ r pk, t.Holds r → t.primaryKey? = some pk →
    ∃ b : Builder Update, c.updateRecord recordType r = b.execOnce c ∧ b.content.table = t ∧
      ∀ a ∈ b.content.assignments, ∃ column, t.find? a.1 = some column ∧
        a.2 = column.extract r ∧ column.check a.2 = .ok ()

theorem takesRecords (ht : c.table recordType = .ok t) : c.TakesRecords recordType t where
  insertMany records hall := ⟨_, insertMany_eq_ok ht records, Insert.buildsRecords hall⟩
  insert r hr :=
    ⟨_, insertMany_eq_ok ht [r], Insert.buildsRecords (List.forall_mem_singleton.2 hr)⟩
  updateRecord r pk hr hpk := by
    refine ⟨revision t pk r, updateRecord_eq ht hpk, rfl, fun a ha => ?_⟩
    obtain ⟨column, hcolumn, rfl⟩ := List.mem_map.1 ha
    have hmem := List.mem_of_mem_filter hcolumn
    exact ⟨column, Table.find?_eq_some.2 ⟨hmem, rfl⟩, rfl, hr.check_extract hmem⟩

end Connection

namespace Connection.Readings

def table : Table where
  name := "readings"
  recordType := "Reading"
  fields :=
    [{ name := "id", type := { scalar := .integer .i64 },
        constraints := [.primaryKey .abort true] },
      { name := "sensor", type := { scalar := .text } },
      { name := "valid", type := { scalar := .bool, optional := true } }]
  wellFormed := rfl

def connection : Connection Script.State where
  engine := Script.engine
  schema := ⟨[table], rfl⟩
  config := {}

def reading (sensor : String) (valid : Option Bool) : Record :=
  [⟨{ scalar := .integer .i64 }, Scalar.initial (.integer .i64)⟩, ⟨{ scalar := .text }, sensor⟩,
    ⟨{ scalar := .bool, optional := true }, valid⟩]

theorem takesRecords_readings :
    connection.table "Reading" = .ok table ∧
      (∀ r ∈ [reading "attic" none, reading "cellar" (some true)], table.Holds r) ∧
        connection.TakesRecords "Reading" table := by
  have ht : connection.table "Reading" = .ok table := rfl
  exact ⟨ht, by decide, takesRecords ht⟩

end Connection.Readings

end RecordSql
