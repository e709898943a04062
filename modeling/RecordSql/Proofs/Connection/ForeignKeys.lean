import RecordSql.Connection.Open
import RecordSql.Engine.Script
import RecordSql.Proofs.Connection.Levels
import RecordSql.Proofs.Schema

/-! The foreign keys of an open connection. Opening looks at the first foreign key of every column;
a table definition has a REFERENCES clause for each of them. -/

namespace RecordSql

variable {σ α β : Type}

namespace Run

theorem result_bind_eq_ok {r : Run σ α} {f : α → Run σ β} {w : World σ} {b : β} :
    ((r >>= f) w).1 = .ok b ↔ ∃ a, (r w).1 = .ok a ∧ (f a (r w).2).1 = .ok b := by
  rw [bind_apply]
  rcases r w with ⟨e | a, w'⟩ <;> simp

theorem result_logged (r : Run σ α) (activity : Activity) (w : World σ) :
    (Connection.logged activity r w).1 = (r w).1 := by
  rw [Connection.logged, outcome_bind_apply]
  cases (r w).1 <;> rfl

end Run

namespace Connection

open Run

theorem declared_eq_ok {declarations : List (Except Error Table)} {tables : List Table} :
    declared declarations = .ok tables ↔ declarations = tables.map .ok := by
  induction declarations generalizing tables with
  | nil => cases tables <;> simp [declared]
  | cons d rest ih =>
    cases d with
    | error e => cases tables <;> simp [declared]
    | ok t =>
      rw [declared]
      cases hrest : declared rest with
      | error e =>
        refine iff_of_false nofun fun h => ?_
        obtain ⟨t', rest', rfl⟩ := List.exists_cons_of_ne_nil
          (fun hn => nomatch hn ▸ h : tables ≠ [])
        have := ih.2 (List.cons.inj h).2
        exact nomatch hrest.symm.trans this
      | ok ts =>
        have hts := ih.1 hrest
        subst hts
        cases tables with
        | nil => simp [Except.map]
        | cons t' rest' =>
          simp [Except.map, (List.map_injective_iff.2 fun _ _ => Except.ok.inj).eq_iff]

theorem ofTables_eq_ok {tables : List Table} {s : Schema} :
    Schema.ofTables tables = .ok s ↔ s.tables = tables := by
  unfold Schema.ofTables
  split
  · next fault hf =>
    refine iff_of_false nofun ?_
    rintro rfl
    exact nomatch hf.symm.trans s.wellFormed
  · cases s
    simp [eq_comm]

theorem does_ofExcept (x : Except Error α) (w : World σ) :
    (Run.ofExcept x).Does w x w.engine [] :=
  ⟨rfl, rfl, .refl w⟩

theorem checkedSchema_eq_ok {declarations : List (Except Error Table)} {w : World σ} {s : Schema} :
    (checkedSchema declarations w).1 = .ok s ↔ declarations = s.tables.map .ok := by
  rw [checkedSchema, result_bind_eq_ok]
  constructor
  · rintro ⟨tables, ht, hs⟩
    rw [result_logged] at ht hs
    rw [declared_eq_ok.1 ht, ofTables_eq_ok.1 hs]
  · intro h
    refine ⟨s.tables, ?_, ?_⟩ <;> rw [result_logged]
    · exact declared_eq_ok.2 h
    · exact ofTables_eq_ok.2 rfl

def pragmaText (enabled : Bool) : String :=
  if enabled then "PRAGMA foreign_keys = ON;" else "PRAGMA foreign_keys = OFF;"

theorem does_setForeignKeys {c : Connection σ} {enabled : Bool} {w : World σ}
    {answer : Except Error Unit} {s : σ}
    (h : c.engine.batch (pragmaText enabled) w.engine = (answer, s)) :
    (c.setForeignKeys enabled).Does w answer s
      [(.batch (pragmaText enabled), succeeded answer)] := by
  refine .emit_bind _ fun w' hw => ?_
  rw [← hw] at h
  exact (c.does_batch h).logged _

theorem does_openOn {engine : Engine σ} {config : Config} {schema : Schema} {w : World σ}
    {answer : Except Error Unit} {s : σ}
    (h : engine.batch (pragmaText config.foreignKeys) w.engine = (answer, s)) :
    (openOn engine config (schema.tables.map .ok)).Does w
      (answer.map fun () => ⟨engine, schema, config⟩) s
      [(.batch (pragmaText config.foreignKeys), succeeded answer)] := by
  have hchecked : (checkedSchema (schema.tables.map .ok)).Does w (.ok schema) w.engine [] := by
    have hd : (Run.ofExcept (declared (schema.tables.map .ok)) : Run σ _).Does w
        (.ok schema.tables) w.engine [] := declared_eq_ok.2 rfl ▸ does_ofExcept _ w
    refine (hd.logged _).bind_silent fun w' hw => ?_
    have ho : (Run.ofExcept (Schema.ofTables schema.tables) : Run σ _).Does w'
        (.ok schema) w'.engine [] := ofTables_eq_ok.2 rfl ▸ does_ofExcept _ w'
    exact hw ▸ ho.logged _
  refine hchecked.bind_ok fun w₁ hw₁ => .emit_bind _ fun w₂ hw₂ => ?_
  rw [← hw₁, ← hw₂] at h
  have hset := does_setForeignKeys (c := ⟨engine, schema, config⟩) h
  cases answer with
  | ok => exact hset.bind_silent fun w₃ hw₃ => ⟨rfl, hw₃, .refl w₃⟩
  | error e => exact hset.bind_error

theorem openOn_eq_ok {engine : Engine σ} {config : Config}
    {declarations : List (Except Error Table)} {w : World σ} {c : Connection σ} :
    (openOn engine config declarations w).1 = .ok c ↔
      c.engine = engine ∧ c.config = config ∧ declarations = c.schema.tables.map .ok ∧
        (engine.batch (pragmaText config.foreignKeys) w.engine).1 = .ok () := by
  constructor
  · intro h
    obtain ⟨schema, hs, -⟩ := result_bind_eq_ok.1 h
    obtain rfl := checkedSchema_eq_ok.1 hs
    rw [(does_openOn rfl).result_eq] at h
    cases hb : (engine.batch (pragmaText config.foreignKeys) w.engine).1 with
    | error e => rw [hb] at h; cases h
    | ok => rw [hb] at h; cases h; exact ⟨rfl, rfl, rfl, rfl⟩
  · rintro ⟨rfl, rfl, rfl, hb⟩
    rw [(does_openOn rfl).result_eq, hb]
    rfl

/-- Tables are created in the order of declaration, up to the first that the engine refuses. -/
theorem asks_creations (c : Connection σ) (ifNotExists : Bool) (ts : List Table) (w : World σ) :
    ∃ asked, w.Asks asked
        (ts.forM (fun t => logged .createTables (c.batch (t.creation ifNotExists))) w).2 ∧
      asked.map Prod.fst <+: ts.map fun t => .batch (t.creation ifNotExists) := by
  induction ts generalizing w with
  | nil => exact ⟨[], .refl w, List.nil_prefix⟩
  | cons t rest ih =>
    have hb : (c.batch (t.creation ifNotExists)).Does w _ _ _ := c.does_batch rfl
    have hd := hb.logged .createTables
    change ∃ asked,
      w.Asks asked ((logged .createTables (c.batch _) >>= fun _ => rest.forM _) w).2 ∧ _
    rw [bind_apply]
    rcases hw : logged .createTables (c.batch (t.creation ifNotExists)) w with ⟨e | ⟨⟩, w'⟩
    · have ha := hd.asked
      rw [hw] at ha
      exact ⟨_, ha, by simp⟩
    · obtain ⟨asked, hasked, hfront⟩ := ih w'
      have ha := hd.asked
      rw [hw] at ha
      exact ⟨_, ha.trans hasked, by simpa using hfront⟩

theorem asks_createTables (c : Connection σ) (ifNotExists : Bool) (w : World σ) :
    ∃ asked, w.Asks asked (c.createTables ifNotExists w).2 ∧
      asked.map Prod.fst <+: c.schema.tables.map fun t => .batch (t.creation ifNotExists) := by
  obtain ⟨asked, hasked, hfront⟩ := c.asks_creations ifNotExists c.schema.tables w
  refine ⟨asked, ?_, hfront⟩
  rw [createTables, bind_apply]
  split
  · next w' hloop =>
    rw [hloop] at hasked
    have hemit : w'.Asks [] (Act.emit (.tablesCreated c.schema.tables.length) w').2 :=
      ⟨[_], rfl, rfl⟩
    rw [← List.append_nil asked]
    exact hasked.trans hemit
  · next hloop =>
    rw [hloop] at hasked
    exact hasked

structure Referenced (c : Connection σ) (declarations : List (Except Error Table)) : Prop where
  /-- Every declaration is a table of the connection. -/
  declared : declarations = c.schema.tables.map .ok
  first : ∀ t ∈ c.schema.tables, ∀ col ∈ t.columns, ∀ r ∈ col.foreignKeys.head?,
    Schema.Resolves c.schema.tables r
  /-- Only a foreign key behind another one of its column can lead nowhere. -/
  all_iff : ∀ t ∈ c.schema.tables, ∀ col ∈ t.columns,
    (∀ r ∈ col.foreignKeys, Schema.Resolves c.schema.tables r) ↔
      ∀ r ∈ col.foreignKeys.tail, Schema.Resolves c.schema.tables r
  created : ∀ (ifNotExists : Bool) (w : World σ),
    ∃ asked, w.Asks asked (c.createTables ifNotExists w).2 ∧
      asked.map Prod.fst <+: c.schema.tables.map fun t => .batch (t.creation ifNotExists)
  /-- The REFERENCES clauses of the tables that are created are the foreign keys. -/
  clauses : ∀ t ∈ c.schema.tables, ∀ col ∈ t.columns,
    col.clauses.filterMap Constraint.reference? = col.foreignKeys

theorem referenced_of_openOn {engine : Engine σ} {config : Config}
    {declarations : List (Except Error Table)} {w : World σ} {c : Connection σ}
    (h : (openOn engine config declarations w).1 = .ok c) : c.Referenced declarations := by
  obtain ⟨-, -, hdeclared, -⟩ := openOn_eq_ok.1 h
  have hfirst := (Schema.fault?_eq_none.1 c.schema.wellFormed).references
  refine ⟨hdeclared, hfirst, fun t ht col hcol => ?_, fun ifNotExists w => ?_, fun _ _ col _ =>
    col.filterMap_clauses⟩
  · have hhead := hfirst t ht col hcol
    cases hk : col.foreignKeys with
    | nil => simp
    | cons r rest =>
      rw [hk] at hhead
      rw [List.forall_mem_cons, List.tail_cons]
      exact and_iff_right (hhead r rfl)
  · exact c.asks_createTables ifNotExists w

namespace Shelves

def authors : Table where
  name := "authors"
  recordType := "Author"
  fields := [{ name := "id", type := { scalar := .integer .i64 } }]
  wellFormed := rfl

def books (targets : List Reference) : Table where
  name := "books"
  recordType := "Book"
  fields :=
    [{ name := "author", type := { scalar := .integer .i64 },
        constraints := targets.map fun r => .foreignKey r .noAction .noAction }]
  wellFormed := by
    simp [Table.fault?, Table.fieldFault?, Field.isAutoincrement, Field.isPrimaryKey,
      Constraint.isAutoincrement, Constraint.isPrimaryKey, Function.comp_def]

def connection : Connection Script.State where
  engine := Script.engine
  schema := ⟨[authors, books [⟨"authors", "id"⟩]], rfl⟩
  config := {}

theorem referenced_books :
    (openOn Script.engine {} [.ok authors, .ok (books [⟨"authors", "id"⟩])]
        { engine := {} }).1 = .ok connection ∧
      connection.Referenced [.ok authors, .ok (books [⟨"authors", "id"⟩])] ∧
      (books [⟨"authors", "id"⟩]).columns.map Column.foreignKeys = [[⟨"authors", "id"⟩]] := by
  have hopen : (openOn Script.engine {} [.ok authors, .ok (books [⟨"authors", "id"⟩])]
      { engine := {} }).1 = .ok connection := rfl
  exact ⟨hopen, referenced_of_openOn hopen, rfl⟩

/-- A second foreign key of a column is not looked at: this one leads to a table that there is
not. -/
theorem not_resolves_second :
    ¬∀ (engine : Engine Script.State) (config : Config) (declarations : List (Except Error Table))
      (w : World Script.State) (c : Connection Script.State),
      (openOn engine config declarations w).1 = .ok c →
      ∀ t ∈ c.schema.tables, ∀ col ∈ t.columns, ∀ k ∈ col.constraints, ∀ r,
        k.reference? = some r → Schema.Resolves c.schema.tables r := by
  intro h
  let second := books [⟨"authors", "id"⟩, ⟨"editors", "id"⟩]
  obtain ⟨t, ht, hname, -⟩ := h Script.engine {} [.ok authors, .ok second] { engine := {} }
    ⟨Script.engine, ⟨[authors, second], rfl⟩, {}⟩ rfl second (by simp) _ List.mem_cons_self
    (.foreignKey ⟨"editors", "id"⟩ .noAction .noAction) (by simp [Field.column]) _ rfl
  have hnone : ∀ t ∈ [authors, second], t.name ≠ "editors" := by
    simp [authors, second, books]
  exact hnone t ht hname

end Shelves

end Connection

end RecordSql
