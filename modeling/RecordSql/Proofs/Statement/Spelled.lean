import RecordSql.Proofs.Statement.Names

/-! Names in table definitions, and what becomes of a name in any text. Everywhere a name is in
backticks but where a table is created: there its own name is bare. -/

namespace RecordSql

open RecordSql.Part

theorem ConflictPolicy.apart_sql (policy : ConflictPolicy) : Apart [.words policy.sql] :=
  apart_words (by cases policy <;> decide) (by cases policy <;> decide)

theorem ReferentialAction.apart_sql (action : ReferentialAction) : Apart [.words action.sql] :=
  apart_words (by cases action <;> decide) (by cases action <;> decide)

namespace Constraint

def parts : Constraint → List Part
  | .primaryKey conflict autoincrement =>
    [.words "PRIMARY KEY ON CONFLICT ", .words conflict.sql] ++
      if autoincrement then [.words " AUTOINCREMENT"] else []
  | .notNull conflict => [.words "NOT NULL ON CONFLICT ", .words conflict.sql]
  | .unique conflict => [.words "UNIQUE ON CONFLICT ", .words conflict.sql]
  | .foreignKey reference onUpdate onDelete =>
    [.words "REFERENCES ", .given reference.table, .words " (", .given reference.column,
      .words ") ON UPDATE ", .words onUpdate.sql, .words " ON DELETE ", .words onDelete.sql]

theorem text_parts (k : Constraint) : (printAll k.parts).text = k.sql := by
  cases k with
  | primaryKey conflict autoincrement =>
    cases autoincrement with
    | false => exact String.append_assoc.symm
    | true => exact String.append_assoc.symm.trans (congrArg _ String.append_empty)
  | notNull conflict => exact congrArg ("NOT NULL ON CONFLICT " ++ ·) String.append_empty
  | unique conflict => exact congrArg ("UNIQUE ON CONFLICT " ++ ·) String.append_empty
  | foreignKey reference onUpdate onDelete =>
    have hsql : (foreignKey reference onUpdate onDelete).sql =
        "REFERENCES " ++ quoted reference.table ++ " (" ++ quoted reference.column ++
          ") ON UPDATE " ++ onUpdate.sql ++ " ON DELETE " ++ onDelete.sql := rfl
    rw [hsql]
    simp [parts, print, Sql.ofText, Sql.empty, String.append_assoc]

theorem apart_parts (k : Constraint) : Apart k.parts := by
  cases k with
  | primaryKey conflict autoincrement =>
    have hp : Opens "PRIMARY KEY ON CONFLICT " := by decide
    cases autoincrement with
    | false => exact conflict.apart_sql.opened hp
    | true => exact (conflict.apart_sql.opened hp).ended (by decide)
  | notNull conflict => exact conflict.apart_sql.opened (by decide)
  | unique conflict => exact conflict.apart_sql.opened (by decide)
  | foreignKey reference onUpdate onDelete =>
    have hr : Opens "REFERENCES " := by decide
    have ho : Links " (" := by decide
    have hu : Links ") ON UPDATE " := by decide
    have hd : Links " ON DELETE " := by decide
    have hcolumn := ((apart_given reference.table).opened hr).linked ho
      (apart_given reference.column)
    exact (hcolumn.linked hu onUpdate.apart_sql).linked hd onDelete.apart_sql

end Constraint

namespace Column

def parts (c : Column) : List Part :=
  separated " " ([.given c.name, .words (" " ++ c.storage.sql)] :: c.clauses.map Constraint.parts)

theorem text_parts (c : Column) : (printAll c.parts).text = c.definition := by
  have hk : (fun k : Constraint => (printAll k.parts).text) = Constraint.sql :=
    funext Constraint.text_parts
  simp only [parts, text_printAll_separated, definition, List.map_cons, List.map_map,
    Function.comp_def, hk]
  simp [print, Sql.ofText, Sql.empty, String.append_assoc]

theorem apart_parts (c : Column) : Apart c.parts := by
  have hs : Links " " := by decide
  refine apart_separated hs (List.forall_mem_cons.2 ⟨?_, List.forall_mem_map.2 fun k _ =>
    k.apart_parts⟩)
  cases c.storage <;> exact (apart_given c.name).ended (by decide)

end Column

namespace Table

def bodyParts (t : Table) : List Part :=
  .words " (\n" :: separated ",\n" (t.columns.map fun c => .words "    " :: c.parts) ++
    [.words "\n);\n"]

def segments (t : Table) (ifNotExists : Bool) : List Segment :=
  .words ("CREATE TABLE " ++ if ifNotExists then "IF NOT EXISTS " else "") ::
    .place .bare t.name :: t.bodyParts.flatMap Part.segments

theorem text_bodyParts (t : Table) :
    (printAll t.bodyParts).text =
      " (\n" ++ ",\n".intercalate (t.columns.map fun c => "    " ++ c.definition) ++ "\n);\n" := by
  simp [bodyParts, text_printAll_separated, Column.text_parts, print, Sql.ofText, Sql.empty,
    Function.comp_def, String.append_assoc]

theorem apart_bodyParts (t : Table) : Apart t.bodyParts := by
  have ho : Opens " (\n" := by decide
  have hi : Opens "    " := by decide
  have hc : Apart (separated ",\n" (t.columns.map fun c => .words "    " :: c.parts)) :=
    apart_separated (by decide) (List.forall_mem_map.2 fun c _ => c.apart_parts.opened hi)
  exact (hc.opened ho).ended (by decide)

theorem apart_segments (t : Table) (ifNotExists : Bool) :
    Segment.Apart (t.segments ifNotExists) := by
  have hc : Opens ("CREATE TABLE " ++ if ifNotExists then "IF NOT EXISTS " else "") := by
    cases ifNotExists <;> decide
  have hname : Segment.Apart [.place .bare t.name] := Segment.apart_singleton nofun
  have hparted : Parted (Segment.text (t.bodyParts.flatMap Part.segments)) := by
    rw [text_flatMap_segments, text_bodyParts, String.append_assoc]
    exact Parted.append (by decide) (by decide) _
  exact (hname.append t.apart_bodyParts hparted).opened hc

theorem spelled_creation (t : Table) (ifNotExists : Bool) :
    Segment.Spelled (t.segments ifNotExists) (t.creation ifNotExists) := by
  have hcreation : t.creation ifNotExists =
      "CREATE TABLE " ++ (if ifNotExists then "IF NOT EXISTS " else "") ++ t.name ++ " (\n" ++
        ",\n".intercalate (t.columns.map fun c => "    " ++ c.definition) ++ "\n);\n" := rfl
  refine (t.apart_segments ifNotExists).spelled ?_
  simp [hcreation, segments, text_flatMap_segments, text_bodyParts, Segment.write, Spelling.write,
    String.append_assoc]

end Table

theorem Part.Apart.spelled {ps : List Part} (h : Apart ps) {sql : Sql} (hsql : sql = printAll ps) :
    Segment.Spelled (ps.flatMap segments) sql.text :=
  Segment.Apart.spelled h (by rw [hsql, text_flatMap_segments])

/-- What becomes of names in the definitions of tables and in the statements of builders. A table is
created and queried under its own name exactly when that is right bare. -/
theorem names_read_back :
    (∀ (t : Table) (ifNotExists : Bool),
      Segment.Spelled (t.segments ifNotExists) (t.creation ifNotExists)) ∧
    (∀ (b : AnyBuilder) (sql : Sql), b.build = .ok sql →
      Segment.Spelled (b.parts.flatMap Part.segments) sql.text) ∧
    (∀ (b : Builder Select) (sql : Sql), b.buildCount = .ok sql →
      Segment.Spelled (b.content.countParts.flatMap Part.segments) sql.text) ∧
    ∀ t : Table, ReadsAs (Spelling.bare.write t.name) t.name ∧
      ReadsAs (Spelling.quoted.write t.name) t.name ↔ Spelling.bare.Suits t.name := by
  refine ⟨Table.spelled_creation, fun b sql h => ?_, fun b sql h => ?_, fun t => ?_⟩
  · exact b.apart_parts.spelled (AnyBuilder.build_eq_printAll h)
  · exact b.content.apart_countParts.spelled
      (Select.buildCount_eq_printAll (Builder.buildCount_eq_ok.1 h).2)
  · rw [Spelling.readsAs_write_iff, Spelling.readsAs_write_iff]
    exact and_iff_left_of_imp Spelling.Suits.quoted

namespace Loans

def table : Table where
  name := "loans"
  recordType := "Loan"
  fields :=
    [{ name := "id", type := { scalar := .integer .i64 } },
      { name := "due back", type := { scalar := .text },
        constraints := [.foreignKey ⟨"open days", "the day"⟩ .noAction .cascade] }]
  wellFormed := rfl

def due : Builder Select where
  content :=
    { Select.ofTable table with
      clauses :=
        { condition := some (.raw "`id` > ?" [.integer 7])
          order := [(.ofTable "loans" "due back", .desc)] } }

theorem spelled_due :
    Segment.Spelled (table.segments true) (table.creation true) ∧
      (∀ s ∈ table.segments true, s.Suits) ∧
      (∃ sql, due.build = .ok sql ∧ (∀ s ∈ due.content.parts.flatMap Part.segments, s.Suits) ∧
        Segment.Spelled (due.content.parts.flatMap Part.segments) sql.text) ∧
      (∃ sql, due.buildCount = .ok sql ∧
        Segment.Spelled (due.content.countParts.flatMap Part.segments) sql.text) ∧
      ReadsAs (Spelling.bare.write table.name) table.name :=
  have htable : Spelling.bare.Suits table.name := by decide
  ⟨names_read_back.1 table true, by decide,
    ⟨_, rfl, by decide, names_read_back.2.1 (.select due) _ rfl⟩,
    ⟨_, rfl, names_read_back.2.2.1 due _ rfl⟩, ((names_read_back.2.2.2 table).2 htable).1⟩

def spaced : Table where
  name := "my notes"
  recordType := "Note"
  fields := [{ name := "a`b", type := { scalar := .integer .i64 } }]
  wellFormed := rfl

/-- The table is created under no name, and what follows the column's name is taken for quoted. -/
theorem not_readsAs_spaced :
    (¬∀ (t : Table) (ifNotExists : Bool) (spelling : Spelling) (name : String),
      .place spelling name ∈ t.segments ifNotExists → ReadsAs (spelling.write name) name) ∧
      .place .bare "my notes" ∈ spaced.segments false ∧ ¬ReadsAs "my notes" "my notes" ∧
      .place .quoted "a`b" ∈ spaced.segments false ∧ ¬ReadsAs (quoted "a`b") "a`b" ∧
      scan (spaced.creation false) =
        [.word "CREATE".toList, .word "TABLE".toList, .word "my".toList, .word "notes".toList,
          .symbol '(', .quoted '\x60' ['a'], .word ['b']] := by
  have hbare : .place .bare "my notes" ∈ spaced.segments false :=
    List.mem_cons_of_mem _ List.mem_cons_self
  have hquoted : .place .quoted "a`b" ∈ spaced.segments false := List.mem_of_getElem? (i := 4) rfl
  refine ⟨fun h => ?_, hbare, by decide, hquoted, by decide, by decide⟩
  exact absurd (h spaced false .bare "my notes" hbare) (by decide)

end Loans

end RecordSql
