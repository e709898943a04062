import RecordSql.Proofs.Statement.Parts

/-! A statement that builds is the print of its parts. -/

namespace RecordSql

open RecordSql.Part

namespace Select

def queryParts (q : Select) : List Part :=
  q.clauses.parts q.sources.sources (q.sources.parts q.sources.sources)

def parts (q : Select) : List Part := q.queryParts ++ [.words ";"]

def countParts (q : Select) : List Part :=
  if q.clauses.isWindow then
    .words "SELECT COUNT(*) FROM (" :: q.queryParts ++ [.words ");"]
  else
    q.clauses.countParts q.sources.sources (q.sources.parts q.sources.sources) ++ [.words ";"]

theorem printAll_queryParts (q : Select) : printAll q.queryParts = q.sql :=
  q.clauses.printAll_parts q.sources (q.sources.printAll_parts _)

theorem build_eq_printAll {q : Select} {sql : Sql} (h : q.build = .ok sql) :
    sql = printAll q.parts := by
  obtain ⟨_, _, h⟩ := bind_eq_ok.1 h
  cases h
  simp [parts, printAll_queryParts, Part.print]

theorem buildCount_eq_printAll {q : Select} {sql : Sql} (h : q.buildCount = .ok sql) :
    sql = printAll q.countParts := by
  obtain ⟨_, _, h⟩ := bind_eq_ok.1 h
  unfold countParts
  split_ifs at h ⊢ with hw
  · cases h
    simp [printAll_queryParts, Part.print, Sql.append_assoc]
  · cases h
    simp [Clauses.printAll_countParts _ _ (q.sources.printAll_parts q.sources.sources), Part.print]

end Select

namespace Insert

def overwrittenNames (t : Table) (clause : OnConflict) : List String :=
  match clause.action with
  | .nothing => []
  | .updateInserted =>
    (t.inserted.filter fun c => !clause.target.contains c.name).map Column.name
  | .update columns => columns

def named (t : Table) (name : String) : Part := .column [.table t] (.plain name)

def targetParts (t : Table) (target : List String) : List Part :=
  if target.isEmpty then []
  else .words " (" :: listed (target.map fun name => [named t name]) ++ [.words ")"]

def conflictParts (t : Table) (clause : OnConflict) : List Part :=
  .words " ON CONFLICT" :: targetParts t clause.target ++
    if clause.action = .nothing then [.words " DO NOTHING"]
    else
      .words " DO UPDATE SET " :: listed ((overwrittenNames t clause).map fun name =>
        [named t name, .words " = excluded.", named t name])

def tupleParts (t : Table) (row : List Value) : List Part :=
  .words "(" ::
    listed ((t.inserted.zip row).map fun (c, v) => [.value [.table t] (.plain c.name) v]) ++
    [.words ")"]

def sourceParts (q : Insert) : List Part :=
  if q.table.inserted.isEmpty then [.words " DEFAULT VALUES"]
  else
    .words " (" :: listed (q.table.inserted.map fun c => [named q.table c.name]) ++
      .words ") VALUES " :: listed (q.rows.map (tupleParts q.table))

def parts (q : Insert) : List Part :=
  .words "INSERT INTO " :: .table q.table :: q.sourceParts ++
    ((q.onConflict.map (conflictParts q.table)).getD []) ++ [.words ";"]

theorem quotedColumn_eq_ok {t : Table} {name text : String}
    (h : quotedColumn t name = .ok text) :
    text = quoted name ∧ ∃ c ∈ t.columns, c.name = name := by
  unfold quotedColumn at h
  split at h
  · next c hc =>
    obtain ⟨hmem, rfl⟩ := Table.of_find? hc
    cases h
    exact ⟨rfl, c, hmem, rfl⟩
  · cases h

theorem mapM_quotedColumn {t : Table} {names texts : List String}
    (h : names.mapM (quotedColumn t) = .ok texts) :
    texts = names.map quoted ∧ ∀ name ∈ names, ∃ c ∈ t.columns, c.name = name := by
  replace h := mapM_eq_ok.1 h
  induction h with
  | nil => simp
  | cons hx _ ih =>
    obtain ⟨rfl, hc⟩ := quotedColumn_eq_ok hx
    obtain ⟨rfl, hcs⟩ := ih
    exact ⟨rfl, List.forall_mem_cons.2 ⟨hc, hcs⟩⟩

theorem overwritten_eq_ok {t : Table} {clause : OnConflict} {texts : List String}
    (h : overwritten t clause = .ok texts) :
    texts = (overwrittenNames t clause).map quoted ∧
      ∀ name ∈ overwrittenNames t clause, ∃ c ∈ t.columns, c.name = name := by
  unfold overwritten at h
  unfold overwrittenNames
  cases ha : clause.action with
  | nothing =>
    rw [ha] at h
    cases h
    simp
  | updateInserted =>
    rw [ha] at h
    cases h
    refine ⟨by simp [Function.comp_def], fun name hn => ?_⟩
    obtain ⟨c, hc, rfl⟩ := List.mem_map.1 hn
    exact ⟨c, List.mem_of_mem_filter (List.mem_of_mem_filter hc), rfl⟩
  | update columns =>
    rw [ha] at h
    exact mapM_quotedColumn h

theorem printAll_named (t : Table) (names : List String) :
    printAll (listed (names.map fun name => [named t name])) =
      .ofText (RecordSql.commaSeparated (names.map quoted)) := by
  simp [printAll_listed, Sql.ofText_commaSeparated, Function.comp_def, named, Part.print,
    ColumnRef.sql, ColumnRef.plain]

theorem printAll_targetParts (t : Table) (target : List String) :
    printAll (targetParts t target) = .ofText (targetText (target.map quoted)) := by
  rw [targetParts, targetText, List.isEmpty_map]
  split_ifs
  · rfl
  · simp [printAll_named, Part.print, Sql.ofText_append, Sql.append_assoc]

theorem conflictText_eq_ok {t : Table} {clause : OnConflict} {text : String}
    (h : conflictText t clause = .ok text) :
    (∀ name ∈ clause.target, ∃ c ∈ t.columns, c.name = name) ∧
      (∀ name ∈ overwrittenNames t clause, ∃ c ∈ t.columns, c.name = name) ∧
      (clause.action ≠ .nothing → clause.target ≠ [] ∧ overwrittenNames t clause ≠ []) ∧
      text = " ON CONFLICT" ++ targetText (clause.target.map quoted) ++
        if clause.action = .nothing then " DO NOTHING"
        else " DO UPDATE SET " ++ RecordSql.commaSeparated
          ((overwrittenNames t clause).map fun name =>
            quoted name ++ " = excluded." ++ quoted name) := by
  obtain ⟨target, htarget, h⟩ := bind_eq_ok.1 h
  obtain ⟨rfl, ht⟩ := mapM_quotedColumn htarget
  obtain ⟨updated, hupdated, h⟩ := bind_eq_ok.1 h
  obtain ⟨rfl, ho⟩ := overwritten_eq_ok hupdated
  refine ⟨ht, ho, ?_⟩
  by_cases ha : clause.action = .nothing
  · rw [if_pos ha] at h
    cases h
    exact ⟨fun hn => absurd ha hn, by rw [if_pos ha]⟩
  · rw [if_neg ha] at h
    -- the two guards of an update: a target, and something to overwrite
    obtain ⟨het, h⟩ := guard_eq_ok.1 h
    obtain ⟨heo, h⟩ := guard_eq_ok.1 h
    cases h
    refine ⟨fun _ => ⟨fun hq => het (by rw [hq]; rfl), fun hq => heo (by rw [hq]; rfl)⟩, ?_⟩
    rw [if_neg ha, List.map_map, String.append_assoc]
    rfl

theorem printAll_conflictParts {t : Table} {clause : OnConflict} {text : String}
    (h : conflictText t clause = .ok text) : printAll (conflictParts t clause) = .ofText text := by
  obtain ⟨_, _, _, rfl⟩ := conflictText_eq_ok h
  unfold conflictParts
  split_ifs
  · simp [printAll_targetParts, Part.print, Sql.ofText_append, Sql.append_assoc]
  · simp [printAll_targetParts, printAll_listed, named, Part.print, Sql.ofText_append,
      Sql.append_assoc, Sql.ofText_commaSeparated, Function.comp_def, ColumnRef.sql,
      ColumnRef.plain]

theorem printAll_tupleParts (t : Table) (row : List Value) :
    printAll (tupleParts t row) =
      .parenthesized (.holes ((t.inserted.zip row).map (·.2))) := by
  simp [tupleParts, printAll_listed, Part.print, Sql.parenthesized, Sql.holes, Function.comp_def,
    Sql.append_assoc]

theorem source_eq_ok {q : Insert} {sql : Sql} (h : q.source = .ok sql) :
    q.table.inserted.isEmpty ∧ q.rows.length ≤ 1 ∧ sql = .ofText " DEFAULT VALUES" ∨
    ¬q.table.inserted.isEmpty ∧
      (∀ row ∈ q.rows, ∀ p ∈ q.table.inserted.zip row, p.1.check p.2 = .ok ()) ∧
      sql =
        .ofText (" (" ++ RecordSql.commaSeparated (q.table.inserted.map fun c => quoted c.name) ++
          ") VALUES ") ++ .commaSeparated (q.rows.map fun row =>
            .parenthesized (.holes ((q.table.inserted.zip row).map (·.2)))) := by
  dsimp only [source] at h
  by_cases he : q.table.inserted.isEmpty
  · rw [if_pos he] at h
    obtain ⟨hl, h⟩ := guard_eq_ok.1 h
    cases h
    exact .inl ⟨he, Nat.le_of_not_lt hl, rfl⟩
  · rw [if_neg he] at h
    obtain ⟨rows, hrows, h⟩ := bind_eq_ok.1 h
    obtain ⟨_, hchecks, hrows⟩ := bind_eq_ok.1 hrows
    cases h
    cases hrows
    refine .inr ⟨he, fun row hrow p hp => ?_, rfl⟩
    exact forM_eq_ok.1 (forM_eq_ok.1 hchecks row hrow) p hp

theorem build_eq_ok {q : Insert} {sql : Sql} (h : q.build = .ok sql) :
    q.rows ≠ [] ∧ ∃ source conflict, q.source = .ok source ∧
      q.onConflict.elim (.ok "") (conflictText q.table) = .ok conflict ∧
      sql = .ofText ("INSERT INTO " ++ quoted q.table.name) ++ source ++
        .ofText (conflict ++ ";") := by
  dsimp only [build] at h
  obtain ⟨he, h⟩ := guard_eq_ok.1 h
  obtain ⟨source, hsource, h⟩ := bind_eq_ok.1 h
  refine ⟨fun hq => he (by rw [hq]; rfl), source, ?_⟩
  cases hc : q.onConflict with
  | none =>
    rw [hc] at h
    obtain ⟨conflict, hconflict, h⟩ := bind_eq_ok.1 h
    cases h
    exact ⟨conflict, hsource, hconflict, rfl⟩
  | some clause =>
    rw [hc] at h
    obtain ⟨conflict, hconflict, h⟩ := bind_eq_ok.1 h
    cases h
    exact ⟨conflict, hsource, hconflict, rfl⟩

theorem printAll_sourceParts {q : Insert} {sql : Sql} (h : q.source = .ok sql) :
    printAll q.sourceParts = sql := by
  rcases source_eq_ok h with ⟨he, _, rfl⟩ | ⟨he, _, rfl⟩
  · rw [sourceParts, if_pos he]
    simp [Part.print]
  · have hn := printAll_named q.table (q.table.inserted.map Column.name)
    have ht : printAll ∘ tupleParts q.table = fun row =>
        Sql.parenthesized (.holes ((q.table.inserted.zip row).map (·.2))) :=
      funext (printAll_tupleParts q.table)
    simp only [List.map_map, Function.comp_def] at hn
    rw [sourceParts, if_neg he]
    simp [hn, ht, printAll_listed, Part.print, Sql.ofText_append, Sql.append_assoc]

theorem build_eq_printAll {q : Insert} {sql : Sql} (h : q.build = .ok sql) :
    sql = printAll q.parts := by
  obtain ⟨_, source, conflict, hsource, hconflict, rfl⟩ := build_eq_ok h
  have hs := printAll_sourceParts hsource
  have hc : printAll ((q.onConflict.map (conflictParts q.table)).getD []) = .ofText conflict := by
    cases ho : q.onConflict with
    | none =>
      rw [ho] at hconflict
      cases hconflict
      rfl
    | some clause =>
      rw [ho] at hconflict
      exact printAll_conflictParts hconflict
  simp [parts, hc, hs, Part.print, Sql.ofText_append, Sql.append_assoc]

end Insert

namespace Update

def assignmentParts (t : Table) (name : String) (v : Value) : List Part :=
  [.column [.table t] (.plain name), .words " = ", .value [.table t] (.plain name) v]

def parts (q : Update) : List Part :=
  .words "UPDATE " :: .table q.table :: .words " SET " ::
    listed (q.assignments.map fun (name, v) => assignmentParts q.table name v) ++
    filtering [.table q.table] q.condition ++ [.words ";"]

theorem assignment_eq_ok {t : Table} {name : String} {v : Value} {sql : Sql}
    (h : assignment t name v = .ok sql) :
    sql = .ofText (quoted name ++ " = ") ++ .hole v ∧
      ∃ c ∈ t.columns, c.name = name ∧ c.check v = .ok () := by
  unfold assignment at h
  split at h
  · cases h
  · next c hc =>
    obtain ⟨hmem, rfl⟩ := Table.of_find? hc
    obtain ⟨_, hv, h⟩ := bind_eq_ok.1 h
    cases h
    exact ⟨rfl, c, hmem, rfl, hv⟩

theorem mapM_assignment {t : Table} {as : List (String × Value)} {texts : List Sql}
    (h : as.mapM (fun (name, v) => assignment t name v) = .ok texts) :
    texts = as.map (fun a => .ofText (quoted a.1 ++ " = ") ++ .hole a.2) ∧
      ∀ a ∈ as, ∃ c ∈ t.columns, c.name = a.1 ∧ c.check a.2 = .ok () := by
  replace h := mapM_eq_ok.1 h
  induction h with
  | nil => simp
  | cons hx _ ih =>
    obtain ⟨rfl, hc⟩ := assignment_eq_ok hx
    obtain ⟨rfl, hcs⟩ := ih
    exact ⟨rfl, List.forall_mem_cons.2 ⟨hc, hcs⟩⟩

theorem build_eq_ok {q : Update} {sql : Sql} (h : q.build = .ok sql) :
    q.assignments ≠ [] ∧
      (∀ a ∈ q.assignments, ∃ c ∈ q.table.columns, c.name = a.1 ∧ c.check a.2 = .ok ()) ∧
      (∀ e ∈ q.condition, e.check q.scope = .ok ()) ∧
      sql = .ofText ("UPDATE " ++ quoted q.table.name ++ " SET ") ++
        .commaSeparated (q.assignments.map fun a => .ofText (quoted a.1 ++ " = ") ++ .hole a.2) ++
        printAll (filtering [.table q.table] q.condition) ++ .ofText ";" := by
  dsimp only [build] at h
  obtain ⟨he, h⟩ := guard_eq_ok.1 h
  obtain ⟨texts, htexts, h⟩ := bind_eq_ok.1 h
  obtain ⟨_, hcond, h⟩ := bind_eq_ok.1 h
  cases h
  obtain ⟨rfl, ha⟩ := mapM_assignment htexts
  refine ⟨fun hq => he (by rw [hq]; rfl), ha, optionForM_eq_ok.1 hcond, ?_⟩
  cases q.condition with
  | none => rw [printAll_filtering]
  | some e => rw [printAll_filtering]

theorem build_eq_printAll {q : Update} {sql : Sql} (h : q.build = .ok sql) :
    sql = printAll q.parts := by
  obtain ⟨_, _, _, rfl⟩ := build_eq_ok h
  simp [parts, assignmentParts, printAll_listed, Part.print, Sql.ofText_append, Sql.append_assoc,
    Function.comp_def, ColumnRef.sql, ColumnRef.plain]

end Update

namespace Delete

def parts (q : Delete) : List Part :=
  .words "DELETE FROM " :: .table q.table :: filtering [.table q.table] q.condition ++ [.words ";"]

theorem build_eq_ok {q : Delete} {sql : Sql} (h : q.build = .ok sql) :
    (∀ e ∈ q.condition, e.check q.scope = .ok ()) ∧
      sql = .ofText ("DELETE FROM " ++ quoted q.table.name) ++
        printAll (filtering [.table q.table] q.condition) ++ .ofText ";" := by
  obtain ⟨_, hcond, h⟩ := bind_eq_ok.1 h
  cases h
  refine ⟨optionForM_eq_ok.1 hcond, ?_⟩
  cases q.condition with
  | none => rw [printAll_filtering]
  | some e => rw [printAll_filtering]

theorem build_eq_printAll {q : Delete} {sql : Sql} (h : q.build = .ok sql) :
    sql = printAll q.parts := by
  obtain ⟨_, rfl⟩ := build_eq_ok h
  simp [parts, Part.print, Sql.ofText_append, Sql.append_assoc]

end Delete

namespace Builder

theorem build_eq_ok {κ : Type} [Statement κ] {b : Builder κ} {sql : Sql} :
    b.build = .ok sql ↔ b.slot.error = none ∧ Statement.build b.content = .ok sql := by
  unfold build
  rw [bind_eq_ok]
  unfold Slot.check
  cases b.slot.error <;> simp

theorem buildCount_eq_ok {b : Builder Select} {sql : Sql} :
    b.buildCount = .ok sql ↔ b.slot.error = none ∧ b.content.buildCount = .ok sql := by
  unfold buildCount
  rw [bind_eq_ok]
  unfold Slot.check
  cases b.slot.error <;> simp

end Builder

namespace AnyBuilder

def parts : AnyBuilder → List Part
  | .select b => b.content.parts
  | .insert b => b.content.parts
  | .update b => b.content.parts
  | .delete b => b.content.parts

theorem build_eq_printAll {b : AnyBuilder} {sql : Sql} (h : b.build = .ok sql) :
    sql = printAll b.parts := by
  cases b with
  | select b => exact Select.build_eq_printAll (Builder.build_eq_ok.1 h).2
  | insert b => exact Insert.build_eq_printAll (Builder.build_eq_ok.1 h).2
  | update b => exact Update.build_eq_printAll (Builder.build_eq_ok.1 h).2
  | delete b => exact Delete.build_eq_printAll (Builder.build_eq_ok.1 h).2

end AnyBuilder

end RecordSql
