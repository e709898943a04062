import RecordSql.Proofs.Statement.Printed
import RecordSql.Proofs.Table

/-! What a conflict clause makes of an INSERT. The clause stands behind the statement that is built
without it, which keeps its text and its values; an update assigns the columns that were inserted
and are not in the target, or the columns that it is given, each what was to be inserted. The clause
is at fault when a name in it is not declared, and when an update has no target or assigns nothing.
-/

namespace RecordSql

namespace Table

variable {t : Table} {name : String} {names : List String}

def undeclared? (t : Table) (names : List String) : Option String :=
  names.find? fun name => decide (name ∉ t.columns.map Column.name)

theorem undeclared?_eq_none :
    t.undeclared? names = none ↔ ∀ name ∈ names, name ∈ t.columns.map Column.name := by
  simp only [undeclared?, List.find?_eq_none, decide_eq_true_eq, not_not]

theorem undeclared?_append (t : Table) (names others : List String) :
    t.undeclared? (names ++ others) = (t.undeclared? names).or (t.undeclared? others) :=
  List.find?_append

theorem undeclared?_cons_of_mem (h : name ∈ t.columns.map Column.name) :
    t.undeclared? (name :: names) = t.undeclared? names :=
  List.find?_cons_of_neg (by simpa using h)

theorem undeclared?_cons_of_notMem (h : name ∉ t.columns.map Column.name) :
    t.undeclared? (name :: names) = some name :=
  List.find?_cons_of_pos (decide_eq_true h)

end Table

namespace OnConflict

def given (clause : OnConflict) : List String :=
  match clause.action with
  | .update columns => columns
  | .nothing | .updateInserted => []

def names (clause : OnConflict) : List String := clause.target ++ clause.given

def text (clause : OnConflict) (assigned : List String) : String :=
  " ON CONFLICT" ++ Insert.targetText (clause.target.map quoted) ++
    if clause.action = .nothing then " DO NOTHING"
    else " DO UPDATE SET " ++
      commaSeparated (assigned.map fun name => quoted name ++ " = excluded." ++ quoted name)

def lack (clause : OnConflict) : Error :=
  .validation (if clause.target = [] then "ON CONFLICT DO UPDATE requires a conflict target"
    else "ON CONFLICT DO UPDATE has no columns to update")

end OnConflict

namespace Insert

def front (q : Insert) : Except Error Sql := do
  if q.rows.isEmpty then
    throw (.validation ("INSERT into " ++ quoted q.table.name ++ " has no rows"))
  let source ← q.source
  return .ofText ("INSERT INTO " ++ quoted q.table.name) ++ source

theorem build_eq_front (q : Insert) :
    q.build = q.front >>= fun front =>
      q.onConflict.elim (.ok "") (conflictText q.table) >>= fun conflict =>
        .ok (front ++ .ofText (conflict ++ ";")) := by
  dsimp only [build, front]
  by_cases hrows : q.rows.isEmpty
  · rw [if_pos hrows, if_pos hrows]
    rfl
  · rw [if_neg hrows, if_neg hrows]
    cases q.source with
    | error e => rfl
    | ok source => cases q.onConflict <;> rfl

theorem mapM_quotedColumn_eq (t : Table) (names : List String) :
    names.mapM (quotedColumn t) =
      match t.undeclared? names with
      | some name => .error (.schema (.unknownColumn (quoted t.name) name))
      | none => .ok (names.map quoted) := by
  induction names with
  | nil => rfl
  | cons name rest ih =>
    rw [List.mapM_cons, ih]
    by_cases hname : name ∈ t.columns.map Column.name
    · obtain ⟨c, hc, rfl⟩ := List.mem_map.1 hname
      have hcolumn : quotedColumn t c.name = .ok (quoted c.name) := by
        rw [quotedColumn, Table.find?_eq_some.2 ⟨hc, rfl⟩]
      rw [hcolumn, Table.undeclared?_cons_of_mem hname]
      cases t.undeclared? rest <;> rfl
    · have hcolumn : quotedColumn t name =
          .error (.schema (.unknownColumn (quoted t.name) name)) := by
        unfold quotedColumn
        cases hfind : t.find? name with
        | none => rfl
        | some c =>
          obtain ⟨hc, rfl⟩ := Table.of_find? hfind
          exact absurd (List.mem_map_of_mem hc) hname
      rw [hcolumn, Table.undeclared?_cons_of_notMem hname]
      rfl

theorem overwritten_eq (t : Table) (clause : OnConflict) :
    overwritten t clause =
      match t.undeclared? clause.given with
      | some name => .error (.schema (.unknownColumn (quoted t.name) name))
      | none => .ok ((overwrittenNames t clause).map quoted) := by
  unfold overwritten OnConflict.given overwrittenNames
  cases clause.action with
  | nothing => rfl
  | updateInserted => simp [Table.undeclared?, Function.comp_def]
  | update columns => exact mapM_quotedColumn_eq t columns

theorem conflictText_of_undeclared {t : Table} {clause : OnConflict} {name : String}
    (h : t.undeclared? clause.names = some name) :
    conflictText t clause = .error (.schema (.unknownColumn (quoted t.name) name)) := by
  rw [OnConflict.names, Table.undeclared?_append] at h
  unfold conflictText
  rw [mapM_quotedColumn_eq]
  cases htarget : t.undeclared? clause.target with
  | some first =>
    rw [htarget] at h
    cases h
    rfl
  | none =>
    rw [htarget, Option.none_or] at h
    rw [overwritten_eq, h]
    rfl

theorem conflictText_of_declared {t : Table} {clause : OnConflict}
    (h : t.undeclared? clause.names = none) :
    conflictText t clause =
      if clause.action ≠ .nothing ∧ (clause.target = [] ∨ overwrittenNames t clause = []) then
        .error clause.lack
      else .ok (clause.text (overwrittenNames t clause)) := by
  have hempty (names : List String) : (names.map quoted).isEmpty = true ↔ names = [] := by simp
  rw [OnConflict.names, Table.undeclared?_append, Option.or_eq_none_iff] at h
  unfold conflictText
  rw [mapM_quotedColumn_eq, overwritten_eq, h.1, h.2]
  dsimp only [bind, Except.bind]
  simp only [hempty]
  by_cases haction : clause.action = .nothing
  · rw [if_pos haction, if_neg fun hlack => hlack.1 haction, OnConflict.text, if_pos haction]
    rfl
  rw [if_neg haction]
  -- the guards come in the order of the faults
  by_cases htarget : clause.target = []
  · have hlack : clause.action ≠ .nothing ∧
        (clause.target = [] ∨ overwrittenNames t clause = []) := ⟨haction, .inl htarget⟩
    rw [if_pos htarget, if_pos hlack, OnConflict.lack, if_pos htarget]
    rfl
  rw [if_neg htarget]
  by_cases hassigned : overwrittenNames t clause = []
  · have hlack : clause.action ≠ .nothing ∧
        (clause.target = [] ∨ overwrittenNames t clause = []) := ⟨haction, .inr hassigned⟩
    rw [if_pos hassigned, if_pos hlack, OnConflict.lack, if_neg htarget]
    rfl
  · rw [if_neg hassigned, if_neg fun hlack => hlack.2.elim htarget hassigned, OnConflict.text,
      if_neg haction, List.map_map, String.append_assoc]
    rfl

section

variable {t : Table} {clause : OnConflict}

theorem conflictText_eq_unknown {name : String} :
    conflictText t clause = .error (.schema (.unknownColumn (quoted t.name) name)) ↔
      t.undeclared? clause.names = some name := by
  refine ⟨fun h => ?_, conflictText_of_undeclared⟩
  cases hfirst : t.undeclared? clause.names with
  | some first =>
    rw [conflictText_of_undeclared hfirst] at h
    cases h
    rfl
  | none =>
    rw [conflictText_of_declared hfirst] at h
    split_ifs at h
    cases h

theorem conflictText_eq_lack :
    conflictText t clause = .error clause.lack ↔
      t.undeclared? clause.names = none ∧ clause.action ≠ .nothing ∧
        (clause.target = [] ∨ overwrittenNames t clause = []) := by
  constructor
  · intro h
    cases hfirst : t.undeclared? clause.names with
    | some first =>
      rw [conflictText_of_undeclared hfirst] at h
      cases h
    | none =>
      rw [conflictText_of_declared hfirst] at h
      split_ifs at h with hlack
      exact ⟨rfl, hlack⟩
  · rintro ⟨hfirst, hlack⟩
    rw [conflictText_of_declared hfirst, if_pos hlack]

theorem conflictText_eq_error {e : Error} (h : conflictText t clause = .error e) :
    (∃ name, e = .schema (.unknownColumn (quoted t.name) name)) ∨ e = clause.lack := by
  cases hfirst : t.undeclared? clause.names with
  | some first =>
    rw [conflictText_of_undeclared hfirst] at h
    cases h
    exact .inl ⟨first, rfl⟩
  | none =>
    rw [conflictText_of_declared hfirst] at h
    split_ifs at h
    cases h
    exact .inr rfl

theorem conflictText_written {text : String} (h : conflictText t clause = .ok text) :
    t.undeclared? clause.names = none ∧
      (clause.action ≠ .nothing → clause.target ≠ [] ∧ overwrittenNames t clause ≠ []) ∧
      text = clause.text (overwrittenNames t clause) := by
  cases hfirst : t.undeclared? clause.names with
  | some first =>
    rw [conflictText_of_undeclared hfirst] at h
    cases h
  | none =>
    rw [conflictText_of_declared hfirst] at h
    split_ifs at h with hlack
    cases h
    exact ⟨rfl, fun haction => not_or.1 fun hempty => hlack ⟨haction, hempty⟩, rfl⟩

end

structure Outside (t : Table) (target names : List String) : Prop where
  ordered : names.Sublist (t.columns.map Column.name)
  distinct : names.Nodup
  mem_iff : ∀ c ∈ t.columns, c.name ∈ names ↔ ¬c.isAutoincrement ∧ c.name ∉ target
  nonempty_iff : names ≠ [] ↔ ∃ c ∈ t.columns, ¬c.isAutoincrement ∧ c.name ∉ target

theorem outside_overwrittenNames (t : Table) (target : List String) :
    Outside t target (overwrittenNames t ⟨target, .updateInserted⟩) := by
  have hsublist : (overwrittenNames t ⟨target, .updateInserted⟩).Sublist
      (t.columns.map Column.name) :=
    (List.filter_sublist.trans List.filter_sublist).map _
  have hmem (c : Column) (hc : c ∈ t.columns) :
      c.name ∈ overwrittenNames t ⟨target, .updateInserted⟩ ↔
        ¬c.isAutoincrement ∧ c.name ∉ target := by
    constructor
    · intro hname
      obtain ⟨c', hc', he⟩ := List.mem_map.1 hname
      obtain ⟨hinserted, houtside⟩ := List.mem_filter.1 hc'
      obtain ⟨hcolumn, hauto⟩ := List.mem_filter.1 hinserted
      -- a name is that of one column only
      obtain rfl := List.inj_on_of_nodup_map t.nodup_names hcolumn hc he
      simpa using And.intro hauto houtside
    · rintro ⟨hauto, houtside⟩
      refine List.mem_map_of_mem (List.mem_filter.2 ⟨List.mem_filter.2 ⟨hc, ?_⟩, ?_⟩)
      · simpa using hauto
      · simpa using houtside
  refine ⟨hsublist, t.nodup_names.sublist hsublist, hmem, ?_⟩
  constructor
  · intro hne
    obtain ⟨name, hname⟩ := List.exists_mem_of_ne_nil _ hne
    obtain ⟨c, hc, rfl⟩ := List.mem_map.1 (hsublist.subset hname)
    exact ⟨c, hc, (hmem c hc).1 hname⟩
  · rintro ⟨c, hc, houtside⟩
    exact List.ne_nil_of_mem ((hmem c hc).2 houtside)

structure Upserts (t : Table) (clause : OnConflict) (plain built : Except Error Sql) : Prop where
  /-- A fault of the INSERT itself is reported first. -/
  refused : ∀ e, plain = .error e → built = .error e
  undeclared : ∀ sql, plain = .ok sql → ∀ name,
    (built = .error (.schema (.unknownColumn (quoted t.name) name)) ↔
      t.undeclared? clause.names = some name)
  lacking : ∀ sql, plain = .ok sql → (built = .error clause.lack ↔
    (∀ name ∈ clause.names, name ∈ t.columns.map Column.name) ∧ clause.action ≠ .nothing ∧
      (clause.target = [] ∨ overwrittenNames t clause = []))
  /-- There is no other fault. -/
  faults : ∀ sql e, plain = .ok sql → built = .error e →
    (∃ name, e = .schema (.unknownColumn (quoted t.name) name)) ∨ e = clause.lack
  written : ∀ sql, built = .ok sql →
    (∀ name ∈ clause.names, name ∈ t.columns.map Column.name) ∧
    (clause.action ≠ .nothing → clause.target ≠ [] ∧ overwrittenNames t clause ≠ []) ∧
    ∃ front, plain = .ok ⟨front ++ ";", sql.params⟩ ∧
      sql.text = front ++ clause.text (overwrittenNames t clause) ++ ";"
  outside : ∀ target, clause = ⟨target, .updateInserted⟩ →
    Outside t target (overwrittenNames t clause)
  given : ∀ columns, clause.action = .update columns → overwrittenNames t clause = columns

theorem upserts_error (t : Table) (clause : OnConflict) (e : Error) :
    Upserts t clause (.error e) (.error e) where
  refused _ h := h
  undeclared := nofun
  lacking := nofun
  faults := nofun
  written := nofun
  outside target h := h ▸ outside_overwrittenNames t target
  given columns h := by rw [overwrittenNames, h]

theorem upserts_append (t : Table) (clause : OnConflict) (front : Sql) :
    Upserts t clause (.ok (front ++ .ofText ";"))
      (conflictText t clause >>= fun conflict => .ok (front ++ .ofText (conflict ++ ";"))) where
  refused := nofun
  undeclared _ _ name := bind_ok_eq_error.trans conflictText_eq_unknown
  lacking _ _ := by rw [bind_ok_eq_error, conflictText_eq_lack, Table.undeclared?_eq_none]
  faults _ e _ h := conflictText_eq_error (bind_ok_eq_error.1 h)
  written sql h := by
    obtain ⟨conflict, hconflict, h⟩ := bind_eq_ok.1 h
    obtain ⟨hdeclared, hassigned, rfl⟩ := conflictText_written hconflict
    cases h
    refine ⟨Table.undeclared?_eq_none.1 hdeclared, hassigned, front.text, ?_, ?_⟩
    · exact congrArg Except.ok (Sql.eq_of rfl rfl)
    · exact (String.append_assoc ..).symm
  outside target h := h ▸ outside_overwrittenNames t target
  given columns h := by rw [overwrittenNames, h]

end Insert

namespace Builder

def plain (b : Builder Insert) : Builder Insert :=
  { b with content := { b.content with onConflict := none } }

def front (b : Builder Insert) : Except Error Sql := do
  b.slot.check
  b.content.front

theorem build_eq_front (b : Builder Insert) :
    b.build = b.front >>= fun front =>
      b.content.onConflict.elim (.ok "") (Insert.conflictText b.content.table) >>= fun conflict =>
        .ok (front ++ .ofText (conflict ++ ";")) := by
  have hbuild : Statement.build b.content = b.content.build := rfl
  unfold build front
  rw [hbuild, Insert.build_eq_front]
  cases b.slot.check <;> rfl

theorem build_plain (b : Builder Insert) :
    b.plain.build = b.front >>= fun front => .ok (front ++ .ofText ";") := by
  have hfront : b.plain.front = b.front := rfl
  rw [build_eq_front, hfront]
  rfl

/-- The INSERT of a builder with a conflict clause, beside the same INSERT without it. -/
theorem upserts {b : Builder Insert} {clause : OnConflict}
    (h : b.content.onConflict = some clause) :
    Insert.Upserts b.content.table clause b.plain.build b.build := by
  have hbuild := b.build_eq_front
  rw [h] at hbuild
  rw [b.build_plain, hbuild]
  cases b.front with
  | error e => exact Insert.upserts_error b.content.table clause e
  | ok front => exact Insert.upserts_append b.content.table clause front

end Builder

namespace Stock

def table : Table where
  name := "stock"
  recordType := "Item"
  fields :=
    [⟨"id", ⟨.integer .i64, false⟩, [.primaryKey .abort true]⟩,
      ⟨"code", ⟨.text, false⟩, [.unique .abort]⟩, ⟨"amount", ⟨.integer .i64, false⟩, []⟩,
      ⟨"note", ⟨.text, true⟩, []⟩]
  wellFormed := rfl

def restock (clause : OnConflict) : Builder Insert where
  content :=
    { table
      rows := [[.text "bolt", .integer 7, .null], [.text "nut", .integer 4, .text "loose"]]
      onConflict := some clause }

theorem upserts_restock :
    (∃ sql, (restock ⟨["code"], .updateInserted⟩).build = .ok sql ∧
      Insert.Outside table ["code"] ["amount", "note"] ∧
      ∃ front, (restock ⟨["code"], .updateInserted⟩).plain.build =
          .ok ⟨front ++ ";", sql.params⟩ ∧
        sql.text = front ++ (" ON CONFLICT (`code`) DO UPDATE SET " ++
          "`amount` = excluded.`amount`, `note` = excluded.`note`;")) ∧
    (restock ⟨["code"], .update ["amount", "price"]⟩).build =
      .error (.schema (.unknownColumn "`stock`" "price")) := by
  have hinserted := Builder.upserts (b := restock ⟨["code"], .updateInserted⟩) rfl
  have hgiven := Builder.upserts (b := restock ⟨["code"], .update ["amount", "price"]⟩) rfl
  refine ⟨⟨_, rfl, hinserted.outside _ rfl, ?_⟩, (hgiven.undeclared _ rfl _).2 (by decide)⟩
  obtain ⟨-, -, front, hplain, htext⟩ := hinserted.written _ rfl
  refine ⟨front, hplain, htext.trans ?_⟩
  rw [String.append_assoc]
  rfl

end Stock

end RecordSql
