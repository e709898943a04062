import Mathlib.Data.List.Pairwise
import Mathlib.Data.List.TakeDrop
import Mathlib.Data.List.TakeWhile
import RecordSql.Proofs.Statement.Declared
import RecordSql.Proofs.Statement.Insertion
import RecordSql.Proofs.Table.Declaration

/-! Statements that address rows by the primary key of their table. The key is named as a text, and
a text with a point in it is not the name of a column. -/

namespace RecordSql

namespace ColumnRef

theorem ofText_eq_plain {s : String} (h : '.' ∉ s.toList) : ofText s = plain s := by
  have hall : ∀ ch ∈ s.toList, decide (ch ≠ '.') = true := fun ch hch =>
    decide_eq_true fun he => h (he ▸ hch)
  rw [ofText, List.span_eq_takeWhile_dropWhile, List.dropWhile_eq_nil_iff.2 hall]

theorem exists_ofText_eq_ofTable {s : String} (h : '.' ∈ s.toList) :
    ∃ table column, s.toList = table ++ '.' :: column ∧
      ofText s = ofTable (String.ofList table) (String.ofList column) := by
  obtain ⟨table, column, hs, hfirst⟩ := List.eq_append_cons_of_mem h
  have hall : ∀ ch ∈ table, decide (ch ≠ '.') = true := fun ch hch =>
    decide_eq_true fun he => hfirst (he ▸ hch)
  refine ⟨table, column, hs, ?_⟩
  rw [ofText, List.span_eq_takeWhile_dropWhile, hs, List.takeWhile_append_of_pos hall,
    List.dropWhile_append_of_pos hall]
  simp

theorem sql_ofText_ne {s : String} (h : '.' ∈ s.toList) : (ofText s).sql ≠ quoted s := by
  obtain ⟨table, column, hs, hr⟩ := exists_ofText_eq_ofTable h
  rw [hr]
  intro he
  have hchars := congrArg String.toList he
  simp [sql, ofTable, qualified, quoted, hs] at hchars

end ColumnRef

theorem Column.check_of_takes {c : Column} {v : Value} (h : c.Takes v) : c.check v = .ok () := by
  rw [check]
  obtain rfl | ⟨found, hfound, haccepts⟩ := h
  · rfl
  · simp only [hfound, haccepts, if_true]

namespace Table

variable (t : Table) (pk : Column)

def others : List Column := t.columns.filter (· ≠ pk)

def selection : String :=
  "SELECT " ++ commaSeparated (t.columns.map fun c => qualified t.name c.name) ++ " FROM " ++
    quoted t.name

def lookup (key : Value) : Sql :=
  ⟨t.selection ++ " WHERE " ++ quoted pk.name ++ " = ? LIMIT 1;", [key]⟩

def extreme (direction : Direction) : Sql :=
  ⟨t.selection ++ " ORDER BY " ++ quoted pk.name ++ " " ++ direction.sql ++ " LIMIT 1;", []⟩

def removal (key : Value) : Sql :=
  ⟨"DELETE FROM " ++ quoted t.name ++ " WHERE " ++ quoted pk.name ++ " = ?;", [key]⟩

def revision (r : Record) : Sql :=
  ⟨"UPDATE " ++ quoted t.name ++ " SET " ++
      commaSeparated ((t.others pk).map fun c => quoted c.name ++ " = ?") ++
      " WHERE " ++ quoted pk.name ++ " = ?;",
    (t.others pk).map (fun c => c.extract r) ++ [pk.extract r]⟩

variable {t pk}

theorem not_isPrimaryKey_of_ne {c c' : Column} (hc : c ∈ t.columns) (hc' : c' ∈ t.columns)
    (hne : c ≠ c') : ¬(c.isPrimaryKey ∧ c'.isPrimaryKey) := by
  have hwell : WellFormed t.fields := by
    rcases wellFormed_or_refused t.name t.fields with hwell | ⟨fault, hfault⟩
    · exact hwell
    · exact nomatch t.wellFormed.symm.trans (fault?_of_refused hfault)
  have hkeys : (t.fields.map Field.isPrimaryKey).Pairwise fun k k' : Bool => ¬(k ∧ k') := by
    rw [List.pairwise_map]
    simpa only [Field.isPrimaryKey_iff] using hwell.oneKey
  rw [← t.map_columns (g := Column.isPrimaryKey) fun _ _ => rfl, List.pairwise_map] at hkeys
  have hsymm : Std.Symm fun c c' : Column => ¬(c.isPrimaryKey ∧ c'.isPrimaryKey) :=
    ⟨fun _ _ hnot hboth => hnot hboth.symm⟩
  exact hkeys.forall hc hc' hne

theorem filter_eq_others (hpk : t.primaryKey? = some pk) :
    t.columns.filter (!·.isPrimaryKey) = t.others pk := by
  have hkey : pk.isPrimaryKey := List.find?_some hpk
  have hmem := List.mem_of_find?_eq_some hpk
  refine List.filter_congr fun c hc => ?_
  rw [Bool.eq_iff_iff, Bool.not_eq_true', decide_eq_true_iff]
  constructor
  · rintro hother rfl
    exact absurd hkey (by simp [hother])
  · intro hne
    simpa [hkey] using not_isPrimaryKey_of_ne hc hmem hne

theorem resolve_plain {c : Column} (hc : c ∈ t.columns) :
    Scope.resolve [⟨t.name, t.columns⟩] (.plain c.name) = .ok c := by
  have hfind : Exposed.find? ⟨t.name, t.columns⟩ c.name = some c := find?_eq_some.2 ⟨hc, rfl⟩
  simp [Scope.resolve, ColumnRef.plain, hfind]

theorem check_compare_plain {c : Column} (hc : c ∈ t.columns) {v : Value}
    (hv : c.check v = .ok ()) (op : Comparison) :
    (Condition.compare (.plain c.name) op v).check [⟨t.name, t.columns⟩] = .ok () := by
  refine Scope.checkValues_eq_ok.2 ⟨c, resolve_plain hc, ?_⟩
  simpa using hv

end Table

namespace Clauses

def keyed (r : ColumnRef) (key : Value) : Clauses :=
  { condition := some (.compare r .eq key), limit := some 1 }

def foremost (r : ColumnRef) (direction : Direction) : Clauses :=
  { order := [(r, direction)], limit := some 1 }

end Clauses

namespace Select

variable {t : Table} {q : Clauses}

def whole (t : Table) (q : Clauses) : Select := { ofTable t with clauses := q }

theorem sql_whole (hcolumns : q.columns = none) (hdistinct : q.distinct = false) :
    (whole t q).sql =
      .ofText t.selection ++ q.whereSql ++ .ofText (q.orderText ++ q.limitText) := by
  have hprojection : q.projection (whole t q).sources.scope =
      t.columns.map fun c => qualified t.name c.name := by
    rw [Clauses.projection, hcolumns]
    rfl
  have hdistinctText : q.distinctText = "" := by rw [Clauses.distinctText, hdistinct]; rfl
  change q.render (whole t q).sources.scope (.ofText (quoted t.name)) = _
  rw [Clauses.render, hprojection, hdistinctText, String.append_empty]
  rfl

theorem build_of_checked {q : Select} (h : q.clauses.Checked q.sources) :
    q.build = .ok (q.sql ++ .ofText ";") := by
  rw [build, check_eq_ok.2 h]
  rfl

theorem sql_keyed (r : ColumnRef) (key : Value) :
    (whole t (.keyed r key)).sql ++ .ofText ";" =
      ⟨t.selection ++ " WHERE " ++ r.sql ++ " = ? LIMIT 1;", [key]⟩ := by
  have hlimit : toString 1 = "1" := by decide
  rw [sql_whole rfl rfl]
  refine Sql.eq_of ?_ ?_
  · simp [Clauses.whereSql, Clauses.orderText, Clauses.limitText, Clauses.keyed, Condition.render,
      Comparison.sql, Sql.ofText, Sql.hole, String.append_assoc, hlimit]
  · simp [Clauses.whereSql, Clauses.keyed, Condition.render, Sql.ofText, Sql.hole]

theorem sql_foremost (r : ColumnRef) (direction : Direction) :
    (whole t (.foremost r direction)).sql ++ .ofText ";" =
      ⟨t.selection ++ " ORDER BY " ++ r.sql ++ " " ++ direction.sql ++ " LIMIT 1;", []⟩ := by
  have hlimit : toString 1 = "1" := by decide
  rw [sql_whole rfl rfl]
  refine Sql.eq_of ?_ ?_
  · simp [Clauses.whereSql, Clauses.orderText, Clauses.limitText, Clauses.foremost, commaSeparated,
      Sql.ofText, Sql.empty, String.append_assoc, hlimit]
  · simp [Clauses.whereSql, Clauses.foremost, Sql.ofText, Sql.empty]

variable {pk : Column}

theorem build_lookup (hpk : pk ∈ t.columns) {key : Value} (hkey : pk.Takes key) :
    (whole t (.keyed (.plain pk.name) key)).build = .ok (t.lookup pk key) := by
  have hcondition := Table.check_compare_plain hpk (Column.check_of_takes hkey) .eq
  have hchecked : (Clauses.keyed (.plain pk.name) key).Checked
      (whole t (.keyed (.plain pk.name) key)).sources := by
    refine ⟨nofun, nofun, ?_, nofun⟩
    rintro _ ⟨⟩
    exact hcondition
  rw [build_of_checked hchecked, sql_keyed]
  rfl

theorem build_extreme (hpk : pk ∈ t.columns) (direction : Direction) :
    (whole t (.foremost (.plain pk.name) direction)).build = .ok (t.extreme pk direction) := by
  have hchecked : (Clauses.foremost (.plain pk.name) direction).Checked
      (whole t (.foremost (.plain pk.name) direction)).sources := by
    refine ⟨nofun, nofun, nofun, ?_⟩
    simpa [Clauses.foremost] using ⟨pk, Table.resolve_plain hpk⟩
  rw [build_of_checked hchecked, sql_foremost]
  rfl

theorem text_build_ne_extreme (hpoint : '.' ∈ pk.name.toList) {direction : Direction} {sql : Sql}
    (h : (whole t (.foremost (.ofText pk.name) direction)).build = .ok sql) :
    sql.text ≠ (t.extreme pk direction).text := by
  obtain ⟨_, _, h⟩ := bind_eq_ok.1 h
  cases h
  rw [sql_foremost]
  intro htext
  refine ColumnRef.sql_ofText_ne hpoint ?_
  simpa [Table.extreme, String.append_assoc] using htext

end Select

namespace Delete

theorem build_removal {t : Table} {pk : Column} (hpk : pk ∈ t.columns) {key : Value}
    (hkey : pk.Takes key) :
    build { table := t, condition := some (.compare (.plain pk.name) .eq key) } =
      .ok (t.removal pk key) := by
  have hbuild : build { table := t, condition := some (.compare (.plain pk.name) .eq key) } =
      .ok (.ofText ("DELETE FROM " ++ quoted t.name) ++
        (.ofText " WHERE " ++ (Condition.compare (.plain pk.name) .eq key).render) ++
          .ofText ";") := by
    refine bind_eq_ok.2 ⟨(), optionForM_eq_ok.2 ?_, rfl⟩
    rintro _ ⟨⟩
    exact Table.check_compare_plain hpk (Column.check_of_takes hkey) .eq
  rw [hbuild]
  refine congrArg Except.ok (Sql.eq_of ?_ ?_)
  · simp [Condition.render, Comparison.sql, ColumnRef.sql, ColumnRef.plain, Sql.ofText, Sql.hole,
      Table.removal, String.append_assoc]
  · simp [Condition.render, Sql.ofText, Sql.hole, Table.removal]

end Delete

namespace Update

theorem build_of_fits {t : Table} {assignments : List (String × Value)} {e : Condition}
    (hne : assignments ≠ [])
    (hall : ∀ a ∈ assignments, ∃ c, t.find? a.1 = some c ∧ c.check a.2 = .ok ())
    (he : e.check [⟨t.name, t.columns⟩] = .ok ()) :
    build ⟨t, assignments, some e⟩ =
      .ok (.ofText ("UPDATE " ++ quoted t.name ++ " SET ") ++
        .commaSeparated (assignments.map fun a => .ofText (quoted a.1 ++ " = ") ++ .hole a.2) ++
        (.ofText " WHERE " ++ e.render) ++ .ofText ";") := by
  have hassigned : assignments.mapM (fun a => assignment t a.1 a.2) =
      .ok (assignments.map fun a => .ofText (quoted a.1 ++ " = ") ++ .hole a.2) := by
    refine mapM_eq_ok.2 (List.forall₂_map_right_iff.2 (List.forall₂_same.2 fun a ha => ?_))
    obtain ⟨c, hfind, hcheck⟩ := hall a ha
    obtain ⟨-, hname⟩ := Table.of_find? hfind
    simp only [assignment, hfind, hcheck, hname]
    rfl
  have hcondition : (some e).forM (·.check [⟨t.name, t.columns⟩]) = .ok () :=
    optionForM_eq_ok.2 fun e' he' => Option.some.inj he' ▸ he
  have hnonempty : ¬assignments.isEmpty = true := by simpa using hne
  dsimp only [build]
  exact guard_eq_ok.2 ⟨hnonempty,
    bind_eq_ok.2 ⟨_, hassigned, bind_eq_ok.2 ⟨(), hcondition, rfl⟩⟩⟩

theorem build_revision {t : Table} {pk : Column} {r : Record} (hr : t.Holds r)
    (hpk : t.primaryKey? = some pk) (hothers : t.others pk ≠ []) :
    build { Update.setRecord { table := t } r with
        condition := some (.compare (.plain pk.name) .eq (pk.extract r)) } =
      .ok (t.revision pk r) := by
  have hmem := List.mem_of_find?_eq_some hpk
  have hkey := Table.check_compare_plain hmem (hr.check_extract hmem) .eq
  let assignments := (t.others pk).map fun c => (c.name, c.extract r)
  have hassignments : (Update.setRecord { table := t } r).assignments = assignments := by
    simp only [setRecord, Table.filter_eq_others hpk, List.nil_append, assignments]
  have hne : assignments ≠ [] := by simpa [assignments] using hothers
  have hall : ∀ a ∈ assignments, ∃ c, t.find? a.1 = some c ∧ c.check a.2 = .ok () := by
    refine List.forall_mem_map.2 fun c hc => ?_
    have hc := List.mem_of_mem_filter hc
    exact ⟨c, Table.find?_eq_some.2 ⟨hc, rfl⟩, hr.check_extract hc⟩
  dsimp only
  rw [hassignments]
  refine (build_of_fits hne hall hkey).trans (congrArg Except.ok (Sql.eq_of ?_ ?_))
  · simp [Sql.text_commaSeparated, assignments, Condition.render, Comparison.sql, ColumnRef.sql,
      ColumnRef.plain, Sql.ofText, Sql.hole, Table.revision, String.append_assoc,
      Function.comp_def]
  · simp [Sql.params_commaSeparated, assignments, Condition.render, Sql.ofText, Sql.hole,
      Table.revision, List.flatMap_map]
    exact List.map_eq_flatMap.symm

end Update

end RecordSql
