import Mathlib.Data.List.Basic
import RecordSql.Connection.Records
import RecordSql.Proofs.Outcome

/-! The INSERT of whole records. The values that a table takes from a record of its type fit their
columns, so the statement builds: a tuple of placeholders for each record, and the values of the
records one after the other. -/

namespace RecordSql

namespace Scalar

theorem storage?_encode (s : Scalar) (x : s.Carrier) : (s.encode x).storage? = some s.storage := by
  cases s <;> rfl

end Scalar

namespace StorageClass

theorem accepts_self (s : StorageClass) : s.accepts s := by simp [accepts]

end StorageClass

namespace Cell

theorem storage?_value (c : Cell) :
    c.value = .null ∨ c.value.storage? = some c.type.storage := by
  obtain ⟨⟨s, _ | _⟩, x⟩ := c
  · exact .inr (s.storage?_encode x)
  · cases x with
    | none => exact .inl rfl
    | some x => exact .inr (s.storage?_encode x)

theorem type_store {c c' : Cell} {v : Value} (h : c.store v = some c') : c'.type = c.type := by
  obtain ⟨x, -, rfl⟩ := Option.map_eq_some_iff.1 h
  rfl

end Cell

theorem Record.types_store {r r' : Record} {i : Nat} {v : Value} (h : r.store i v = some r') :
    r'.map Cell.type = r.map Cell.type := by
  obtain ⟨cell, hcell, h⟩ := Option.bind_eq_some_iff.1 h
  obtain ⟨cell', hstore, h⟩ := Option.bind_eq_some_iff.1 h
  cases h
  obtain ⟨hi, rfl⟩ := List.getElem?_eq_some_iff.1 hcell
  rw [List.map_set, Cell.type_store hstore, ← List.getElem_map Cell.type, List.set_getElem_self]
  simpa using hi

theorem Column.types_assign {c : Column} {r r' : Record} {v : Value} (h : c.assign r v = .ok r') :
    r'.map Cell.type = r.map Cell.type := by
  unfold Column.assign at h
  split at h
  · next hstore =>
    cases h
    exact Record.types_store hstore
  · cases h

namespace Table

def Holds (t : Table) (r : Record) : Prop := r.map Cell.type = t.fields.map Field.type

instance (t : Table) (r : Record) : Decidable (t.Holds r) := by unfold Holds; infer_instance

theorem types_fillColumns (r : Record) (columns : List Column) (values : List (Option Value)) :
    (fillColumns r columns values).1.map Cell.type = r.map Cell.type := by
  fun_induction fillColumns r columns values with
  | case1 r c columns v values r' ha ih => rw [ih, Column.types_assign ha]
  | case2 => rfl
  | case3 r c columns values ih => exact ih
  | case4 => rfl

theorem holds_initial (t : Table) : t.Holds t.initial := by
  simp [Holds, initial, Function.comp_def]

theorem holds_record {t : Table} {values : List (Option Value)} {r : Record}
    (h : t.record values = .ok r) : t.Holds r := by
  have ht := types_fillColumns t.initial t.columns values
  unfold record fill at h
  split at h
  · next hfill =>
    cases h
    rw [hfill] at ht
    exact ht.trans t.holds_initial
  · cases h

theorem exists_field {t : Table} {c : Column} (hc : c ∈ t.columns) :
    ∃ f, t.fields[c.ordinal]? = some f ∧ f.column c.ordinal = c := by
  obtain ⟨i, hi, rfl⟩ := List.mem_iff_getElem.1 hc
  have hi : i < t.fields.length := by simpa [columns] using hi
  exact ⟨t.fields[i], by simp [columns, Field.column, hi], by simp [columns, Field.column]⟩

theorem Holds.exists_cell {t : Table} {r : Record} (h : t.Holds r) {i : Nat} {f : Field}
    (hf : t.fields[i]? = some f) : ∃ cell, r[i]? = some cell ∧ cell.type = f.type := by
  have hget : r[i]?.map Cell.type = t.fields[i]?.map Field.type := by
    rw [← List.getElem?_map, ← List.getElem?_map, h]
  rw [hf] at hget
  exact Option.map_eq_some_iff.1 hget

theorem Holds.check_extract {t : Table} {r : Record} (h : t.Holds r) {c : Column}
    (hc : c ∈ t.columns) : c.check (c.extract r) = .ok () := by
  obtain ⟨f, hf, hcolumn⟩ := exists_field hc
  obtain ⟨cell, hcell, htype⟩ := h.exists_cell hf
  have hextract : c.extract r = cell.value := by
    rw [Column.extract, Record.value, hcell]
    rfl
  have hstorage : c.storage = cell.type.storage := by
    rw [← hcolumn, htype]
    rfl
  unfold Column.check
  rw [hextract, hstorage]
  rcases cell.storage?_value with hnull | hsome
  · rw [hnull]
    rfl
  · simp [hsome, StorageClass.accepts_self]

end Table

namespace Sql

theorem text_commaSeparated (ss : List Sql) :
    (commaSeparated ss).text = RecordSql.commaSeparated (ss.map Sql.text) := by
  induction ss with
  | nil => rfl
  | cons s rest ih =>
    cases rest with
    | nil => rfl
    | cons s' rest =>
      rw [RecordSql.commaSeparated, List.map_cons, List.map_cons, String.intercalate_cons_cons]
      change s.text ++ ", " ++ (commaSeparated (s' :: rest)).text = _
      rw [ih]
      rfl

theorem params_commaSeparated (ss : List Sql) :
    (commaSeparated ss).params = ss.flatMap Sql.params := by
  induction ss with
  | nil => rfl
  | cons s rest ih =>
    cases rest with
    | nil => simp [commaSeparated]
    | cons s' rest =>
      change s.params ++ [] ++ (commaSeparated (s' :: rest)).params = _
      rw [ih, List.append_nil]
      rfl

theorem text_holes (values : List Value) :
    (holes values).text = RecordSql.commaSeparated (List.replicate values.length "?") := by
  rw [holes, text_commaSeparated, List.map_map, ← List.map_const']
  rfl

theorem params_holes (values : List Value) : (holes values).params = values := by
  rw [holes, params_commaSeparated, List.flatMap_map]
  simp [hole]

end Sql

namespace Table

def insertionText (t : Table) (tuples : Nat) : String :=
  "INSERT INTO " ++ quoted t.name ++
    (" (" ++ commaSeparated (t.inserted.map fun c => quoted c.name) ++ ") VALUES " ++
      commaSeparated (List.replicate tuples
        ("(" ++ commaSeparated (List.replicate t.inserted.length "?") ++ ")"))) ++ ";"

def insertion (t : Table) (records : List Record) : Sql :=
  ⟨t.insertionText records.length, records.flatMap (Insert.row t)⟩

end Table

namespace Insert

theorem zip_row (t : Table) (r : Record) :
    t.inserted.zip (row t r) = t.inserted.map fun c => (c, c.extract r) := by
  have h := List.zip_map' (f := id) (g := fun c : Column => c.extract r) (l := t.inserted)
  rwa [List.map_id] at h

variable {t : Table} {records : List Record}

theorem tuples_rows (h : ∀ r ∈ records, t.Holds r) :
    tuples t.inserted (records.map (row t)) =
      .ok (.commaSeparated (records.map fun r => .parenthesized (.holes (row t r)))) := by
  have hrow (r : Record) : (t.inserted.zip (row t r)).map (·.2) = row t r := by
    rw [zip_row, List.map_map]
    rfl
  refine bind_eq_ok.2 ⟨(), forM_eq_ok.2 (List.forall_mem_map.2 fun r hr => ?_), ?_⟩
  · refine forM_eq_ok.2 fun p hp => ?_
    rw [zip_row] at hp
    obtain ⟨c, hc, rfl⟩ := List.mem_map.1 hp
    exact (h r hr).check_extract (List.mem_of_mem_filter hc)
  · simp only [List.map_map, Function.comp_def, hrow]
    rfl

theorem build_rows (hcolumns : t.inserted ≠ []) (hrecords : records ≠ [])
    (h : ∀ r ∈ records, t.Holds r) :
    build { table := t, rows := records.map (row t) } = .ok (t.insertion records) := by
  have hsource : source { table := t, rows := records.map (row t) } =
      .ok (.ofText (" (" ++ commaSeparated (t.inserted.map fun c => quoted c.name) ++
        ") VALUES ") ++
        .commaSeparated (records.map fun r => .parenthesized (.holes (row t r)))) := by
    unfold source
    simp only [List.isEmpty_iff, hcolumns, if_false, tuples_rows h]
    rfl
  have hbuild : build { table := t, rows := records.map (row t) } =
      .ok (.ofText ("INSERT INTO " ++ quoted t.name) ++
        (.ofText (" (" ++ commaSeparated (t.inserted.map fun c => quoted c.name) ++
          ") VALUES ") ++
          .commaSeparated (records.map fun r => .parenthesized (.holes (row t r)))) ++
        .ofText ("" ++ ";")) := by
    unfold build
    simp only [List.isEmpty_iff, List.map_eq_nil_iff, hrecords, if_false, hsource]
    rfl
  rw [hbuild]
  refine congrArg Except.ok (Sql.eq_of ?_ ?_)
  · have htuple (r : Record) : (Sql.parenthesized (.holes (row t r))).text =
        "(" ++ commaSeparated (List.replicate t.inserted.length "?") ++ ")" := by
      rw [Sql.parenthesized, Sql.text_append, Sql.text_append, Sql.text_holes, row, List.length_map]
      rfl
    have htuples :
        (Sql.commaSeparated (records.map fun r => .parenthesized (.holes (row t r)))).text =
        commaSeparated (List.replicate records.length
          ("(" ++ commaSeparated (List.replicate t.inserted.length "?") ++ ")")) := by
      rw [Sql.text_commaSeparated, List.map_map, ← List.map_const']
      exact congrArg commaSeparated (List.map_congr_left fun r _ => htuple r)
    rw [Sql.text_append, Sql.text_append, Sql.text_append, htuples, String.empty_append]
    rfl
  · simp [Sql.params_commaSeparated, Sql.params_holes, Sql.ofText, Sql.parenthesized,
      Table.insertion, List.flatMap_map]

end Insert

namespace Builder

theorem edits_rows (t : Table) (before rows : List (List Value)) :
    ({ content := { table := t, rows := before } } : Builder Insert).edits
        (rows.map Insert.Edit.row) =
      { content := { table := t, rows := before ++ rows } } := by
  induction rows generalizing before with
  | nil => simp [edits]
  | cons row rest ih =>
    change ({ content := { table := t, rows := before ++ [row] } } : Builder Insert).edits
      (rest.map Insert.Edit.row) = _
    rw [ih, List.append_assoc]
    rfl

end Builder

theorem Connection.insertMany_eq_ok {σ : Type} {c : Connection σ} {recordType : String} {t : Table}
    (ht : c.table recordType = .ok t) (records : List Record) :
    c.insertMany recordType records =
      .ok { content := { table := t, rows := records.map (Insert.row t) } } := by
  unfold insertMany
  rw [ht]
  have hrows := Builder.edits_rows t [] (records.map (Insert.row t))
  rw [List.map_map] at hrows
  exact congrArg Except.ok hrows

end RecordSql
