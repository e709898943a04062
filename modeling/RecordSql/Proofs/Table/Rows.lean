import RecordSql.Proofs.Connection.Rowids
import RecordSql.Proofs.Statement.Insertion

/-! Records from rows. A column reads the result column that is the first of its name, and keeps its
default where there is none, so what a table reads does not depend on the order of the row, on
further columns or on a name that comes again. -/

namespace RecordSql

/-- The result column of a name, which is the first one. -/
def Row.FirstNamed (row : Row) (name : String) (i : Nat) : Prop :=
  row.columns[i]? = some name ∧ ∀ j < i, row.columns[j]? ≠ some name

namespace Row

variable {row : Row} {name : String} {i : Nat}

theorem indexOf?_eq_some : row.indexOf? name = some i ↔ row.FirstNamed name i := by
  rw [indexOf?, List.findIdx?_eq_some_iff_getElem]
  constructor
  · rintro ⟨hi, hname, hbefore⟩
    refine ⟨?_, fun j hj hsame => ?_⟩
    · rw [List.getElem?_eq_getElem hi]
      exact congrArg some (of_decide_eq_true hname)
    · obtain ⟨hlt, hget⟩ := List.getElem?_eq_some_iff.1 hsame
      exact hbefore j hj (decide_eq_true hget)
  · rintro ⟨hget, hbefore⟩
    obtain ⟨hi, hname⟩ := List.getElem?_eq_some_iff.1 hget
    refine ⟨hi, decide_eq_true hname, fun j hj hsame => ?_⟩
    have hlt : j < row.columns.length := Nat.lt_trans hj hi
    exact hbefore j hj (List.getElem?_eq_some_iff.2 ⟨hlt, of_decide_eq_true hsame⟩)

theorem indexOf?_eq_none : row.indexOf? name = none ↔ ∀ i, ¬row.FirstNamed name i := by
  rw [Option.eq_none_iff_forall_ne_some]
  exact forall_congr' fun i => not_congr indexOf?_eq_some

theorem FirstNamed.unique {j : Nat} (h : row.FirstNamed name i) (h' : row.FirstNamed name j) :
    i = j :=
  Option.some.inj ((indexOf?_eq_some.2 h).symm.trans (indexOf?_eq_some.2 h'))

end Row

namespace Value

theorem coerce_coerce (v : Value) (s : StorageClass) : (v.coerce s).coerce s = v.coerce s := by
  cases s with
  | real => cases v <;> rfl
  | integer | text | blob => rfl

end Value

theorem FieldType.coerce_encode (type : FieldType) (x : type.Carrier) :
    (type.encode x).coerce type.storage = type.encode x := by
  obtain ⟨s, _ | _⟩ := type
  · cases s <;> rfl
  · cases x with
    | none => cases s <;> rfl
    | some x => cases s <;> rfl

namespace Column

variable {c : Column} {r : Record} {row : Row} {k : Nat}

theorem load_of_getElem? {v : Value} (h : row.values[k]? = some v) :
    c.load r row k = c.assign r (v.coerce c.storage) := by
  rw [load, Row.value, h]
  rfl

theorem assign_of_store {v w : Value} {r' : Record} (hw : v.coerce c.storage = w)
    (h : r.store c.ordinal w = some r') : c.assign r v = .ok r' := by
  rw [assign, hw, h]

theorem assign_of_refused {v w : Value} (hw : v.coerce c.storage = w)
    (h : r.store c.ordinal w = none) : c.assign r v = .error (.mismatch c.name c.storage w) := by
  rw [assign, hw, h]

theorem load_of_missing (h : row.values[k]? = none) :
    c.load r row k = .error (.notFound ("result column " ++ toString k)) := by
  rw [load, Row.value, h]
  rfl

end Column

/-- The content of the cell comes back from the value that it is stored as. -/
def Cell.Restores (cell : Cell) : Prop := cell.type.decode cell.value = some cell.content

namespace Field

inductive Read (defaults : (f : Field) → f.type.Carrier) (row : Row) (f : Field) : Cell → Prop where
  | unnamed : (∀ i, ¬row.FirstNamed f.name i) → Read defaults row f ⟨f.type, defaults f⟩
  | decoded {i : Nat} {v : Value} {x : f.type.Carrier} : row.FirstNamed f.name i →
      row.values[i]? = some v → f.type.decode (v.coerce f.type.storage) = some x →
      Read defaults row f ⟨f.type, x⟩

inductive Unread (row : Row) (f : Field) : Error → Prop where
  | missing {i : Nat} : row.FirstNamed f.name i → row.values[i]? = none →
      Unread row f (.notFound ("result column " ++ toString i))
  | rejected {i : Nat} {v : Value} : row.FirstNamed f.name i → row.values[i]? = some v →
      f.type.decode (v.coerce f.type.storage) = none →
      Unread row f (.mismatch f.name f.type.storage (v.coerce f.type.storage))

variable {defaults : (f : Field) → f.type.Carrier} {row : Row} {f : Field} {cell : Cell}
  {e : Error} {r : Record} {i : Nat}

theorem read_or_unread (defaults : (f : Field) → f.type.Carrier) (row : Row) (f : Field) :
    (∃ cell, f.Read defaults row cell) ∨ ∃ e, f.Unread row e := by
  cases hindex : row.indexOf? f.name with
  | none => exact .inl ⟨_, .unnamed (Row.indexOf?_eq_none.1 hindex)⟩
  | some i =>
    have hfirst := Row.indexOf?_eq_some.1 hindex
    cases hvalue : row.values[i]? with
    | none => exact .inr ⟨_, .missing hfirst hvalue⟩
    | some v =>
      cases hdecode : f.type.decode (v.coerce f.type.storage) with
      | none => exact .inr ⟨_, .rejected hfirst hvalue hdecode⟩
      | some x => exact .inl ⟨_, .decoded hfirst hvalue hdecode⟩

theorem Unread.exists_firstNamed (h : f.Unread row e) : ∃ i, row.FirstNamed f.name i := by
  cases h with
  | missing hfirst => exact ⟨_, hfirst⟩
  | rejected hfirst => exact ⟨_, hfirst⟩

theorem Read.not_unread (h : f.Read defaults row cell) : ¬f.Unread row e := by
  intro hunread
  cases h with
  | unnamed hnone =>
    cases hunread with
    | missing hfirst => exact hnone _ hfirst
    | rejected hfirst => exact hnone _ hfirst
  | decoded hfirst hvalue hdecode =>
    cases hunread with
    | missing hfirst' hvalue' =>
      rw [hfirst.unique hfirst', hvalue'] at hvalue
      cases hvalue
    | rejected hfirst' hvalue' hdecode' =>
      rw [hfirst.unique hfirst', hvalue'] at hvalue
      cases hvalue
      rw [hdecode'] at hdecode
      cases hdecode

theorem Read.unique {cell' : Cell} (h : f.Read defaults row cell) (h' : f.Read defaults row cell') :
    cell = cell' := by
  cases h with
  | unnamed hnone =>
    cases h' with
    | unnamed => rfl
    | decoded hfirst => exact absurd hfirst (hnone _)
  | decoded hfirst hvalue hdecode =>
    cases h' with
    | unnamed hnone => exact absurd hfirst (hnone _)
    | decoded hfirst' hvalue' hdecode' =>
      obtain rfl := hfirst.unique hfirst'
      obtain rfl := Option.some.inj (hvalue.symm.trans hvalue')
      rw [Option.some.inj (hdecode.symm.trans hdecode')]

/-- A value that is read lands in the cell of its column: the affinity, which is applied again on
the way there, finds it done. -/
theorem load_of_decode {v : Value} {k : Nat} {x : f.type.Carrier}
    (hcell : r[i]? = some ⟨f.type, defaults f⟩) (hvalue : row.values[k]? = some v)
    (hdecode : f.type.decode (v.coerce f.type.storage) = some x) :
    (f.column i).load r row k = .ok (r.set i ⟨f.type, x⟩) := by
  have hstored : Cell.store ⟨f.type, defaults f⟩ (v.coerce f.type.storage) = some ⟨f.type, x⟩ :=
    Option.map_eq_some_iff.2 ⟨x, hdecode, rfl⟩
  have hstore : r.store i (v.coerce f.type.storage) = some (r.set i ⟨f.type, x⟩) := by
    rw [Record.store_eq hcell, hstored]
    rfl
  rw [Column.load_of_getElem? hvalue]
  exact Column.assign_of_store (Value.coerce_coerce ..) hstore

theorem load_of_unread {k : Nat} (hcell : r[i]? = some ⟨f.type, defaults f⟩)
    (hfirst : row.FirstNamed f.name k) (h : f.Unread row e) :
    (f.column i).load r row k = .error e := by
  cases h with
  | missing hfirst' hvalue =>
    obtain rfl := hfirst.unique hfirst'
    exact Column.load_of_missing hvalue
  | rejected hfirst' hvalue hdecode =>
    obtain rfl := hfirst.unique hfirst'
    have hstore := Record.store_eq_none hcell hdecode
    rw [Column.load_of_getElem? hvalue]
    exact Column.assign_of_refused (Value.coerce_coerce ..) hstore

end Field

namespace Table

variable {defaults : (f : Field) → f.type.Carrier} {row : Row}

def columnsFrom (n : Nat) (fields : List Field) : List Column :=
  fields.mapIdx fun i f => f.column (n + i)

theorem columnsFrom_cons (n : Nat) (f : Field) (fields : List Field) :
    columnsFrom n (f :: fields) = f.column n :: columnsFrom (n + 1) fields := by
  rw [columnsFrom, List.mapIdx_cons, columnsFrom]
  simp only [Nat.add_zero, Nat.add_left_comm, Nat.add_comm]

theorem columns_eq (t : Table) : t.columns = columnsFrom 0 t.fields := by
  simp only [columns, columnsFrom, Nat.zero_add]

/-- What one round of the loop over the columns does to a record that has its default at the column:
the cell that is read replaces it, or the loop ends. -/
structure Rounds (defaults : (f : Field) → f.type.Carrier) (row : Row)
    (step : Record → Column → Except Error Record) : Prop where
  read : ∀ {r : Record} {i : Nat} {f : Field} {cell : Cell},
    r[i]? = some ⟨f.type, defaults f⟩ → f.Read defaults row cell →
      step r (f.column i) = .ok (r.set i cell)
  unread : ∀ {r : Record} {i : Nat} {f : Field} {e : Error},
    r[i]? = some ⟨f.type, defaults f⟩ → f.Unread row e → step r (f.column i) = .error e

def defaultCells (defaults : (f : Field) → f.type.Carrier) (fields : List Field) : Record :=
  fields.map fun f => ⟨f.type, defaults f⟩

/-- Columns that can be read are behind the loop: the cells read stand in front of the defaults of
the columns that remain. -/
theorem Rounds.foldlM_append {step : Record → Column → Except Error Record}
    (h : Rounds defaults row step) {fields : List Field} {cells : List Cell}
    (hcells : List.Forall₂ (Field.Read defaults row) fields cells) (done : Record)
    (rest : List Field) :
    (columnsFrom done.length (fields ++ rest)).foldlM step
        (done ++ defaultCells defaults (fields ++ rest)) =
      (columnsFrom (done ++ cells).length rest).foldlM step
        (done ++ cells ++ defaultCells defaults rest) := by
  induction hcells generalizing done with
  | nil => rw [List.nil_append, List.append_nil]
  | @cons f cell fields cells hcell _ ih =>
    have hget : (done ++ defaultCells defaults (f :: (fields ++ rest)))[done.length]? =
        some ⟨f.type, defaults f⟩ := by
      simp [defaultCells]
    have hset : (done ++ defaultCells defaults (f :: (fields ++ rest))).set done.length cell =
        done ++ [cell] ++ defaultCells defaults (fields ++ rest) := by
      simp [defaultCells]
    have hlength : done.length + 1 = (done ++ [cell]).length := by simp
    have hsplit : done ++ cell :: cells = done ++ [cell] ++ cells := by simp
    rw [List.cons_append, columnsFrom_cons, List.foldlM_cons, h.read hget hcell, hset, hlength,
      hsplit]
    exact ih (done ++ [cell])

theorem Rounds.foldlM_of_read {step : Record → Column → Except Error Record} {t : Table}
    (h : Rounds t.defaults row step) {cells : List Cell}
    (hcells : List.Forall₂ (Field.Read t.defaults row) t.fields cells) :
    t.columns.foldlM step t.initial = .ok cells := by
  have hall := h.foldlM_append hcells [] []
  simp only [List.append_nil, List.nil_append] at hall
  rw [columns_eq]
  exact hall.trans (by simp [columnsFrom, defaultCells, pure, Except.pure])

theorem Rounds.foldlM_of_unread {step : Record → Column → Except Error Record} {t : Table}
    (h : Rounds t.defaults row step) {before after : List Field} {f : Field} {cells : List Cell}
    {e : Error} (hfields : t.fields = before ++ f :: after)
    (hcells : List.Forall₂ (Field.Read t.defaults row) before cells) (hunread : f.Unread row e) :
    t.columns.foldlM step t.initial = .error e := by
  have hbefore := h.foldlM_append hcells [] (f :: after)
  have hget : (cells ++ defaultCells t.defaults (f :: after))[cells.length]? =
      some ⟨f.type, t.defaults f⟩ := by
    simp [defaultCells]
  rw [List.nil_append, List.nil_append, columnsFrom_cons, List.foldlM_cons,
    h.unread hget hunread] at hbefore
  rw [columns_eq, hfields]
  rw [initial, hfields]
  exact hbefore

theorem exists_rounds (t : Table) (row : Row) :
    ∃ step, Rounds t.defaults row step ∧ t.ofRow row = t.columns.foldlM step t.initial := by
  refine ⟨_, ⟨fun {r i f cell} hget hread => ?_, fun {r i f e} hget hunread => ?_⟩, rfl⟩
  · cases hread with
    | unnamed hnone =>
      have hindex : row.indexOf? (f.column i).name = none := Row.indexOf?_eq_none.2 hnone
      obtain ⟨hi, hcell⟩ := List.getElem?_eq_some_iff.1 hget
      have hset : r.set i ⟨f.type, t.defaults f⟩ = r := by rw [← hcell, List.set_getElem_self]
      simp only [hindex, hset]
    | decoded hfirst hvalue hdecode =>
      have hindex : row.indexOf? (f.column i).name = some _ := Row.indexOf?_eq_some.2 hfirst
      simp only [hindex]
      exact Field.load_of_decode hget hvalue hdecode
  · obtain ⟨k, hfirst⟩ := hunread.exists_firstNamed
    have hindex : row.indexOf? (f.column i).name = some k := Row.indexOf?_eq_some.2 hfirst
    simp only [hindex]
    exact Field.load_of_unread hget hfirst hunread

theorem ofRow_of_read {t : Table} {cells : List Cell}
    (h : List.Forall₂ (Field.Read t.defaults row) t.fields cells) : t.ofRow row = .ok cells := by
  obtain ⟨step, hstep, hloop⟩ := exists_rounds t row
  rw [hloop, hstep.foldlM_of_read h]

theorem ofRow_of_unread {t : Table} {before after : List Field} {f : Field} {cells : List Cell}
    {e : Error} (hfields : t.fields = before ++ f :: after)
    (hcells : List.Forall₂ (Field.Read t.defaults row) before cells) (h : f.Unread row e) :
    t.ofRow row = .error e := by
  obtain ⟨step, hstep, hloop⟩ := exists_rounds t row
  rw [hloop, hstep.foldlM_of_unread hfields hcells h]

theorem reads_or_firstUnread (defaults : (f : Field) → f.type.Carrier) (row : Row)
    (fields : List Field) :
    (∃ cells, List.Forall₂ (Field.Read defaults row) fields cells) ∨
      ∃ before f after cells e, fields = before ++ f :: after ∧
        List.Forall₂ (Field.Read defaults row) before cells ∧ f.Unread row e := by
  induction fields with
  | nil => exact .inl ⟨[], .nil⟩
  | cons f fields ih =>
    rcases f.read_or_unread defaults row with ⟨cell, hcell⟩ | ⟨e, he⟩
    · rcases ih with ⟨cells, hcells⟩ | ⟨before, g, after, cells, e, rfl, hcells, he⟩
      · exact .inl ⟨cell :: cells, .cons hcell hcells⟩
      · exact .inr ⟨f :: before, g, after, cell :: cells, e, rfl, .cons hcell hcells, he⟩
    · exact .inr ⟨[], f, fields, [], e, rfl, .nil, he⟩

theorem exists_reads (defaults : (f : Field) → f.type.Carrier) {fields : List Field}
    (h : ∀ f ∈ fields, ∀ e, ¬f.Unread row e) :
    ∃ cells, List.Forall₂ (Field.Read defaults row) fields cells := by
  rcases reads_or_firstUnread defaults row fields with hall | ⟨before, f, after, _, e, rfl, _, he⟩
  · exact hall
  · exact absurd he (h f (by simp) e)

theorem ofRow_eq_error {t : Table} {e : Error} :
    t.ofRow row = .error e ↔ ∃ before f after, t.fields = before ++ f :: after ∧
      (∀ g ∈ before, ∀ e', ¬g.Unread row e') ∧ f.Unread row e := by
  constructor
  · intro h
    rcases reads_or_firstUnread t.defaults row t.fields with
      ⟨cells, hcells⟩ | ⟨before, f, after, cells, e', hfields, hcells, he⟩
    · rw [ofRow_of_read hcells] at h
      cases h
    · rw [ofRow_of_unread hfields hcells he] at h
      cases h
      refine ⟨before, f, after, hfields, fun g hg e' => ?_, he⟩
      obtain ⟨i, hi⟩ := List.mem_iff_getElem?.1 hg
      obtain ⟨cell, -, hcell⟩ := exists_of_forall₂ hcells hi
      exact hcell.not_unread
  · rintro ⟨before, f, after, hfields, hbefore, he⟩
    obtain ⟨cells, hcells⟩ := exists_reads t.defaults hbefore
    exact ofRow_of_unread hfields hcells he

structure Carries (t : Table) (row : Row) (r : Record) : Prop where
  restores : ∀ c ∈ t.columns, ∀ i, row.FirstNamed c.name i → ∀ cell ∈ r[c.ordinal]?, cell.Restores
  values : ∀ c ∈ t.columns, ∀ i, row.FirstNamed c.name i → row.values[i]? = some (c.extract r)

theorem extract_eq {c : Column} {r : Record} {cell : Cell} (h : r[c.ordinal]? = some cell) :
    c.extract r = cell.value := by
  rw [Column.extract, Record.value, h]
  rfl

theorem Carries.read {t : Table} {r : Record} (h : t.Carries row r) {i k : Nat} {f : Field}
    {cell : Cell} (hf : t.fields[i]? = some f) (hcell : r[i]? = some cell)
    (htype : cell.type = f.type) (hfirst : row.FirstNamed f.name k) :
    f.Read t.defaults row cell := by
  obtain ⟨type, content⟩ := cell
  obtain rfl : type = f.type := htype
  have hc : f.column i ∈ t.columns :=
    List.mem_of_getElem? (i := i) (by simp [columns, hf])
  have hvalue : row.values[k]? = some (f.type.encode content) := by
    rw [h.values _ hc k hfirst, extract_eq (c := f.column i) hcell]
    rfl
  have hrestores : f.type.decode (f.type.encode content) = some content :=
    h.restores _ hc k hfirst _ hcell
  refine .decoded hfirst hvalue ?_
  rw [FieldType.coerce_encode, hrestores]

end Table

namespace Parcels

def table : Table where
  name := "parcels"
  recordType := "Parcel"
  fields :=
    [⟨"id", ⟨.integer .i64, false⟩, [.primaryKey .abort true]⟩, ⟨"weight", ⟨.real64, true⟩, []⟩,
      ⟨"note", ⟨.text, false⟩, []⟩]
  wellFormed := by decide

def record : Record :=
  [⟨⟨.integer .i64, false⟩, ⟨7, by decide⟩⟩, ⟨⟨.real64, true⟩, none⟩, ⟨⟨.text, false⟩, "fragile"⟩]

def row : Row := ⟨["weight", "kind", "id", "weight", "late"], [.null, .text "box", .integer 7]⟩

end Parcels

end RecordSql
