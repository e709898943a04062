import RecordSql.Proofs.Statement.Insertion
import RecordSql.Proofs.Statement.Printed
import RecordSql.Proofs.Table

/-! Declarations of tables. A list of columns is well formed when it has a column, the names differ,
AUTOINCREMENT stands at integers and there is one PRIMARY KEY at most; of what is wrong with any
other list the first fault is reported. The columns of a declared table are reached alike by their
places and by their names. -/

namespace RecordSql

namespace Field

def Keyed (f : Field) : Prop :=
  ∃ conflict autoincrement, Constraint.primaryKey conflict autoincrement ∈ f.constraints

def Numbered (f : Field) : Prop := ∃ conflict, Constraint.primaryKey conflict true ∈ f.constraints

theorem isPrimaryKey_iff {f : Field} : f.isPrimaryKey ↔ f.Keyed := by
  rw [isPrimaryKey, List.any_eq_true]
  constructor
  · rintro ⟨constraint, hmem, hkey⟩
    cases constraint with
    | primaryKey conflict autoincrement => exact ⟨conflict, autoincrement, hmem⟩
    | notNull | unique | foreignKey => simp [Constraint.isPrimaryKey] at hkey
  · rintro ⟨conflict, autoincrement, hmem⟩
    exact ⟨_, hmem, rfl⟩

theorem isAutoincrement_iff {f : Field} : f.isAutoincrement ↔ f.Numbered := by
  rw [isAutoincrement, List.any_eq_true]
  constructor
  · rintro ⟨constraint, hmem, hauto⟩
    cases constraint with
    | primaryKey conflict autoincrement =>
      have htrue : autoincrement = true := hauto
      exact ⟨conflict, htrue ▸ hmem⟩
    | notNull | unique | foreignKey => simp [Constraint.isAutoincrement] at hauto
  · rintro ⟨conflict, hmem⟩
    exact ⟨_, hmem, rfl⟩

end Field

namespace Table

variable {table : String} {before front rest fields : List Field} {f : Field}

structure Separate (fields : List Field) : Prop where
  distinct : (fields.map Field.name).Nodup
  numbered : ∀ f ∈ fields, f.Numbered → f.type.storage = .integer

structure WellFormed (fields : List Field) : Prop extends Separate fields where
  nonempty : fields ≠ []
  oneKey : fields.Pairwise fun f g => ¬(f.Keyed ∧ g.Keyed)

inductive Misplaced (table : String) (before : List Field) (f : Field) : SchemaError → Prop where
  | repeated : f.name ∈ before.map Field.name →
      Misplaced table before f (.duplicateColumn table f.name)
  | misnumbered : f.name ∉ before.map Field.name → f.Numbered → f.type.storage ≠ .integer →
      Misplaced table before f (.invalidAutoincrement table f.name)

/-- What is wrong with a list of columns: that it is empty, then the first column that is out of
place, then a second primary key. -/
inductive Refused (table : String) (fields : List Field) : SchemaError → Prop where
  | empty : fields = [] → Refused table fields (.emptyTable table)
  | misplaced {before after : List Field} {f : Field} {fault : SchemaError} :
      fields = before ++ f :: after → Separate before → Misplaced table before f fault →
      Refused table fields fault
  | keys : fields ≠ [] → Separate fields →
      ¬fields.Pairwise (fun f g => ¬(f.Keyed ∧ g.Keyed)) →
      Refused table fields (.multiplePrimaryKeys table)

namespace Separate

theorem nil : Separate [] := ⟨List.nodup_nil, by simp⟩

theorem snoc (h : Separate before) (hname : f.name ∉ before.map Field.name)
    (hnumbered : f.Numbered → f.type.storage = .integer) : Separate (before ++ [f]) where
  distinct := by
    rw [List.map_append, List.nodup_append]
    refine ⟨h.distinct, List.nodup_singleton _, fun name hn other ho => ?_⟩
    have hother : other = f.name := by simpa using ho
    rintro rfl
    exact hname (hother ▸ hn)
  numbered g hg := by
    rcases List.mem_append.1 hg with hg | hg
    · exact h.numbered g hg
    · rw [List.mem_singleton.1 hg]
      exact hnumbered

theorem name_notMem (h : Separate (before ++ f :: rest)) : f.name ∉ before.map Field.name := by
  have hd := h.distinct
  rw [List.map_append, List.map_cons, List.nodup_append] at hd
  intro hn
  exact hd.2.2 f.name hn f.name (List.mem_cons_self ..) rfl

end Separate

theorem fieldFault?_cons (hname : f.name ∉ before.map Field.name)
    (hnumbered : f.Numbered → f.type.storage = .integer) :
    fieldFault? table (before.map Field.name) (f :: rest) =
      fieldFault? table ((before ++ [f]).map Field.name) rest := by
  have hauto : ¬(f.isAutoincrement ∧ f.type.storage ≠ .integer) := by
    rintro ⟨ha, hs⟩
    exact hs (hnumbered (Field.isAutoincrement_iff.1 ha))
  rw [fieldFault?, if_neg hname, if_neg hauto, List.map_append]
  rfl

theorem fieldFault?_append (before rest : List Field) (h : Separate (before ++ front)) :
    fieldFault? table (before.map Field.name) (front ++ rest) =
      fieldFault? table ((before ++ front).map Field.name) rest := by
  induction front generalizing before with
  | nil => rw [List.append_nil, List.nil_append]
  | cons f front ih =>
    have hsplit : before ++ f :: front = before ++ [f] ++ front := by simp
    have hmem : f ∈ before ++ f :: front := by simp
    rw [List.cons_append, fieldFault?_cons h.name_notMem (h.numbered f hmem), hsplit]
    exact ih _ (hsplit ▸ h)

theorem fieldFault?_of_misplaced {fault : SchemaError} (h : Misplaced table before f fault) :
    fieldFault? table (before.map Field.name) (f :: rest) = some fault := by
  rw [fieldFault?]
  cases h with
  | repeated hname => rw [if_pos hname]
  | misnumbered hname hnumbered hstorage =>
    rw [if_neg hname, if_pos ⟨Field.isAutoincrement_iff.2 hnumbered, hstorage⟩]

/-- Going on from columns in their places, either all the others are in theirs or there is a first
one that is not. -/
theorem separate_or_misplaced (table : String) (h : Separate before) (rest : List Field) :
    Separate (before ++ rest) ∨
      ∃ front f back fault, rest = front ++ f :: back ∧ Separate (before ++ front) ∧
        Misplaced table (before ++ front) f fault := by
  induction rest generalizing before with
  | nil => exact .inl (by rwa [List.append_nil])
  | cons f rest ih =>
    have hstart : Separate (before ++ []) := by rwa [List.append_nil]
    by_cases hname : f.name ∈ before.map Field.name
    · exact .inr ⟨[], f, rest, _, rfl, hstart, .repeated (by rwa [List.append_nil])⟩
    by_cases hnumbered : f.Numbered → f.type.storage = .integer
    · have hsplit (front : List Field) : before ++ f :: front = before ++ [f] ++ front := by simp
      rcases ih (h.snoc hname hnumbered) with hall | ⟨front, g, back, fault, rfl, hfront, hfault⟩
      · exact .inl (hsplit rest ▸ hall)
      · rw [← hsplit] at hfront hfault
        exact .inr ⟨f :: front, g, back, fault, rfl, hfront, hfault⟩
    · obtain ⟨hauto, hstorage⟩ := Classical.not_imp.1 hnumbered
      refine .inr ⟨[], f, rest, _, rfl, hstart, .misnumbered ?_ hauto hstorage⟩
      rwa [List.append_nil]

theorem wellFormed_or_refused (table : String) (fields : List Field) :
    WellFormed fields ∨ ∃ fault, Refused table fields fault := by
  by_cases hempty : fields = []
  · exact .inr ⟨_, .empty hempty⟩
  rcases separate_or_misplaced table .nil fields with hall | ⟨front, f, back, fault, h, hfront, hf⟩
  · by_cases hkeys : fields.Pairwise fun f g => ¬(f.Keyed ∧ g.Keyed)
    · exact .inl ⟨hall, hempty, hkeys⟩
    · exact .inr ⟨_, .keys hempty hall hkeys⟩
  · exact .inr ⟨fault, .misplaced h hfront hf⟩

theorem pairwise_keyed_iff {fields : List Field} :
    (fields.Pairwise fun f g => ¬(f.Keyed ∧ g.Keyed)) ↔
      ¬1 < (fields.filter Field.isPrimaryKey).length := by
  have hfilter : (fields.Pairwise fun f g => ¬(f.Keyed ∧ g.Keyed)) ↔
      (fields.filter Field.isPrimaryKey).Pairwise fun _ _ => False := by
    rw [List.pairwise_filter]
    simp only [Field.isPrimaryKey_iff, not_and, imp_false]
  rw [hfilter]
  match fields.filter Field.isPrimaryKey with
  | [] => simp
  | [_] => simp
  | f :: g :: rest =>
    refine iff_of_false (fun hpairs => ?_) (by simp)
    exact List.rel_of_pairwise_cons hpairs (List.mem_cons_self ..)

theorem fieldFault?_of_separate (h : Separate fields) : fieldFault? table [] fields = none := by
  have happend : fieldFault? table [] (fields ++ []) =
      fieldFault? table (fields.map Field.name) [] := fieldFault?_append [] [] h
  rw [List.append_nil] at happend
  exact happend

theorem fault?_of_wellFormed (h : WellFormed fields) : fault? table fields = none := by
  have hempty : ¬fields.isEmpty := fun he => h.nonempty (List.isEmpty_iff.1 he)
  rw [fault?, if_neg hempty, fieldFault?_of_separate h.toSeparate]
  exact if_neg (pairwise_keyed_iff.1 h.oneKey)

theorem fault?_of_refused {fault : SchemaError} (h : Refused table fields fault) :
    fault? table fields = some fault := by
  cases h with
  | empty hempty =>
    rw [hempty]
    rfl
  | @misplaced before after f _ hfields hbefore hf =>
    have hempty : ¬fields.isEmpty := by simp [hfields]
    have happend : fieldFault? table [] (before ++ f :: after) =
        fieldFault? table (before.map Field.name) (f :: after) :=
      fieldFault?_append [] (f :: after) hbefore
    have hfault : fieldFault? table [] fields = some fault := by
      rw [hfields, happend, fieldFault?_of_misplaced hf]
    rw [fault?, if_neg hempty, hfault]
  | keys hne hall hkeys =>
    have hempty : ¬fields.isEmpty := fun he => hne (List.isEmpty_iff.1 he)
    have hcount : 1 < (fields.filter Field.isPrimaryKey).length :=
      Classical.not_not.1 fun hc => hkeys (pairwise_keyed_iff.2 hc)
    rw [fault?, if_neg hempty, fieldFault?_of_separate hall]
    exact if_pos hcount

theorem declare_of_wellFormed (name recordType : String)
    (defaults : (f : Field) → f.type.Carrier) (h : WellFormed fields) :
    ∃ t, declare name recordType fields defaults = .ok t := by
  have hnone : fault? name fields = none := fault?_of_wellFormed h
  unfold declare
  split
  · next fault hfault =>
    rw [hnone] at hfault
    cases hfault
  · next hfault => exact ⟨_, rfl⟩

theorem declare_of_refused {name recordType : String} {fault : SchemaError}
    {defaults : (f : Field) → f.type.Carrier} (h : Refused name fields fault) :
    declare name recordType fields defaults = .error (.schema fault) := by
  have hsome := fault?_of_refused h
  unfold declare
  split
  · next fault' hfault =>
    rw [hsome] at hfault
    cases hfault
    rfl
  · next hfault =>
    rw [hsome] at hfault
    cases hfault

theorem declare_eq_ok {name recordType : String} {defaults : (f : Field) → f.type.Carrier}
    {t : Table} (h : declare name recordType fields defaults = .ok t) :
    t.name = name ∧ t.recordType = recordType ∧ t.fields = fields := by
  unfold declare at h
  split at h
  · cases h
  · cases h
    exact ⟨rfl, rfl, rfl⟩

structure Addressed (t : Table) : Prop where
  declared : ∀ i : Nat, t.columns[i]? = t.fields[i]?.map (·.column i)
  ordinal : ∀ (i : Nat) c, t.columns[i]? = some c → c.ordinal = i
  placed : ∀ (i : Nat) c, t.columns[i]? = some c → t.column i = .ok c
  named : ∀ (i : Nat) c, t.columns[i]? = some c →
    t.columnNamed c.name = .ok c ∧ (Source.table t).exposed.find? c.name = some c
  beyond : ∀ i, t.fields.length ≤ i →
    t.column i = .error (.notFound ("column " ++ toString i ++ " of table " ++ quoted t.name))
  unnamed : ∀ name, name ∉ t.fields.map Field.name →
    t.columnNamed name =
        .error (.notFound ("column " ++ quoted name ++ " in table " ++ quoted t.name)) ∧
      (Source.table t).exposed.find? name = none

theorem getElem?_columns (t : Table) (i : Nat) :
    t.columns[i]? = t.fields[i]?.map (·.column i) := List.getElem?_mapIdx

theorem ordinal_getElem? {t : Table} {i : Nat} {c : Column} (h : t.columns[i]? = some c) :
    c.ordinal = i := by
  rw [getElem?_columns] at h
  obtain ⟨f, -, rfl⟩ := Option.map_eq_some_iff.1 h
  rfl

theorem columnNamed_eq_ok {t : Table} {name : String} {c : Column} (h : t.find? name = some c) :
    t.columnNamed name = .ok c := by
  rw [columnNamed, h]

theorem find?_eq_none {t : Table} {name : String} (h : name ∉ t.fields.map Field.name) :
    t.find? name = none := by
  cases hfind : t.find? name with
  | none => rfl
  | some c =>
    obtain ⟨hc, rfl⟩ := of_find? hfind
    have hmem := List.mem_map_of_mem (f := Column.name) hc
    rw [map_name_columns] at hmem
    exact absurd hmem h

theorem addressed (t : Table) : t.Addressed where
  declared := t.getElem?_columns
  ordinal _ _ := ordinal_getElem?
  placed i c h := by rw [column, h]
  named i c h := by
    have hfind : t.find? c.name = some c := find?_eq_some.2 ⟨List.mem_of_getElem? h, rfl⟩
    exact ⟨columnNamed_eq_ok hfind, hfind⟩
  beyond i h := by
    have hnone : t.columns[i]? = none := by rw [getElem?_columns, List.getElem?_eq_none h]; rfl
    rw [column, hnone]
  unnamed name h := by
    have hnone := find?_eq_none h
    refine ⟨?_, hnone⟩
    rw [columnNamed, hnone]

end Table

namespace Insert

def places (t : Table) : List Nat := t.inserted.map Column.ordinal

/-- What the columns at given places have; `none` where a place is not one of the table's. -/
def atPlaces {α : Type} (t : Table) (places : List Nat) (f : Column → α) : Option (List α) :=
  places.mapM fun i => t.columns[i]?.map f

theorem getElem?_ordinal {t : Table} {c : Column} (hc : c ∈ t.columns) :
    t.columns[c.ordinal]? = some c := by
  obtain ⟨i, hi⟩ := List.mem_iff_getElem?.1 hc
  rw [Table.ordinal_getElem? hi, hi]

theorem atPlaces_map_ordinal {α : Type} {t : Table} {cs : List Column} (f : Column → α)
    (h : ∀ c ∈ cs, c ∈ t.columns) : atPlaces t (cs.map Column.ordinal) f = some (cs.map f) := by
  induction cs with
  | nil => rfl
  | cons c cs ih =>
    obtain ⟨hc, hcs⟩ := List.forall_mem_cons.1 h
    have hrest := ih hcs
    unfold atPlaces at hrest ⊢
    rw [List.map_cons, List.mapM_cons, getElem?_ordinal hc, hrest]
    rfl

theorem atPlaces_places {α : Type} (t : Table) (f : Column → α) :
    atPlaces t (places t) f = some (t.inserted.map f) :=
  atPlaces_map_ordinal f fun _ hc => List.mem_of_mem_filter hc

theorem lt_of_mem_places {t : Table} {i : Nat} (h : i ∈ places t) : i < t.columns.length := by
  obtain ⟨c, hc, rfl⟩ := List.mem_map.1 h
  have hget := getElem?_ordinal (List.mem_of_mem_filter hc)
  exact (List.getElem?_eq_some_iff.1 hget).1

theorem zip_places (t : Table) (row : List Value) :
    (places t).zip row = (t.inserted.zip row).map (Prod.map Column.ordinal id) :=
  List.zip_map_left

/-- What an INSERT takes from the columns at its places: the values of a record, the names of the
statement and of an update of what was inserted, and the check of each value. -/
structure Placed (t : Table) : Prop where
  bounded : ∀ i ∈ places t, i < t.columns.length
  valued : ∀ r : Record, atPlaces t (places t) (·.extract r) = some (row t r)
  written : ∀ (q : Insert) (sql : Sql), q.table = t → places t ≠ [] → q.build = .ok sql →
    ∃ names conflict, atPlaces t (places t) Column.name = some names ∧
      (∀ row ∈ q.rows, ∀ p ∈ (places t).zip row,
        ∃ c, t.columns[p.1]? = some c ∧ c.check p.2 = .ok ()) ∧
      sql = .ofText ("INSERT INTO " ++ quoted t.name ++
          (" (" ++ commaSeparated (names.map quoted) ++ ") VALUES ")) ++
        .commaSeparated (q.rows.map fun row =>
          .parenthesized (.holes (((places t).zip row).map (·.2)))) ++ .ofText (conflict ++ ";")
  updated : ∀ target names, atPlaces t (places t) Column.name = some names →
    overwritten t ⟨target, .updateInserted⟩ =
      .ok ((names.filter (!target.contains ·)).map quoted)

theorem placed (t : Table) : Placed t where
  bounded _ := lt_of_mem_places
  valued r := atPlaces_places t (·.extract r)
  written q sql ht hplaces hbuild := by
    subst ht
    obtain ⟨-, source, conflict, hsource, -, rfl⟩ := build_eq_ok hbuild
    rcases source_eq_ok hsource with ⟨hempty, -, -⟩ | ⟨-, hchecks, rfl⟩
    · have hnil : places q.table = [] := by rw [places, List.isEmpty_iff.1 hempty, List.map_nil]
      exact absurd hnil hplaces
    have hvalues (row : List Value) :
        ((places q.table).zip row).map (·.2) = (q.table.inserted.zip row).map (·.2) := by
      rw [zip_places, List.map_map]
      rfl
    refine ⟨q.table.inserted.map Column.name, conflict, atPlaces_places _ _, ?_, ?_⟩
    · intro row hrow p hp
      rw [zip_places] at hp
      obtain ⟨⟨c, v⟩, hcv, rfl⟩ := List.mem_map.1 hp
      have hc : c ∈ q.table.columns := List.mem_of_mem_filter (List.of_mem_zip hcv).1
      exact ⟨c, getElem?_ordinal hc, hchecks row hrow (c, v) hcv⟩
    · simp only [hvalues, List.map_map, Function.comp_def]
      rw [← Sql.append_assoc]
      rfl
  updated target names hnames := by
    have hsome := atPlaces_places t Column.name
    rw [hnames] at hsome
    cases hsome
    rw [overwritten, List.filter_map, List.map_map]
    rfl

end Insert

namespace Table

/-- A declaration makes a table just where its columns are well formed, and the fault of any other
is its first one; the columns of the table have places and names that agree, and an INSERT that
goes by places uses the columns that it means. -/
theorem declares_wellFormed (name recordType : String) (fields : List Field)
    (defaults : (f : Field) → f.type.Carrier) :
    ((∃ t, declare name recordType fields defaults = .ok t) ↔ WellFormed fields) ∧
      (∀ e, declare name recordType fields defaults = .error e ↔
        ∃ fault, e = .schema fault ∧ Refused name fields fault) ∧
      ∀ t, declare name recordType fields defaults = .ok t →
        t.name = name ∧ t.recordType = recordType ∧ t.fields = fields ∧
          t.Addressed ∧ Insert.Placed t := by
  refine ⟨⟨?_, declare_of_wellFormed name recordType defaults⟩, fun e => ⟨?_, ?_⟩, ?_⟩
  · rintro ⟨t, ht⟩
    rcases wellFormed_or_refused name fields with hwell | ⟨fault, hfault⟩
    · exact hwell
    · rw [declare_of_refused hfault] at ht
      cases ht
  · intro he
    rcases wellFormed_or_refused name fields with hwell | ⟨fault, hfault⟩
    · obtain ⟨t, ht⟩ := declare_of_wellFormed name recordType defaults hwell
      rw [ht] at he
      cases he
    · rw [declare_of_refused hfault] at he
      cases he
      exact ⟨fault, rfl, hfault⟩
  · rintro ⟨fault, rfl, hfault⟩
    exact declare_of_refused hfault
  · intro t ht
    obtain ⟨hname, htype, hfields⟩ := declare_eq_ok ht
    exact ⟨hname, htype, hfields, t.addressed, Insert.placed t⟩

end Table

namespace Harbours

def number : Field := ⟨"id", ⟨.integer .i64, false⟩, [.primaryKey .abort true]⟩

def title : Field := ⟨"name", ⟨.text, false⟩, [.unique .abort, .notNull .fail]⟩

def code : Field := ⟨"code", ⟨.text, true⟩, [.primaryKey .replace false]⟩

theorem wellFormed_fields : Table.WellFormed [number, title] where
  distinct := by decide
  numbered f hf hn := by
    rcases List.mem_pair.1 hf with rfl | rfl
    · rfl
    · exact absurd (Field.isAutoincrement_iff.2 hn) (by decide)
  nonempty := by decide
  oneKey := Table.pairwise_keyed_iff.2 (by decide)

theorem refused_fields :
    Table.Refused "harbours" [number, title, code] (.multiplePrimaryKeys "harbours") := by
  refine .keys (by decide) ⟨by decide, fun f hf hn => ?_⟩ fun h => ?_
  · rcases List.mem_cons.1 hf with rfl | hf
    · rfl
    · have hauto : ∀ f ∈ [title, code], ¬f.isAutoincrement := by decide
      exact absurd (Field.isAutoincrement_iff.2 hn) (hauto f hf)
  · exact absurd h (mt Table.pairwise_keyed_iff.1 (by decide))

theorem declares_harbours :
    (∃ t, Table.declare "harbours" "Harbour" [number, title] = .ok t ∧
      t.Addressed ∧ Insert.Placed t ∧ Insert.places t = [1]) ∧
    Table.declare "harbours" "Harbour" [number, title, code] =
      .error (.schema (.multiplePrimaryKeys "harbours")) := by
  obtain ⟨hiff, -, hall⟩ := Table.declares_wellFormed "harbours" "Harbour" [number, title] _
  obtain ⟨-, herror, -⟩ := Table.declares_wellFormed "harbours" "Harbour" [number, title, code] _
  refine ⟨?_, (herror _).2 ⟨_, rfl, refused_fields⟩⟩
  obtain ⟨t, ht⟩ := hiff.2 wellFormed_fields
  obtain ⟨-, -, hfields, haddressed, hplaced⟩ := hall t ht
  refine ⟨t, ht, haddressed, hplaced, ?_⟩
  rw [Insert.places, Table.inserted, Table.columns, hfields]
  decide

end Harbours

end RecordSql
