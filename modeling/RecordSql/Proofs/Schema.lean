import RecordSql.Proofs.Table
import RecordSql.Schema

/-! What the check of a schema asks of its tables: names and record types of their own, and a target
for the first foreign key of every column. -/

namespace RecordSql

namespace Column

def foreignKeys (c : Column) : List Reference := c.constraints.filterMap Constraint.reference?

theorem reference?_eq_head? (c : Column) : c.reference? = c.foreignKeys.head? := by
  rw [reference?, foreignKeys, List.head?_filterMap]

theorem reference?_of_isNotNull {k : Constraint} (h : k.isNotNull) : k.reference? = none := by
  cases k with
  | notNull => rfl
  | _ => cases h

theorem filterMap_clauses (c : Column) :
    c.clauses.filterMap Constraint.reference? = c.foreignKeys := by
  have hnull : (c.notNullPolicy?.map Constraint.notNull).toList.filterMap Constraint.reference? =
      [] := by
    cases c.notNullPolicy? <;> rfl
  rw [clauses, List.filterMap_append, hnull, List.nil_append, List.filterMap_filter, foreignKeys]
  congr 1
  funext k
  cases hk : k.isNotNull with
  | true => simp [reference?_of_isNotNull hk]
  | false => simp

end Column

namespace Schema

def Resolves (tables : List Table) (r : Reference) : Prop :=
  ∃ t ∈ tables, t.name = r.table ∧ ∃ c ∈ t.columns, c.name = r.column

structure Checked (tables : List Table) : Prop where
  names : (tables.map Table.name).Nodup
  recordTypes : (tables.map Table.recordType).Nodup
  references : ∀ t ∈ tables, ∀ c ∈ t.columns, ∀ r ∈ c.foreignKeys.head?, Resolves tables r

theorem repetition?_eq_none {earlier tables : List Table} :
    repetition? earlier tables = none ↔
      (∀ t ∈ tables, t.name ∉ earlier.map Table.name ∧
        t.recordType ∉ earlier.map Table.recordType) ∧
      (tables.map Table.name).Nodup ∧ (tables.map Table.recordType).Nodup := by
  induction tables generalizing earlier with
  | nil => simp [repetition?]
  | cons t rest ih =>
    have hany (f : Table → String) : earlier.any (f · = f t) ↔ f t ∈ earlier.map f := by
      simp [List.any_eq_true, List.mem_map]
    unfold repetition?
    split_ifs with hn hr
    · exact iff_of_false nofun fun h =>
        (h.1 t List.mem_cons_self).1 ((hany Table.name).1 hn)
    · exact iff_of_false nofun fun h =>
        (h.1 t List.mem_cons_self).2 ((hany Table.recordType).1 hr)
    · rw [hany Table.name] at hn
      rw [hany Table.recordType] at hr
      rw [ih]
      simp only [List.map_append, List.mem_append, List.map_cons, List.map_nil, List.mem_singleton,
        List.forall_mem_cons, List.nodup_cons, List.mem_map]
      grind

theorem named?_eq_some {tables : List Table} (hn : (tables.map Table.name).Nodup) {name : String}
    {t : Table} : named? tables name = some t ↔ t ∈ tables ∧ t.name = name := by
  constructor
  · intro h
    exact ⟨List.mem_of_find?_eq_some h, by simpa using List.find?_some h⟩
  · rintro ⟨ht, rfl⟩
    cases hf : named? tables t.name with
    | none => exact absurd (List.find?_eq_none.1 hf t ht) (by simp)
    | some t' =>
      have hname : t'.name = t.name := by simpa using List.find?_some hf
      rw [List.inj_on_of_nodup_map hn (List.mem_of_find?_eq_some hf) ht hname]

theorem referenceFault?_eq_none {tables : List Table} (hn : (tables.map Table.name).Nodup)
    {t : Table} {c : Column} {r : Reference} :
    referenceFault? tables t c r = none ↔ Resolves tables r := by
  unfold referenceFault? Resolves
  cases hf : named? tables r.table with
  | none =>
    refine iff_of_false nofun ?_
    rintro ⟨target, ht, hname, -⟩
    exact nomatch hf.symm.trans ((named?_eq_some hn).2 ⟨ht, hname⟩)
  | some target =>
    obtain ⟨ht, hname⟩ := (named?_eq_some hn).1 hf
    constructor
    · intro h
      cases hc : target.find? r.column with
      | none => simp [hc] at h
      | some col =>
        obtain ⟨hmem, hcol⟩ := Table.of_find? hc
        exact ⟨target, ht, hname, col, hmem, hcol⟩
    · rintro ⟨t', ht', hname', col, hmem, hcol⟩
      cases hf.symm.trans ((named?_eq_some hn).2 ⟨ht', hname'⟩)
      simp [Table.find?_eq_some.2 ⟨hmem, hcol⟩]

/-- A check that finds nothing looked at every table, and at one reference of every column. -/
theorem fault?_eq_none {tables : List Table} : fault? tables = none ↔ Checked tables := by
  unfold fault?
  cases hr : repetition? [] tables with
  | some fault =>
    refine iff_of_false nofun fun h => ?_
    have hnone : repetition? [] tables = none :=
      repetition?_eq_none.2 ⟨by simp, h.names, h.recordTypes⟩
    exact nomatch hr.symm.trans hnone
  | none =>
    obtain ⟨-, hnames, htypes⟩ := repetition?_eq_none.1 hr
    have hrefs (t : Table) (f : Column × Reference → Option SchemaError)
        (hf : ∀ c r, f (c, r) = referenceFault? tables t c r) :
        t.references.findSome? f = none ↔
          ∀ c ∈ t.columns, ∀ r ∈ c.foreignKeys.head?, Resolves tables r := by
      simp only [List.findSome?_eq_none_iff, Table.references, List.mem_filterMap,
        Option.map_eq_some_iff, Column.reference?_eq_head?]
      constructor
      · intro h c hc r hr
        exact (referenceFault?_eq_none hnames).1 (hf c r ▸ h (c, r) ⟨c, hc, r, hr, rfl⟩)
      · rintro h _ ⟨c, hc, r, hr, rfl⟩
        exact (hf c r).trans ((referenceFault?_eq_none hnames).2 (h c hc r hr))
    dsimp only
    rw [List.findSome?_eq_none_iff]
    refine ⟨fun h => ⟨hnames, htypes, fun t ht => ?_⟩, fun h t ht => ?_⟩
    · exact (hrefs t _ fun _ _ => rfl).1 (h t ht)
    · exact (hrefs t _ fun _ _ => rfl).2 (h.references t ht)

end Schema

end RecordSql
