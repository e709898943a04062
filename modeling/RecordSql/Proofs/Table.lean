import Mathlib.Data.List.Nodup
import RecordSql.Table

/-! The columns of a table have names of their own. -/

namespace RecordSql.Table

theorem fieldFault?_eq_none {table : String} {earlier : List String} {fields : List Field}
    (h : fieldFault? table earlier fields = none) :
    (∀ f ∈ fields, f.name ∉ earlier) ∧ (fields.map Field.name).Nodup := by
  induction fields generalizing earlier with
  | nil => simp
  | cons f rest ih =>
    unfold fieldFault? at h
    split_ifs at h with hn ha
    obtain ⟨hrest, hnodup⟩ := ih h
    refine ⟨List.forall_mem_cons.2 ⟨hn, fun g hg he => ?_⟩, ?_⟩
    · exact hrest g hg (List.mem_append_left _ he)
    · rw [List.map_cons, List.nodup_cons]
      refine ⟨fun hm => ?_, hnodup⟩
      obtain ⟨g, hg, he⟩ := List.mem_map.1 hm
      exact hrest g hg (he ▸ List.mem_append_right _ (List.mem_singleton_self _))

theorem map_columns {α : Type} (t : Table) {g : Column → α} {f : Field → α}
    (h : ∀ x i, g (x.column i) = f x) : t.columns.map g = t.fields.map f := by
  refine List.ext_getElem (by simp [columns]) fun i _ _ => ?_
  simp [columns, h]

theorem map_name_columns (t : Table) : t.columns.map Column.name = t.fields.map Field.name :=
  t.map_columns fun _ _ => rfl

theorem nodup_names (t : Table) : (t.columns.map Column.name).Nodup := by
  rw [map_name_columns]
  have h := t.wellFormed
  unfold fault? at h
  cases hf : fieldFault? t.name [] t.fields with
  | some fault =>
    simp only [hf] at h
    split_ifs at h
  | none => exact (fieldFault?_eq_none hf).2

theorem find?_eq_some {t : Table} {name : String} {c : Column} :
    t.find? name = some c ↔ c ∈ t.columns ∧ c.name = name := by
  refine ⟨of_find?, ?_⟩
  rintro ⟨hc, rfl⟩
  cases hf : t.find? c.name with
  | none => exact absurd (List.find?_eq_none.1 hf c hc) (by simp)
  | some c' =>
    obtain ⟨hc', hn⟩ := of_find? hf
    rw [List.inj_on_of_nodup_map t.nodup_names hc' hc hn]

end RecordSql.Table
