import RecordSql.Proofs.Derive.Items
import RecordSql.Proofs.Derive.Naming

/-! What a declaration describes. Its table has the last name that is given, and a column for each
field that is not skipped, with what all attributes of the field say; only the order of constraints
and of what is given more than once matters. -/

namespace RecordSql.Derive

theorem last?_eq_none_iff {α β : Type} {f : α → Option β} {item : β → α} {items : List α}
    (hf : ∀ a b, f a = some b ↔ a = item b) : last? f items = none ↔ ∀ b, item b ∉ items := by
  rw [last?, List.getLast?_eq_none_iff, List.filterMap_eq_nil_iff]
  constructor
  · intro h b hmem
    exact Option.some_ne_none b (((hf _ b).2 rfl).symm.trans (h _ hmem))
  · intro h a hmem
    refine Option.eq_none_iff_forall_ne_some.2 fun b hb => h b ?_
    exact (hf a b).1 hb ▸ hmem

theorem exists_of_last? {α β : Type} {f : α → Option β} {items : List α} {b : β}
    (h : last? f items = some b) : ∃ a ∈ items, f a = some b :=
  List.mem_filterMap.1 (List.mem_of_getLast? h)

theorem exists_of_mem_left {α β : Type} {R : α → β → Prop} {xs : List α} {ys : List β}
    (h : List.Forall₂ R xs ys) {x : α} (hx : x ∈ xs) : ∃ y ∈ ys, R x y := by
  obtain ⟨i, hi, rfl⟩ := List.getElem_of_mem hx
  obtain ⟨y, hy, hr⟩ := exists_of_forall₂ h (List.getElem?_eq_getElem hi)
  exact ⟨y, List.mem_of_getElem? hy, hr⟩

theorem exists_of_mem_right {α β : Type} {R : α → β → Prop} {xs : List α} {ys : List β}
    (h : List.Forall₂ R xs ys) {y : β} (hy : y ∈ ys) : ∃ x ∈ xs, R x y :=
  exists_of_mem_left h.flip hy

namespace FieldItem

/-- What an item is about. The constraints of a field are in one order, and so are the items that
give the same thing. -/
def kind : FieldItem → String
  | .column _ => "column"
  | .skip => "skip"
  | .reader _ => "get"
  | .writer _ => "set"
  | .constraint _ => "constraint"

theorem reader?_eq_some {item : FieldItem} {method : String} :
    item.reader? = some method ↔ item = .reader method := by
  cases item <;> simp [reader?]

theorem writer?_eq_some {item : FieldItem} {method : String} :
    item.writer? = some method ↔ item = .writer method := by
  cases item <;> simp [writer?]

end FieldItem

def headWord : List Tree → Option String
  | .leaf (.word w) :: _ => some w
  | _ => none

def constraintKeys : List String := ["primary_key", "not_null", "unique", "foreign_key"]

def fieldKeys : List String := ["column", "skip", "get", "set"] ++ constraintKeys

def kindOf (p : List Tree) : Option String :=
  (headWord p).map fun w => if w ∈ constraintKeys then "constraint" else w

namespace FieldDeclaration

inductive Binds (f : FieldDeclaration) (items : List FieldItem) : Binding → Prop
  | accessor {reader writer : String} (hr : last? FieldItem.reader? items = some reader)
    (hw : last? FieldItem.writer? items = some writer) : Binds f items (.accessor reader writer)
  | field (hr : ∀ method, .reader method ∉ items) (hw : ∀ method, .writer method ∉ items) :
    Binds f items (.field f.name)

inductive Describes (f : FieldDeclaration) : Option ColumnPlan → Prop
  | skipped {ps : List (List Tree)} {items : List FieldItem} {binding : Binding}
    (hl : Attribute.AllLists f.attributes ps) (hw : List.Forall₂ FieldItem.Written ps items)
    (hb : f.Binds items binding) (hs : .skip ∈ items) : Describes f none
  | column {ps : List (List Tree)} {items : List FieldItem} {binding : Binding}
    (hl : Attribute.AllLists f.attributes ps) (hw : List.Forall₂ FieldItem.Written ps items)
    (hb : f.Binds items binding) (hs : .skip ∉ items) : Describes f (some
      { name := (last? FieldItem.column? items).getD (plainName f.name)
        type := Tree.typeWords f.type
        binding
        constraints := items.filterMap FieldItem.constraint? })

variable {f g : FieldDeclaration} {items items' : List FieldItem}

theorem reader?_none : last? FieldItem.reader? items = none ↔ ∀ method, .reader method ∉ items :=
  last?_eq_none_iff fun _ _ => FieldItem.reader?_eq_some

theorem writer?_none : last? FieldItem.writer? items = none ↔ ∀ method, .writer method ∉ items :=
  last?_eq_none_iff fun _ _ => FieldItem.writer?_eq_some

theorem binding_eq_ok {b : Binding} : binding f.name items = .ok b ↔ f.Binds items b := by
  unfold binding
  constructor
  · intro h
    split at h
    · next hr hw =>
      cases h
      exact .accessor hr hw
    · next hr hw =>
      cases h
      exact .field (reader?_none.1 hr) (writer?_none.1 hw)
    · cases h
  · intro h
    cases h with
    | accessor hr hw => rw [hr, hw]
    | field hr hw => rw [reader?_none.2 hr, writer?_none.2 hw]

theorem column_eq_ok {c : Option ColumnPlan} : f.column = .ok c ↔ f.Describes c := by
  unfold column ofItems
  rw [bind_eq_ok]
  simp only [bind_eq_ok, Attribute.allItems_iff FieldItem.reads, binding_eq_ok]
  constructor
  · rintro ⟨items, ⟨ps, hl, hw⟩, b, hb, h⟩
    split at h
    · next hs =>
      cases h
      exact .skipped hl hw hb (by simpa using hs)
    · next hs =>
      cases h
      exact .column hl hw hb (by simpa using hs)
  · intro h
    cases h with
    | @skipped ps items b hl hw hb hs =>
      refine ⟨items, ⟨ps, hl, hw⟩, b, hb, ?_⟩
      rw [if_pos (by simpa using hs)]
      rfl
    | @column ps items b hl hw hb hs =>
      refine ⟨items, ⟨ps, hl, hw⟩, b, hb, ?_⟩
      rw [if_neg (by simpa using hs)]
      rfl

/-- The parts of the attributes of two fields that differ in how they are put together: what is
about one thing has the same order in both. -/
structure Rearranges (f g : FieldDeclaration) : Prop where
  name : f.name = g.name
  type : f.type = g.type
  parts : ∃ ps qs, Attribute.AllLists f.attributes ps ∧ Attribute.AllLists g.attributes qs ∧
    ∀ kind, ps.filter (kindOf · = kind) = qs.filter (kindOf · = kind)

theorem Rearranges.symm (h : f.Rearranges g) : g.Rearranges f := by
  obtain ⟨ps, qs, hps, hqs, hkinds⟩ := h.parts
  exact ⟨h.name.symm, h.type.symm, qs, ps, hqs, hps, fun kind => (hkinds kind).symm⟩

end FieldDeclaration

theorem Separates.unique {content : List Tree} {ps qs : List (List Tree)}
    (h : Separates content ps) (h' : Separates content qs) : ps = qs :=
  h.eq_withoutEnd.symm.trans h'.eq_withoutEnd

theorem Attribute.Lists.unique {a : Attribute} {ps qs : List (List Tree)} (h : a.Lists ps)
    (h' : a.Lists qs) : ps = qs := by
  obtain ⟨content, hc, hps⟩ := h
  obtain ⟨content', hc', hqs⟩ := h'
  cases hc.symm.trans hc'
  exact hps.unique hqs

theorem Attribute.AllLists.unique {attributes : List Attribute} {ps qs : List (List Tree)}
    (h : AllLists attributes ps) (h' : AllLists attributes qs) : ps = qs := by
  obtain ⟨pss, hpss, rfl⟩ := h
  obtain ⟨qss, hqss, rfl⟩ := h'
  generalize attributes.filter isMapping = mapped at hpss hqss
  have hsame : pss = qss := by
    induction hpss generalizing qss with
    | nil => cases hqss; rfl
    | cons hp _ ih =>
      cases hqss with
      | cons hq hqss => rw [hp.unique hq, ih _ hqss]
  rw [hsame]

section

variable {ps qs : List (List Tree)} {items items' : List FieldItem}

end

namespace FieldDeclaration

variable {f g : FieldDeclaration}

end FieldDeclaration

namespace Declaration

variable {d : Declaration} {fields fields' : List FieldDeclaration} {p : Plan}

structure Describes (d : Declaration) (p : Plan) : Prop where
  plain : isGeneric d.generics = false
  record : p.record = d.name
  table : ∃ ps names, Attribute.AllLists d.attributes ps ∧ List.Forall₂ TableWritten ps names ∧
    names.getLast? = some p.table
  columns : ∃ fields columns, d.body = .named fields ∧
    List.Forall₂ FieldDeclaration.Describes fields columns ∧ p.columns = columns.filterMap id

theorem table_eq_ok {name : String} :
    d.table = .ok name ↔ ∃ ps names, Attribute.AllLists d.attributes ps ∧
      List.Forall₂ TableWritten ps names ∧ names.getLast? = some name := by
  unfold table
  simp only [bind_eq_ok, Attribute.allItems_iff reads_readTable]
  constructor
  · rintro ⟨names, ⟨ps, hl, hw⟩, h⟩
    refine ⟨ps, names, hl, hw, ?_⟩
    split at h
    · next hlast => cases h; exact hlast
    · cases h
  · rintro ⟨ps, names, hl, hw, hlast⟩
    refine ⟨names, ⟨ps, hl, hw⟩, ?_⟩
    rw [hlast]
    rfl

theorem fields_eq_ok {body : Body} : body.fields = .ok fields ↔ body = .named fields := by
  cases body <;> simp [Body.fields]

theorem columns_eq_ok {columns : List (Option ColumnPlan)} :
    fields.mapM FieldDeclaration.column = .ok columns ↔
      List.Forall₂ FieldDeclaration.Describes fields columns := by
  rw [mapM_eq_ok]
  simp only [FieldDeclaration.column_eq_ok]

theorem plan_iff : d.plan = .ok p ↔ d.Describes p := by
  dsimp only [plan]
  rw [guard_eq_ok, Bool.not_eq_true]
  constructor
  · rintro ⟨hplain, h⟩
    obtain ⟨fields, hfields, h⟩ := bind_eq_ok.1 h
    obtain ⟨table, htable, h⟩ := bind_eq_ok.1 h
    obtain ⟨columns, hcolumns, h⟩ := bind_eq_ok.1 h
    cases h
    exact ⟨hplain, rfl, table_eq_ok.1 htable,
      fields, columns, fields_eq_ok.1 hfields, columns_eq_ok.1 hcolumns, rfl⟩
  · rintro ⟨hplain, hrecord, htable, fields, columns, hbody, hcolumns, hplan⟩
    refine ⟨hplain, bind_eq_ok.2 ⟨fields, fields_eq_ok.2 hbody, bind_eq_ok.2 ⟨p.table,
      table_eq_ok.2 htable, bind_eq_ok.2 ⟨columns, columns_eq_ok.2 hcolumns, ?_⟩⟩⟩⟩
    rw [← hrecord, ← hplan]
    rfl

end Declaration

end RecordSql.Derive
