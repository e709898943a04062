import Mathlib.Data.Nat.Digits.Defs
import RecordSql.Proofs.Statement.Printed
import RecordSql.Proofs.Table

/-! What the parts of a statement that builds are made of: its own words hold no quotes and no
placeholders, its tables are registered, its references denote columns of registered tables, its
values fit their columns, and its raw parts have a value for every placeholder. Nested queries were
checked when they were made. -/

namespace RecordSql

open RecordSql.Part

def Plain (text : String) : Prop :=
  ∀ ch ∈ text.toList, ch ≠ '?' ∧ Placeholder.isQuote ch = false

-- only the characters of the text are gone through; characters as such are a finite type too
instance (text : String) : Decidable (Plain text) :=
  List.decidableBAll (fun ch => ch ≠ '?' ∧ Placeholder.isQuote ch = false) text.toList

def Column.Registered (schema : Schema) (c : Column) : Prop := ∃ t ∈ schema.tables, c ∈ t.columns

def Column.Takes (c : Column) (v : Value) : Prop :=
  v = .null ∨ ∃ found, v.storage? = some found ∧ c.storage.accepts found

def Source.Known (schema : Schema) : Source → Prop
  | .table t => t ∈ schema.tables
  | .subquery .. => True

structure ColumnRef.Denotes (schema : Schema) (sources : List Source) (r : ColumnRef)
    (c : Column) : Prop where
  resolves : Scope.resolve (sources.map Source.exposed) r = .ok c
  source : ∃ s ∈ sources, s.Known schema ∧ (∀ name ∈ r.table, s.name = name) ∧
    c ∈ s.exposed.columns
  name : c.name = r.column
  registered : c.Registered schema

def Part.Declared (schema : Schema) : Part → Prop
  | .words text => Plain text
  | .table t => t ∈ schema.tables
  | .given _ => True
  | .column sources r => ∃ c, r.Denotes schema sources c
  | .value sources r v => ∃ c, r.Denotes schema sources c ∧ c.Takes v
  | .raw sql params => Placeholder.count sql = params.length

structure Clauses.Checked (q : Clauses) (j : Joined) : Prop where
  columns : ∀ r ∈ q.columns.getD [], ∃ c, j.scope.resolve r = .ok c
  joins : ∀ on ∈ j.conditions, on.check j.scope = .ok ()
  condition : ∀ e ∈ q.condition, e.check j.scope = .ok ()
  order : ∀ o ∈ q.order, ∃ c, j.scope.resolve o.1 = .ok c

mutual

def Source.Grounded (schema : Schema) : Source → Prop
  | .table t => t ∈ schema.tables
  | .subquery _ q inner => inner.Grounded schema ∧ q.Checked inner

def Joined.Grounded (schema : Schema) : Joined → Prop
  | .base s => s.Grounded schema
  | .join left _ right _ => left.Grounded schema ∧ right.Grounded schema

end

variable {schema : Schema}

theorem Joined.Grounded.sources : ∀ {j : Joined}, j.Grounded schema →
    ∀ s ∈ j.sources, s.Grounded schema
  | .base s, h => by
    intro s' hs
    rw [List.mem_singleton.1 hs]
    rwa [Joined.Grounded] at h
  | .join left kind right on, h => by
    rw [Joined.Grounded] at h
    intro s hs
    rcases List.mem_append.1 hs with hs | hs
    · exact Joined.Grounded.sources h.1 s hs
    · rw [List.mem_singleton.1 hs]
      exact h.2

theorem Exposed.find?_mem {e : Exposed} {column : String} {c : Column}
    (h : e.find? column = some c) : c ∈ e.columns ∧ c.name = column :=
  ⟨List.mem_of_find?_eq_some h, by simpa using List.find?_some h⟩

theorem Scope.resolve_eq_ok {scope : Scope} {r : ColumnRef} {c : Column}
    (h : scope.resolve r = .ok c) :
    ∃ e ∈ scope, (∀ name ∈ r.table, e.name = name) ∧ e.find? r.column = some c := by
  unfold resolve at h
  cases ht : r.table with
  | some table =>
    rw [ht] at h
    cases he : scope.find? (·.name = table) with
    | none =>
      simp only [he] at h
      cases h
    -- the source that is named is the only one that is searched
    | some e =>
      simp only [he] at h
      cases hc : e.find? r.column with
      | none =>
        rw [hc] at h
        cases h
      | some c' =>
        rw [hc] at h
        cases h
        refine ⟨e, List.mem_of_find?_eq_some he, ?_, hc⟩
        rintro _ ⟨⟩
        simpa using List.find?_some he
  | none =>
    rw [ht] at h
    dsimp only at h
    -- without a name exactly one source has to have the column
    cases hf : scope.filterMap (·.find? r.column) with
    | nil =>
      rw [hf] at h
      cases h
    | cons c' rest =>
      rw [hf] at h
      cases rest with
      | cons _ _ => cases h
      | nil =>
        cases h
        have hm : c ∈ scope.filterMap (·.find? r.column) := by simp [hf]
        obtain ⟨e, he, hc⟩ := List.mem_filterMap.1 hm
        exact ⟨e, he, nofun, hc⟩

theorem Scope.resolve_first {e : Exposed} {c : Column} (h : c ∈ e.columns) (rest : Scope) :
    ∃ c', Scope.resolve (e :: rest) (.ofTable e.name c.name) = .ok c' := by
  have hf : (e.find? c.name).isSome := List.find?_isSome.2 ⟨c, h, by simp⟩
  obtain ⟨c', hc'⟩ := Option.isSome_iff_exists.1 hf
  exact ⟨c', by simp [resolve, ColumnRef.ofTable, hc']⟩

theorem Scope.checkValues_eq_ok {scope : Scope} {r : ColumnRef} {values : List Value} :
    scope.checkValues r values = .ok () ↔
      ∃ c, scope.resolve r = .ok c ∧ ∀ v ∈ values, c.check v = .ok () := by
  unfold checkValues
  rw [bind_eq_ok]
  simp only [forM_eq_ok]

theorem Column.takes_of_check {c : Column} {v : Value} (h : c.check v = .ok ()) : c.Takes v := by
  unfold Column.check at h
  cases hv : v.storage? with
  | none =>
    cases v <;> cases hv
    exact .inl rfl
  | some found =>
    rw [hv] at h
    refine .inr ⟨found, hv, ?_⟩
    by_contra ha
    simp [ha] at h

theorem Clauses.mem_exposes {q : Clauses} {scope : Scope} {c : Column} (h : c ∈ q.exposes scope) :
    ∃ e ∈ scope, c ∈ e.columns := by
  unfold exposes at h
  cases hq : q.columns with
  | some refs =>
    rw [hq] at h
    obtain ⟨r, -, hr⟩ := List.mem_filterMap.1 h
    cases hres : scope.resolve r with
    | error e => simp [hres, Except.toOption] at hr
    | ok c' =>
      obtain rfl : c' = c := by simpa [hres, Except.toOption] using hr
      obtain ⟨e, he, -, hc⟩ := Scope.resolve_eq_ok hres
      exact ⟨e, he, (Exposed.find?_mem hc).1⟩
  | none =>
    rw [hq] at h
    cases scope with
    | nil => simp at h
    | cons e rest => exact ⟨e, List.mem_cons_self, by simpa using h⟩

mutual

/-- The columns of a source are those of registered tables, however deep they are nested. -/
theorem Source.Grounded.registered : ∀ {s : Source}, s.Grounded schema →
    ∀ c ∈ s.exposed.columns, c.Registered schema
  | .table t, h => by
    intro c hc
    rw [Source.Grounded] at h
    exact ⟨t, h, hc⟩
  | .subquery name q inner, h => by
    intro c hc
    rw [Source.Grounded] at h
    obtain ⟨e, he, hc⟩ := Clauses.mem_exposes hc
    exact Joined.Grounded.registered h.1 e he c hc

theorem Joined.Grounded.registered : ∀ {j : Joined}, j.Grounded schema →
    ∀ e ∈ j.scope, ∀ c ∈ e.columns, c.Registered schema
  | .base s, h => by
    intro e he c hc
    rw [Joined.Grounded] at h
    rw [List.mem_singleton.1 he] at hc
    exact Source.Grounded.registered h c hc
  | .join left kind right on, h => by
    intro e he c hc
    rw [Joined.Grounded] at h
    rcases List.mem_append.1 he with he | he
    · exact Joined.Grounded.registered h.1 e he c hc
    · rw [List.mem_singleton.1 he] at hc
      exact Source.Grounded.registered h.2 c hc

end

theorem Source.Grounded.known {s : Source} (h : s.Grounded schema) : s.Known schema := by
  cases s with
  | table t =>
    rw [Source.Grounded] at h
    exact h
  | subquery => trivial

theorem ColumnRef.denotes {sources : List Source} (hs : ∀ s ∈ sources, s.Grounded schema)
    {r : ColumnRef} {c : Column} (h : Scope.resolve (sources.map Source.exposed) r = .ok c) :
    r.Denotes schema sources c := by
  obtain ⟨e, he, hn, hc⟩ := Scope.resolve_eq_ok h
  obtain ⟨s, hm, rfl⟩ := List.mem_map.1 he
  obtain ⟨hc, hname⟩ := Exposed.find?_mem hc
  refine ⟨h, ⟨s, hm, (hs s hm).known, ?_, hc⟩, hname, (hs s hm).registered c hc⟩
  simpa using hn

namespace Part

def AllDeclared (schema : Schema) (ps : List Part) : Prop := ∀ p ∈ ps, p.Declared schema

@[simp] theorem allDeclared_nil : AllDeclared schema [] := nofun

@[simp] theorem allDeclared_cons {p : Part} {ps : List Part} :
    AllDeclared schema (p :: ps) ↔ p.Declared schema ∧ AllDeclared schema ps :=
  List.forall_mem_cons

@[simp] theorem allDeclared_append {ps qs : List Part} :
    AllDeclared schema (ps ++ qs) ↔ AllDeclared schema ps ∧ AllDeclared schema qs :=
  List.forall_mem_append

@[simp] theorem declared_words {text : String} : (words text).Declared schema ↔ Plain text := .rfl

@[simp] theorem declared_given (name : String) : (given name).Declared schema := trivial

theorem allDeclared_listed {pss : List (List Part)} (h : ∀ ps ∈ pss, AllDeclared schema ps) :
    AllDeclared schema (listed pss) := by
  intro p hp
  rcases mem_listed hp with rfl | ⟨ps, hps, hp⟩
  · change Plain ", "
    decide
  · exact h ps hps p hp

end Part

theorem Plain.append {s t : String} (hs : Plain s) (ht : Plain t) : Plain (s ++ t) := by
  intro ch h
  rw [String.toList_append] at h
  rcases List.mem_append.1 h with h | h
  · exact hs ch h
  · exact ht ch h

theorem plain_toString (n : Nat) : Plain (toString n) := by
  intro ch h
  have hd : ch.isDigit := by
    have : ch ∈ Nat.toDigits 10 n := by simpa [toString, Nat.repr] using h
    exact Nat.isDigit_of_mem_toDigits (by decide) (by decide) this
  constructor
  · rintro rfl
    cases hd
  · by_contra hq
    simp only [Placeholder.isQuote, Bool.not_eq_false, Bool.or_eq_true, decide_eq_true_eq] at hq
    rcases hq with (rfl | rfl) | rfl <;> cases hd

namespace Condition

variable {sources : List Source} (hs : ∀ s ∈ sources, s.Grounded schema)

include hs

theorem declared_column {r : ColumnRef} {values : List Value}
    (h : Scope.checkValues (sources.map Source.exposed) r values = .ok ()) :
    (Part.column sources r).Declared schema := by
  obtain ⟨c, hc, -⟩ := Scope.checkValues_eq_ok.1 h
  exact ⟨c, ColumnRef.denotes hs hc⟩

theorem declared_value {r : ColumnRef} {values : List Value}
    (h : Scope.checkValues (sources.map Source.exposed) r values = .ok ()) {v : Value}
    (hv : v ∈ values) : (Part.value sources r v).Declared schema := by
  obtain ⟨c, hc, hvs⟩ := Scope.checkValues_eq_ok.1 h
  exact ⟨c, ColumnRef.denotes hs hc, Column.takes_of_check (hvs v hv)⟩

theorem declared_parts {e : Condition} (h : e.check (sources.map Source.exposed) = .ok ()) :
    AllDeclared schema (e.parts sources) := by
  have ho : Plain "(" := by decide
  have hc : Plain ")" := by decide
  induction e with
  | compare r op v =>
    have hop : Plain (" " ++ op.sql ++ " ") := by cases op <;> decide
    have hv := declared_value hs h (List.mem_singleton_self v)
    simp [parts, declared_column hs h, hop, hv]
  | columns left op right =>
    obtain ⟨_, hl, hr⟩ := bind_eq_ok.1 h
    have hop : Plain (" " ++ op.sql ++ " ") := by cases op <;> decide
    simp [parts, declared_column hs hl, hop, declared_column hs hr]
  | logical op left right ihl ihr =>
    obtain ⟨_, hl, hr⟩ := bind_eq_ok.1 h
    have hop : Plain (" " ++ op.sql ++ " ") := by cases op <;> decide
    simp [parts, ho, ihl hl, hop, ihr hr, hc]
  | not inner ih =>
    have hn : Plain "NOT " := by decide
    have hi : AllDeclared schema (inner.parts sources) := ih h
    simp [parts, hn, ho, hi, hc]
  | nullCheck r isNull =>
    have hn : Plain (if isNull then " IS NULL" else " IS NOT NULL") := by
      cases isNull <;> decide
    simp [parts, declared_column hs h, hn]
  | inList r values negated =>
    have hn : Plain (if negated then " NOT IN " else " IN ") := by cases negated <;> decide
    have hl : AllDeclared schema (listed (values.map fun v => [.value sources r v])) := by
      refine allDeclared_listed (List.forall_mem_map.2 fun v hv => ?_)
      simp [declared_value hs h hv]
    simp [parts, declared_column hs h, hn, ho, hl, hc]
  | between r low high negated =>
    have hn : Plain (if negated then " NOT BETWEEN " else " BETWEEN ") := by
      cases negated <;> decide
    have ha : Plain " AND " := by decide
    have hl : (Part.value sources r low).Declared schema := declared_value hs h (by simp)
    have hh : (Part.value sources r high).Declared schema := declared_value hs h (by simp)
    simp [parts, declared_column hs h, hn, hl, ha, hh]
  | raw sql params =>
    unfold Condition.check at h
    split at h
    · simpa [parts, Part.Declared] using ‹Placeholder.count sql = params.length›
    · cases h

theorem declared_filtering {condition : Option Condition}
    (h : ∀ e ∈ condition, e.check (sources.map Source.exposed) = .ok ()) :
    AllDeclared schema (filtering sources condition) := by
  have hw : Plain " WHERE " := by decide
  cases condition with
  | none => simp [filtering]
  | some e => simp [filtering, hw, declared_parts hs (h e rfl)]

end Condition

namespace Clauses

variable {j : Joined} {q : Clauses} (hj : j.Grounded schema) (h : q.Checked j)

include hj h

theorem declared_projectionParts : ∀ ps ∈ q.projectionParts j.sources, AllDeclared schema ps := by
  have hc := h.columns
  rw [Joined.scope_eq] at hc
  unfold projectionParts
  cases hq : q.columns with
  | some refs =>
    rw [hq] at hc
    refine List.forall_mem_map.2 fun r hr => ?_
    obtain ⟨c, hr⟩ := hc r hr
    have hd : (Part.column j.sources r).Declared schema := ⟨c, ColumnRef.denotes hj.sources hr⟩
    simp [hd]
  | none =>
    cases hs : j.sources with
    | nil => simp
    | cons s rest =>
      refine List.forall_mem_map.2 fun c hc => ?_
      obtain ⟨c', hc'⟩ := Scope.resolve_first hc (rest.map Source.exposed)
      rw [Source.exposed_name] at hc'
      have hd : (Part.column (s :: rest) (.ofTable s.name c.name)).Declared schema :=
        ⟨c', ColumnRef.denotes (hs ▸ hj.sources) hc'⟩
      simp [hd]

theorem declared_orderParts : AllDeclared schema (q.orderParts j.sources) := by
  have ho := h.order
  rw [Joined.scope_eq] at ho
  have hw : Plain " ORDER BY " := by decide
  unfold orderParts
  split_ifs
  · simp
  · rw [allDeclared_cons]
    refine ⟨hw, allDeclared_listed (List.forall_mem_map.2 ?_)⟩
    rintro ⟨r, d⟩ hr
    obtain ⟨c, hr⟩ := ho _ hr
    have hd : (Part.column j.sources r).Declared schema := ⟨c, ColumnRef.denotes hj.sources hr⟩
    have hp : Plain (" " ++ d.sql) := by cases d <;> decide
    simp [hd, hp]

omit hj h in
theorem plain_limitText (q : Clauses) : Plain q.limitText := by
  have hl : Plain " LIMIT " := by decide
  have ho : Plain " OFFSET " := by decide
  have hm : Plain " LIMIT -1 OFFSET " := by decide
  unfold limitText
  cases q.limit with
  | none =>
    cases q.offset with
    | none => decide
    | some offset => exact hm.append (plain_toString offset)
  | some limit =>
    cases q.offset with
    | none => exact hl.append (plain_toString limit)
    | some offset =>
      have hlo := (hl.append (plain_toString limit)).append ho
      exact hlo.append (plain_toString offset)

theorem declared_parts {from_ : List Part} (hf : AllDeclared schema from_) :
    AllDeclared schema (q.parts j.sources from_) := by
  have hw : Plain "SELECT " := by decide
  have hd : Plain q.distinctText := by
    unfold distinctText
    split_ifs <;> decide
  have hfrom : Plain " FROM " := by decide
  have hcond := h.condition
  rw [Joined.scope_eq] at hcond
  simp [parts, hw, hd, hfrom, hf, allDeclared_listed (declared_projectionParts hj h),
    Condition.declared_filtering hj.sources hcond, declared_orderParts hj h, plain_limitText]

theorem declared_countParts {from_ : List Part} (hf : AllDeclared schema from_) :
    AllDeclared schema (q.countParts j.sources from_) := by
  have hw : Plain "SELECT COUNT(*) FROM " := by decide
  have hcond := h.condition
  rw [Joined.scope_eq] at hcond
  simp [countParts, hw, hf, Condition.declared_filtering hj.sources hcond]

end Clauses

mutual

theorem Source.declared_parts : ∀ {s : Source}, s.Grounded schema → AllDeclared schema s.parts
  | .table t, h => by
    rw [Source.Grounded] at h
    have ht : (Part.table t).Declared schema := h
    simp [Source.parts, ht]
  | .subquery name q inner, h => by
    rw [Source.Grounded] at h
    have ho : Plain "(" := by decide
    have hc : Plain ")" := by decide
    have ha : Plain " AS " := by decide
    have hp := Clauses.declared_parts h.1 h.2
      (Joined.declared_parts h.1 h.1.sources (Joined.scope_eq inner ▸ h.2.joins))
    simp [Source.parts, ho, hp, hc, ha]

theorem Joined.declared_parts {sources : List Source} : ∀ {j : Joined}, j.Grounded schema →
    (∀ s ∈ sources, s.Grounded schema) →
    (∀ on ∈ j.conditions, on.check (sources.map Source.exposed) = .ok ()) →
    AllDeclared schema (j.parts sources)
  | .base s, h, hs, hc => by
    rw [Joined.Grounded] at h
    exact Source.declared_parts h
  | .join left kind right on, h, hs, hc => by
    rw [Joined.Grounded] at h
    have hk : Plain (" " ++ kind.sql ++ " ") := by cases kind <;> decide
    have ho : Plain " ON " := by decide
    have hl := Joined.declared_parts h.1 hs fun on hon => hc on (List.mem_append_left _ hon)
    have hr := Source.declared_parts h.2
    have hmem := List.mem_append_right left.conditions (List.mem_singleton_self on)
    have hon := Condition.declared_parts hs (hc on hmem)
    simp [Joined.parts, hl, hk, hr, ho, hon]

end

namespace Select

theorem check_eq_ok {q : Select} : q.check = .ok () ↔ q.clauses.Checked q.sources := by
  have hv (r : ColumnRef) : q.sources.scope.checkValues r [] = .ok () ↔
      ∃ c, q.sources.scope.resolve r = .ok c := by
    rw [Scope.checkValues_eq_ok]
    simp
  constructor
  · intro h
    obtain ⟨_, hcolumns, h⟩ := bind_eq_ok.1 h
    obtain ⟨_, hjoins, h⟩ := bind_eq_ok.1 h
    obtain ⟨_, hcondition, horder⟩ := bind_eq_ok.1 h
    exact ⟨fun r hr => (hv r).1 (forM_eq_ok.1 hcolumns r hr), forM_eq_ok.1 hjoins,
      optionForM_eq_ok.1 hcondition, fun o ho => (hv o.1).1 (forM_eq_ok.1 horder o ho)⟩
  · intro h
    exact bind_eq_ok.2 ⟨(), forM_eq_ok.2 fun r hr => (hv r).2 (h.columns r hr),
      bind_eq_ok.2 ⟨(), forM_eq_ok.2 h.joins,
        bind_eq_ok.2 ⟨(), optionForM_eq_ok.2 h.condition,
          forM_eq_ok.2 fun o ho => (hv o.1).2 (h.order o ho)⟩⟩⟩

variable {q : Select} (hq : q.sources.Grounded schema)

include hq

theorem declared_queryParts (h : q.clauses.Checked q.sources) :
    AllDeclared schema q.queryParts :=
  Clauses.declared_parts hq h
    (Joined.declared_parts hq hq.sources (Joined.scope_eq q.sources ▸ h.joins))

theorem declared_parts_of_build {sql : Sql} (h : q.build = .ok sql) :
    AllDeclared schema q.parts := by
  obtain ⟨_, hc, -⟩ := bind_eq_ok.1 h
  have he : Plain ";" := by decide
  simp [parts, declared_queryParts hq (check_eq_ok.1 hc), he]

theorem declared_countParts {sql : Sql} (h : q.buildCount = .ok sql) :
    AllDeclared schema q.countParts := by
  obtain ⟨_, hc, -⟩ := bind_eq_ok.1 h
  replace hc := check_eq_ok.1 hc
  have hw : Plain "SELECT COUNT(*) FROM (" := by decide
  have he : Plain ");" := by decide
  have hs : Plain ";" := by decide
  have hf := Joined.declared_parts hq hq.sources (Joined.scope_eq q.sources ▸ hc.joins)
  unfold countParts
  split_ifs
  · simp [declared_queryParts hq hc, hw, he]
  · simp [Clauses.declared_countParts hq hc hf, hs]

end Select

theorem grounded_table {t : Table} (ht : t ∈ schema.tables) :
    ∀ s ∈ [Source.table t], s.Grounded schema := by
  intro s hs
  rw [List.mem_singleton.1 hs, Source.Grounded]
  exact ht

theorem denotes_plain {t : Table} (ht : t ∈ schema.tables) {c : Column} (h : c ∈ t.columns) :
    (ColumnRef.plain c.name).Denotes schema [.table t] c := by
  refine ColumnRef.denotes (grounded_table ht) ?_
  have hf : (Source.exposed (.table t)).find? c.name = some c := Table.find?_eq_some.2 ⟨h, rfl⟩
  simp [Scope.resolve, ColumnRef.plain, hf]

theorem declared_plain {t : Table} (ht : t ∈ schema.tables) {name : String}
    (h : ∃ c ∈ t.columns, c.name = name) :
    (Part.column [.table t] (.plain name)).Declared schema := by
  obtain ⟨c, hc, rfl⟩ := h
  exact ⟨c, denotes_plain ht hc⟩

namespace Insert

theorem declared_conflictParts {t : Table} (ht : t ∈ schema.tables) {clause : OnConflict}
    {text : String} (h : conflictText t clause = .ok text) :
    AllDeclared schema (conflictParts t clause) := by
  obtain ⟨htarget, hover, -, -⟩ := conflictText_eq_ok h
  have h₁ : Plain " ON CONFLICT" := by decide
  have h₂ : Plain " (" := by decide
  have h₃ : Plain ")" := by decide
  have h₄ : Plain " DO NOTHING" := by decide
  have h₅ : Plain " DO UPDATE SET " := by decide
  have h₆ : Plain " = excluded." := by decide
  have ht₁ : AllDeclared schema (targetParts t clause.target) := by
    unfold targetParts
    split_ifs
    · simp
    · have hl : AllDeclared schema (listed (clause.target.map fun name => [named t name])) := by
        refine allDeclared_listed (List.forall_mem_map.2 fun name hn => ?_)
        simp [named, declared_plain ht (htarget name hn)]
      simp [h₂, hl, h₃]
  unfold conflictParts
  split_ifs
  · simp [h₁, ht₁, h₄]
  · have hl : AllDeclared schema (listed ((overwrittenNames t clause).map fun name =>
        [named t name, .words " = excluded.", named t name])) := by
      refine allDeclared_listed (List.forall_mem_map.2 fun name hn => ?_)
      simp [named, declared_plain ht (hover name hn), h₆]
    simp [h₁, ht₁, h₅, hl]

variable {q : Insert} (ht : q.table ∈ schema.tables)

include ht

theorem declared_tupleParts {row : List Value}
    (hchecks : ∀ p ∈ q.table.inserted.zip row, p.1.check p.2 = .ok ()) :
    AllDeclared schema (tupleParts q.table row) := by
  have h₁ : Plain "(" := by decide
  have h₂ : Plain ")" := by decide
  unfold tupleParts
  refine allDeclared_append.2 ⟨allDeclared_cons.2 ⟨h₁, allDeclared_listed ?_⟩, by simp [h₂]⟩
  refine List.forall_mem_map.2 ?_
  rintro ⟨c, v⟩ hp
  have hc : c ∈ q.table.columns := List.mem_of_mem_filter (List.of_mem_zip hp).1
  have hv : (Part.value [.table q.table] (.plain c.name) v).Declared schema :=
    ⟨c, denotes_plain ht hc, Column.takes_of_check (hchecks _ hp)⟩
  simp [hv]

theorem declared_sourceParts {sql : Sql} (h : q.source = .ok sql) :
    AllDeclared schema q.sourceParts := by
  have h₁ : Plain " DEFAULT VALUES" := by decide
  have h₂ : Plain " (" := by decide
  have h₃ : Plain ") VALUES " := by decide
  unfold sourceParts
  rcases source_eq_ok h with ⟨he, -, -⟩ | ⟨he, hchecks, -⟩
  · simp [he, h₁]
  · have hn : AllDeclared schema
        (listed (q.table.inserted.map fun c => [named q.table c.name])) := by
      refine allDeclared_listed (List.forall_mem_map.2 fun c hc => ?_)
      simp [named, declared_plain ht ⟨c, List.mem_of_mem_filter hc, rfl⟩]
    have hr : AllDeclared schema (listed (q.rows.map (tupleParts q.table))) :=
      allDeclared_listed (List.forall_mem_map.2 fun row hrow =>
        declared_tupleParts ht (hchecks row hrow))
    simp [he, h₂, hn, h₃, hr]

theorem declared_parts {sql : Sql} (h : q.build = .ok sql) : AllDeclared schema q.parts := by
  obtain ⟨-, source, conflict, hsource, hconflict, -⟩ := build_eq_ok h
  have h₁ : Plain "INSERT INTO " := by decide
  have h₂ : Plain ";" := by decide
  have htable : (Part.table q.table).Declared schema := ht
  have hc : AllDeclared schema ((q.onConflict.map (conflictParts q.table)).getD []) := by
    cases ho : q.onConflict with
    | none => simp
    | some clause =>
      rw [ho] at hconflict
      simpa using declared_conflictParts ht hconflict
  simp [parts, h₁, htable, declared_sourceParts ht hsource, hc, h₂]

end Insert

namespace Update

theorem declared_parts {q : Update} (ht : q.table ∈ schema.tables) {sql : Sql}
    (h : q.build = .ok sql) : AllDeclared schema q.parts := by
  obtain ⟨-, ha, hc, -⟩ := build_eq_ok h
  have h₁ : Plain "UPDATE " := by decide
  have h₂ : Plain " SET " := by decide
  have h₃ : Plain " = " := by decide
  have h₄ : Plain ";" := by decide
  have htable : (Part.table q.table).Declared schema := ht
  have hw := Condition.declared_filtering (grounded_table ht) hc
  simp only [parts, List.cons_append, allDeclared_cons, allDeclared_append]
  refine ⟨h₁, htable, h₂, ⟨allDeclared_listed ?_, hw⟩, h₄, allDeclared_nil⟩
  refine List.forall_mem_map.2 ?_
  rintro ⟨name, v⟩ hp
  obtain ⟨c, hm, rfl, hv⟩ := ha _ hp
  have hn := declared_plain ht ⟨c, hm, rfl⟩
  have hv : (Part.value [.table q.table] (.plain c.name) v).Declared schema :=
    ⟨c, denotes_plain ht hm, Column.takes_of_check hv⟩
  simp [assignmentParts, hn, h₃, hv]

end Update

namespace Delete

theorem declared_parts {q : Delete} (ht : q.table ∈ schema.tables) {sql : Sql}
    (h : q.build = .ok sql) : AllDeclared schema q.parts := by
  obtain ⟨hc, -⟩ := build_eq_ok h
  have h₁ : Plain "DELETE FROM " := by decide
  have h₂ : Plain ";" := by decide
  have htable : (Part.table q.table).Declared schema := ht
  simp [parts, h₁, htable, Condition.declared_filtering (grounded_table ht) hc, h₂]

end Delete

end RecordSql
