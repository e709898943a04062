import RecordSql.Proofs.Session.Grounded

/-! Which references of a SELECT that builds denote one column. A reference without a table is
refused when several sources have its column. What is not noticed is a name that several sources
share, and a column that a nested query exposes more than once: the first match is taken there. -/

namespace RecordSql

open RecordSql.Part

theorem eq_singleton_of_mem {α : Type} {x : α} {l : List α} (h : x ∈ l) (hl : l.length ≤ 1) :
    l = [x] := by
  match l, h, hl with
  | [y], h, _ => rw [List.mem_singleton.1 h]

theorem flatMap_of_filterMap_head? {α β : Type} {f : α → List β} {xs : List α} {b : β}
    (h : xs.filterMap (fun x => (f x).head?) = [b]) :
    ∃ x ∈ xs, b ∈ f x ∧ xs.flatMap f = f x := by
  induction xs with
  | nil => cases h
  | cons x xs ih =>
    cases hx : f x with
    | nil =>
      rw [List.filterMap_cons, hx] at h
      obtain ⟨y, hy, hb, hf⟩ := ih h
      refine ⟨y, List.mem_cons_of_mem x hy, hb, ?_⟩
      rw [List.flatMap_cons, hx, hf]
      rfl
    | cons b' bs =>
      rw [List.filterMap_cons, hx] at h
      obtain ⟨rfl, hrest⟩ := List.cons.inj h
      have hnone : xs.flatMap f = [] := by
        refine List.flatMap_eq_nil_iff.2 fun y hy => ?_
        exact List.head?_eq_none_iff.1 (List.filterMap_eq_nil_iff.1 hrest y hy)
      refine ⟨x, List.mem_cons_self, ?_, ?_⟩
      · rw [hx]
        exact List.mem_cons_self
      · rw [List.flatMap_cons, hnone, List.append_nil]

def Source.named (s : Source) (column : String) : List Column :=
  s.exposed.columns.filter (·.name = column)

theorem Source.head?_named (s : Source) (column : String) :
    (s.named column).head? = s.exposed.find? column := List.head?_filter ..

theorem Source.mem_named_of_find? (s : Source) {column : String} {c : Column}
    (h : s.exposed.find? column = some c) : c ∈ s.named column := by
  rw [← s.head?_named] at h
  exact List.mem_of_head? h

theorem Source.length_named_table (t : Table) (column : String) :
    ((Source.table t).named column).length ≤ 1 := by
  have hcount := List.nodup_iff_count_le_one.1 t.nodup_names column
  rw [List.count_eq_countP, List.countP_map, List.countP_eq_length_filter] at hcount
  exact hcount

theorem Scope.resolve_unqualified {scope : Scope} {r : ColumnRef} {c : Column}
    (h : scope.resolve r = .ok c) (hr : r.table = none) :
    scope.filterMap (·.find? r.column) = [c] := by
  simp only [resolve, hr] at h
  split at h
  · cases h
  · next c' hc =>
    cases h
    exact hc
  · cases h

namespace ColumnRef

/-- One source has the name that the reference is qualified with, and has the column once; without
such a name all sources together have the column once. -/
def DenotesOne (sources : List Source) (r : ColumnRef) : Prop :=
  match r.table with
  | some name => ∃ s c, sources.filter (·.name = name) = [s] ∧ s.named r.column = [c]
  | none => ∃ c, sources.flatMap (·.named r.column) = [c]

/-- No two sources have the name that the reference is qualified with, and no nested query that it
can mean exposes the column more than once. -/
structure Clear (sources : List Source) (r : ColumnRef) : Prop where
  alone : ∀ name ∈ r.table, (sources.filter (·.name = name)).length ≤ 1
  once : ∀ name q inner, Source.subquery name q inner ∈ sources → (∀ n ∈ r.table, name = n) →
    ((Source.subquery name q inner).named r.column).length ≤ 1

variable {sources : List Source} {r : ColumnRef} {c : Column}

theorem Clear.length_named (h : r.Clear sources) {s : Source} (hs : s ∈ sources)
    (hn : ∀ n ∈ r.table, s.name = n) : (s.named r.column).length ≤ 1 := by
  cases s with
  | table t => exact Source.length_named_table t r.column
  | subquery name q inner => exact h.once name q inner hs hn

theorem denotesOne_qualified {table : String} (hr : r.table = some table)
    (h : Scope.resolve (sources.map Source.exposed) r = .ok c) :
    (∃ s c, sources.filter (·.name = table) = [s] ∧ s.named r.column = [c]) ↔
      r.Clear sources := by
  obtain ⟨e, he, hname, hc⟩ := Scope.resolve_eq_ok h
  obtain ⟨s, hs, rfl⟩ := List.mem_map.1 he
  have hsn : s.name = table := by simpa using hname table hr
  have hmem : s ∈ sources.filter (·.name = table) := by simp [hs, hsn]
  have hcol : c ∈ s.named r.column := s.mem_named_of_find? hc
  constructor
  · rintro ⟨s', c', halone, honce⟩
    refine ⟨?_, ?_⟩
    · intro name hname
      obtain rfl : table = name := Option.some.inj (hr.symm.trans hname)
      rw [halone]
      exact Nat.le_refl 1
    · intro name q inner hq hn
      have hqn : (Source.subquery name q inner).name = table := hn table hr
      have hq' : Source.subquery name q inner ∈ sources.filter (·.name = table) :=
        List.mem_filter.2 ⟨hq, decide_eq_true hqn⟩
      rw [halone, List.mem_singleton] at hq'
      rw [hq', honce]
      exact Nat.le_refl 1
  · intro hclear
    have honly : ∀ n ∈ r.table, s.name = n := by
      intro n hn
      rw [hsn, Option.some.inj (hr.symm.trans hn)]
    exact ⟨s, c, eq_singleton_of_mem hmem (hclear.alone table hr),
      eq_singleton_of_mem hcol (hclear.length_named hs honly)⟩

theorem denotesOne_unqualified (hr : r.table = none)
    (h : Scope.resolve (sources.map Source.exposed) r = .ok c) :
    (∃ c, sources.flatMap (·.named r.column) = [c]) ↔ r.Clear sources := by
  have hfound := Scope.resolve_unqualified h hr
  rw [List.filterMap_map] at hfound
  have hhead : (fun s : Source => (s.named r.column).head?) =
      (fun e : Exposed => e.find? r.column) ∘ Source.exposed :=
    funext fun s => s.head?_named r.column
  rw [← hhead] at hfound
  obtain ⟨s, hs, hc, hall⟩ := flatMap_of_filterMap_head? hfound
  have hfree : ∀ s' : Source, ∀ n ∈ r.table, s'.name = n := by
    intro s' n hn
    exact nomatch hr.symm.trans hn
  constructor
  · rintro ⟨c', hone⟩
    have hvacuous : ∀ name ∈ r.table, (sources.filter (·.name = name)).length ≤ 1 := by
      intro name hn
      exact nomatch hr.symm.trans hn
    refine ⟨hvacuous, ?_⟩
    intro name q inner hq _
    -- what a nested query has is part of what all sources have
    have hsub := List.sublist_flatten_of_mem (List.mem_map_of_mem (f := (·.named r.column)) hq)
    rw [← List.flatMap_def, hone] at hsub
    exact hsub.length_le
  · intro hclear
    rw [hall]
    exact ⟨c, eq_singleton_of_mem hc (hclear.length_named hs (hfree s))⟩

theorem denotesOne_iff_clear (h : Scope.resolve (sources.map Source.exposed) r = .ok c) :
    r.DenotesOne sources ↔ r.Clear sources := by
  unfold DenotesOne
  cases hr : r.table with
  | some table => exact denotesOne_qualified hr h
  | none => exact denotesOne_unqualified hr h

end ColumnRef

namespace Session

variable {σ : Type}

/-- A SELECT that builds has references that resolve only, so they denote one column each exactly
where no repeated name makes them unclear. -/
theorem Reached.denotesOne {c : Connection σ} {s : Session σ} (h : Reached c s) {name : String}
    {b : Builder Select} (hb : s.builder? name = some (.select b)) {sql : Sql}
    (hsql : b.build = .ok sql) :
    sql = printAll b.content.parts ∧ ∀ sources r, Part.column sources r ∈ b.content.parts →
      (r.DenotesOne sources ↔ r.Clear sources) := by
  have hg := h.grounded.builders _ (mem_of_builder? hb)
  have hdeclared := hg.declared_parts (b := .select b) hsql
  refine ⟨AnyBuilder.build_eq_printAll (b := .select b) hsql, fun sources r hr => ?_⟩
  obtain ⟨column, hdenotes⟩ := hdeclared _ hr
  exact ColumnRef.denotesOne_iff_clear hdenotes.resolves

namespace Notes

def joinedTwice : List (Move Script.State) :=
  [.perform (.select "q" "Note"),
    .perform (.call "q"
      (.join "Note" .inner (.columns (.ofTable "notes" "id") .eq (.ofTable "notes" "id"))))]

def twice : Builder Select where
  content :=
    { Select.ofTable table with
      sources := .join (.base (.table table)) .inner (.table table)
        (.columns (.ofTable "notes" "id") .eq (.ofTable "notes" "id")) }

theorem not_denotesOne_twice :
    ¬∀ (s : Session Script.State) (name : String) (b : Builder Select) (sql : Sql),
      Reached connection s → s.builder? name = some (.select b) → b.build = .ok sql →
      ∀ sources r, Part.column sources r ∈ b.content.parts → r.DenotesOne sources := by
  intro h
  have hs := reached_opened.moves joinedTwice
  have hmem : Part.column [.table table, .table table] (.ofTable "notes" "id") ∈
      twice.content.parts := by
    simp [twice, Select.parts, Select.queryParts, Select.ofTable, Clauses.parts, Joined.parts,
      Joined.sources, Condition.parts]
  obtain ⟨s, c, hone, -⟩ := h _ "q" twice _ hs rfl rfl _ _ hmem
  have hlength : 2 = 1 := congrArg List.length hone
  exact absurd hlength (by decide)

def exposedTwice : List (Move Script.State) :=
  [.perform (.select "inner" "Note"),
    .perform (.call "inner" (.columns [.plain "id", .plain "id"])),
    .perform (.call "inner" (.subquery "pair" "sub")),
    .perform (.select "q" "Note"),
    .perform (.call "q"
      (.joinSubquery "sub" .left (.columns (.ofTable "notes" "id") .eq (.ofTable "pair" "id"))))]

def pair : Source :=
  .subquery "pair" { columns := some [.plain "id", .plain "id"] } (.base (.table table))

def paired : Builder Select where
  content :=
    { Select.ofTable table with
      sources := .join (.base (.table table)) .left pair
        (.columns (.ofTable "notes" "id") .eq (.ofTable "pair" "id")) }

theorem paired_denotesOne :
    ∃ sql, paired.build = .ok sql ∧ sql = printAll paired.content.parts ∧
      (ColumnRef.ofTable "notes" "id").DenotesOne [.table table, pair] ∧
      ¬(ColumnRef.ofTable "pair" "id").DenotesOne [.table table, pair] := by
  have hs := reached_opened.moves exposedTwice
  have hb : ((opened {}).moves connection exposedTwice).builder? "q" = some (.select paired) := rfl
  obtain ⟨hprint, hiff⟩ := hs.denotesOne hb rfl
  have hmem : ∀ r ∈ [ColumnRef.ofTable "notes" "id", .ofTable "pair" "id"],
      Part.column [.table table, pair] r ∈ paired.content.parts := by
    simp [paired, Select.parts, Select.queryParts, Select.ofTable, Clauses.parts, Joined.parts,
      Joined.sources, Condition.parts]
  refine ⟨_, rfl, hprint, ?_, ?_⟩
  · refine (hiff _ _ (hmem _ (by simp))).2 ⟨?_, ?_⟩
    · rintro _ ⟨⟩
      decide
    · intro name q inner hq hn
      have hname : name = "notes" := hn "notes" rfl
      simp [pair, hname] at hq
  · intro h
    have hclear := (hiff _ _ (hmem _ (by simp))).1 h
    have honly : ∀ n ∈ (ColumnRef.ofTable "pair" "id").table, "pair" = n := by
      simp [ColumnRef.ofTable]
    have honce := hclear.once "pair" { columns := some [.plain "id", .plain "id"] }
      (.base (.table table)) (by simp [pair]) honly
    exact absurd honce (by decide)

end Notes

end Session

end RecordSql
