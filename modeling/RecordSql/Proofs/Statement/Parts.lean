import RecordSql.Proofs.Outcome
import RecordSql.Session.Basic

/-! The parts of a statement in the order of its text: its own words, the names it writes, the
values it leaves placeholders for, and raw SQL. Names and values are kept with the sources that they
are read against, so that what is said of a statement can be said of each part of it. -/

namespace RecordSql

inductive Part where
  | words (text : String)
  | table (t : Table)
  | given (name : String)
  /-- A reference to a column of one of the sources of the statement it stands in. -/
  | column (sources : List Source) (r : ColumnRef)
  /-- A value for the column that a reference denotes. -/
  | value (sources : List Source) (r : ColumnRef) (v : Value)
  | raw (sql : String) (params : Params)

namespace Part

def print : Part → Sql
  | .words text => .ofText text
  | .table t => .ofText (quoted t.name)
  | .given name => .ofText (quoted name)
  | .column _ r => .ofText r.sql
  | .value _ _ v => .hole v
  | .raw sql params => ⟨sql, params⟩

def printAll (ps : List Part) : Sql := ps.foldr (fun p s => p.print ++ s) .empty

@[simp] theorem printAll_nil : printAll [] = .empty := rfl

@[simp] theorem printAll_cons (p : Part) (ps : List Part) :
    printAll (p :: ps) = p.print ++ printAll ps := rfl

@[simp] theorem printAll_append (ps qs : List Part) :
    printAll (ps ++ qs) = printAll ps ++ printAll qs := by
  induction ps with
  | nil => simp
  | cons p ps ih => simp [ih, Sql.append_assoc]

def listed : List (List Part) → List Part
  | [] => []
  | [ps] => ps
  | ps :: rest => ps ++ .words ", " :: listed rest

theorem printAll_listed (pss : List (List Part)) :
    printAll (listed pss) = .commaSeparated (pss.map printAll) := by
  induction pss with
  | nil => rfl
  | cons ps rest ih =>
    cases rest with
    | nil => rfl
    | cons qs rest =>
      simp only [listed, printAll_append, printAll_cons, ih, List.map_cons, Sql.commaSeparated,
        print, Sql.append_assoc]

theorem mem_listed {p : Part} {pss : List (List Part)} (h : p ∈ listed pss) :
    p = .words ", " ∨ ∃ ps ∈ pss, p ∈ ps := by
  induction pss with
  | nil => simp [listed] at h
  | cons ps rest ih =>
    cases rest with
    | nil => exact .inr ⟨ps, List.mem_singleton_self ps, h⟩
    | cons qs rest =>
      change p ∈ ps ++ .words ", " :: listed (qs :: rest) at h
      rcases List.mem_append.1 h with h | h
      · exact .inr ⟨ps, List.mem_cons_self, h⟩
      · rcases List.mem_cons.1 h with h | h
        · exact .inl h
        · rcases ih h with h | ⟨rs, hrs, hp⟩
          · exact .inl h
          · exact .inr ⟨rs, List.mem_cons_of_mem _ hrs, hp⟩

end Part

theorem Sql.ofText_commaSeparated (texts : List String) :
    Sql.ofText (RecordSql.commaSeparated texts) = .commaSeparated (texts.map .ofText) := by
  induction texts with
  | nil => rfl
  | cons t rest ih =>
    cases rest with
    | nil => rfl
    | cons u rest =>
      rw [RecordSql.commaSeparated, String.intercalate_cons_cons, Sql.ofText_append,
        Sql.ofText_append]
      exact congrArg (fun s => Sql.ofText t ++ Sql.ofText ", " ++ s) ih

open RecordSql.Part in
def Condition.parts (sources : List Source) : Condition → List Part
  | .compare r op v =>
    [.column sources r, .words (" " ++ op.sql ++ " "), .value sources r v]
  | .columns left op right =>
    [.column sources left, .words (" " ++ op.sql ++ " "), .column sources right]
  | .logical op left right =>
    .words "(" :: left.parts sources ++ .words (" " ++ op.sql ++ " ") :: right.parts sources ++
      [.words ")"]
  | .not inner => .words "NOT " :: .words "(" :: inner.parts sources ++ [.words ")"]
  | .nullCheck r isNull =>
    [.column sources r, .words (if isNull then " IS NULL" else " IS NOT NULL")]
  | .inList r values negated =>
    .column sources r :: .words (if negated then " NOT IN " else " IN ") :: .words "(" ::
      listed (values.map fun v => [.value sources r v]) ++ [.words ")"]
  | .between r low high negated =>
    [.column sources r, .words (if negated then " NOT BETWEEN " else " BETWEEN "),
      .value sources r low, .words " AND ", .value sources r high]
  | .raw sql params => [.raw sql params]

theorem Condition.printAll_parts (sources : List Source) (e : Condition) :
    Part.printAll (e.parts sources) = e.render := by
  induction e with
  | logical op left right ihl ihr =>
    simp [Condition.parts, Condition.render, Part.print, ihl, ihr, Sql.parenthesized,
      Sql.append_assoc]
  | not inner ih =>
    simp [Condition.parts, Condition.render, Part.print, ih, Sql.parenthesized, Sql.append_assoc]
  | inList r values negated =>
    have h : (Part.printAll ∘ fun v => [.value sources r v]) = Sql.hole := by
      funext v
      simp [Part.print]
    simp [Condition.parts, Condition.render, Part.print, Part.printAll_listed, Sql.parenthesized,
      Sql.append_assoc, Sql.holes, Sql.ofText_append, h]
  | _ =>
    simp [Condition.parts, Condition.render, Part.print, Sql.ofText_append, Sql.append_assoc]

def Part.filtering (sources : List Source) : Option Condition → List Part
  | some e => .words " WHERE " :: e.parts sources
  | none => []

theorem Part.printAll_filtering (sources : List Source) (e : Option Condition) :
    printAll (filtering sources e) =
      match e with
      | some e => .ofText " WHERE " ++ e.render
      | none => .empty := by
  cases e with
  | none => rfl
  | some e => simp [filtering, Part.print, Condition.printAll_parts]

@[simp] theorem Source.exposed_name (s : Source) : s.exposed.name = s.name := by
  cases s <;> rfl

theorem Joined.scope_eq : ∀ j : Joined, j.scope = j.sources.map Source.exposed
  | .base _ => rfl
  | .join left kind right on => by simp [Joined.scope, Joined.sources, left.scope_eq]

namespace Clauses

open RecordSql.Part

def projectionParts (q : Clauses) (sources : List Source) : List (List Part) :=
  match q.columns with
  | some refs => refs.map fun r => [.column sources r]
  | none =>
    (sources.head?.map fun s =>
      s.exposed.columns.map fun c => [.column sources (.ofTable s.name c.name)]).getD []

def orderParts (q : Clauses) (sources : List Source) : List Part :=
  if q.order.isEmpty then []
  else
    .words " ORDER BY " ::
      listed (q.order.map fun (r, d) => [.column sources r, .words (" " ++ d.sql)])

def parts (q : Clauses) (sources : List Source) (from_ : List Part) : List Part :=
  .words "SELECT " :: .words q.distinctText :: listed (q.projectionParts sources) ++
    .words " FROM " :: from_ ++ filtering sources q.condition ++ q.orderParts sources ++
    [.words q.limitText]

def countParts (q : Clauses) (sources : List Source) (from_ : List Part) : List Part :=
  .words "SELECT COUNT(*) FROM " :: from_ ++ filtering sources q.condition

theorem map_printAll_projectionParts (q : Clauses) (j : Joined) :
    (q.projectionParts j.sources).map printAll = (q.projection j.scope).map .ofText := by
  rw [Joined.scope_eq, projectionParts, projection]
  cases q.columns with
  | some refs => simp [Part.print, Function.comp_def]
  | none =>
    cases j.sources with
    | nil => rfl
    | cons s rest => simp [Part.print, ColumnRef.sql, ColumnRef.ofTable, Function.comp_def]

theorem printAll_filtering_condition (q : Clauses) (sources : List Source) :
    printAll (filtering sources q.condition) = q.whereSql := by
  unfold whereSql
  cases q.condition with
  | none => exact printAll_filtering sources none
  | some e => exact printAll_filtering sources (some e)

theorem printAll_orderParts (q : Clauses) (sources : List Source) :
    printAll (q.orderParts sources) = .ofText q.orderText := by
  rw [orderParts, orderText]
  cases q.order with
  | nil => rfl
  | cons o rest =>
    simp [Part.print, printAll_listed, Sql.ofText_append, Sql.ofText_commaSeparated,
      Sql.append_assoc, Function.comp_def]

theorem printAll_parts (q : Clauses) (j : Joined) {from_ : List Part} {sql : Sql}
    (h : printAll from_ = sql) :
    printAll (q.parts j.sources from_) = q.render j.scope sql := by
  simp [parts, render, h, Part.print, printAll_listed, map_printAll_projectionParts,
    printAll_filtering_condition, printAll_orderParts, Sql.ofText_append, Sql.ofText_commaSeparated,
    Sql.append_assoc]

theorem printAll_countParts (q : Clauses) (sources : List Source) {from_ : List Part} {sql : Sql}
    (h : printAll from_ = sql) :
    printAll (q.countParts sources from_) = q.renderCount sql := by
  simp [countParts, renderCount, h, Part.print, printAll_filtering_condition, Sql.append_assoc]

end Clauses

mutual

def Source.parts : Source → List Part
  | .table t => [.table t]
  | .subquery name q inner =>
    .words "(" :: q.parts inner.sources (inner.parts inner.sources) ++
      [.words ")", .words " AS ", .given name]

def Joined.parts (sources : List Source) : Joined → List Part
  | .base s => s.parts
  | .join left kind right on =>
    left.parts sources ++ .words (" " ++ kind.sql ++ " ") :: right.parts ++
      .words " ON " :: on.parts sources

end

mutual

theorem Source.printAll_parts : ∀ s : Source, Part.printAll s.parts = s.render
  | .table t => by simp [Source.parts, Source.render, Part.print]
  | .subquery name q inner => by
    have h := q.printAll_parts inner (inner.printAll_parts inner.sources)
    simp [Source.parts, Source.render, Part.print, h, Sql.parenthesized, Sql.ofText_append,
      Sql.append_assoc]

theorem Joined.printAll_parts (sources : List Source) :
    ∀ j : Joined, Part.printAll (j.parts sources) = j.render
  | .base s => by rw [Joined.parts, Joined.render, s.printAll_parts]
  | .join left kind right on => by
    simp [Joined.parts, Joined.render, Part.print, left.printAll_parts, right.printAll_parts,
      on.printAll_parts, Sql.append_assoc]

end

end RecordSql
