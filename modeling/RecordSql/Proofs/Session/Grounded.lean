import RecordSql.Proofs.Session.Sound
import RecordSql.Proofs.Statement.Declared

/-! The builders and nested queries that a session keeps are made of registered tables, and every
nested query was checked when it was made. So what a builder builds has declared parts only. -/

namespace RecordSql

open RecordSql.Part

variable {σ κ α : Type} {schema : Schema}

def Subquery.Grounded (schema : Schema) (q : Subquery) : Prop := q.source.Grounded schema

namespace AnyBuilder

def Grounded (schema : Schema) : AnyBuilder → Prop
  | .select b => b.content.sources.Grounded schema
  | .insert b => b.content.table ∈ schema.tables
  | .update b => b.content.table ∈ schema.tables
  | .delete b => b.content.table ∈ schema.tables

theorem Grounded.declared_parts {b : AnyBuilder} (h : b.Grounded schema) {sql : Sql}
    (hb : b.build = .ok sql) : ∀ p ∈ b.parts, p.Declared schema := by
  cases b with
  | select b => exact Select.declared_parts_of_build h (Builder.build_eq_ok.1 hb).2
  | insert b => exact Insert.declared_parts h (Builder.build_eq_ok.1 hb).2
  | update b => exact Update.declared_parts h (Builder.build_eq_ok.1 hb).2
  | delete b => exact Delete.declared_parts h (Builder.build_eq_ok.1 hb).2

end AnyBuilder

namespace Builder

theorem table_edits_row (rows : List (List Value)) (b : Builder Insert) :
    (b.edits (rows.map Insert.Edit.row)).content.table = b.content.table := by
  induction rows generalizing b with
  | nil => rfl
  | cons row rest ih => exact ih (b.edit (Insert.Edit.row row))

theorem table_addRecords (records : List Record) (b : Builder Insert) :
    (b.addRecords records).content.table = b.content.table := by
  have h := table_edits_row (records.map (Insert.row b.content.table)) b
  rwa [List.map_map] at h

theorem grounded_subquery {b : Builder Select} {name : String} {q : Subquery}
    (hg : b.content.sources.Grounded schema) (h : b.subquery name = .ok q) :
    q.Grounded schema := by
  obtain ⟨_, -, h⟩ := bind_eq_ok.1 h
  obtain ⟨_, hc, h⟩ := bind_eq_ok.1 h
  cases h
  rw [Subquery.Grounded, Subquery.source, Source.Grounded]
  exact ⟨hg, Select.check_eq_ok.1 hc⟩

end Builder

namespace Session

structure Grounded (schema : Schema) (s : Session σ) : Prop where
  builders : ∀ x ∈ s.builders, x.2.Grounded schema
  subqueries : ∀ x ∈ s.subqueries, x.2.Grounded schema

structure Called.Grounded (schema : Schema) (called : Called σ) : Prop where
  builder : ∀ b, called.builder = some b → b.Grounded schema
  subqueries : ∀ x ∈ called.session.subqueries, x.2.Grounded schema

section

variable {s : Session σ}

theorem mem_of_subquery? {name : String} {q : Subquery} (h : s.subquery? name = some q) :
    ∃ n, (n, q) ∈ s.subqueries := by
  obtain ⟨⟨n, q'⟩, hf, hq⟩ := Option.map_eq_some_iff.1 h
  cases hq
  exact ⟨n, List.mem_of_find?_eq_some hf⟩

theorem Grounded.of_subquery? (h : s.Grounded schema) {name : String} {q : Subquery}
    (hq : s.subquery? name = some q) : q.Grounded schema := by
  obtain ⟨n, hm⟩ := mem_of_subquery? hq
  exact h.subqueries _ hm

theorem Grounded.told (h : s.Grounded schema) {b : AnyBuilder} (hb : b.Grounded schema)
    (result : Except Error Reply) : (s.told b result).Grounded schema :=
  ⟨leaves_told hb result, h.subqueries⟩

theorem Grounded.changed (h : s.Grounded schema) {b : AnyBuilder} (hb : b.Grounded schema) :
    (s.changed b).Grounded schema := h.told hb _

theorem Grounded.worked [Statement κ] (h : s.Grounded schema) {b : Builder κ}
    (hs : b.Sound s.world) {a : Act σ (Except Error α × Builder κ)} (ha : Builder.Works b a)
    (wrap : Builder κ → AnyBuilder)
    (hw : ∀ b', b'.content = b.content → (wrap b').Grounded schema) (reply : α → Reply) :
    (s.worked wrap reply a).Grounded schema :=
  ⟨leaves_worked hs ha hw reply, h.subqueries⟩

theorem Grounded.used (h : s.Grounded schema) (reply : α → Reply) (run : Run σ α) :
    (s.used reply run).Grounded schema :=
  ⟨leaves_used reply run, h.subqueries⟩

variable (c : Connection σ) (name : String) (r : Request)

theorem Grounded.callSelect (h : s.Grounded c.schema) {b : Builder Select}
    (hb : b.content.sources.Grounded c.schema) (hs : b.Sound s.world) :
    (s.callSelect c name b r).Grounded c.schema := by
  have hw : ∀ b' : Builder Select, b'.content = b.content →
      (AnyBuilder.select b').Grounded c.schema := fun b' he => by
    rw [AnyBuilder.Grounded, he]
    exact hb
  have hg : (AnyBuilder.select b).Grounded c.schema := hb
  cases r with
  | join recordType kind on =>
    refine h.changed ?_
    unfold Builder.joinRecords
    cases ht : c.table recordType with
    | ok t =>
      change (Joined.join b.content.sources kind (.table t) on).Grounded c.schema
      rw [Joined.Grounded, Source.Grounded]
      exact ⟨hb, mem_of_table ht⟩
    | error e => exact hb
  | joinSubquery sub kind on =>
    dsimp only [Session.callSelect]
    cases hq : s.subquery? sub with
    | some q =>
      refine h.changed ?_
      change (Joined.join b.content.sources kind q.source on).Grounded c.schema
      rw [Joined.Grounded]
      exact ⟨hb, h.of_subquery? hq⟩
    | none => exact h.told hg _
  -- a query is checked when it is nested, and kept in that form
  | subquery name key =>
    dsimp only [Session.callSelect]
    cases hq : b.subquery name with
    | ok q =>
      refine ⟨(h.told hg (.ok .done)).builder, ?_⟩
      intro x hx
      rcases List.mem_cons.1 hx with rfl | hx
      · exact Builder.grounded_subquery hb hq
      · exact h.subqueries x (List.mem_of_mem_filter hx)
    | error e => exact h.told hg _
  | count => exact ⟨(h.told hg (.ok .done)).builder, h.subqueries⟩
  -- what talks to the engine leaves the clauses alone
  | prepare => exact h.worked hs (Builder.prepare_works c b) _ hw _
  | rows n => exact h.worked hs (Builder.rows_works c n b) _ hw _
  | fetchAll => exact h.used _ (b.fetchAll c)
  | fetchFirst => exact h.used _ (b.fetchFirst c)
  | fetchOne => exact h.used _ (b.fetchOne c)
  | one => exact h.used _ (b.one c)
  | filter | columns | distinct | order | limit | offset => exact h.changed hg
  | _ => exact h.told hg _

theorem Grounded.callInsert (h : s.Grounded c.schema) {b : Builder Insert}
    (hb : b.content.table ∈ c.schema.tables) (hs : b.Sound s.world) :
    (s.callInsert c name b r).Grounded c.schema := by
  have hw : ∀ b' : Builder Insert, b'.content = b.content →
      (AnyBuilder.insert b').Grounded c.schema := fun b' he => by
    rw [AnyBuilder.Grounded, he]
    exact hb
  have hg : (AnyBuilder.insert b).Grounded c.schema := hb
  cases r with
  | values rows =>
    dsimp only [Session.callInsert]
    cases rows.mapM b.content.table.record with
    | ok records =>
      refine h.told ?_ _
      rw [AnyBuilder.Grounded, Builder.table_addRecords]
      exact hb
    | error e => exact h.told hg _
  | onConflict clause => exact h.changed hg
  | prepare => exact h.worked hs (Builder.prepare_works c b) _ hw _
  | exec => exact h.worked hs (Builder.exec_works c b) _ hw _
  | _ => exact h.told hg _

theorem Grounded.callUpdate (h : s.Grounded c.schema) {b : Builder Update}
    (hb : b.content.table ∈ c.schema.tables) (hs : b.Sound s.world) :
    (s.callUpdate c name b r).Grounded c.schema := by
  have hw : ∀ b' : Builder Update, b'.content = b.content →
      (AnyBuilder.update b').Grounded c.schema := fun b' he => by
    rw [AnyBuilder.Grounded, he]
    exact hb
  have hg : (AnyBuilder.update b).Grounded c.schema := hb
  cases r with
  | filter | set => exact h.changed hg
  | setJson column document =>
    refine h.changed ?_
    cases document with
    | some j => exact hb
    | none => exact hb
  | prepare => exact h.worked hs (Builder.prepare_works c b) _ hw _
  | exec => exact h.worked hs (Builder.exec_works c b) _ hw _
  | _ => exact h.told hg _

theorem Grounded.callDelete (h : s.Grounded c.schema) {b : Builder Delete}
    (hb : b.content.table ∈ c.schema.tables) (hs : b.Sound s.world) :
    (s.callDelete c name b r).Grounded c.schema := by
  have hw : ∀ b' : Builder Delete, b'.content = b.content →
      (AnyBuilder.delete b').Grounded c.schema := fun b' he => by
    rw [AnyBuilder.Grounded, he]
    exact hb
  have hg : (AnyBuilder.delete b).Grounded c.schema := hb
  cases r with
  | filter => exact h.changed hg
  | prepare => exact h.worked hs (Builder.prepare_works c b) _ hw _
  | exec => exact h.worked hs (Builder.exec_works c b) _ hw _
  | _ => exact h.told hg _

theorem Grounded.request (h : s.Grounded c.schema) {b : AnyBuilder} (hb : b.Grounded c.schema)
    (hs : b.Sound s.world) : (s.request c name b r).Grounded c.schema := by
  unfold Session.request
  split
  · exact h.told hb _
  · exact h.told hb _
  · exact h.told hb _
  · cases b with
    | select b => exact h.callSelect c name _ hb hs
    | insert b => exact h.callInsert c name _ hb hs
    | update b => exact h.callUpdate c name _ hb hs
    | delete b => exact h.callDelete c name _ hb hs

theorem Grounded.keep (h : s.Grounded schema) {b : AnyBuilder} (hb : b.Grounded schema)
    (name : String) : (s.keep name b).Grounded schema where
  builders x hx := by
    rcases List.mem_cons.1 hx with rfl | hx
    · exact hb
    · exact h.builders x (List.mem_of_mem_filter hx)
  subqueries := h.subqueries

theorem Grounded.without (h : s.Grounded schema) (name : String) :
    (s.without name).Grounded schema where
  builders x hx := h.builders x (List.mem_of_mem_filter hx)
  subqueries := h.subqueries

theorem Grounded.dropBuilder (h : s.Grounded schema) :
    (s.dropBuilder c name).Grounded schema := by
  unfold Session.dropBuilder
  cases s.builder? name with
  | none => exact h
  | some b => exact ⟨(h.without name).builders, h.subqueries⟩

theorem Grounded.call (h : s.Grounded c.schema) (hs : s.Sound) :
    (s.call c name r).2.2.Grounded c.schema := by
  cases hb : s.builder? name with
  | none =>
    rw [call_of_none hb]
    exact h
  | some b =>
    have hm := mem_of_builder? hb
    have ha := answered_request s c name (hs.builders _ hm) r
    have hg := h.request c name r (h.builders _ hm) (hs.builders _ hm)
    have hses : (s.request c name b r).session.Grounded c.schema :=
      ⟨ha.builders ▸ h.builders, hg.subqueries⟩
    rw [call_of_some hb]
    cases hc : (s.request c name b r).builder with
    | none => exact hses.without name
    | some b' => exact hses.keep (hg.builder b' hc) name

theorem New.grounded {c : Connection σ} (h : s.Grounded c.schema) {b : AnyBuilder}
    (hb : New c s b) : b.Grounded c.schema := by
  cases hb with
  | select ht =>
    rw [AnyBuilder.Grounded, Select.ofTable, Joined.Grounded, Source.Grounded]
    exact ht
  | selectFrom ht hq =>
    rw [AnyBuilder.Grounded, Select.ofSubquery, Joined.Grounded]
    exact h.of_subquery? hq
  | insert ht records =>
    rw [AnyBuilder.Grounded, Builder.table_addRecords]
    exact ht
  | update ht => exact ht
  | delete ht => exact ht

theorem Grounded.step {c : Connection σ} (h : s.Grounded c.schema) (hs : s.Sound) {m : Move σ}
    {s' : Session σ} (hm : Stepped c s m s') : s'.Grounded c.schema := by
  cases hm with
  | stayed => exact h
  | acted => exact ⟨h.builders, h.subqueries⟩
  | created _ hb => exact (h.dropBuilder c _).keep (hb.grounded h) _
  | dropped name => exact h.dropBuilder c name
  | called name r => exact h.call c name r hs

end

theorem Reached.grounded {c : Connection σ} {s : Session σ} (h : Reached c s) :
    s.Grounded c.schema := by
  induction h with
  | opened => exact ⟨fun _ hx => absurd hx List.not_mem_nil, fun _ hx => absurd hx List.not_mem_nil⟩
  | moved h m ih => exact ih.step h.sound (stepped_move m)

end Session

end RecordSql
