import RecordSql.Proofs.Reading.Conditions
import RecordSql.Proofs.Session.Requests

/-! The conditions that the calls on a builder add to it, and what its WHERE clause says of them.
The clause is true for exactly the rows for which all of them are, as long as AND joins nothing
loose. -/

namespace RecordSql

variable {σ κ α : Type}

def Request.filters : Request → List Condition
  | .filter e => [e]
  | _ => []

namespace AnyBuilder

def IsFiltering : AnyBuilder → Prop
  | .insert _ => False
  | .select _ | .update _ | .delete _ => True

def condition? : AnyBuilder → Option Condition
  | .select b => b.content.clauses.condition
  | .insert _ => none
  | .update b => b.content.condition
  | .delete b => b.content.condition

def rest : AnyBuilder → String
  | .select b => b.content.clauses.orderText ++ b.content.clauses.limitText ++ ";"
  | .insert _ | .update _ | .delete _ => ";"

structure Filtered (es : List Condition) (b : AnyBuilder) : Prop where
  kind : b.IsFiltering
  condition : b.condition? = Condition.join .and es

theorem Filtered.conjoin {es : List Condition} {b b' : AnyBuilder} (h : b.Filtered es)
    (hk : b'.IsFiltering) {e : Condition}
    (he : b'.condition? = some (Condition.conjoin b.condition? e)) : b'.Filtered (es ++ [e]) :=
  ⟨hk, by rw [he, h.condition, Condition.conjoin_join]⟩

theorem Filtered.keep {es : List Condition} {b b' : AnyBuilder} (h : b.Filtered es)
    (hk : b'.IsFiltering) (he : b'.condition? = b.condition?) : b'.Filtered (es ++ []) :=
  ⟨hk, by rw [he, h.condition, List.append_nil]⟩

theorem build_where {b : AnyBuilder} {e : Condition} (he : b.condition? = some e) {sql : Sql}
    (h : b.build = .ok sql) :
    ∃ head, sql = head ++ .ofText " WHERE " ++ e.render ++ .ofText b.rest := by
  cases b with
  | insert b => cases he
  | select b =>
    have hq : b.content.clauses.condition = some e := he
    obtain ⟨_, hb⟩ := Builder.build_eq_ok.1 h
    obtain ⟨_, -, hsql⟩ := bind_eq_ok.1 hb
    cases hsql
    refine ⟨.ofText ("SELECT " ++ b.content.clauses.distinctText ++
      commaSeparated (b.content.clauses.projection b.content.sources.scope) ++ " FROM ") ++
      b.content.sources.render, ?_⟩
    have hw : b.content.clauses.whereSql = .ofText " WHERE " ++ e.render := by
      rw [Clauses.whereSql, hq]
    rw [Select.sql, Clauses.render, hw]
    simp only [rest, Sql.ofText_append, Sql.append_assoc]
  | update b =>
    have hq : b.content.condition = some e := he
    obtain ⟨-, -, -, rfl⟩ := Update.build_eq_ok (Builder.build_eq_ok.1 h).2
    rw [Part.printAll_filtering, hq]
    exact ⟨_, congrArg (· ++ Sql.ofText ";") (Sql.append_assoc ..).symm⟩
  | delete b =>
    have hq : b.content.condition = some e := he
    obtain ⟨-, rfl⟩ := Delete.build_eq_ok (Builder.build_eq_ok.1 h).2
    rw [Part.printAll_filtering, hq]
    exact ⟨_, congrArg (· ++ Sql.ofText ";") (Sql.append_assoc ..).symm⟩

end AnyBuilder

namespace Session

open AnyBuilder

variable {c : Connection σ} {s : Session σ} {es : List Condition}

theorem filtered_select {b : Builder Select} (h : (AnyBuilder.select b).Filtered es)
    (hs : b.Sound s.world) (name : String) (r : Request) :
    (s.callSelect c name b r).Leaves (AnyBuilder.Filtered (es ++ r.filters)) := by
  have hw : ∀ b' : Builder Select,
      b'.content.clauses.condition = b.content.clauses.condition →
      (AnyBuilder.select b').Filtered (es ++ []) := fun b' he => h.keep trivial he
  have hc : ∀ b' : Builder Select, b'.content = b.content →
      (AnyBuilder.select b').Filtered (es ++ []) := fun b' he => hw b' (by rw [he])
  cases r with
  | filter e =>
    refine leaves_changed (h.conjoin ?_ ?_)
    · trivial
    · rfl
  | join recordType kind on =>
    refine leaves_changed (hw _ ?_)
    unfold Builder.joinRecords
    cases c.table recordType <;> rfl
  | joinSubquery sub kind on =>
    dsimp only [callSelect]
    cases s.subquery? sub with
    | some q =>
      refine leaves_changed (hw _ ?_)
      rfl
    | none => exact leaves_told (hw _ rfl) _
  | subquery name key =>
    dsimp only [callSelect]
    cases b.subquery name with
    | ok q => exact leaves_told (hw _ rfl) _
    | error e => exact leaves_told (hw _ rfl) _
  | count => exact leaves_told (hw _ rfl) _
  | prepare => exact leaves_worked hs (Builder.prepare_works c b) hc _
  | rows n => exact leaves_worked hs (Builder.rows_works c n b) hc _
  | fetchAll => exact leaves_used _ (b.fetchAll c)
  | fetchFirst => exact leaves_used _ (b.fetchFirst c)
  | fetchOne => exact leaves_used _ (b.fetchOne c)
  | one => exact leaves_used _ (b.one c)
  | columns | distinct | order | limit | offset =>
    refine leaves_changed (hw _ ?_)
    rfl
  | _ => exact leaves_told (hw _ rfl) _

theorem filtered_update {b : Builder Update} (h : (AnyBuilder.update b).Filtered es)
    (hs : b.Sound s.world) (name : String) (r : Request) :
    (s.callUpdate c name b r).Leaves (AnyBuilder.Filtered (es ++ r.filters)) := by
  have hw : ∀ b' : Builder Update, b'.content.condition = b.content.condition →
      (AnyBuilder.update b').Filtered (es ++ []) := fun b' he => h.keep trivial he
  have hc : ∀ b' : Builder Update, b'.content = b.content →
      (AnyBuilder.update b').Filtered (es ++ []) := fun b' he => hw b' (by rw [he])
  cases r with
  | filter e =>
    refine leaves_changed (h.conjoin ?_ ?_)
    · trivial
    · rfl
  | set column v =>
    refine leaves_changed (hw _ ?_)
    rfl
  | setJson column document =>
    refine leaves_changed (hw _ ?_)
    cases document <;> rfl
  | prepare => exact leaves_worked hs (Builder.prepare_works c b) hc _
  | exec => exact leaves_worked hs (Builder.exec_works c b) hc _
  | _ => exact leaves_told (hw _ rfl) _

theorem filtered_delete {b : Builder Delete} (h : (AnyBuilder.delete b).Filtered es)
    (hs : b.Sound s.world) (name : String) (r : Request) :
    (s.callDelete c name b r).Leaves (AnyBuilder.Filtered (es ++ r.filters)) := by
  have hc : ∀ b' : Builder Delete, b'.content = b.content →
      (AnyBuilder.delete b').Filtered (es ++ []) := fun b' he =>
    h.keep trivial (by rw [condition?, condition?, he])
  cases r with
  | filter e =>
    refine leaves_changed (h.conjoin ?_ ?_)
    · trivial
    · rfl
  | prepare => exact leaves_worked hs (Builder.prepare_works c b) hc _
  | exec => exact leaves_worked hs (Builder.exec_works c b) hc _
  | _ => exact leaves_told (hc _ rfl) _

theorem filtered_request {b : AnyBuilder} (h : b.Filtered es) (hs : b.Sound s.world)
    (name : String) (r : Request) :
    (s.request c name b r).Leaves (AnyBuilder.Filtered (es ++ r.filters)) := by
  unfold request
  split
  · exact leaves_told (h.keep h.kind rfl) _
  · exact leaves_told (h.keep h.kind rfl) _
  · exact leaves_told (h.keep h.kind rfl) _
  · cases b with
    | select b => exact filtered_select h hs name _
    | insert b => exact absurd h.kind id
    | update b => exact filtered_update h hs name _
    | delete b => exact filtered_delete h hs name _

def Move.filters (name : String) : Move σ → List Condition
  | .perform (.call other r) => if other = name then r.filters else []
  | _ => []

theorem Move.filters_of_ne {name : String} {m : Move σ} (h : m.builder? ≠ some name) :
    m.filters name = [] := by
  unfold filters
  split
  · next other r =>
    exact if_neg fun he => h (congrArg some he)
  · rfl

theorem Sound.filtered_move (h : s.Sound) {name : String}
    (hf : ∀ b, s.builder? name = some b → b.Filtered es) {m : Move σ} (hm : m.Keeps name) :
    ∀ b, (s.move c m).builder? name = some b → b.Filtered (es ++ m.filters name) := by
  intro b' hb'
  obtain ⟨r, b, rfl, hb, hc⟩ | ⟨hn, hb⟩ := h.builder?_move hm hb'
  · have hfilters : Move.filters name (.perform (.call name r) : Move σ) = r.filters := if_pos rfl
    rw [hfilters]
    exact filtered_request (hf b hb) (h.builders _ (mem_of_builder? hb)) name r b' hc
  · rw [Move.filters_of_ne hn, List.append_nil]
    exact hf b' hb

theorem Reached.filtered_moves (h : Reached c s) {name : String}
    (hf : ∀ b, s.builder? name = some b → b.Filtered es) {ms : List (Move σ)}
    (hm : ∀ m ∈ ms, m.Keeps name) :
    ∀ b, (s.moves c ms).builder? name = some b →
      b.Filtered (es ++ ms.flatMap (Move.filters name)) := by
  induction ms generalizing s es with
  | nil =>
    intro b hb
    rw [List.flatMap_nil, List.append_nil]
    exact hf b hb
  | cons m rest ih =>
    obtain ⟨hm, hrest⟩ := List.forall_mem_cons.1 hm
    have hi := ih (h.moved m) (h.sound.filtered_move hf hm) hrest
    rwa [List.append_assoc, ← List.flatMap_cons] at hi

structure Conjoined (b : AnyBuilder) (es : List Condition) : Prop where
  unfiltered : es = [] → b.condition? = none
  /-- The text after WHERE is true for exactly the rows for which every condition is, if AND joins
  nothing loose; where it does and no predicate stands twice, it is not. -/
  clause : es ≠ [] → ∃ e, b.condition? = some e ∧
    (∀ sql, b.build = .ok sql →
      ∃ head, sql = head ++ .ofText " WHERE " ++ e.render ++ .ofText b.rest) ∧
    (Condition.AllKept es → Condition.Conjoins e.render es) ∧
    ((es.flatMap Condition.predicates).Nodup → Condition.Conjoins e.render es →
      Condition.AllKept es)

theorem conjoined_of_filtered {b : AnyBuilder} (h : b.Filtered es) (hc : ∀ e ∈ es, e.Complete) :
    Conjoined b es where
  unfiltered he := by rw [h.condition, he]; rfl
  clause hne := by
    cases es with
    | nil => exact absurd rfl hne
    | cons e es =>
      obtain ⟨hkept, hloose⟩ := Condition.conjoins_join rfl hc
      exact ⟨_, h.condition, fun sql hsql => build_where h.condition hsql, hkept, hloose⟩

theorem Reached.conjoined (h : Reached c s) {name : String} {b : AnyBuilder}
    (hb : s.builder? name = some b) (hk : b.IsFiltering) (hn : b.condition? = none)
    {ms : List (Move σ)} (hm : ∀ m ∈ ms, m.Keeps name) {b' : AnyBuilder}
    (hb' : (s.moves c ms).builder? name = some b')
    (hc : ∀ e ∈ ms.flatMap (Move.filters name), e.Complete) :
    Conjoined b' (ms.flatMap (Move.filters name)) := by
  have hf : ∀ b₁, s.builder? name = some b₁ → b₁.Filtered [] := by
    intro b₁ hb₁
    cases hb.symm.trans hb₁
    exact ⟨hk, hn⟩
  exact conjoined_of_filtered (h.filtered_moves hf hm b' hb') hc

namespace Notes

def keyed : Condition := .compare (.plain "id") .eq (.integer 1)

def either : Condition := .raw "(`title` = ? OR `title` = ?)" [.text "a", .text "b"]

def looseEither : Condition := .raw "`title` = ? OR `title` = ?" [.text "a", .text "b"]

def deletion (es : List Condition) : AnyBuilder :=
  .delete { content := { table, condition := Condition.join .and es } }

def filtering (es : List Condition) : List (Move Script.State) :=
  es.map fun e => .perform (.call "d" (.filter e))

theorem reached_deletion :
    Reached connection ((opened {}).move connection (.perform (.delete "d" "Note"))) :=
  reached_opened.moved _

theorem complete_keyed : keyed.Complete := by
  change (ColumnRef.plain "id").Tidy
  decide

theorem conjoined_deletion :
    Conjoined (deletion [keyed, either]) [keyed, either] ∧ Condition.AllKept [keyed, either] := by
  have hb : ((opened {}).move connection (.perform (.delete "d" "Note"))).builder? "d" =
      some (deletion []) := rfl
  have hc : Conjoined (deletion [keyed, either])
      ((filtering [keyed, either]).flatMap (Move.filters "d")) := by
    refine reached_deletion.conjoined hb trivial rfl ?_ rfl ?_
    · simp [filtering, Move.Keeps]
    · have he : either.Complete := ⟨_, rfl⟩
      exact List.forall_mem_cons.2 ⟨complete_keyed, List.forall_mem_singleton.2 he⟩
  have hl : ¬either.Loose := by
    rintro ⟨a, b, r, hr⟩
    have hone : (Sql.reading ⟨"(`title` = ? OR `title` = ?)", [.text "a", .text "b"]⟩).map
        List.length = some 1 := rfl
    rw [hr] at hone
    cases hone
  refine ⟨hc, ?_, ?_⟩
  · simp [keyed, either, Condition.Kept]
  · intro _
    exact List.forall_mem_cons.2 ⟨id, List.forall_mem_singleton.2 hl⟩

def other : Valuation := fun ts => some (ts.getLast? = some (.hole (some (.text "b"))))

/-- The clause deletes it although the key is another one. -/
theorem not_conjoins_looseEither :
    (deletion [keyed, looseEither]).build =
        .ok ⟨"DELETE FROM `notes` WHERE (`id` = ? AND `title` = ? OR `title` = ?);",
          [.integer 1, .text "a", .text "b"]⟩ ∧
      ¬Condition.Conjoins ⟨"(`id` = ? AND `title` = ? OR `title` = ?)",
        [.integer 1, .text "a", .text "b"]⟩ [keyed, looseEither] := by
  refine ⟨rfl, ?_⟩
  rintro ⟨r, hr, hv⟩
  -- the second alternative alone makes the text true
  have ht : (Sql.reading ⟨"(`id` = ? AND `title` = ? OR `title` = ?)",
      [.integer 1, .text "a", .text "b"]⟩).map (anyTruth other) = some (some true) := rfl
  rw [hr] at ht
  have hk := (hv other).1 (Option.some.inj ht) keyed List.mem_cons_self
  have hf : keyed.truth other = some false := rfl
  cases hf.symm.trans hk

end Notes

end Session

end RecordSql
