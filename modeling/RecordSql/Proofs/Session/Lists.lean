import RecordSql.Proofs.Session.Built
import RecordSql.Proofs.Statement.Lists

/-! The lists in what the builders of a session build. An UPDATE, an INSERT and a DELETE that build
have no empty list; a query that builds has one exactly if it, or a query nested in it, was given
an empty list of columns. -/

namespace RecordSql

variable {σ κ : Type} {schema : Schema}

namespace Builder

theorem filled_edits_row {rows : List (List Value)} {b : Builder Insert} (h : b.content.Filled)
    (hr : ∀ row ∈ rows, row.length = b.content.table.inserted.length) :
    (b.edits (rows.map Insert.Edit.row)).content.Filled := by
  induction rows generalizing b with
  | nil => exact h
  | cons row rest ih =>
    obtain ⟨hrow, hrest⟩ := List.forall_mem_cons.1 hr
    refine ih (b := b.edit (Insert.Edit.row row)) (fun row' hrow' => ?_) hrest
    rcases List.mem_append.1 hrow' with hrow' | hrow'
    · exact h row' hrow'
    · rw [List.mem_singleton.1 hrow']
      exact hrow

theorem filled_addRecords {b : Builder Insert} (h : b.content.Filled) (records : List Record) :
    (b.addRecords records).content.Filled := by
  have hrows : ∀ row ∈ records.map (Insert.row b.content.table),
      row.length = b.content.table.inserted.length := by simp [Insert.row]
  have hedits := filled_edits_row h hrows
  rwa [List.map_map] at hedits

end Builder

namespace AnyBuilder

def Filled : AnyBuilder → Prop
  | .insert b => b.content.Filled
  | .select _ | .update _ | .delete _ => True

def chunks : AnyBuilder → Request → List Chunk
  | .select b, .count => b.content.countChunks
  | .select b, .one => (b.edit (Select.Edit.limit 1)).content.chunks
  | .select b, _ => b.content.chunks
  | .insert b, _ => b.content.chunks
  | .update b, _ => b.content.chunks
  | .delete b, _ => b.content.parts.map .part

def queries : AnyBuilder → Request → List Clauses
  | .select b, .count => b.content.counted
  | .select b, .one => (b.edit (Select.Edit.limit 1)).content.queries
  | .select b, _ => b.content.queries
  | _, _ => []

theorem asked_chunks {b : AnyBuilder} (hg : b.Grounded schema) (hf : b.Filled) {r : Request}
    {sql : Sql} (h : b.asked r = .ok sql) :
    sql = Chunk.print (b.chunks r) ∧
      (Chunk.AllFull (b.chunks r) ↔ ∀ q ∈ b.queries r, q.Projects) := by
  have hbuilt {q : Select} (hq : q.sources.Grounded schema) (h : q.build = .ok sql) :
      sql = Chunk.print q.chunks ∧ (Chunk.AllFull q.chunks ↔ ∀ c ∈ q.queries, c.Projects) :=
    ⟨(Select.build_eq_printAll h).trans q.print_chunks.symm, Select.allFull_chunks hq⟩
  cases b with
  | select b =>
    have hg : b.content.sources.Grounded schema := hg
    cases r with
    | count =>
      have h : b.buildCount = .ok sql := h
      have h := (Builder.buildCount_eq_ok.1 h).2
      exact ⟨(Select.buildCount_eq_printAll h).trans b.content.print_countChunks.symm,
        Select.allFull_countChunks hg⟩
    | one =>
      have h : (b.edit (Select.Edit.limit 1)).build = .ok sql := h
      exact hbuilt hg (Builder.build_eq_ok.1 h).2
    | _ =>
      have h : b.build = .ok sql := h
      exact hbuilt hg (Builder.build_eq_ok.1 h).2
  | insert b =>
    have h : b.build = .ok sql := h
    have h := (Builder.build_eq_ok.1 h).2
    refine ⟨(Insert.build_eq_printAll h).trans b.content.print_chunks.symm, ?_⟩
    exact iff_of_true (Insert.allFull_chunks hf h) (by simp [queries])
  | update b =>
    have h : b.build = .ok sql := h
    have h := (Builder.build_eq_ok.1 h).2
    refine ⟨(Update.build_eq_printAll h).trans b.content.print_chunks.symm, ?_⟩
    exact iff_of_true (Update.allFull_chunks h) (by simp [queries])
  | delete b =>
    have h : b.build = .ok sql := h
    have h := (Builder.build_eq_ok.1 h).2
    refine ⟨(Delete.build_eq_printAll h).trans (Chunk.print_map_part _).symm, ?_⟩
    exact iff_of_true (Chunk.allFull_map_part _) (by simp [queries])

end AnyBuilder

namespace Session

section

variable {c : Connection σ} {s s' : Session σ} {P : AnyBuilder → Prop}

theorem forall_without (h : ∀ x ∈ s.builders, P x.2) (name : String) :
    ∀ x ∈ (s.without name).builders, P x.2 := fun x hx => h x (List.mem_of_mem_filter hx)

theorem forall_keep (h : ∀ x ∈ s.builders, P x.2) (name : String) {b : AnyBuilder} (hb : P b) :
    ∀ x ∈ (s.keep name b).builders, P x.2 := by
  intro x hx
  rcases List.mem_cons.1 hx with rfl | hx
  · exact hb
  · exact forall_without h name x hx

theorem forall_dropBuilder (h : ∀ x ∈ s.builders, P x.2) (name : String) :
    ∀ x ∈ (s.dropBuilder c name).builders, P x.2 := by
  unfold dropBuilder
  cases s.builder? name with
  | none => exact h
  | some b => exact forall_without (s := (s.act (b.drop c)).2) h name

/-- What holds of new builders, and of what a call leaves of a builder, holds after a step. -/
theorem Stepped.forall_builders {m : Move σ} (hm : Stepped c s m s') (hs : s.Sound)
    (hnew : ∀ b, New c s b → P b)
    (hcall : ∀ name b r b', b.Sound s.world → P b →
      (s.request c name b r).builder = some b' → P b')
    (h : ∀ x ∈ s.builders, P x.2) : ∀ x ∈ s'.builders, P x.2 := by
  cases hm with
  | stayed => exact h
  | acted => exact h
  | created _ hb => exact forall_keep (forall_dropBuilder h _) _ (hnew _ hb)
  | dropped name => exact forall_dropBuilder h name
  | called name r =>
    cases hb : s.builder? name with
    | none =>
      rw [call_of_none hb]
      exact h
    | some b =>
      have hmem := mem_of_builder? hb
      have hsound := hs.builders _ hmem
      have hsame := (answered_request s c name hsound r).builders
      rw [← hsame] at h
      rw [call_of_some hb]
      cases hc : (s.request c name b r).builder with
      | none => exact forall_without h name
      | some b' => exact forall_keep h name (hcall name b r b' hsound (h _ (hsame ▸ hmem)) hc)

theorem New.filled {b : AnyBuilder} (h : New c s b) : b.Filled := by
  cases h with
  | insert ht records =>
    exact Builder.filled_addRecords (fun row hrow => absurd hrow List.not_mem_nil) records
  | select | selectFrom | update | delete => trivial

theorem filled_callInsert (c : Connection σ) (name : String) {b : Builder Insert} (r : Request)
    (hs : b.Sound s.world) (h : b.content.Filled) :
    (s.callInsert c name b r).Leaves AnyBuilder.Filled := by
  have hw : ∀ b' : Builder Insert, b'.content = b.content → (AnyBuilder.insert b').Filled :=
    fun b' he => by
      rw [AnyBuilder.Filled, he]
      exact h
  cases r with
  | values rows =>
    dsimp only [callInsert]
    cases rows.mapM b.content.table.record with
    | ok records =>
      have hadded : (AnyBuilder.insert (b.addRecords records)).Filled :=
        Builder.filled_addRecords h records
      exact leaves_told hadded _
    | error e => exact leaves_told (hw b rfl) _
  | onConflict clause => exact leaves_changed h
  | prepare => exact leaves_worked hs (Builder.prepare_works c b) hw _
  | exec => exact leaves_worked hs (Builder.exec_works c b) hw _
  | _ => exact leaves_told (hw b rfl) _

theorem filled_request (c : Connection σ) (name : String) {b b' : AnyBuilder} (r : Request)
    (hs : b.Sound s.world) (h : b.Filled) (hb : (s.request c name b r).builder = some b') :
    b'.Filled := by
  cases b with
  | insert b =>
    have hleaves : (s.request c name (.insert b) r).Leaves AnyBuilder.Filled := by
      unfold request
      split
      · exact leaves_told h _
      · exact leaves_told h _
      · exact leaves_told h _
      · exact filled_callInsert c name r hs h
    exact hleaves b' hb
  -- a call leaves a builder of the same kind, and the other kinds have no rows
  | select | update | delete =>
    have hf := (answered_request s c name hs r).stays b' hb
    cases hf
    trivial

end

theorem Reached.filled {c : Connection σ} {s : Session σ} (h : Reached c s) :
    ∀ x ∈ s.builders, x.2.Filled := by
  induction h with
  | opened => exact fun _ hx => absurd hx List.not_mem_nil
  | moved h m ih =>
    exact (stepped_move m).forall_builders h.sound (fun _ => New.filled)
      (fun name _ r _ hs hf => filled_request c name r hs hf) ih

/-- What the builder of a name builds for a request, as it stands or as a nested query, has an item
in each list exactly if no query in it was given an empty list of columns. So an UPDATE, an INSERT
or a DELETE that builds has no empty list, and otherwise no call on the builder has a statement
compiled, bound or run. -/
theorem Reached.listed {c : Connection σ} {s : Session σ} (h : Reached c s) {name : String}
    {b : AnyBuilder} (hb : s.builder? name = some b) :
    (∀ r sql, b.asked r = .ok sql → sql = Chunk.print (b.chunks r) ∧
      (Chunk.AllFull (b.chunks r) ↔ ∀ q ∈ b.queries r, q.Projects)) ∧
    (∀ q n sub, b = .select q → q.subquery n = .ok sub →
      sub.sql = Chunk.print q.content.queryChunks ∧
      (Chunk.AllFull q.content.queryChunks ↔ ∀ cl ∈ q.content.queries, cl.Projects)) ∧
    ((∀ q ∈ b.queries .build, q.Projects) → ¬Chunk.AllFull (b.chunks .build) →
      (∃ e, b.build = .error e) ∧
      ∀ r, ∀ entry ∈ gained s (s.call c name r).2.2, entry.request? = none) := by
  have hmem := mem_of_builder? hb
  have hg := h.grounded.builders _ hmem
  have hf := h.filled _ hmem
  refine ⟨fun r sql hsql => AnyBuilder.asked_chunks hg hf hsql, ?_, fun hq hempty => ?_⟩
  · rintro q n sub rfl hsub
    obtain ⟨_, -, hsub⟩ := bind_eq_ok.1 hsub
    obtain ⟨_, -, hsub⟩ := bind_eq_ok.1 hsub
    cases hsub
    have hsql : q.content.sql = Chunk.print q.content.queryChunks :=
      q.content.printAll_queryParts.symm.trans q.content.print_queryChunks.symm
    exact ⟨hsql, Select.allFull_queryChunks hg⟩
  · cases hbuilt : b.build with
    | ok sql =>
      have hasked : b.asked .build = .ok sql := by cases b <;> exact hbuilt
      exact absurd ((AnyBuilder.asked_chunks hg hf hasked).2.2 hq) hempty
    | error e =>
      refine ⟨⟨e, rfl⟩, fun r entry hentry => ?_⟩
      cases hc : entry.request? with
      | none => rfl
      | some call =>
        obtain ⟨_, sql, hsql, -⟩ := request_of_mem_gained (h.sound.leads_call hb r) hentry hc
        exact absurd hsql (AnyBuilder.asked_of_build_error hbuilt r sql)

namespace Notes

theorem outer_listed :
    ∃ sql, outer.build = .ok sql ∧ sql = Chunk.print (AnyBuilder.chunks (.select outer) .build) ∧
      Chunk.AllFull (AnyBuilder.chunks (.select outer) .build) := by
  have hb : nested.builder? "outer" = some (.select outer) := rfl
  obtain ⟨hprint, hfull⟩ := (reached_nested.listed hb).1 .build _ rfl
  exact ⟨_, rfl, hprint, hfull.2 (by decide)⟩

def columnless : Session Script.State :=
  (opened {}).moves connection [.perform (.select "q" "Note"), .perform (.call "q" (.columns []))]

/-- No error comes of it. -/
theorem not_full_columnless :
    ¬∀ (c : Connection Script.State) (s : Session Script.State) (name : String) (b : AnyBuilder),
      Reached c s → s.builder? name = some b → ∀ sql, b.build = .ok sql →
        Chunk.AllFull (b.chunks .build) := by
  intro h
  have hs : Reached connection columnless := reached_opened.moves _
  have hfull := h connection columnless "q" _ hs rfl _ rfl
  have hmem : Chunk.items [] ∈ AnyBuilder.chunks
      (.select { content := { Select.ofTable table with clauses := { columns := some [] } } })
      .build := List.mem_cons_of_mem _ (List.mem_cons_of_mem _ List.mem_cons_self)
  exact hfull _ hmem rfl

end Notes

end Session

end RecordSql
