import RecordSql.Proofs.Builder.Ownership
import RecordSql.Proofs.Session.Calls

/-! What a call on a kept builder owns and how it can fail: the statement of the builder is
accounted for, and an error that is told is a fault of the builder's own or an answer of the
engine. -/

namespace RecordSql

variable {σ κ α : Type}

namespace AnyBuilder

/-- What can go wrong with a request of a builder by itself. -/
inductive FaultOf : AnyBuilder → Request → Error → Prop
  | build {b : AnyBuilder} {r : Request} {e : Error} : b.build = .error e → FaultOf b r e
  | limited {b : Builder Select} {e : Error} :
    (b.edit (Select.Edit.limit 1)).build = .error e → FaultOf (.select b) .one e
  | counting {b : Builder Select} {r : Request} {e : Error} :
    b.buildCount = .error e → FaultOf (.select b) r e
  | nesting {b : Builder Select} {name key : String} {e : Error} :
    b.subquery name = .error e → FaultOf (.select b) (.subquery name key) e
  | row {b : Builder Select} {r : Request} {e : Error} :
    Cursor.Unreadable b.content.table e → FaultOf (.select b) r e
  | noRow (b : Builder Select) : FaultOf (.select b) .fetchOne b.noRow
  | noCount (b : Builder Select) :
    FaultOf (.select b) .count (.notFound "COUNT(*) returned no row")
  | field {b : Builder Select} {row : Row} {e : Error} :
    row.field 0 ⟨.integer .i64, false⟩ = .error e → FaultOf (.select b) .count e
  | values {b : Builder Insert} {rows : List (List (Option Value))} {e : Error} :
    rows.mapM b.content.table.record = .error e → FaultOf (.insert b) (.values rows) e

end AnyBuilder

namespace Session

inductive Tells : Except Error Reply → Error → Prop
  | failed (e : Error) : Tells (.error e) e
  | item {items : List (Option (Except Error Record))} {e : Error} :
    some (.error e) ∈ items → Tells (.ok (.items items)) e

theorem tells_map {x : Except Error α} {reply : α → Reply} {e : Error}
    (hreply : ∀ a items, reply a ≠ .items items) (h : Tells (x.map reply) e) : x = .error e := by
  cases x with
  | error e' => cases h; rfl
  | ok a =>
    generalize hr : reply a = r at *
    change Tells (.ok (reply a)) e at h
    rw [hr] at h
    cases h
    exact absurd hr (hreply a _)

def Carried (c : Connection σ) (s : Session σ) (b : AnyBuilder) (r : Request) (called : Called σ) :
    Prop :=
  ∃ talk, s.world.Passes c.engine b.slot.statement
      (called.builder.bind fun b' => b'.slot.statement) talk called.session.world ∧
    ∀ e, Tells called.result e → b.FaultOf r e ∨ ∃ call, (call, .refused e) ∈ talk

variable {c : Connection σ} {s : Session σ} {r : Request}

theorem carried_told {b : AnyBuilder} {result : Except Error Reply}
    (h : ∀ e, Tells result e → b.FaultOf r e) : Carried c s b r (s.told b result) :=
  ⟨[], .refl _ s.world, fun e he => .inl (h e he)⟩

theorem carried_missing (b : AnyBuilder) (name : String) :
    Carried c s b r (s.told b (.ok (.missing name))) :=
  carried_told nofun

theorem carried_changed {b b' : AnyBuilder} (h : b'.slot.statement = b.slot.statement) :
    Carried c s b r (s.changed b') := by
  refine ⟨[], ?_, nofun⟩
  change s.world.Passes c.engine b.slot.statement b'.slot.statement [] s.world
  rw [h]
  exact .refl _ s.world

theorem carried_worked {b : Builder κ} (wrap : Builder κ → AnyBuilder)
    (hwrap : ∀ b : Builder κ, (wrap b).slot = b.slot) {Q : Error → Prop}
    {a : Act σ (Except Error α × Builder κ)} (ha : b.Carries c.engine Q a s.world)
    (hQ : ∀ e, Q e → (wrap b).FaultOf r e) {reply : α → Reply}
    (hreply : ∀ a items, reply a ≠ .items items) :
    Carried c s (wrap b) r (s.worked wrap reply a) := by
  obtain ⟨talk, hp, hf⟩ := ha
  refine ⟨talk, ?_, fun e he => (hf e (tells_map hreply he)).imp_left (hQ e)⟩
  change s.world.Passes c.engine _ (wrap (a s.world).1.2).slot.statement talk (a s.world).2
  rw [hwrap, hwrap]
  exact hp

theorem carried_used {b : AnyBuilder} {run : Run σ α} {Q : Error → Prop}
    (h : ∃ talk, s.world.Passes c.engine b.slot.statement none talk (run s.world).2 ∧
      Faults Q talk (run s.world).1) (hQ : ∀ e, Q e → b.FaultOf r e) {reply : α → Reply}
    (hreply : ∀ a items, reply a ≠ .items items) : Carried c s b r (s.used reply run) := by
  obtain ⟨talk, hp, hf⟩ := h
  exact ⟨talk, hp, fun e he => (hf e (tells_map hreply he)).imp_left (hQ e)⟩

variable (c s) (name : String)

theorem faultOf_failing {b : Builder Select} (e : Error) (h : b.Failing e) :
    (AnyBuilder.select b).FaultOf r e := by
  rcases h with h | h
  · exact .build h
  · exact .row h

theorem carried_select {b : Builder Select} (h : b.Sound s.world) (r : Request) :
    Carried c s (.select b) r (s.callSelect c name b r) := by
  cases r with
  | filter | columns | distinct | order | limit | offset =>
    exact carried_changed (Builder.statement_edit b _)
  | join recordType kind on =>
    refine carried_changed ?_
    unfold Builder.joinRecords
    split
    · exact Builder.statement_edit b _
    · rfl
  | joinSubquery sub kind on =>
    dsimp only [callSelect]
    cases s.subquery? sub with
    | some q => exact carried_changed (Builder.statement_edit b _)
    | none => exact carried_missing _ sub
  | buildCount => exact carried_told fun e he => .counting (tells_map (by nofun) he)
  | count =>
    obtain ⟨talk, hp, hf⟩ := Builder.tidy_count c b (Q := (AnyBuilder.select b).FaultOf .count)
      (fun _ => .counting) (.noCount b) (fun _ _ => .field) s.world
    exact ⟨talk, hp.owning _, fun e he => hf e (tells_map (by nofun) he)⟩
  | subquery key sub =>
    dsimp only [callSelect]
    cases hq : b.subquery key with
    | ok q => exact ⟨[], .refl _ s.world, nofun⟩
    | error e => exact carried_told fun e' he => by cases he; exact .nesting hq
  | prepare =>
    exact carried_worked .select (fun _ => rfl) (Builder.prepare_carries c b s.world)
      (fun _ h => .build h) fun _ _ => nofun
  | rows n =>
    obtain ⟨talk, hp, hf, hitems⟩ := Builder.rows_carries c h n
    refine ⟨talk, hp, fun e he => ?_⟩
    change Tells ((b.rows c n s.world).1.1.map Reply.items) e at he
    cases hr : (b.rows c n s.world).1.1 with
    | error e' =>
      rw [hr] at he
      cases he
      exact (hf e hr).imp_left .build
    | ok items =>
      rw [hr] at he
      cases he with
      | item hmem => exact (hitems items hr _ hmem e rfl).imp_left .row
  | fetchAll => exact carried_used (Builder.passes_fetchAll c h) faultOf_failing fun _ _ => nofun
  | fetchFirst =>
    exact carried_used (Builder.passes_fetchFirst c h) faultOf_failing fun _ _ => nofun
  | fetchOne =>
    refine carried_used (Builder.passes_fetchOne c h) (fun e he => ?_) fun _ _ => nofun
    rcases he with he | rfl
    · exact faultOf_failing e he
    · exact .noRow b
  | one =>
    refine carried_used (Builder.passes_one c h) (fun e he => ?_) fun _ _ => nofun
    rcases he with he | he
    · exact .limited he
    · exact .row he
  | _ => exact carried_missing _ name

theorem carried_insert {b : Builder Insert} (h : b.Sound s.world) (r : Request) :
    Carried c s (.insert b) r (s.callInsert c name b r) := by
  cases r with
  | values rows =>
    dsimp only [callInsert]
    cases hr : rows.mapM b.content.table.record with
    | error e => exact carried_told fun e' he => by cases he; exact .values hr
    | ok records =>
      have hs := Builder.statement_edits b
        (records.map fun r => Insert.Edit.row (Insert.row b.content.table r))
      have hc : Carried c s (.insert b) .build (s.changed (.insert (b.addRecords records))) :=
        carried_changed hs
      obtain ⟨talk, hp, -⟩ := hc
      exact ⟨talk, hp, nofun⟩
  | onConflict clause => exact carried_changed (Builder.statement_edit b _)
  | prepare =>
    exact carried_worked .insert (fun _ => rfl) (Builder.prepare_carries c b s.world)
      (fun _ h => .build h) fun _ _ => nofun
  | exec =>
    exact carried_worked .insert (fun _ => rfl) (Builder.exec_carries c h)
      (fun _ h => .build h) fun _ _ => nofun
  | _ => exact carried_missing _ name

theorem carried_update {b : Builder Update} (h : b.Sound s.world) (r : Request) :
    Carried c s (.update b) r (s.callUpdate c name b r) := by
  cases r with
  | filter | set => exact carried_changed (Builder.statement_edit b _)
  | setJson column document =>
    refine carried_changed ?_
    cases document with
    | some j => exact Builder.statement_edit b _
    | none => rfl
  | prepare =>
    exact carried_worked .update (fun _ => rfl) (Builder.prepare_carries c b s.world)
      (fun _ h => .build h) fun _ _ => nofun
  | exec =>
    exact carried_worked .update (fun _ => rfl) (Builder.exec_carries c h)
      (fun _ h => .build h) fun _ _ => nofun
  | _ => exact carried_missing _ name

theorem carried_delete {b : Builder Delete} (h : b.Sound s.world) (r : Request) :
    Carried c s (.delete b) r (s.callDelete c name b r) := by
  cases r with
  | filter => exact carried_changed (Builder.statement_edit b _)
  | prepare =>
    exact carried_worked .delete (fun _ => rfl) (Builder.prepare_carries c b s.world)
      (fun _ h => .build h) fun _ _ => nofun
  | exec =>
    exact carried_worked .delete (fun _ => rfl) (Builder.exec_carries c h)
      (fun _ h => .build h) fun _ _ => nofun
  | _ => exact carried_missing _ name

theorem carried_request {b : AnyBuilder} (h : b.Sound s.world) (r : Request) :
    Carried c s b r (s.request c name b r) := by
  unfold request
  split
  · exact carried_told fun e he => .build (tells_map (by nofun) he)
  · exact carried_told fun e he => .build (tells_map (by nofun) he)
  · exact carried_told nofun
  · cases b with
    | select b => exact carried_select c s name h r
    | insert b => exact carried_insert c s name h r
    | update b => exact carried_update c s name h r
    | delete b => exact carried_delete c s name h r

end Session

end RecordSql
