import RecordSql.Proofs.Connection.Tidiness
import RecordSql.Proofs.Session.Carried
import RecordSql.Proofs.Session.Misuse
import RecordSql.Proofs.Session.Sound

/-! The statements of a session. Between two calls those that were compiled are the ones that were
finalized and the ones that the kept builders own, whatever was called before and whatever the
engine answered; and no call comes to run a builder without its statement. -/

namespace RecordSql

variable {σ α : Type}

theorem or_ne_unprepared {first next : Option Error} (h : first ≠ some unprepared)
    (h' : next ≠ some unprepared) : first.or next ≠ some unprepared := by
  cases first with
  | none => exact h'
  | some e => exact h

theorem Slot.misuse_ne (s : Slot) (clause : Clause) : s.misuse clause ≠ some unprepared := by
  unfold misuse
  split
  · exact nofun
  · exact fun h => validation_ne_unprepared (by simp) (Option.some.inj h)

namespace AnyBuilder

variable {b : AnyBuilder}

theorem build_ne (h : b.slot.error ≠ some unprepared) : b.build ≠ .error unprepared := by
  cases b with
  | select b => exact Builder.build_ne h b.content.build_ne
  | insert b => exact Builder.build_ne h b.content.build_ne
  | update b => exact Builder.build_ne h b.content.build_ne
  | delete b => exact Builder.build_ne h b.content.build_ne

theorem Sound.owned {w : World σ} (h : b.Sound w) :
    b.slot.statement = none ↔ b.stage = .unprepared := by
  cases b with
  | select b => exact Builder.Sound.owned h
  | insert b => exact Builder.Sound.owned h
  | update b => exact Builder.Sound.owned h
  | delete b => exact Builder.Sound.owned h

theorem FaultOf.expected {r : Request} {e : Error} (hf : b.FaultOf r e)
    (h : b.slot.error ≠ some unprepared) : Expected e := by
  rintro rfl
  cases hf with
  | build hb => exact build_ne h hb
  | @limited b _ hb =>
    refine Builder.build_ne ?_ (Select.build_ne _) hb
    rw [Builder.error_edit]
    exact or_ne_unprepared h (b.slot.misuse_ne _)
  | @counting b _ _ hb =>
    exact bind_ne_error (Slot.check_ne h) (fun _ => b.content.buildCount_ne) hb
  | @nesting b name _ _ hb =>
    exact bind_ne_error (Slot.check_ne h) (fun _ => b.content.subquery_ne name) hb
  | @row b _ _ hrow =>
    obtain ⟨row, hrow⟩ := hrow
    exact b.content.table.ofRow_ne row hrow
  | @field b row _ hrow => exact row.field_ne _ _ hrow
  | @values b rows _ hrows => exact mapM_ne_error b.content.table.record_ne rows hrows

end AnyBuilder

namespace Connection

variable (c : Connection σ) (recordType : String)

theorem record_ne (values : List (Option Value)) :
    c.record recordType values ≠ .error unprepared := by
  unfold Connection.record
  split
  · exact Table.record_ne _ values
  · exact nofun

theorem insertMany_ne (records : List Record) :
    c.insertMany recordType records ≠ .error unprepared :=
  bind_ne_error (c.table_ne recordType) fun _ => nofun

end Connection

namespace Session

variable {c : Connection σ} {s : Session σ}

theorem records_ne (b : AnyBuilder) (r : Request) : s.records c b r ≠ some unprepared := by
  cases b with
  | select b =>
    cases r with
    | join recordType kind on =>
      dsimp only [records, recordsSelect]
      cases ht : c.table recordType with
      | ok t => exact b.slot.misuse_ne _
      | error e => exact fun h => c.table_ne recordType (ht.trans (congrArg _ (Option.some.inj h)))
    | joinSubquery sub kind on =>
      dsimp only [records, recordsSelect]
      cases s.subquery? sub with
      | some q => exact b.slot.misuse_ne _
      | none => exact nofun
    | filter | columns | distinct | order | limit | offset => exact b.slot.misuse_ne _
    | _ => exact nofun
  | insert b =>
    cases r with
    | values rows =>
      dsimp only [records, recordsInsert]
      cases rows.mapM b.content.table.record with
      | ok records =>
        dsimp only
        split
        · exact nofun
        · exact b.slot.misuse_ne _
      | error e => exact nofun
    | onConflict clause => exact b.slot.misuse_ne _
    | _ => exact nofun
  | update b =>
    cases r with
    | filter | set => exact b.slot.misuse_ne _
    | setJson column document =>
      cases document with
      | some j => exact b.slot.misuse_ne _
      | none => exact nofun
    | _ => exact nofun
  | delete b =>
    cases r with
    | filter => exact b.slot.misuse_ne _
    | _ => exact nofun

def Sincere (c : Connection σ) (w : World σ) (result : Except Error Reply) (w' : World σ) : Prop :=
  Tells result unprepared →
    ∃ talk, w.Talks c.engine talk w' ∧ ∃ call, (call, .refused unprepared) ∈ talk

inductive Traced (c : Connection σ) (s : Session σ) : Except Error Reply → Session σ → Prop
  | acted {result : Except Error Reply} {talk : List Exchange} {w : World σ}
    (hp : s.world.Passes c.engine none none talk w) (hs : Sincere c s.world result w) :
    Traced c s result { s with world := w }
  /-- Another engine, that was asked for nothing. -/
  | adjusted (f : σ → σ) :
    Traced c s (.ok .done) { s with world := { s.world with engine := f s.world.engine } }
  | created (name : String) {b : AnyBuilder} (h : New c s b) :
    Traced c s (.ok .done) ((s.dropBuilder c name).keep name b)
  | dropped (name : String) : Traced c s (.ok .done) (s.dropBuilder c name)
  | called (name : String) (r : Request) : Traced c s (s.call c name r).1 (s.call c name r).2.2

theorem traced_stayed {result : Except Error Reply} (h : ¬Tells result unprepared) :
    Traced c s result s :=
  .acted (.refl none s.world) fun he => absurd he h

theorem traced_answer {run : Run σ α} (h : run.Tidy c.engine Expected) {reply : α → Reply}
    (hreply : ∀ a items, reply a ≠ .items items) :
    Traced c s (s.answer run reply).1 (s.answer run reply).2 := by
  obtain ⟨talk, hp, hf⟩ := h s.world
  refine .acted hp fun he => ⟨talk, hp.talks, ?_⟩
  exact (hf _ (tells_map hreply he)).resolve_left fun hu => hu rfl

theorem traced_create {name : String} {r : Except Error AnyBuilder}
    (h : ∀ b, r = .ok b → New c s b) (hr : r ≠ .error unprepared) :
    Traced c s (s.create c name r).1 (s.create c name r).2 := by
  cases r with
  | ok b => exact .created name (h b rfl)
  | error e =>
    refine traced_stayed fun he => ?_
    cases he
    exact hr rfl

theorem traced_perform (op : Op σ) : Traced c s (s.perform c op).1 (s.perform c op).2.2 := by
  have hcreate (recordType : String) (values : List (List (Option Value))) :
      (do
        let records ← values.mapM (c.record recordType)
        return .insert (← c.insertMany recordType records) : Except Error AnyBuilder) ≠
        .error unprepared :=
    bind_ne_error (mapM_ne_error (c.record_ne recordType) values) fun records =>
      bind_ne_error (c.insertMany_ne recordType records) fun _ => nofun
  have htable {κ : Type} (recordType : String) (f : Table → Builder κ)
      (g : Builder κ → AnyBuilder) :
      (do return f (← c.table recordType) : Except Error (Builder κ)).map g ≠ .error unprepared :=
    map_ne_error (bind_ne_error (c.table_ne recordType) fun _ => nofun)
  cases op with
  | adjust f => exact .adjusted f
  | createTables ifNotExists => exact traced_answer (c.tidy_createTables ifNotExists) (by nofun)
  | setForeignKeys enabled => exact traced_answer (c.tidy_setForeignKeys enabled) (by nofun)
  | countTables => exact traced_answer c.tidy_countTables (by nofun)
  | batch sql => exact traced_answer (c.tidy_batch sql) (by nofun)
  | lastInsertRowid => exact traced_answer (.observe _) (by nofun)
  | inspect => exact traced_stayed nofun
  | tables => exact traced_stayed nofun
  | table recordType =>
    exact traced_stayed fun he => c.table_ne recordType (tells_map (by nofun) he)
  | select name recordType => exact traced_create new_select (htable recordType _ _)
  | selectFrom name recordType sub =>
    dsimp only [perform]
    cases hq : s.subquery? sub with
    | none => exact traced_stayed nofun
    | some q => exact traced_create (new_selectFrom hq) (htable recordType _ _)
  | insert name recordType values => exact traced_create new_insert (hcreate recordType [values])
  | insertMany name recordType rows => exact traced_create new_insert (hcreate recordType rows)
  | update name recordType => exact traced_create new_update (htable recordType _ _)
  | delete name recordType => exact traced_create new_delete (htable recordType _ _)
  | insertRecord recordType values =>
    exact traced_answer ((c.tidy_ofExcept (c.record_ne recordType values)).bind fun r =>
      c.tidy_insertRecord recordType r) (by nofun)
  | insertManyRecords recordType rows batchSize =>
    exact traced_answer ((c.tidy_ofExcept (mapM_ne_error (c.record_ne recordType) rows)).bind
      fun rs => c.tidy_insertManyRecords recordType rs batchSize) (by nofun)
  | updateRecord recordType values =>
    exact traced_answer ((c.tidy_ofExcept (c.record_ne recordType values)).bind fun r =>
      c.tidy_updateRecord recordType r) (by nofun)
  | findRecord recordType key => exact traced_answer (c.tidy_findRecord recordType key) (by nofun)
  | deleteRecord recordType key =>
    exact traced_answer (c.tidy_deleteRecord recordType key) (by nofun)
  | first recordType => exact traced_answer (c.tidy_extreme recordType .asc) (by nofun)
  | last recordType => exact traced_answer (c.tidy_extreme recordType .desc) (by nofun)
  | truncate recordType => exact traced_answer (c.tidy_truncate recordType) (by nofun)
  | drop name => exact .dropped name
  | call name r => exact .called name r

theorem New.error {b : AnyBuilder} (h : New c s b) : b.slot.error = none := by
  cases h with
  | insert ht records => exact congrArg Slot.error (Builder.slot_edits rfl _)
  | _ => rfl

def total (φ : StatementId → ℤ) (builders : List (String × AnyBuilder)) : ℤ :=
  (builders.map fun x => worth φ x.2.slot.statement).sum

def owned (s : Session σ) : List StatementId := s.builders.filterMap (·.2.slot.statement)

theorem total_eq (φ : StatementId → ℤ) (builders : List (String × AnyBuilder)) :
    total φ builders = ((builders.filterMap (·.2.slot.statement)).map φ).sum := by
  induction builders with
  | nil => rfl
  | cons x rest ih =>
    unfold total at ih ⊢
    rw [List.map_cons, List.sum_cons, ih]
    cases hx : x.2.slot.statement <;> simp [hx]

theorem total_without {builders : List (String × AnyBuilder)} {name : String} {b : AnyBuilder}
    (hd : (builders.map Prod.fst).Nodup) (hb : (name, b) ∈ builders) (φ : StatementId → ℤ) :
    total φ builders =
      worth φ b.slot.statement + total φ (builders.filter (·.1 ≠ name)) := by
  induction builders with
  | nil => cases hb
  | cons x rest ih =>
    obtain ⟨hx, hrest⟩ := List.nodup_cons.1 hd
    rcases List.mem_cons.1 hb with rfl | hb
    · have hself : rest.filter (·.1 ≠ name) = rest := by
        refine List.filter_eq_self.2 fun y hy => decide_eq_true fun hn => ?_
        exact hx (List.mem_map.2 ⟨y, hy, hn⟩)
      rw [List.filter_cons_of_neg (by simp), hself]
      rfl
    · have hne : x.1 ≠ name := fun hn => hx (List.mem_map.2 ⟨(name, b), hb, hn.symm⟩)
      have hrest := ih hrest hb
      rw [List.filter_cons_of_pos (by simpa using hne)]
      unfold total at hrest ⊢
      rw [List.map_cons, List.sum_cons, List.map_cons, List.sum_cons, hrest, add_left_comm]

theorem builder?_eq_none {name : String} (h : s.builder? name = none) :
    (s.without name).builders = s.builders := by
  refine List.filter_eq_self.2 fun x hx => decide_eq_true fun hn => ?_
  have hf := List.find?_eq_none.1 (Option.map_eq_none_iff.1 h) x hx
  exact hf (decide_eq_true hn)

structure Balanced (s : Session σ) : Prop where
  distinct : (s.builders.map Prod.fst).Nodup
  accounted : s.world.Accounted (total · s.builders)
  recorded : ∀ x ∈ s.builders, x.2.slot.error ≠ some unprepared

namespace Balanced

theorem acted (h : s.Balanced) {E : Engine σ} {talk : List Exchange} {w : World σ}
    (hp : s.world.Passes E none none talk w) : ({ s with world := w } : Session σ).Balanced where
  distinct := h.distinct
  accounted := hp.accounted h.accounted fun _ => rfl
  recorded := h.recorded

theorem others (h : s.Balanced) {name : String} {b : AnyBuilder} (hb : s.builder? name = some b)
    {E : Engine σ} {own : Option StatementId} {talk : List Exchange} {w : World σ}
    (hp : s.world.Passes E b.slot.statement own talk w) :
    ((s.without name).builders.map Prod.fst).Nodup ∧
      w.Accounted (fun φ => worth φ own + total φ (s.without name).builders) ∧
      ∀ x ∈ (s.without name).builders, x.2.slot.error ≠ some unprepared := by
  refine ⟨h.distinct.sublist (List.filter_sublist.map _), hp.accounted h.accounted fun φ => ?_,
    fun x hx => h.recorded x (List.mem_of_mem_filter hx)⟩
  rw [total_without h.distinct (mem_of_builder? hb) φ]
  change _ = worth φ own + total φ (s.builders.filter _) + _
  omega

theorem dropBuilder (h : s.Balanced) (c : Connection σ) (name : String) :
    (s.dropBuilder c name).Balanced := by
  unfold Session.dropBuilder
  cases hb : s.builder? name with
  | none => exact h
  | some b =>
    have hdrop : ∃ talk, s.world.Passes c.engine b.slot.statement none talk
        (b.drop c s.world).2 := by
      cases b with
      | select b => exact b.passes_drop c s.world
      | insert b => exact b.passes_drop c s.world
      | update b => exact b.passes_drop c s.world
      | delete b => exact b.passes_drop c s.world
    obtain ⟨talk, hp⟩ := hdrop
    obtain ⟨hd, ha, hr⟩ := h.others hb hp
    exact ⟨hd, ha.of_none, hr⟩

theorem keep {name : String} {b : AnyBuilder}
    (hd : ((s.without name).builders.map Prod.fst).Nodup)
    (ha : s.world.Accounted fun φ => worth φ b.slot.statement + total φ (s.without name).builders)
    (hr : ∀ x ∈ (s.without name).builders, x.2.slot.error ≠ some unprepared)
    (hb : b.slot.error ≠ some unprepared) : (s.keep name b).Balanced where
  distinct := by
    refine List.nodup_cons.2 ⟨fun hn => ?_, hd⟩
    obtain ⟨x, hx, rfl⟩ := List.mem_map.1 hn
    simpa using (List.mem_filter.1 hx).2
  accounted := ha
  recorded := List.forall_mem_cons.2 ⟨hb, hr⟩

theorem create (h : s.Balanced) (c : Connection σ) (name : String) {b : AnyBuilder}
    (hb : New c s b) : ((s.dropBuilder c name).keep name b).Balanced := by
  have hd := h.dropBuilder c name
  have hw : ((s.dropBuilder c name).without name).builders = (s.dropBuilder c name).builders := by
    unfold Session.dropBuilder
    cases hn : s.builder? name with
    | none => exact builder?_eq_none hn
    | some b' => simp [Session.without, List.filter_filter]
  refine keep ?_ ?_ ?_ ?_
  · rw [hw]
    exact hd.distinct
  · rw [hw, hb.statement]
    simpa using hd.accounted
  · rw [hw]
    exact hd.recorded
  · simp [hb.error]

theorem call (h : s.Balanced) (hs : s.Sound) (c : Connection σ) (name : String) (r : Request) :
    (s.call c name r).2.2.Balanced := by
  cases hb : s.builder? name with
  | none =>
    rw [call_of_none hb]
    exact h
  | some b =>
    have hm := mem_of_builder? hb
    have ha := answered_request s c name (hs.builders _ hm) r
    have hrec := s.records_request c name (hs.builders _ hm) r
    obtain ⟨talk, hp, -⟩ := carried_request c s name (hs.builders _ hm) r
    rw [call_of_some hb]
    generalize s.request c name b r = called at ha hrec hp
    have hw : (called.session.without name).builders = (s.without name).builders := by
      rw [Session.without, Session.without, ha.builders]
    obtain ⟨hd, hacc, hr⟩ := h.others hb hp
    rw [← hw] at hd hacc hr
    cases hc : called.builder with
    | none =>
      rw [hc] at hacc
      exact ⟨hd, hacc.of_none, hr⟩
    | some b' =>
      rw [hc] at hacc
      refine keep hd hacc hr ?_
      rw [hrec b' hc]
      exact or_ne_unprepared (h.recorded _ hm) (records_ne b r)

theorem traced (h : s.Balanced) (hs : s.Sound) {result : Except Error Reply} {s' : Session σ}
    (ht : Traced c s result s') : s'.Balanced := by
  cases ht with
  | acted hp => exact h.acted hp
  | adjusted f => exact ⟨h.distinct, ⟨h.accounted.ledger, h.accounted.attempts⟩, h.recorded⟩
  | created name hb => exact h.create c name hb
  | dropped name => exact h.dropBuilder c name
  | called name r => exact h.call hs c name r

end Balanced

theorem Reached.balanced (h : Reached c s) : s.Balanced := by
  induction h with
  | @opened state config declarations w hw =>
    obtain ⟨talk, hp⟩ := Connection.passes_openOn c.engine config declarations { engine := state }
    have hw' : (Connection.openOn c.engine config declarations { engine := state }).2 = w :=
      congrArg Prod.snd hw
    rw [hw'] at hp
    have hempty : World.Accounted ({ engine := state } : World σ) fun _ => 0 := ⟨fun _ => rfl, rfl⟩
    exact ⟨.nil, hp.accounted hempty fun _ => by simp [total], by simp⟩
  | @moved s h m ih =>
    have hs := h.sound
    cases m with
    | perform op => exact ih.traced hs (traced_perform op)
    | begin =>
      obtain ⟨talk, hp, -⟩ := c.tidy_beginLevel (Q := fun _ => True) s.world
      exact ih.acted hp
    | finish nested outcome =>
      obtain ⟨talk, hp, -⟩ :=
        c.tidy_endLevel (Q := fun _ => True) (fun _ => trivial) nested outcome s.world
      exact ih.acted hp

/-- The statements of a session are settled: every one that was compiled was finalized once or has
one owner, and the next operation, whichever it is, does not come to miss one. -/
structure Settled (c : Connection σ) (s : Session σ) : Prop where
  distinct : (s.builders.map Prod.fst).Nodup
  holds : ∀ x ∈ s.builders, x.2.slot.statement.isSome ↔ x.2.stage ≠ .unprepared
  once : (compiled (calls s.world.journal)).Nodup
  accounted : (compiled (calls s.world.journal)).Perm
    (finalized (calls s.world.journal) ++ s.owned)
  count : ((compiled (calls s.world.journal)).length : ℤ) -
    (finalized (calls s.world.journal)).length =
      (s.builders.filter (·.2.stage ≠ .unprepared)).length
  live : ∀ i ∈ s.owned, i ∈ compiled (calls s.world.journal) ∧
    i ∉ finalized (calls s.world.journal)
  sincere : ∀ op, Sincere c s.world (s.perform c op).1 (s.perform c op).2.2.world

theorem length_owned {builders : List (String × AnyBuilder)}
    (h : ∀ x ∈ builders, x.2.slot.statement.isSome ↔ x.2.stage ≠ .unprepared) :
    (builders.filterMap (·.2.slot.statement)).length =
      (builders.filter (·.2.stage ≠ .unprepared)).length := by
  rw [List.length_filterMap_eq_countP, ← List.countP_eq_length_filter]
  exact List.countP_congr fun x hx => (h x hx).trans decide_eq_true_iff.symm

theorem Traced.sincere (h : s.Balanced) (hs : s.Sound) {result : Except Error Reply}
    {s' : Session σ} (ht : Traced c s result s') : Sincere c s.world result s'.world := by
  cases ht with
  | acted _ hs => exact hs
  | adjusted | created | dropped => exact nofun
  | called name r =>
    intro he
    cases hb : s.builder? name with
    | none =>
      unfold call at he
      rw [hb] at he
      cases he
    | some b =>
      have hm := mem_of_builder? hb
      obtain ⟨talk, hp, hf⟩ := carried_request c s name (hs.builders _ hm) r
      obtain ⟨hresult, hworld⟩ := call_world (c := c) (r := r) hb
      rw [hresult] at he
      rw [hworld]
      refine ⟨talk, hp.talks, (hf _ he).resolve_left fun hu => ?_⟩
      exact hu.expected (h.recorded _ hm) rfl

theorem Reached.settled (h : Reached c s) : Settled c s := by
  have hb := h.balanced
  have hholds : ∀ x ∈ s.builders, x.2.slot.statement.isSome ↔ x.2.stage ≠ .unprepared :=
    fun x hx => Option.isSome_iff_ne_none.trans
      (AnyBuilder.Sound.owned (h.sound.builders x hx)).not
  have honce : (compiled (calls s.world.journal)).Nodup := by
    refine List.Nodup.sublist (compiled_sublist _) ?_
    rw [hb.accounted.attempts]
    exact List.nodup_range
  have hperm : (compiled (calls s.world.journal)).Perm
      (finalized (calls s.world.journal) ++ s.owned) :=
    compiled_perm fun φ => (hb.accounted.ledger φ).trans (total_eq φ s.builders)
  refine ⟨hb.distinct, hholds, honce, hperm, ?_, fun i hi => ?_,
    fun op => (traced_perform op).sincere hb h.sound⟩
  · rw [hperm.length_eq, List.length_append, ← length_owned hholds]
    unfold owned
    omega
  · have hd := List.nodup_append.1 (hperm.nodup_iff.1 honce)
    exact ⟨hperm.mem_iff.2 (List.mem_append_right _ hi), fun hf => hd.2.2 i hf i hi rfl⟩

namespace Notes

def partly : List (Move Script.State) :=
  [.perform (.select "q" "Note"), .perform (.call "q" (.rows 1)), .perform (.delete "d" "Note"),
    .perform (.call "d" .prepare), .perform (.truncate "Note"), .perform (.call "q" .count)]

theorem partly_settled :
    let s := (opened flaky).moves connection partly
    Settled connection s ∧ compiled (calls s.world.journal) = [0, 2, 3] ∧
      finalized (calls s.world.journal) = [2, 3] ∧ s.owned = [0] :=
  ⟨(reached_flaky.moves partly).settled, by decide, by decide, by decide⟩

end Notes

end Session

end RecordSql
