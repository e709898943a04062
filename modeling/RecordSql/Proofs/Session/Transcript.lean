import RecordSql.Proofs.Builder.Transcript
import RecordSql.Proofs.Session.Reached
import RecordSql.Proofs.Session.Calls

/-! Whole sessions under all settings of the log: the engine is asked for the same and the same is
told of it, and where statements are logged each text that goes to the engine is announced directly
before. -/

namespace RecordSql.Session

variable {σ κ α : Type}

def withJournal (s : Session σ) (journal : List Entry) : Session σ :=
  { s with world := { s.world with journal } }

section

variable {P : StatementKind → Sql → Prop} (c : Connection σ) (s : Session σ)

theorem act_withJournal {a : LogConfig → Act σ α} (h : Act.Uniform P a) :
    ∃ x lines w, Line.Compile P lines ∧ ∀ log journal, (s.withJournal journal).act (a log) =
      (x, ({ s with world := w } : Session σ).withJournal (journal ++ Line.journal log lines)) := by
  obtain ⟨x, lines, state, fresh, hP, h⟩ := h s.world.engine s.world.fresh
  refine ⟨x, lines, ⟨state, [], fresh⟩, hP, fun log journal => ?_⟩
  have h : a log (s.withJournal journal).world = _ := h log journal
  rw [act, h]
  rfl

def Called.withJournal (called : Called σ) (journal : List Entry) : Called σ :=
  { called with session := called.session.withJournal journal }

def CalledAlike (P : StatementKind → Sql → Prop) (s : Session σ)
    (f : LogConfig → Session σ → Called σ) : Prop :=
  ∃ (called : Called σ) (lines : List Line), Line.Compile P lines ∧ ∀ log journal,
    f log (s.withJournal journal) = called.withJournal (journal ++ Line.journal log lines)

variable {s} in
theorem CalledAlike.of_eq {f g : LogConfig → Session σ → Called σ} (h : CalledAlike P s g)
    (heq : ∀ log journal, f log (s.withJournal journal) = g log (s.withJournal journal)) :
    CalledAlike P s f := by
  obtain ⟨called, lines, hP, h⟩ := h
  exact ⟨called, lines, hP, fun log journal => (heq log journal).trans (h log journal)⟩

theorem calledAlike_silent {f : Session σ → Called σ}
    (h : ∀ journal, f (s.withJournal journal) = (f s).withJournal journal) :
    CalledAlike P s fun _ s => f s :=
  ⟨f s, [], Line.compile_nil, fun _ journal => by
    rw [Line.journal_nil, List.append_nil]
    exact h journal⟩

theorem calledAlike_told (b : AnyBuilder) (result : Except Error Reply) :
    CalledAlike P s fun _ s => s.told b result := calledAlike_silent s fun _ => rfl

theorem calledAlike_changed (b : AnyBuilder) : CalledAlike P s fun _ s => s.changed b :=
  calledAlike_told s b _

theorem calledAlike_keptSubquery (b : AnyBuilder) (key : String) (q : Subquery) :
    CalledAlike P s fun _ s => (s.keepSubquery key q).told b (.ok (.subquery q)) :=
  calledAlike_silent s fun _ => rfl

theorem calledAlike_worked {a : LogConfig → Act σ (Except Error α × Builder κ)}
    (h : Act.Uniform P a) (wrap : Builder κ → AnyBuilder) (reply : α → Reply) :
    CalledAlike P s fun log s => s.worked wrap reply (a log) := by
  obtain ⟨x, lines, w, hP, h⟩ := s.act_withJournal h
  refine ⟨⟨x.1.map reply, some (wrap x.2), { s with world := w }⟩, lines, hP,
    fun log journal => ?_⟩
  dsimp only
  rw [worked, h]
  rfl

theorem calledAlike_used {run : LogConfig → Run σ α} (h : Run.Uniform P run) (reply : α → Reply) :
    CalledAlike P s fun log s => s.used reply (run log) := by
  obtain ⟨x, lines, w, hP, h⟩ := s.act_withJournal h
  refine ⟨⟨x.map reply, none, { s with world := w }⟩, lines, hP, fun log journal => ?_⟩
  dsimp only
  rw [used, answer, h]
  rfl

theorem calledAlike_answered {run : LogConfig → Run σ α} (h : Run.Uniform P run)
    (reply : α → Reply) (b : AnyBuilder) :
    CalledAlike P s fun log s =>
      (s.answer (run log) reply).2.told b (s.answer (run log) reply).1 := by
  obtain ⟨x, lines, w, hP, h⟩ := s.act_withJournal h
  refine ⟨⟨x.map reply, some b, { s with world := w }⟩, lines, hP, fun log journal => ?_⟩
  dsimp only
  rw [answer, h]
  rfl

theorem calledAlike_select (name : String) (b : Builder Select) (r : Request)
    (hP : ∀ sql, AnyBuilder.asked (.select b) r = .ok sql → P .select sql) :
    CalledAlike P s fun log s => s.callSelect (c.withLog log) name b r := by
  cases r with
  | filter | columns | distinct | order | limit | offset => exact calledAlike_changed s _
  | join recordType kind on =>
    exact calledAlike_changed s (.select (b.joinRecords c recordType kind on))
  | joinSubquery sub kind on =>
    cases hq : s.subquery? sub with
    | some q =>
      refine (calledAlike_changed s (.select (b.edit (Select.Edit.join kind q.source on)))).of_eq
        fun log journal => ?_
      have hq : (s.withJournal journal).subquery? sub = some q := hq
      rw [callSelect, hq]
    | none =>
      refine (calledAlike_told s (.select b) (.ok (.missing sub))).of_eq fun log journal => ?_
      have hq : (s.withJournal journal).subquery? sub = none := hq
      rw [callSelect, hq]
  | buildCount => exact calledAlike_told s _ _
  | count => exact calledAlike_answered s (Builder.uniform_count c hP) _ _
  | subquery sub key =>
    cases hq : b.subquery sub with
    | ok q =>
      refine (calledAlike_keptSubquery s (.select b) key q).of_eq fun log journal => ?_
      rw [callSelect, hq]
    | error e =>
      refine (calledAlike_told s (.select b) (.error e)).of_eq fun log journal => ?_
      rw [callSelect, hq]
  | prepare => exact calledAlike_worked s (Builder.uniform_prepare c hP) _ _
  | rows n => exact calledAlike_worked s (Builder.uniform_rows c hP n) _ _
  | fetchAll => exact calledAlike_used s (Builder.uniform_fetchAll c hP) _
  | fetchFirst => exact calledAlike_used s (Builder.uniform_fetchFirst c hP) _
  | fetchOne => exact calledAlike_used s (Builder.uniform_fetchOne c hP) _
  | one => exact calledAlike_used s (Builder.uniform_one c hP) _
  | build | text | stage | set | setJson | values | onConflict | exec =>
    exact calledAlike_told s _ _

theorem calledAlike_insert (name : String) (b : Builder Insert) (r : Request)
    (hP : ∀ sql, b.build = .ok sql → P .insert sql) :
    CalledAlike P s fun log s => s.callInsert (c.withLog log) name b r := by
  cases r with
  | values rows =>
    cases hr : rows.mapM b.content.table.record with
    | ok records =>
      refine (calledAlike_told s (.insert (b.addRecords records))
        (.ok (.rowCount (b.addRecords records).content.rows.length))).of_eq fun log journal => ?_
      rw [callInsert, hr]
    | error e =>
      refine (calledAlike_told s (.insert b) (.error e)).of_eq fun log journal => ?_
      rw [callInsert, hr]
  | onConflict clause => exact calledAlike_changed s _
  | prepare => exact calledAlike_worked s (Builder.uniform_prepare c hP) _ _
  | exec => exact calledAlike_worked s (Builder.uniform_exec c hP) _ _
  | _ => exact calledAlike_told s _ _

theorem calledAlike_update (name : String) (b : Builder Update) (r : Request)
    (hP : ∀ sql, b.build = .ok sql → P .update sql) :
    CalledAlike P s fun log s => s.callUpdate (c.withLog log) name b r := by
  cases r with
  | filter | set | setJson => exact calledAlike_changed s _
  | prepare => exact calledAlike_worked s (Builder.uniform_prepare c hP) _ _
  | exec => exact calledAlike_worked s (Builder.uniform_exec c hP) _ _
  | _ => exact calledAlike_told s _ _

theorem calledAlike_delete (name : String) (b : Builder Delete) (r : Request)
    (hP : ∀ sql, b.build = .ok sql → P .delete sql) :
    CalledAlike P s fun log s => s.callDelete (c.withLog log) name b r := by
  cases r with
  | filter => exact calledAlike_changed s _
  | prepare => exact calledAlike_worked s (Builder.uniform_prepare c hP) _ _
  | exec => exact calledAlike_worked s (Builder.uniform_exec c hP) _ _
  | _ => exact calledAlike_told s _ _

theorem calledAlike_request (name : String) (b : AnyBuilder) (r : Request)
    (hP : ∀ sql, b.asked r = .ok sql → P b.kind sql) :
    CalledAlike P s fun log s => s.request (c.withLog log) name b r := by
  unfold request
  split
  · exact calledAlike_told s _ _
  · exact calledAlike_told s _ _
  · exact calledAlike_told s _ _
  · cases b with
    | select b => exact calledAlike_select c s name b r hP
    | insert b => exact calledAlike_insert c s name b r hP
    | update b => exact calledAlike_update c s name b r hP
    | delete b => exact calledAlike_delete c s name b r hP

def PerformedAlike (P : StatementKind → Sql → Prop) (s : Session σ)
    (f : LogConfig → Session σ → Except Error Reply × Option Stage × Session σ) : Prop :=
  ∃ (result : Except Error Reply) (stage : Option Stage) (lines : List Line) (s' : Session σ),
    Line.Compile P lines ∧ ∀ log journal,
      f log (s.withJournal journal) =
        (result, stage, s'.withJournal (journal ++ Line.journal log lines))

theorem performedAlike_call (name : String) (r : Request) :
    PerformedAlike
      (fun kind sql => ∃ b, s.builder? name = some b ∧ kind = b.kind ∧ b.asked r = .ok sql) s
      fun log s => s.call (c.withLog log) name r := by
  refine ⟨(s.call c name r).1, (s.call c name r).2.1, ?_⟩
  cases hb : s.builder? name with
  | none =>
    refine ⟨[], s, Line.compile_nil, fun log journal => ?_⟩
    have hb' : (s.withJournal journal).builder? name = none := hb
    simp only [call, hb, hb', Line.journal_nil, List.append_nil]
  | some b =>
    obtain ⟨called, lines, hP, h⟩ := calledAlike_request
      (P := fun kind sql => ∃ b', some b = some b' ∧ kind = b'.kind ∧ b'.asked r = .ok sql)
      c s name b r fun sql hsql => ⟨b, rfl, rfl, hsql⟩
    refine ⟨lines, (s.call c name r).2.2, hP, fun log journal => ?_⟩
    have hb' : (s.withJournal journal).builder? name = some b := hb
    have h' : (s.withJournal journal).request (c.withLog log) name b r = _ := h log journal
    have hbase : s.request c name b r = _ := h c.config.log s.world.journal
    simp only [call, hb, hb', h', hbase]
    cases hcalled : called.builder <;> simp only [Called.withJournal, hcalled] <;> rfl

variable {s} in
theorem PerformedAlike.of_eq
    {f g : LogConfig → Session σ → Except Error Reply × Option Stage × Session σ}
    (h : PerformedAlike P s g)
    (heq : ∀ log journal, f log (s.withJournal journal) = g log (s.withJournal journal)) :
    PerformedAlike P s f := by
  obtain ⟨result, stage, lines, s', hP, h⟩ := h
  exact ⟨result, stage, lines, s', hP, fun log journal => (heq log journal).trans (h log journal)⟩

theorem performedAlike_told (result : Except Error Reply) :
    PerformedAlike P s fun _ s => (result, none, s) :=
  ⟨result, none, [], s, Line.compile_nil, fun _ journal => by
    rw [Line.journal_nil, List.append_nil]⟩

theorem performedAlike_answer {run : LogConfig → Run σ α} (h : Run.Uniform P run)
    (reply : α → Reply) :
    PerformedAlike P s fun log s => perform.plain (s.answer (run log) reply) := by
  obtain ⟨x, lines, w, hP, h⟩ := s.act_withJournal h
  refine ⟨x.map reply, none, lines, { s with world := w }, hP, fun log journal => ?_⟩
  dsimp only
  rw [answer, h]
  rfl

theorem dropBuilder_withJournal (name : String) :
    ∃ (lines : List Line) (s' : Session σ), Line.Compile P lines ∧ ∀ log journal,
      (s.withJournal journal).dropBuilder (c.withLog log) name =
        s'.withJournal (journal ++ Line.journal log lines) := by
  cases hb : s.builder? name with
  | none =>
    refine ⟨[], s, Line.compile_nil, fun log journal => ?_⟩
    have hb : (s.withJournal journal).builder? name = none := hb
    simp only [dropBuilder, hb, Line.journal_nil, List.append_nil]
  | some b =>
    have hdrop : Act.Uniform P fun log => b.drop (c.withLog log) := by
      cases b with
      | _ b => exact b.uniform_drop c
    obtain ⟨x, lines, w, hP, h⟩ := s.act_withJournal hdrop
    refine ⟨lines, ({ s with world := w } : Session σ).without name, hP, fun log journal => ?_⟩
    have hb : (s.withJournal journal).builder? name = some b := hb
    simp only [dropBuilder, hb, h]
    rfl

theorem performedAlike_create (name : String) (r : Except Error AnyBuilder) :
    PerformedAlike P s fun log s => perform.plain (s.create (c.withLog log) name r) := by
  cases r with
  | error e => exact performedAlike_told s (.error e)
  | ok b =>
    obtain ⟨lines, s', hP, h⟩ := dropBuilder_withJournal (P := P) c s name
    refine ⟨.ok .done, none, lines, s'.keep name b, hP, fun log journal => ?_⟩
    simp only [create, perform.plain, h]
    rfl

theorem performedAlike_createInsert (name recordType : String)
    (values : List (List (Option Value))) :
    PerformedAlike P s fun log s =>
      perform.plain (s.createInsert (c.withLog log) name recordType values) :=
  performedAlike_create c s name do
    let records ← values.mapM (c.record recordType)
    return .insert (← c.insertMany recordType records)

end

/-- What a move can have compiled: what the builder that is called is asked to build, or what some
builder of a call on whole records builds. -/
def Move.Compiles (s : Session σ) : Move σ → StatementKind → Sql → Prop
  | .perform (.call name r), kind, sql =>
    ∃ b, s.builder? name = some b ∧ kind = b.kind ∧ b.asked r = .ok sql
  | .perform .countTables, kind, sql => kind = .select ∧ sql.params = []
  | .perform _, kind, sql => ∃ b : AnyBuilder, kind = b.kind ∧ b.build = .ok sql
  | _, _, _ => False

/-- All but the description of the connection, which shows the settings of the log. -/
theorem performedAlike_perform (c : Connection σ) (s : Session σ) (op : Op σ)
    (hop : op ≠ .inspect) :
    PerformedAlike (Move.Compiles s (.perform op)) s fun log s => s.perform (c.withLog log) op := by
  have hbuilt (b : AnyBuilder) (sql : Sql) (hb : b.build = .ok sql) :
      ∃ b' : AnyBuilder, b.kind = b'.kind ∧ b'.build = .ok sql := ⟨b, rfl, hb⟩
  cases op with
  | inspect => exact absurd rfl hop
  | adjust f =>
    refine ⟨.ok .done, none, [], { s with world := { s.world with engine := f s.world.engine } },
      Line.compile_nil, fun log journal => ?_⟩
    rw [Line.journal_nil, List.append_nil]
    rfl
  | createTables ifNotExists => exact performedAlike_answer s (c.uniform_createTables ifNotExists) _
  | setForeignKeys enabled => exact performedAlike_answer s (c.uniform_setForeignKeys enabled) _
  | countTables =>
    exact performedAlike_answer s (c.uniform_countTables fun sql h => ⟨rfl, h⟩) _
  | batch sql => exact performedAlike_answer s (c.uniform_batch sql) _
  | lastInsertRowid =>
    have hrowid := Act.uniform_observe (P := Move.Compiles s (.perform .lastInsertRowid))
      c.engine.lastInsertRowid
    exact performedAlike_answer s (Run.uniform_lift hrowid) _
  | tables => exact performedAlike_told s (.ok (.tables c.schema.tables))
  | table recordType => exact performedAlike_told s ((c.table recordType).map .table)
  | select name recordType =>
    exact performedAlike_create c s name ((c.select recordType).map .select)
  | selectFrom name recordType sub =>
    cases hq : s.subquery? sub with
    | none =>
      refine (performedAlike_told s (.ok (.missing sub))).of_eq fun log journal => ?_
      have hq : (s.withJournal journal).subquery? sub = none := hq
      simp only [perform, hq]
    | some q =>
      refine (performedAlike_create c s name ((c.selectFrom recordType q).map .select)).of_eq
        fun log journal => ?_
      have hq : (s.withJournal journal).subquery? sub = some q := hq
      simp only [perform, hq]
      rfl
  | insert name recordType values => exact performedAlike_createInsert c s name recordType [values]
  | insertMany name recordType rows => exact performedAlike_createInsert c s name recordType rows
  | update name recordType =>
    exact performedAlike_create c s name ((c.update recordType).map .update)
  | delete name recordType =>
    exact performedAlike_create c s name ((c.delete recordType).map .delete)
  | insertRecord recordType values =>
    exact performedAlike_answer s ((Run.uniform_ofExcept (c.record recordType values)).bind
      fun r => c.uniform_insertRecord hbuilt recordType r) _
  | insertManyRecords recordType rows batchSize =>
    exact performedAlike_answer s ((Run.uniform_ofExcept (rows.mapM (c.record recordType))).bind
      fun rs => c.uniform_insertManyRecords hbuilt recordType rs batchSize) _
  | updateRecord recordType values =>
    exact performedAlike_answer s ((Run.uniform_ofExcept (c.record recordType values)).bind
      fun r => c.uniform_updateRecord hbuilt recordType r) _
  | findRecord recordType key =>
    exact performedAlike_answer s (c.uniform_findRecord hbuilt recordType key) _
  | deleteRecord recordType key =>
    exact performedAlike_answer s (c.uniform_deleteRecord hbuilt recordType key) _
  | first recordType => exact performedAlike_answer s (c.uniform_extreme hbuilt recordType .asc) _
  | last recordType => exact performedAlike_answer s (c.uniform_extreme hbuilt recordType .desc) _
  | truncate recordType => exact performedAlike_answer s (c.uniform_truncate hbuilt recordType) _
  | drop name =>
    obtain ⟨lines, s', hP, h⟩ := dropBuilder_withJournal c s name
    refine ⟨.ok .done, none, lines, s', hP, fun log journal => ?_⟩
    simp only [perform, h]
  | call name r => exact performedAlike_call c s name r

/-- What is told of a move. Of the description of the connection, which shows the settings of the
log, it is only told that it was given. -/
inductive Told where
  | reply (result : Except Error Reply) (stage : Option Stage)
  | begun (nested : Except Error Bool)
  | finished (result : Except Error Unit)
  | described

def Move.told (c : Connection σ) (s : Session σ) : Move σ → Told
  | .perform .inspect => .described
  | .perform op => .reply (s.perform c op).1 (s.perform c op).2.1
  | .begin => .begun (s.act c.beginLevel.run).1
  | .finish nested outcome => .finished (s.act (c.endLevel nested outcome).run).1

theorem Move.told_perform (c : Connection σ) (s : Session σ) {op : Op σ} (hop : op ≠ .inspect) :
    Move.told c s (.perform op) = .reply (s.perform c op).1 (s.perform c op).2.1 := by
  cases op with
  | inspect => exact absurd rfl hop
  | _ => rfl

def tolds (c : Connection σ) : Session σ → List (Move σ) → List Told
  | _, [] => []
  | s, m :: rest => m.told c s :: tolds c (s.move c m) rest

structure Mirrors (c : Connection σ) (s : Session σ) (m : Move σ) (lines : List Line) : Prop where
  compiled : Line.Compile (m.Compiles s) lines
  told : ∀ log journal, m.told (c.withLog log) (s.withJournal journal) = m.told c s
  moved : ∀ log journal, (s.withJournal journal).move (c.withLog log) m =
    (s.move c m).withJournal (journal ++ Line.journal log lines)

theorem mirrors_act {c : Connection σ} {s : Session σ} {m : Move σ} {a : LogConfig → Act σ α}
    {tell : α → Told} (h : Act.Uniform (m.Compiles s) a)
    (htold : ∀ log (s : Session σ), m.told (c.withLog log) s = tell (s.act (a log)).1)
    (hmove : ∀ log (s : Session σ), s.move (c.withLog log) m = (s.act (a log)).2) :
    ∃ lines, Mirrors c s m lines := by
  obtain ⟨x, lines, w, hP, h⟩ := s.act_withJournal h
  have hbase : s.act (a c.config.log) = _ := h c.config.log s.world.journal
  refine ⟨lines, hP, fun log journal => ?_, fun log journal => ?_⟩
  · have htold' : m.told c s = _ := htold c.config.log s
    rw [htold, h, htold', hbase]
  · have hmove' : s.move c m = _ := hmove c.config.log s
    rw [hmove, h, hmove', hbase]
    rfl

theorem exists_mirrors (c : Connection σ) (s : Session σ) (m : Move σ) :
    ∃ lines, Mirrors c s m lines := by
  cases m with
  | begin => exact mirrors_act c.uniform_beginLevel (fun _ _ => rfl) fun _ _ => rfl
  | finish nested outcome =>
    exact mirrors_act (c.uniform_endLevel nested outcome) (fun _ _ => rfl) fun _ _ => rfl
  | perform op =>
    by_cases hop : op = .inspect
    · subst hop
      refine ⟨[], Line.compile_nil, fun _ _ => rfl, fun log journal => ?_⟩
      rw [Line.journal_nil, List.append_nil]
      rfl
    · obtain ⟨result, stage, lines, s', hP, h⟩ := performedAlike_perform c s op hop
      have hbase : s.perform c op = _ := h c.config.log s.world.journal
      refine ⟨lines, hP, fun log journal => ?_, fun log journal => ?_⟩
      · have h : (s.withJournal journal).perform (c.withLog log) op = _ := h log journal
        rw [Move.told_perform _ _ hop, Move.told_perform _ _ hop, h, hbase]
      · have h : (s.withJournal journal).perform (c.withLog log) op = _ := h log journal
        show ((s.withJournal journal).perform (c.withLog log) op).2.2 =
          ((s.perform c op).2.2).withJournal _
        rw [h, hbase]
        rfl

inductive Transcribed (c : Connection σ) : Session σ → List (Move σ) → List Line → Prop
  | nil (s : Session σ) : Transcribed c s [] []
  | cons {s : Session σ} {m : Move σ} {rest : List (Move σ)} {lines more : List Line} :
    Line.Compile (m.Compiles s) lines → Transcribed c (s.move c m) rest more →
      Transcribed c s (m :: rest) (lines ++ more)

theorem exists_transcribed (c : Connection σ) (s : Session σ) (ms : List (Move σ)) :
    ∃ lines, Transcribed c s ms lines ∧ ∀ log journal,
      tolds (c.withLog log) (s.withJournal journal) ms = tolds c s ms ∧
        (s.withJournal journal).moves (c.withLog log) ms =
          (s.moves c ms).withJournal (journal ++ Line.journal log lines) := by
  induction ms generalizing s with
  | nil =>
    refine ⟨[], .nil s, fun log journal => ⟨rfl, ?_⟩⟩
    rw [Line.journal_nil, List.append_nil]
    rfl
  | cons m rest ih =>
    obtain ⟨lines, hm⟩ := exists_mirrors c s m
    obtain ⟨more, hrest, h⟩ := ih (s.move c m)
    refine ⟨lines ++ more, .cons hm.compiled hrest, fun log journal => ?_⟩
    obtain ⟨htold, hmoves⟩ := h log (journal ++ Line.journal log lines)
    constructor
    · rw [tolds, tolds, hm.told, hm.moved, htold]
    · show ((s.withJournal journal).move (c.withLog log) m).moves (c.withLog log) rest = _
      rw [hm.moved, hmoves, Line.journal_append, List.append_assoc]
      rfl

/-- A connection that is opened, and all that is done with it then, come to the same under all
settings of the log, whatever the engine answers. The journal is that of one list of lines, in which
what is compiled is what the builder of the move is asked to build; where statements are logged,
each text that goes to the engine is announced directly before, and elsewhere none is. -/
theorem mirrored (engine : Engine σ) (state : σ) (config : Config)
    (declarations : List (Except Error Table)) :
    (∀ (log : LogConfig) sql, LogConfig.Shows log.limit sql (log.shown sql)) ∧
    (∀ (log : LogConfig) lines, if log.enabled then Announced log (Line.journal log lines)
      else ∀ e, .event e ∈ Line.journal log lines → e.target ≠ "litorm.sql") ∧
    (∀ log log' lines, calls (Line.journal log lines) = calls (Line.journal log' lines)) ∧
    ∃ (opened : Except Error (Connection σ)) (lines : List Line) (state' : σ)
      (fresh : StatementId), Line.Compile (fun _ _ => False) lines ∧
      (∀ log, (Connection.openOn engine { config with log } declarations).run { engine := state } =
        (opened.map fun c => c.withLog log, ⟨state', Line.journal log lines, fresh⟩)) ∧
      ∀ c, opened = .ok c → ∀ ms, ∃ more,
        Transcribed c { world := ⟨state', [], fresh⟩ } ms more ∧
        ∀ log, tolds (c.withLog log) { world := ⟨state', Line.journal log lines, fresh⟩ } ms =
            tolds c { world := ⟨state', [], fresh⟩ } ms ∧
          ({ world := ⟨state', Line.journal log lines, fresh⟩ } : Session σ).moves
              (c.withLog log) ms =
            (({ world := ⟨state', [], fresh⟩ } : Session σ).moves c ms).withJournal
              (Line.journal log (lines ++ more)) := by
  obtain ⟨opened, lines, state', fresh, hP, hopen⟩ :=
    Connection.openOn_withLog engine config declarations state
  refine ⟨LogConfig.shows_shown, fun log lines => ?_, Line.calls_journal, opened, lines, state',
    fresh, hP, hopen, fun c _ ms => ?_⟩
  · split
    next hlog => exact Line.announced_journal hlog lines
    next hlog => exact Line.target_of_disabled hlog lines
  · obtain ⟨more, hmore, h⟩ := exists_transcribed c { world := ⟨state', [], fresh⟩ } ms
    refine ⟨more, hmore, fun log => ⟨(h log _).1, ?_⟩⟩
    rw [Line.journal_append]
    exact (h log (Line.journal log lines)).2

namespace Notes

def creating : List (Move Script.State) :=
  [.begin, .perform (.createTables true), .perform .countTables, .finish false (.ok ())]

theorem mirrored_creating :
    ∃ (c : Connection Script.State) (lines more : List Line) (state' : Script.State)
      (fresh : StatementId), c.withLog {} = connection ∧
      (∀ log, (Connection.openOn Script.engine { log } [.ok table]).run { engine := {} } =
        (.ok (c.withLog log), ⟨state', Line.journal log lines, fresh⟩)) ∧
      Transcribed c { world := ⟨state', [], fresh⟩ } creating more ∧
      ∀ log, (({ world := ⟨state', Line.journal log lines, fresh⟩ } : Session _).moves
          (c.withLog log) creating).world.journal = Line.journal log (lines ++ more) := by
  obtain ⟨-, -, -, opened, lines, state', fresh, -, hopen, hms⟩ :=
    mirrored Script.engine {} {} [.ok table]
  have hok : opened.map (fun c => c.withLog {}) = .ok connection :=
    (congrArg Prod.fst (hopen {})).symm
  cases opened with
  | error e => cases hok
  | ok c =>
    obtain ⟨more, htranscribed, h⟩ := hms c rfl creating
    refine ⟨c, lines, more, state', fresh, Except.ok.inj hok, hopen, htranscribed, fun log => ?_⟩
    rw [(h log).2]
    rfl

end Notes

end RecordSql.Session
