import RecordSql.Connection.Open
import RecordSql.Proofs.Connection.Lines

/-! The activities of a connection under all settings of its log: they have the same result, and
there is one list of lines that the journal keeps in the way of the settings. -/

namespace RecordSql

variable {σ α β : Type}

/-- An activity that has the same result and the same lines under all settings of the log. -/
def Act.Uniform (P : StatementKind → Sql → Prop) (a : LogConfig → Act σ α) : Prop :=
  ∀ (state : σ) (fresh : StatementId), ∃ x lines state' fresh', Line.Compile P lines ∧
    ∀ log journal, a log ⟨state, journal, fresh⟩ =
      (x, ⟨state', journal ++ Line.journal log lines, fresh'⟩)

namespace Act

variable {P : StatementKind → Sql → Prop}

theorem Uniform.bind {a : LogConfig → Act σ α} {f : LogConfig → α → Act σ β} (h : Uniform P a)
    (hf : ∀ x, Uniform P fun log => f log x) : Uniform P fun log => a log >>= f log := by
  intro state fresh
  obtain ⟨x, lines, state₁, fresh₁, hP, h⟩ := h state fresh
  obtain ⟨y, more, state₂, fresh₂, hP', h'⟩ := hf x state₁ fresh₁
  refine ⟨y, lines ++ more, state₂, fresh₂, hP.append hP', fun log journal => ?_⟩
  dsimp only at h' ⊢
  rw [bind_apply, h, h', Line.journal_append, List.append_assoc]

theorem Uniform.of_eq {a b : LogConfig → Act σ α} (h : Uniform P a)
    (heq : ∀ log w, b log w = a log w) : Uniform P b := by
  intro state fresh
  obtain ⟨x, lines, state', fresh', hP, h⟩ := h state fresh
  exact ⟨x, lines, state', fresh', hP, fun log journal => (heq _ _).trans (h log journal)⟩

theorem uniform_pure (x : α) : Uniform P fun _ => (pure x : Act σ α) := fun state fresh =>
  ⟨x, [], state, fresh, Line.compile_nil, fun _ journal => by
    rw [Line.journal_nil, List.append_nil]
    rfl⟩

theorem uniform_observe (f : σ → α) : Uniform P fun _ => (Act.observe f : Act σ α) :=
  fun state fresh => ⟨f state, [], state, fresh, Line.compile_nil, fun _ journal => by
    rw [Line.journal_nil, List.append_nil]
    rfl⟩

theorem uniform_emit (e : Event) (h : e.target ≠ "litorm.sql") :
    Uniform P fun _ => (Act.emit e : Act σ Unit) := fun state fresh =>
  ⟨(), [.event e h], state, fresh, Line.compile_singleton rfl, fun _ _ => rfl⟩

theorem uniform_finalize (E : Engine σ) (s : StatementId) :
    Uniform P fun _ => (E.finalizeStatement s : Act σ Unit) := fun state fresh =>
  ⟨(), [.call (.finalize s) true trivial], E.finalize s state, fresh, Line.compile_singleton rfl,
    fun _ _ => rfl⟩

end Act

namespace Run

def Uniform (P : StatementKind → Sql → Prop) (r : LogConfig → Run σ α) : Prop :=
  Act.Uniform P fun log => (r log).run

variable {P : StatementKind → Sql → Prop}

theorem uniform_pure (x : α) : Uniform P fun _ => (pure x : Run σ α) := Act.uniform_pure _

theorem uniform_throw (e : Error) : Uniform P fun _ => (throw e : Run σ α) := Act.uniform_pure _

theorem uniform_ofExcept (x : Except Error α) : Uniform P fun _ => (ofExcept x : Run σ α) :=
  Act.uniform_pure x

theorem Uniform.bind {r : LogConfig → Run σ α} {f : LogConfig → α → Run σ β} (h : Uniform P r)
    (hf : ∀ x, Uniform P fun log => f log x) : Uniform P fun log => r log >>= f log := by
  intro state fresh
  obtain ⟨x, lines, state₁, fresh₁, hP, h⟩ := h state fresh
  cases x with
  | error e =>
    refine ⟨.error e, lines, state₁, fresh₁, hP, fun log journal => ?_⟩
    show (r log >>= f log) _ = _
    have h : r log _ = _ := h log journal
    rw [bind_apply, h]
  | ok x =>
    obtain ⟨y, more, state₂, fresh₂, hP', h'⟩ := hf x state₁ fresh₁
    refine ⟨y, lines ++ more, state₂, fresh₂, hP.append hP', fun log journal => ?_⟩
    show (r log >>= f log) _ = _
    have h : r log _ = _ := h log journal
    have h' : f log x _ = _ := h' log (journal ++ Line.journal log lines)
    rw [bind_apply, h]
    dsimp only
    rw [h', Line.journal_append, List.append_assoc]

theorem uniform_lift {a : LogConfig → Act σ α} (h : Act.Uniform P a) :
    Uniform P fun log => (liftM (a log) : Run σ α) := h.bind fun _ => Act.uniform_pure _

theorem uniform_report (e : Event) (h : e.target ≠ "litorm.sql") :
    Uniform P fun _ => (liftM (Act.emit e : Act σ Unit) : Run σ Unit) :=
  uniform_lift (Act.uniform_emit e h)

theorem Uniform.outcome {r : LogConfig → Run σ α} (h : Uniform P r) :
    Uniform P fun log => outcome (r log) :=
  (Act.Uniform.bind h fun x => Act.uniform_pure (Except.ok x)).of_eq fun _ _ => rfl

theorem Uniform.logged {r : LogConfig → Run σ α} (h : Uniform P r) (activity : Activity) :
    Uniform P fun log => Connection.logged activity (r log) := by
  refine h.outcome.bind fun x => ?_
  cases x with
  | ok a => exact uniform_pure a
  | error e =>
    exact (uniform_report (.failed activity e) (by simp [Event.target])).bind fun _ =>
      uniform_throw e

theorem uniform_forM {f : LogConfig → β → Run σ Unit} (h : ∀ x, Uniform P fun log => f log x)
    (xs : List β) : Uniform P fun log => xs.forM (f log) := by
  induction xs with
  | nil => exact uniform_pure ()
  | cons x xs ih => exact (h x).bind fun _ => ih

theorem uniform_call (c : Call) (answer : σ → Except Error α × σ) (h : c.IsPlain) :
    Uniform P fun _ => call c answer := fun state fresh =>
  ⟨(answer state).1, [.call c (succeeded (answer state).1) h], (answer state).2, fresh,
    Line.compile_singleton rfl, fun _ _ => rfl⟩

theorem Uniform.owning {r : LogConfig → Run σ α} (h : Uniform P r) (E : Engine σ)
    (s : StatementId) : Uniform P fun log => E.owning s (r log) :=
  (Act.Uniform.bind h fun x => (Act.uniform_finalize E s).bind fun _ => Act.uniform_pure x).of_eq
    fun _ _ => rfl

end Run

theorem Engine.bindFrom_apply (E : Engine σ) (s : StatementId) (slot : Nat) (vs : Params)
    (state : σ) :
    (∃ state', ∀ journal fresh, E.bindFrom s slot vs ⟨state, journal, fresh⟩ =
      (.ok (), ⟨state', journal ++ (bindings s slot vs).map Exchange.entry, fresh⟩)) ∨
    ∃ bound v e state', bound ++ [v] <+: vs ∧
      ∀ journal fresh, E.bindFrom s slot vs ⟨state, journal, fresh⟩ =
        (.error e, ⟨state', journal ++ (bindings s slot bound ++
          [(Call.bind s (slot + bound.length) v, Answer.refused e)]).map Exchange.entry,
        fresh⟩) := by
  induction vs generalizing slot state with
  | nil =>
    refine .inl ⟨state, fun journal fresh => ?_⟩
    rw [bindings, List.mapIdx_nil, List.map_nil, List.append_nil]
    rfl
  | cons v rest ih =>
    have hcons (journal : List Entry) (fresh : StatementId) :
        E.bindFrom s slot (v :: rest) ⟨state, journal, fresh⟩ = _ := Run.bind_apply _ _ _
    rcases hv : E.bind s slot v state with ⟨e | ⟨⟩, state₁⟩ <;> simp only [Run.call, hv] at hcons
    · refine .inr ⟨[], v, e, state₁, by simp, fun journal fresh => ?_⟩
      rw [hcons]
      rfl
    · rcases ih (slot + 1) state₁ with ⟨state', h⟩ | ⟨bound, u, e, state', hfront, h⟩
      · refine .inl ⟨state', fun journal fresh => ?_⟩
        rw [hcons, h, bindings_cons, List.map_cons, List.append_assoc]
        rfl
      · refine .inr ⟨v :: bound, u, e, state', List.cons_prefix_cons.2 ⟨rfl, hfront⟩,
          fun journal fresh => ?_⟩
        rw [hcons, h, bindings_cons, List.length_cons, Nat.add_comm bound.length, ← Nat.add_assoc,
          List.cons_append, List.map_cons, List.append_assoc]
        rfl

namespace Connection

open Run

variable (c : Connection σ) {P : StatementKind → Sql → Prop}

def withLog (log : LogConfig) : Connection σ := { c with config := { c.config with log } }

theorem announce_withLog (log : LogConfig) (kind : StatementKind) (sql : String) (params : Nat)
    (w : World σ) : (c.withLog log).announce kind sql params w =
      ((), { w with journal := w.journal ++ log.announced kind sql params }) := by
  show (if log.enabled then _ else _ : Act σ Unit) w = _
  unfold LogConfig.announced
  split
  · rfl
  · rw [List.append_nil]
    rfl

theorem uniform_batch (sql : String) : Uniform P fun log => (c.withLog log).batch sql := by
  intro state fresh
  refine ⟨(c.engine.batch sql state).1, [.batch sql (succeeded (c.engine.batch sql state).1)],
    (c.engine.batch sql state).2, fresh, Line.compile_singleton rfl, fun log journal => ?_⟩
  show (c.withLog log).batch sql _ = _
  rw [batch, lift_bind_apply, announce_withLog, Line.journal_singleton, Line.entries,
    ← List.append_assoc]
  rfl

/-- What is compiled is one line: it is announced first, and its values are bound directly after
the engine has accepted it. -/
theorem uniform_compile {kind : StatementKind} {sql : Sql} (h : P kind sql) :
    Uniform P fun log => (c.withLog log).compile kind sql := by
  intro state fresh
  suffices hs : ∃ result talk state', ∃ h : Compiles fresh sql result talk, ∀ log journal,
      (c.withLog log).compile kind sql ⟨state, journal, fresh⟩ =
        (result, ⟨state', journal ++ Line.entries log (.compile kind fresh sql result talk h),
          fresh + 1⟩) by
    obtain ⟨result, talk, state', ht, hs⟩ := hs
    refine ⟨result, [.compile kind fresh sql result talk ht], state', fresh + 1, ?_,
      fun log journal => ?_⟩
    · simpa [Line.Compile, Line.statement?] using h
    · rw [Line.journal_singleton]
      exact hs log journal
  have happly (log : LogConfig) (journal : List Entry) :
      (c.withLog log).compile kind sql ⟨state, journal, fresh⟩ = _ := compile_apply _ kind sql _
  simp only [announce_withLog] at happly
  have hengine (log : LogConfig) : (c.withLog log).engine = c.engine := rfl
  rcases hp : c.engine.prepare fresh sql.text state with ⟨e | ⟨⟩, state₁⟩ <;>
    simp only [Run.call, hengine, hp] at happly
  · refine ⟨_, _, state₁, .refused e, fun log journal => ?_⟩
    rw [happly, List.append_assoc]
    rfl
  · rcases c.engine.bindFrom_apply fresh 1 sql.params state₁ with
      ⟨state', hb⟩ | ⟨bound, v, e, state', hfront, hb⟩ <;> simp only [hb] at happly
    · refine ⟨_, _, state', .bound, fun log journal => ?_⟩
      rw [happly, List.append_assoc, List.append_assoc]
      rfl
    · refine ⟨_, _, c.engine.finalize fresh state', .unbound e hfront, fun log journal => ?_⟩
      rw [happly]
      simp [Engine.finalizeStatement, Line.entries, Exchange.entry, Answer.accepts, Nat.add_comm,
        succeeded]

theorem uniform_scalar {sql : Sql} (h : P .select sql) (missing : String) :
    Uniform P fun log => (c.withLog log).scalar sql missing := by
  refine (c.uniform_compile h).bind fun s => Uniform.owning (Uniform.bind
    (uniform_call (.query s) (c.engine.query s) trivial) fun _ => Uniform.bind
      (uniform_call (.step s) (c.engine.step s) trivial) fun row => ?_) c.engine s
  cases row with
  | none => exact uniform_throw _
  | some row => exact (uniform_ofExcept _).bind fun i => uniform_pure i.val

theorem uniform_beginLevel : Uniform P fun log => (c.withLog log).beginLevel :=
  (uniform_lift (Act.uniform_observe c.engine.autocommit)).bind fun autocommit =>
    (c.uniform_batch (beginText !autocommit)).bind fun _ =>
      (uniform_report (.begun !autocommit) (by simp [Event.target])).bind fun _ =>
        uniform_pure (!autocommit)

theorem uniform_abandon (nested : Bool) (cause : Error) :
    Uniform P fun log => ((c.withLog log).abandon nested cause : Run σ α) := by
  refine (uniform_report (.rolledBack nested cause) (by simp [Event.target])).bind fun _ =>
    (c.uniform_batch (rollbackText nested)).outcome.bind fun r => ?_
  cases r with
  | ok => exact uniform_throw cause
  | error e => exact (uniform_throw (unrecovered cause e)).logged .rollback

theorem uniform_commitLevel (nested : Bool) (result : α) :
    Uniform P fun log => (c.withLog log).commitLevel nested result := by
  refine (c.uniform_batch (commitText nested)).outcome.bind fun r => ?_
  cases r with
  | ok =>
    exact (uniform_report (.committed nested) (by simp [Event.target])).bind fun _ =>
      uniform_pure result
  | error e =>
    refine (c.uniform_batch (rollbackText nested)).outcome.bind fun r => ?_
    cases r with
    | ok => exact (uniform_throw e).logged .commit
    | error e' => exact (uniform_throw (unrecovered e e')).logged .commit

theorem uniform_endLevel (nested : Bool) (outcome : Except Error α) :
    Uniform P fun log => (c.withLog log).endLevel nested outcome := by
  cases outcome with
  | ok result => exact c.uniform_commitLevel nested result
  | error cause => exact c.uniform_abandon nested cause

theorem uniform_transaction {body : LogConfig → Run σ α} (h : Uniform P body) :
    Uniform P fun log => (c.withLog log).transaction (body log) :=
  c.uniform_beginLevel.bind fun nested => h.outcome.bind fun r => c.uniform_endLevel nested r

theorem uniform_setForeignKeys (enabled : Bool) :
    Uniform P fun log => (c.withLog log).setForeignKeys enabled :=
  (uniform_report (.foreignKeys enabled) (by simp [Event.target])).bind fun _ =>
    (c.uniform_batch _).logged .foreignKeyPragma

theorem uniform_createTables (ifNotExists : Bool) :
    Uniform P fun log => (c.withLog log).createTables ifNotExists := by
  have hcreate (t : Table) : Uniform P fun log =>
      logged .createTables ((c.withLog log).batch (t.creation ifNotExists)) :=
    (c.uniform_batch _).logged .createTables
  exact (uniform_forM hcreate c.schema.tables).bind fun _ =>
    uniform_report (.tablesCreated c.schema.tables.length) (by simp [Event.target])

theorem uniform_countTables (h : ∀ sql : Sql, sql.params = [] → P .select sql) :
    Uniform P fun log => (c.withLog log).countTables := by
  unfold countTables
  exact c.uniform_scalar (h (.ofText _) rfl) _

def opening (engine : Engine σ) (config : Config) (declarations : List (Except Error Table))
    (log : LogConfig) : Run σ Schema := do
  let schema ← checkedSchema declarations
  (Act.emit (.opened schema.tables.length) : Act σ Unit)
  ((⟨engine, schema, config⟩ : Connection σ).withLog log).setForeignKeys config.foreignKeys
  return schema

theorem openOn_eq_opening (engine : Engine σ) (config : Config)
    (declarations : List (Except Error Table)) (log : LogConfig) :
    openOn engine { config with log } declarations = do
      let schema ← opening engine config declarations log
      return (⟨engine, schema, config⟩ : Connection σ).withLog log := by
  simp only [openOn, opening, bind_assoc, pure_bind]
  rfl

theorem uniform_opening (engine : Engine σ) (config : Config)
    (declarations : List (Except Error Table)) :
    Uniform P (opening engine config declarations) := by
  have hschema : Uniform P fun _ => (checkedSchema declarations : Run σ Schema) :=
    ((uniform_ofExcept (declared declarations)).logged .tableDeclaration).bind fun tables =>
      (uniform_ofExcept (Schema.ofTables tables)).logged .schemaValidation
  exact hschema.bind fun schema =>
    (uniform_report (.opened schema.tables.length) (by simp [Event.target])).bind fun _ =>
      (uniform_setForeignKeys _ config.foreignKeys).bind fun _ => uniform_pure schema

theorem openOn_withLog (engine : Engine σ) (config : Config)
    (declarations : List (Except Error Table)) (state : σ) :
    ∃ (opened : Except Error (Connection σ)) (lines : List Line) (state' : σ)
        (fresh : StatementId), Line.Compile (fun _ _ => False) lines ∧
      ∀ log, (openOn engine { config with log } declarations).run { engine := state } =
        (opened.map fun c => c.withLog log, ⟨state', Line.journal log lines, fresh⟩) := by
  obtain ⟨opened, lines, state', fresh, hP, h⟩ :=
    uniform_opening (P := fun _ _ => False) engine config declarations state 0
  refine ⟨opened.map fun schema => ⟨engine, schema, config⟩, lines, state', fresh, hP,
    fun log => ?_⟩
  have h : opening engine config declarations log { engine := state } = _ := h log []
  rw [openOn_eq_opening]
  show (opening engine config declarations log >>= _) _ = _
  rw [bind_apply, h]
  cases opened <;> rfl

end Connection

end RecordSql
