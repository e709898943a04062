import RecordSql.Connection.Open
import RecordSql.Proofs.Connection.Exchanges
import RecordSql.Proofs.Engine.Ledger

/-! The statements of a connection's own activities: what is compiled is bound as a whole or
finalized, and nothing is left of a statement that no builder keeps. -/

namespace RecordSql

variable {σ α κ : Type}

theorem isNeutral_bindings {s : StatementId} {slot : Nat} {vs : Params} :
    ∀ x ∈ bindings s slot vs, x.1.isNeutral := by
  intro x hx
  simp only [bindings, List.mem_mapIdx] at hx
  obtain ⟨i, _, rfl⟩ := hx
  rfl

theorem Engine.fresh_bindFrom (E : Engine σ) (s : StatementId) (slot : Nat) (vs : Params)
    (w : World σ) : (E.bindFrom s slot vs w).2.fresh = w.fresh := by
  induction vs generalizing slot w with
  | nil => rfl
  | cons v rest ih =>
    rw [Engine.bindFrom, Run.bind_apply]
    rcases hc : Run.call (.bind s slot v) (E.bind s slot v) w with ⟨e | ⟨⟩, w'⟩
    · exact congrArg (·.2.fresh) hc.symm
    · exact (ih (slot + 1) w').trans (congrArg (·.2.fresh) hc.symm)

namespace Compiles

variable {s : StatementId} {sql : Sql} {result : Except Error StatementId} {talk : List Exchange}

theorem ledger (h : Compiles s sql result talk) (φ : StatementId → ℤ) :
    ledger φ (talk.map Exchange.noted) = worth φ result.toOption := by
  have hb (vs : Params) : RecordSql.ledger φ ((bindings s 1 vs).map Exchange.noted) = 0 :=
    ledger_of_neutral (List.forall_mem_map.2 isNeutral_bindings) φ
  cases h with
  | refused e => rfl
  | @unbound bound v e =>
    rw [← List.singleton_append, List.map_append, List.map_append, ledger_append, ledger_append, hb]
    simp [RecordSql.ledger, Exchange.noted, Except.toOption, Answer.accepts]
  | bound =>
    rw [← List.singleton_append, List.map_append, ledger_append, hb]
    simp [RecordSql.ledger, Exchange.noted, Except.toOption, Answer.accepts]

theorem attempts (h : Compiles s sql result talk) : attempts (talk.map Exchange.noted) = [s] := by
  have hb (vs : Params) : RecordSql.attempts ((bindings s 1 vs).map Exchange.noted) = [] :=
    attempts_of_neutral (List.forall_mem_map.2 isNeutral_bindings)
  cases h with
  | refused e => rfl
  | @unbound bound v e =>
    rw [← List.singleton_append, List.map_append, List.map_append, attempts_append,
      attempts_append, hb]
    rfl
  | bound =>
    rw [← List.singleton_append, List.map_append, attempts_append, hb]
    rfl

end Compiles

namespace Connection

variable (c : Connection σ)

theorem fresh_compile (kind : StatementKind) (sql : Sql) (w : World σ) :
    (c.compile kind sql w).2.fresh = w.fresh + 1 := by
  rw [← c.fresh_announce kind sql.text sql.params.length w, compile_apply]
  generalize (c.announce kind sql.text sql.params.length w).2 = w₁
  dsimp only
  rcases hp : Run.call (.prepare w₁.fresh sql.text) (c.engine.prepare w₁.fresh sql.text)
    { w₁ with fresh := w₁.fresh + 1 } with ⟨e | ⟨⟩, w₃⟩
  · exact congrArg (·.2.fresh) hp.symm
  · have hf := c.engine.fresh_bindFrom w₁.fresh 1 sql.params w₃
    have hw : w₃.fresh = w₁.fresh + 1 := congrArg (·.2.fresh) hp.symm
    dsimp only
    rcases hb : c.engine.bindFrom w₁.fresh 1 sql.params w₃ with ⟨e | ⟨⟩, w₄⟩ <;> rw [hb] at hf <;>
      exact hf.trans hw

theorem passes_compile (kind : StatementKind) (sql : Sql) (w : World σ) :
    ∃ talk, w.Passes c.engine none (c.compile kind sql w).1.toOption talk
        (c.compile kind sql w).2 ∧
      Faults (fun _ => False) talk (c.compile kind sql w).1 := by
  obtain ⟨result, talk, hcompiles, hresult, htalks⟩ := c.converses_compile kind sql w
  rw [hresult]
  refine ⟨talk, ⟨htalks, fun φ => ?_, 1, hcompiles.attempts, c.fresh_compile kind sql w⟩, ?_⟩
  · rw [worth_none, zero_add, hcompiles.ledger]
  · rintro e rfl
    exact .inr hcompiles.refuses

end Connection

namespace Run.Tidy

variable {E : Engine σ} {Q : Error → Prop}

theorem call {c : Call} {answer : σ → Except Error α × σ} {f : α → Answer}
    (hr : ∀ s, E.respond c s = Prod.map (.ofExcept f) id (answer s))
    (hf : ∀ a, (f a).accepts) (hn : c.isNeutral) : (Run.call c answer).Tidy E Q := by
  intro w
  refine ⟨_, .of_neutral (.call hr hf w) rfl (by simpa using hn) none, fun e he => ?_⟩
  rw [show (answer w.engine).1 = .error e from he]
  exact .inr ⟨c, List.mem_singleton_self _⟩

/-- An activity that was given a statement finalizes it in the end. -/
theorem owned_after {body : Run σ α} {s : StatementId} {w w' : World σ} {talk : List Exchange}
    (hw : w.Passes E none (some s) talk w') (h : body.Tidy E Q) :
    ∃ talk, w.Passes E none none talk (E.owning s body w').2 ∧
      Faults Q talk (E.owning s body w').1 := by
  obtain ⟨talk', hp, hf⟩ := h w'
  exact ⟨_, hw.trans ((hp.owning (some s)).trans (.finalize s _)), (hf.before _).after talk⟩

end Run.Tidy

open Run

namespace Connection

variable (c : Connection σ) {Q : Error → Prop}

theorem tidy_announce (kind : StatementKind) (sql : String) (params : Nat) :
    Tidy c.engine Q (liftM (c.announce kind sql params : Act σ Unit) : Run σ Unit) := fun w =>
  ⟨[], .silent (c.talks_announce kind sql params w) (c.fresh_announce kind sql params w), .ok _⟩

theorem tidy_batch (sql : String) : (c.batch sql).Tidy c.engine Q :=
  (c.tidy_announce _ _ _).bind fun _ =>
    .call (f := fun _ => .accepted) (fun _ => rfl) (fun _ => rfl) rfl

theorem tidy_scalar (sql : Sql) {missing : String} (hmissing : Q (.notFound missing))
    (hfield : ∀ (row : Row) e, row.field 0 ⟨.integer .i64, false⟩ = .error e → Q e) :
    (c.scalar sql missing).Tidy c.engine Q := by
  intro w
  obtain ⟨talk, hp, hf⟩ := c.passes_compile .select sql w
  rw [scalar, bind_apply]
  rcases hc : c.compile .select sql w with ⟨e | s, w'⟩ <;> rw [hc] at hp hf
  · exact ⟨talk, hp, (hf.weaken fun _ => False.elim).error⟩
  -- the body asks for one row, and reads it
  · refine Tidy.owned_after hp ?_
    refine (Tidy.call (f := fun _ => .accepted) (fun _ => rfl) (fun _ => rfl) rfl).bind
      fun _ => (Tidy.call (f := .row) (fun _ => rfl) (fun _ => rfl) rfl).bind fun row => ?_
    cases row with
    | some row => exact (Tidy.ofExcept (hfield row)).bind fun _ => .pure _
    | none => exact .throw hmissing

theorem tidy_beginLevel : c.beginLevel.Tidy c.engine Q :=
  (Tidy.observe _).bind fun _ => (c.tidy_batch _).bind fun _ => (Tidy.emit _).bind fun _ =>
    .pure _

section

variable (hstep : ∀ detail, Q (.step detail))
include hstep

theorem tidy_abandon (nested : Bool) (cause : Error) :
    (c.abandon nested cause : Run σ α).Tidy c.engine fun e => e = cause ∨ Q e := by
  refine (Tidy.emit _).bind fun _ => (c.tidy_batch _).outcome_bind (fun _ => .throw (.inl rfl))
    fun e => ?_
  exact Tidy.logged (.throw (.inr (.inr (hstep _)))) _

theorem tidy_commitLevel (nested : Bool) (result : α) :
    (c.commitLevel nested result).Tidy c.engine Q := by
  refine (c.tidy_batch _).outcome_bind (fun _ => (Tidy.emit _).bind fun _ => .pure result)
    fun e => (c.tidy_batch _).outcome_bind (fun _ => ?_) fun e' => ?_
  · exact Tidy.logged (.throw (.inl rfl)) _
  · exact Tidy.logged (.throw (.inr (.inr (hstep _)))) _

theorem tidy_endLevel (nested : Bool) (outcome : Except Error α) :
    (c.endLevel nested outcome).Tidy c.engine fun e => outcome = .error e ∨ Q e := by
  cases outcome with
  | ok result => exact c.tidy_commitLevel (fun detail => .inr (hstep detail)) nested result
  | error cause =>
    refine (c.tidy_abandon hstep nested cause).weaken fun e he => ?_
    rcases he with rfl | he
    · exact .inl rfl
    · exact .inr he

theorem tidy_transaction {body : Run σ α} (h : body.Tidy c.engine Q) :
    (c.transaction body).Tidy c.engine Q :=
  c.tidy_beginLevel.bind fun nested => h.outcome_bind (c.tidy_commitLevel hstep nested)
    (c.tidy_abandon hstep nested)

end

theorem tidy_setForeignKeys (enabled : Bool) : (c.setForeignKeys enabled).Tidy c.engine Q :=
  (Tidy.emit _).bind fun _ => (c.tidy_batch _).logged _

theorem tidy_createTables (ifNotExists : Bool) : (c.createTables ifNotExists).Tidy c.engine Q :=
  (Tidy.forM (fun _ => (c.tidy_batch _).logged _) _).bind fun _ => .emit _

end Connection

end RecordSql
