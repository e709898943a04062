import RecordSql.Proofs.Connection.Statements
import RecordSql.Proofs.Statement.Printed

/-! The life of a builder's statement. What holds of a builder between two calls on it, and what a
call that prepares or runs its statement leaves: the engine is asked to run a statement only as it
was built from the clauses that the builder has. -/

namespace RecordSql

variable {σ κ α : Type} [Statement κ]

namespace Builder

/-- What holds of a builder between two calls. It has a statement unless it is unprepared, and the
engine holds for a prepared one what the builder builds, unless a misuse is recorded. -/
structure Sound (b : Builder κ) (w : World σ) : Prop where
  known : ∀ s, b.slot.statement = some s → s < w.fresh
  owned : b.slot.statement = none ↔ b.slot.stage = .unprepared
  loaded : b.slot.stage = .prepared → b.slot.error = none →
    ∃ s sql, b.slot.statement = some s ∧ b.build = .ok sql ∧ Loaded w.journal s sql

structure Kept (b : Builder κ) (w : World σ) (b' : Builder κ) (w' : World σ) : Prop where
  content : b'.content = b.content
  error : b'.slot.error = b.slot.error
  sound : b'.Sound w'
  statement : ∀ s, b'.slot.statement = some s → b.slot.statement = some s ∨ w.fresh ≤ s

theorem Kept.build {b b' : Builder κ} {w w' : World σ} (h : Kept b w b' w') :
    b'.build = b.build := by
  unfold Builder.build Slot.check
  rw [h.content, h.error]

theorem Sound.frame {b : Builder κ} {w w' : World σ} {own : Option StatementId} {rule : RequestRule}
    (h : b.Sound w) (hw : w.Leads own rule w')
    (hown : ∀ s, b.slot.statement = some s → own ≠ some s) : b.Sound w' where
  known s hs := Nat.lt_of_lt_of_le (h.known s hs) hw.fresh
  owned := h.owned
  loaded hp he := by
    obtain ⟨s, sql, hs, hb, hl⟩ := h.loaded hp he
    refine ⟨s, sql, hs, hb, ?_⟩
    rw [Loaded, hw.held_eq (h.known s hs) (hown s hs)]
    exact hl

theorem error_edit_ne_none {b : Builder κ} (e : Statement.Edit κ)
    (h : b.slot.error ≠ none ∨ b.slot.stage ≠ .unprepared) : (b.edit e).slot.error ≠ none := by
  unfold edit Slot.guard
  split
  · next hu =>
    rcases h with h | h
    · exact h
    · exact absurd hu h
  · simp [Slot.fail]

@[simp] theorem stage_edit (b : Builder κ) (e : Statement.Edit κ) :
    (b.edit e).slot.stage = b.slot.stage := by
  unfold edit Slot.guard
  split <;> rfl

@[simp] theorem statement_edit (b : Builder κ) (e : Statement.Edit κ) :
    (b.edit e).slot.statement = b.slot.statement := by
  unfold edit Slot.guard
  split <;> rfl

structure Unused (b : Builder κ) : Prop where
  statement : b.slot.statement = none
  stage : b.slot.stage = .unprepared

omit [Statement κ] in
theorem unused_new (content : κ) : Unused ({ content } : Builder κ) := ⟨rfl, rfl⟩

theorem Unused.edit {b : Builder κ} (h : b.Unused) (e : Statement.Edit κ) : (b.edit e).Unused :=
  ⟨(statement_edit b e).trans h.statement, (stage_edit b e).trans h.stage⟩

theorem Unused.edits {b : Builder κ} (h : b.Unused) (es : List (Statement.Edit κ)) :
    (b.edits es).Unused := by
  induction es generalizing b with
  | nil => exact h
  | cons e rest ih => exact ih (h.edit e)

theorem Unused.sound {b : Builder κ} (h : b.Unused) (w : World σ) : b.Sound w where
  known s hs := by rw [h.statement] at hs; cases hs
  owned := iff_of_true h.statement h.stage
  loaded hp := by rw [h.stage] at hp; cases hp

theorem Sound.edit {b : Builder κ} {w : World σ} (h : b.Sound w) (e : Statement.Edit κ) :
    (b.edit e).Sound w where
  known s hs := h.known s (statement_edit b e ▸ hs)
  owned := by rw [statement_edit, stage_edit, h.owned]
  loaded hp he := by
    rw [stage_edit] at hp
    exact absurd he (error_edit_ne_none e (.inr (by rw [hp]; decide)))

theorem Sound.fail {b : Builder κ} {w : World σ} (h : b.Sound w) (e : Error) :
    (b.fail e).Sound w where
  known := h.known
  owned := h.owned
  loaded _ he := by simp [Builder.fail, Slot.fail] at he

variable (c : Connection σ)

omit [Statement κ] in
theorem leads_drop (b : Builder κ) (rule : RequestRule) (w : World σ) :
    w.Leads b.slot.statement rule (b.drop c w).2 := by
  unfold drop
  cases hs : b.slot.statement with
  | some s => exact .finalize c.engine (.inl rfl)
  | none => exact .refl _ _ w

theorem prepare_apply (b : Builder κ) (w : World σ) :
    b.prepare c w =
      match b.build with
      | .error e => ((.error e, b), w)
      | .ok sql =>
        match c.compile (Statement.kind κ) sql (b.drop c w).2 with
        | (.error e, w₂) =>
          ((.error e, ⟨b.content, { b.slot with statement := none, stage := .unprepared }⟩), w₂)
        | (.ok s, w₂) =>
          ((.ok (), ⟨b.content, { b.slot with statement := some s, stage := .prepared }⟩), w₂) := by
  unfold prepare
  cases b.build with
  | error e => rfl
  | ok sql =>
    simp only [Act.bind_apply, ExceptT.run]
    rcases c.compile (Statement.kind κ) sql (b.drop c w).2 with ⟨_ | _, w₂⟩ <;> rfl

theorem Unused.ensurePrepared_apply {b : Builder κ} (h : b.Unused) (w : World σ) :
    b.ensurePrepared c w =
      match b.build with
      | .error e => ((.error e, b), w)
      | .ok sql =>
        match c.compile (Statement.kind κ) sql w with
        | (.error e, w₂) =>
          ((.error e, ⟨b.content, { b.slot with statement := none, stage := .unprepared }⟩), w₂)
        | (.ok s, w₂) =>
          ((.ok (), ⟨b.content, { b.slot with statement := some s, stage := .prepared }⟩), w₂) := by
  have hdrop : b.drop c w = ((), w) := by
    rw [drop, h.statement]
    rfl
  have hstage : b.slot.stage ≠ .prepared := by
    rw [h.stage]
    decide
  rw [ensurePrepared, if_neg hstage, prepare_apply, hdrop]

/-- Preparing has nothing compiled but what is built, and runs nothing. Afterwards the builder is
prepared if it succeeded. -/
theorem prepare_spec {b : Builder κ} {w w' : World σ} {r : Except Error Unit} {b' : Builder κ}
    (h : b.Sound w) (hp : b.prepare c w = ((r, b'), w')) :
    Kept b w b' w' ∧ w.Leads b.slot.statement (builtRule b.build) w' ∧
      (r = .ok () → b'.slot.stage = .prepared) := by
  rw [prepare_apply] at hp
  cases hb : b.build with
  | error e =>
    rw [hb] at hp
    cases hp
    exact ⟨⟨rfl, rfl, h, fun s hs => .inl hs⟩, .refl _ _ _, nofun⟩
  | ok sql =>
    -- the statement that was there goes first, whether or not a new one compiles
    have hd := leads_drop c b (builtRule (.ok sql)) w
    have hc := hd.andThen
      (c.leads_compile (lenient_builtRule rfl) (Statement.kind κ) sql _)
    rw [hb] at hp
    rcases hcomp : c.compile (Statement.kind κ) sql (b.drop c w).2 with ⟨e | s, w₂⟩
    · simp only [hcomp] at hp hc
      cases hp
      exact ⟨⟨rfl, rfl, ⟨nofun, ⟨fun _ => rfl, fun _ => rfl⟩, nofun⟩, nofun⟩, hc, nofun⟩
    · simp only [hcomp] at hp hc
      obtain ⟨hnew, hlt, hl⟩ := c.compile_eq_ok hcomp
      cases hp
      refine ⟨⟨rfl, rfl, ⟨?_, by simp, fun _ _ => ⟨s, sql, rfl, ?_, hl⟩⟩, ?_⟩, hc, fun _ => rfl⟩
      · intro s' hs
        cases hs
        exact hlt
      · rw [← hb]
        rfl
      · intro s' hs
        cases hs
        exact .inr (Nat.le_trans hd.fresh hnew)

end Builder

end RecordSql
