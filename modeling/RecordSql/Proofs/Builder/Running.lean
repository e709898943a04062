import RecordSql.Builder.Cursor
import RecordSql.Proofs.Builder.Lifecycle

/-! Running a builder: to its end, row by row, and by a statement of its own. Whatever the engine
answers, it is asked to run the builder's statement only as it is built. -/

namespace RecordSql

variable {σ κ α : Type}

theorem held_run (call : Call) {s : StatementId} (hr : call.runs? = some s)
    (answer : σ → Except Error α × σ) (w : World σ) (t : StatementId) :
    held (Run.call call answer w).2.journal t = held w.journal t := by
  change held (w.journal ++ [.call call _]) t = _
  rw [held_append]
  cases call with
  | execute | query => rfl
  | _ => cases hr

theorem Slot.ready_eq_ok {slot : Slot} {s : StatementId} :
    slot.ready = .ok s ↔ slot.error = none ∧ slot.statement = some s := by
  unfold Slot.ready Slot.check
  cases slot.error with
  | some e => simp [bind, Except.bind]
  | none => cases slot.statement <;> simp [bind, Except.bind]

namespace Cursor

variable (c : Connection σ) (rule : RequestRule)

theorem next_apply (k : Cursor) (w : World σ) :
    k.next c w =
      if k.done then ((none, k), w)
      else
        match Run.call (.step k.statement) (c.engine.step k.statement) w with
        | (.ok (some row), w) => ((some (k.table.ofRow row), k), w)
        | (.ok none, w) => ((none, { k with ended := true, done := true }), w)
        | (.error e, w) => ((some (.error e), { k with done := true }), w) := by
  unfold next
  split
  · rfl
  · simp only [Act.bind_apply, ExceptT.run]
    rcases Run.call (.step k.statement) (c.engine.step k.statement) w with ⟨_ | _ | _, w'⟩ <;> rfl

theorem leads_next (k : Cursor) (w : World σ) : w.Leads (some k.statement) rule (k.next c w).2 := by
  have h : w.Leads (some k.statement) rule
      (Run.call (.step k.statement) (c.engine.step k.statement) w).2 :=
    .call _ _ (fun _ h => .inl h) (by simp [Entry.request?])
  rw [next_apply]
  split
  · exact .refl _ _ w
  · rcases hs : Run.call (.step k.statement) (c.engine.step k.statement) w with ⟨_ | _ | _, w'⟩ <;>
      rw [hs] at h <;> exact h

theorem statement_next (k : Cursor) (w : World σ) : (k.next c w).1.2.statement = k.statement := by
  rw [next_apply]
  split
  · rfl
  · rcases Run.call (.step k.statement) (c.engine.step k.statement) w with ⟨_ | _ | _, w'⟩ <;> rfl

theorem leads_take (n : Nat) (k : Cursor) (w : World σ) :
    w.Leads (some k.statement) rule (k.take c n w).2 := by
  induction n generalizing k w with
  | zero => exact .refl _ _ w
  | succ n ih =>
    have h := ih (k.next c w).1.2 (k.next c w).2
    rw [statement_next] at h
    exact (leads_next c rule k w).trans h fun _ hs => .inl hs

theorem leads_collect (bound : Nat) (k : Cursor) (w : World σ) :
    w.Leads (some k.statement) rule (k.collect c bound w).2 := by
  induction bound generalizing k w with
  | zero => exact .refl _ _ w
  | succ bound ih =>
    have hn := leads_next c rule k w
    have hs := statement_next c k w
    rw [collect, Act.bind_apply]
    rcases hr : k.next c w with ⟨⟨_ | _ | r, k'⟩, w'⟩ <;> rw [hr] at hn hs
    · exact hn
    · exact hn
    · have h := ih k' w'
      rw [hs] at h
      exact hn.trans h fun _ hs => .inl hs

end Cursor

namespace Builder

section Works

variable [Statement κ]

theorem Kept.refl {b : Builder κ} {w : World σ} (h : b.Sound w) : Kept b w b w :=
  ⟨rfl, rfl, h, fun _ hs => .inl hs⟩

theorem Kept.trans {b b' b'' : Builder κ} {w w' w'' : World σ} (h : Kept b w b' w')
    (h' : Kept b' w' b'' w'') (hw : w.fresh ≤ w'.fresh) : Kept b w b'' w'' where
  content := h'.content.trans h.content
  error := h'.error.trans h.error
  sound := h'.sound
  statement s hs := by
    rcases h'.statement s hs with hs | hs
    · exact h.statement s hs
    · exact .inr (Nat.le_trans hw hs)

theorem Kept.leads {b b' : Builder κ} {w w' w'' : World σ} {rule : RequestRule}
    (h : Kept b w b' w') (hw : w.Leads b.slot.statement rule w')
    (hw' : w'.Leads b'.slot.statement rule w'') : w.Leads b.slot.statement rule w'' :=
  hw.trans hw' h.statement

def Works (b : Builder κ) (a : Act σ (Except Error α × Builder κ)) : Prop :=
  ∀ w : World σ, b.Sound w →
    Kept b w (a w).1.2 (a w).2 ∧ w.Leads b.slot.statement (builtRule b.build) (a w).2

variable (c : Connection σ)

theorem prepare_works (b : Builder κ) : Works b (b.prepare c) := fun _ h =>
  have hp := prepare_spec c h rfl
  ⟨hp.1, hp.2.1⟩

theorem ensurePrepared_spec {b : Builder κ} {w w' : World σ} {r : Except Error Unit}
    {b' : Builder κ} (h : b.Sound w) (hp : b.ensurePrepared c w = ((r, b'), w')) :
    Kept b w b' w' ∧ w.Leads b.slot.statement (builtRule b.build) w' ∧
      (r = .ok () → b'.slot.stage = .prepared) := by
  unfold ensurePrepared at hp
  split at hp
  · next hs =>
    cases hp
    exact ⟨.refl h, .refl _ _ _, fun _ => hs⟩
  · exact prepare_spec c h hp

theorem Sound.ready {b : Builder κ} {w : World σ} {s : StatementId} (h : b.Sound w)
    (hp : b.slot.stage = .prepared) (hr : b.slot.ready = .ok s) :
    b.slot.statement = some s ∧ ∃ sql, b.build = .ok sql ∧ Loaded w.journal s sql := by
  obtain ⟨he, hs⟩ := Slot.ready_eq_ok.1 hr
  obtain ⟨s', sql, hs', hb, hl⟩ := h.loaded hp he
  rw [hs] at hs'
  cases hs'
  exact ⟨hs, sql, hb, hl⟩

theorem Sound.stage {b : Builder κ} {w w' : World σ} (h : b.Sound w) (stage : Stage)
    (hw : w.fresh ≤ w'.fresh) (hu : b.slot.stage ≠ .unprepared) (hs : stage ≠ .unprepared)
    (hp : stage ≠ .prepared) :
    ({ b with slot := { b.slot with stage } } : Builder κ).Sound w' where
  known s hs := Nat.lt_of_lt_of_le (h.known s hs) hw
  owned := iff_of_false (fun hn => hu (h.owned.1 hn)) hs
  loaded hp' := absurd hp' hp

theorem Sound.of_held {b : Builder κ} {w w' : World σ} (h : b.Sound w) (hw : w.fresh ≤ w'.fresh)
    (hh : ∀ s, held w'.journal s = held w.journal s) : b.Sound w' where
  known s hs := Nat.lt_of_lt_of_le (h.known s hs) hw
  owned := h.owned
  loaded hp he := by
    obtain ⟨s, sql, hs, hb, hl⟩ := h.loaded hp he
    exact ⟨s, sql, hs, hb, (hh s).trans hl⟩

theorem Sound.leads_run {b : Builder κ} {w : World σ} {s : StatementId}
    (h : b.Sound w) (hp : b.slot.stage = .prepared) (hr : b.slot.ready = .ok s) (call : Call)
    (hc : call.runs? = some s) (answer : σ → Except Error α × σ) :
    w.Leads b.slot.statement (builtRule b.build) (Run.call call answer w).2 := by
  obtain ⟨hs, sql, hb, hl⟩ := h.ready hp hr
  refine .call _ _ (fun t ht => .inl ?_) fun _ _ hq => ⟨sql, hb, fun t ht => ?_⟩
  · cases call with
    | execute | query =>
      cases hc
      rw [hs]
      exact ht
    | _ => cases hc
  · cases call with
    | execute | query =>
      cases hq
      cases hc.symm.trans ht
      exact hl
    | _ => cases hc

omit [Statement κ] in
theorem execute_apply (b : Builder κ) (w : World σ) :
    b.execute c w =
      match b.slot.ready with
      | .error e => ((.error e, b), w)
      | .ok s =>
        match Run.call (.execute s) (c.engine.execute s) w with
        | (.error e, w) => ((.error e, b), w)
        | (.ok n, w) => ((.ok n, { b with slot := { b.slot with stage := .exhausted } }), w) := by
  unfold execute
  cases b.slot.ready with
  | error e => rfl
  | ok s =>
    simp only [Act.bind_apply, ExceptT.run]
    rcases Run.call (.execute s) (c.engine.execute s) w with ⟨_ | _, w'⟩ <;> rfl

theorem execute_spec {b : Builder κ} {w : World σ} (h : b.Sound w)
    (hp : b.slot.stage = .prepared) :
    Kept b w (b.execute c w).1.2 (b.execute c w).2 ∧
      w.Leads b.slot.statement (builtRule b.build) (b.execute c w).2 := by
  rw [execute_apply]
  cases hr : b.slot.ready with
  | error e => exact ⟨.refl h, .refl _ _ w⟩
  | ok s =>
    have hc := h.leads_run hp hr (.execute s) rfl (c.engine.execute s)
    have hh := held_run (.execute s) rfl (c.engine.execute s) w
    dsimp only
    rcases he : Run.call (.execute s) (c.engine.execute s) w with ⟨e | n, w'⟩ <;> rw [he] at hc hh
    · exact ⟨⟨rfl, rfl, h.of_held hc.fresh hh, fun _ hs => .inl hs⟩, hc⟩
    · exact ⟨⟨rfl, rfl, h.stage .exhausted hc.fresh (by rw [hp]; decide) (by decide) (by decide),
        fun _ hs => .inl hs⟩, hc⟩

theorem exec_apply (b : Builder κ) (w : World σ) :
    b.exec c w =
      match b.ensurePrepared c w with
      | ((.error e, b), w) => ((.error e, b), w)
      | ((.ok (), b), w) => b.execute c w := by
  unfold exec
  rw [Act.bind_apply]
  rcases b.ensurePrepared c w with ⟨⟨_ | _, b'⟩, w'⟩ <;> rfl

theorem exec_works (b : Builder κ) : Works b (b.exec c) := by
  intro w h
  rw [exec_apply]
  rcases hp : b.ensurePrepared c w with ⟨⟨e | _, b'⟩, w'⟩
  · obtain ⟨hk, hw, -⟩ := ensurePrepared_spec c h hp
    exact ⟨hk, hw⟩
  · obtain ⟨hk, hw, hs⟩ := ensurePrepared_spec c h hp
    obtain ⟨hk', hw'⟩ := execute_spec c hk.sound (hs rfl)
    rw [hk.build] at hw'
    exact ⟨hk.trans hk' hw.fresh, hk.leads hw hw'⟩

theorem leads_execOnce {b : Builder κ} {w : World σ} (h : b.Sound w) :
    w.Leads b.slot.statement (builtRule b.build) (b.execOnce c w).2 := by
  obtain ⟨hk, hw⟩ := exec_works c b w h
  exact hk.leads hw (leads_drop c _ _ _)

end Works

section Rows

variable (c : Connection σ)

theorem start_apply (b : Builder Select) (w : World σ) :
    b.start c w =
      match b.ensurePrepared c w with
      | ((.error e, b), w) => ((.error e, b), w)
      | ((.ok (), b), w) =>
        match b.slot.ready with
        | .error e => ((.error e, b), w)
        | .ok s =>
          match Run.call (.query s) (c.engine.query s) w with
          | (.error e, w) => ((.error e, b), w)
          | (.ok (), w) =>
            ((.ok { statement := s, table := b.content.table },
              { b with slot := { b.slot with stage := .stepped } }), w) := by
  unfold start
  rw [Act.bind_apply]
  rcases b.ensurePrepared c w with ⟨⟨_ | _, b'⟩, w'⟩
  · rfl
  · cases hr : b'.slot.ready with
    | error e => simp only [hr]; rfl
    | ok s =>
      simp only [hr, Act.bind_apply, ExceptT.run]
      rcases Run.call (.query s) (c.engine.query s) w' with ⟨_ | _, w''⟩ <;> rfl

/-- Starting a query. The cursor is on the statement of the builder. -/
theorem start_spec {b : Builder Select} {w w' : World σ} {r : Except Error Cursor}
    {b' : Builder Select} (h : b.Sound w) (hs : b.start c w = ((r, b'), w')) :
    Kept b w b' w' ∧ w.Leads b.slot.statement (builtRule b.build) w' ∧
      ∀ k, r = .ok k → b'.slot.statement = some k.statement ∧ b'.slot.stage = .stepped := by
  rw [start_apply] at hs
  rcases hp : b.ensurePrepared c w with ⟨⟨e | _, b₁⟩, w₁⟩ <;> rw [hp] at hs <;> dsimp only at hs
  · obtain ⟨hk, hw, -⟩ := ensurePrepared_spec c h hp
    cases hs
    exact ⟨hk, hw, nofun⟩
  -- the builder is prepared now, so the query runs what is built
  · obtain ⟨hk, hw, hst⟩ := ensurePrepared_spec c h hp
    have hst := hst rfl
    cases hr : b₁.slot.ready with
    | error e =>
      rw [hr] at hs
      cases hs
      exact ⟨hk, hw, nofun⟩
    | ok s =>
      have hc := hk.sound.leads_run hst hr (.query s) rfl (c.engine.query s)
      have hh := held_run (.query s) rfl (c.engine.query s) w₁
      rw [hk.build] at hc
      rw [hr] at hs
      dsimp only at hs
      rcases hq : Run.call (.query s) (c.engine.query s) w₁ with ⟨e | _, w₂⟩ <;>
        rw [hq] at hc hh hs <;> cases hs
      · exact ⟨hk.trans ⟨rfl, rfl, hk.sound.of_held hc.fresh hh, fun _ hs => .inl hs⟩ hw.fresh,
          hk.leads hw hc, nofun⟩
      · have hs := hk.sound.stage .stepped hc.fresh (by rw [hst]; decide) (by decide) (by decide)
        refine ⟨hk.trans ⟨rfl, rfl, hs, fun _ hs => .inl hs⟩ hw.fresh, hk.leads hw hc, ?_⟩
        intro k hk'
        cases hk'
        exact ⟨(Slot.ready_eq_ok.1 hr).2, rfl⟩

theorem settle_kept {b : Builder Select} {w w' : World σ} (k : Cursor) (h : b.Sound w)
    (hs : b.slot.stage = .stepped) (hw : w.fresh ≤ w'.fresh) : Kept b w (b.settle k) w' := by
  have hu : b.slot.stage ≠ .unprepared := by rw [hs]; decide
  have hp : b.slot.stage ≠ .prepared := by rw [hs]; decide
  unfold settle
  split
  · exact ⟨rfl, rfl, h.stage .exhausted hw hu (by decide) (by decide), fun _ hs => .inl hs⟩
  · exact ⟨rfl, rfl, h.stage _ hw hu hu hp, fun _ hs => .inl hs⟩

theorem rows_apply (b : Builder Select) (n : Nat) (w : World σ) :
    b.rows c n w =
      match b.start c w with
      | ((.error e, b), w) => ((.error e, b), w)
      | ((.ok k, b), w) =>
        ((.ok (k.take c n w).1.1, b.settle (k.take c n w).1.2), (k.take c n w).2) := by
  unfold rows
  rw [Act.bind_apply]
  rcases b.start c w with ⟨⟨_ | _, b'⟩, w'⟩ <;> rfl

theorem rows_works (n : Nat) (b : Builder Select) : Works b (b.rows c n) := by
  intro w h
  rw [rows_apply]
  rcases hs : b.start c w with ⟨⟨e | k, b'⟩, w'⟩
  · obtain ⟨hk, hw, -⟩ := start_spec c h hs
    exact ⟨hk, hw⟩
  · obtain ⟨hk, hw, hc⟩ := start_spec c h hs
    obtain ⟨hst, hstage⟩ := hc k rfl
    have ht := k.leads_take c (builtRule b.build) n w'
    rw [← hst] at ht
    exact ⟨hk.trans (settle_kept _ hk.sound hstage ht.fresh) hw.fresh, hk.leads hw ht⟩

theorem reading_apply (b : Builder Select) (read : Cursor → Act σ (Except Error α)) (w : World σ) :
    b.reading c read w =
      match b.start c w with
      | ((.error e, b), w) => (.error e, (b.drop c w).2)
      | ((.ok k, b), w) => ((read k w).1, (b.drop c (read k w).2).2) := by
  unfold reading ExceptT.mk
  rw [Act.bind_apply]
  rcases b.start c w with ⟨⟨_ | _, b'⟩, w'⟩ <;> rfl

theorem leads_reading {b : Builder Select} {w : World σ} (h : b.Sound w)
    {read : Cursor → Act σ (Except Error α)}
    (hread : ∀ k w, World.Leads (some k.statement) (builtRule b.build) w (read k w).2) :
    w.Leads b.slot.statement (builtRule b.build) (b.reading c read w).2 := by
  rw [reading_apply]
  rcases hs : b.start c w with ⟨⟨e | k, b'⟩, w'⟩
  · obtain ⟨hk, hw, -⟩ := start_spec c h hs
    exact hk.leads hw (leads_drop c _ _ _)
  · obtain ⟨hk, hw, hc⟩ := start_spec c h hs
    have hr := hread k w'
    rw [← (hc k rfl).1] at hr
    exact hk.leads hw (hr.trans (leads_drop c _ _ _) fun _ hs => .inl hs)

theorem leads_fetchAll {b : Builder Select} {w : World σ} (h : b.Sound w) :
    w.Leads b.slot.statement (builtRule b.build) (b.fetchAll c w).2 :=
  leads_reading c h fun k w => k.leads_collect c _ _ w

theorem leads_fetchFirst {b : Builder Select} {w : World σ} (h : b.Sound w) :
    w.Leads b.slot.statement (builtRule b.build) (b.fetchFirst c w).2 := by
  refine leads_reading c h fun k w => ?_
  have hn := k.leads_next c (builtRule b.build) w
  rw [Act.bind_apply]
  rcases hs : k.next c w with ⟨⟨_ | _, k'⟩, w'⟩ <;> rw [hs] at hn <;> exact hn

theorem leads_fetchOne {b : Builder Select} {w : World σ} (h : b.Sound w) :
    w.Leads b.slot.statement (builtRule b.build) (b.fetchOne c w).2 := by
  have hf := leads_fetchFirst c h
  unfold fetchOne
  rw [Run.bind_apply]
  rcases hs : b.fetchFirst c w with ⟨_ | _ | _, w'⟩ <;> rw [hs] at hf <;> exact hf

theorem leads_one {b : Builder Select} {w : World σ} (h : b.Sound w) :
    w.Leads b.slot.statement (builtRule (b.edit (Select.Edit.limit 1)).build) (b.one c w).2 := by
  have hf := leads_fetchFirst c (h.edit (Select.Edit.limit 1))
  rwa [statement_edit] at hf

end Rows

end Builder

end RecordSql
