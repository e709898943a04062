import RecordSql.Proofs.Builder.Running
import RecordSql.Proofs.Connection.Ownership

/-! The statement of a builder on every path of a call: whatever the engine answers, the call
accounts for the statement that the builder had and the one that it has afterwards, and it fails by
what the builder builds, by a row that cannot be read, or by an answer of the engine. -/

namespace RecordSql

variable {σ κ α : Type}

namespace Cursor

variable (c : Connection σ)

def Unreadable (t : Table) (e : Error) : Prop := ∃ row, t.ofRow row = .error e

theorem table_next (k : Cursor) (w : World σ) : (k.next c w).1.2.table = k.table := by
  rw [next_apply]
  split
  · rfl
  · rcases Run.call (.step k.statement) (c.engine.step k.statement) w with ⟨_ | _ | _, w'⟩ <;> rfl

theorem passes_next (k : Cursor) (w : World σ) :
    ∃ talk, w.Passes c.engine none none talk (k.next c w).2 ∧
      ∀ x ∈ (k.next c w).1.1, Faults (Unreadable k.table) talk x := by
  rw [next_apply]
  split
  · exact ⟨[], .refl _ w, by simp⟩
  · have htidy : (Run.call (.step k.statement) (c.engine.step k.statement)).Tidy c.engine
        fun _ => False := .call (f := .row) (fun _ => rfl) (fun _ => rfl) rfl
    obtain ⟨talk, hp, hf⟩ := htidy w
    rcases hs : Run.call (.step k.statement) (c.engine.step k.statement) w with
      ⟨e | _ | row, w'⟩ <;> rw [hs] at hp hf
    · refine ⟨talk, hp, ?_⟩
      rintro _ ⟨⟩
      exact (hf.weaken fun _ => False.elim).error
    · exact ⟨talk, hp, by simp⟩
    · refine ⟨talk, hp, ?_⟩
      rintro _ ⟨⟩
      exact fun e he => .inl ⟨row, he⟩

theorem passes_take (n : Nat) (k : Cursor) (w : World σ) :
    ∃ talk, w.Passes c.engine none none talk (k.take c n w).2 ∧
      ∀ x, some x ∈ (k.take c n w).1.1 → Faults (Unreadable k.table) talk x := by
  induction n generalizing k w with
  | zero => exact ⟨[], .refl _ w, nofun⟩
  | succ n ih =>
    obtain ⟨talk, hp, hf⟩ := k.passes_next c w
    obtain ⟨talk', hp', hf'⟩ := ih (k.next c w).1.2 (k.next c w).2
    rw [table_next] at hf'
    refine ⟨talk ++ talk', hp.trans hp', fun x hx => ?_⟩
    rcases List.mem_cons.1 hx with hx | hx
    · exact (hf x hx.symm).before talk'
    · exact (hf' x hx).after talk

theorem passes_collect (bound : Nat) (k : Cursor) (w : World σ) :
    ∃ talk, w.Passes c.engine none none talk (k.collect c bound w).2 ∧
      Faults (Unreadable k.table) talk (k.collect c bound w).1 := by
  induction bound generalizing k w with
  | zero => exact ⟨[], .refl _ w, .ok []⟩
  | succ bound ih =>
    obtain ⟨talk, hp, hf⟩ := k.passes_next c w
    have ht := k.table_next c w
    rw [collect, Act.bind_apply]
    rcases hn : k.next c w with ⟨⟨_ | _ | r, k'⟩, w'⟩ <;> rw [hn] at hp hf ht
    · exact ⟨talk, hp, .ok []⟩
    · exact ⟨talk, hp, (hf _ rfl).error⟩
    · obtain ⟨talk', hp', hf'⟩ := ih k' w'
      rw [ht] at hf'
      exact ⟨talk ++ talk', hp.trans hp', (hf'.map _).after talk⟩

end Cursor

namespace Builder

section

variable [Statement κ]

theorem statement_edits (b : Builder κ) (es : List (Statement.Edit κ)) :
    (b.edits es).slot.statement = b.slot.statement := by
  induction es generalizing b with
  | nil => rfl
  | cons e rest ih => exact (ih (b.edit e)).trans (statement_edit b e)

def Carries (E : Engine σ) (Q : Error → Prop) (b : Builder κ)
    (a : Act σ (Except Error α × Builder κ)) (w : World σ) : Prop :=
  ∃ talk, w.Passes E b.slot.statement (a w).1.2.slot.statement talk (a w).2 ∧
    Faults Q talk (a w).1.1

variable (c : Connection σ)

omit [Statement κ] in
theorem passes_drop (b : Builder κ) (w : World σ) :
    ∃ talk, w.Passes c.engine b.slot.statement none talk (b.drop c w).2 := by
  unfold drop
  cases b.slot.statement with
  | some s => exact ⟨_, .finalize s w⟩
  | none => exact ⟨[], .refl _ w⟩

theorem prepare_carries (b : Builder κ) (w : World σ) :
    b.Carries c.engine (b.build = .error ·) (b.prepare c) w := by
  unfold Carries
  rw [prepare_apply]
  cases hb : b.build with
  | error e => exact ⟨[], .refl _ w, .own rfl⟩
  | ok sql =>
    obtain ⟨talk, hp⟩ := passes_drop c b w
    obtain ⟨talk', hp', hf'⟩ := c.passes_compile (Statement.kind κ) sql (b.drop c w).2
    rcases hc : c.compile (Statement.kind κ) sql (b.drop c w).2 with ⟨e | s, w'⟩ <;>
      rw [hc] at hp' hf' <;> simp only [hc]
    · exact ⟨talk ++ talk', hp.trans hp', ((hf'.weaken fun _ => False.elim).error).after talk⟩
    · exact ⟨talk ++ talk', hp.trans hp', .ok ()⟩

theorem ensurePrepared_carries (b : Builder κ) (w : World σ) :
    b.Carries c.engine (b.build = .error ·) (b.ensurePrepared c) w := by
  unfold Carries ensurePrepared
  split
  · exact ⟨[], .refl _ w, .ok ()⟩
  · exact prepare_carries c b w

theorem Sound.build_of_ready {b : Builder κ} {w : World σ} (h : b.Sound w)
    (hs : b.slot.stage ≠ .unprepared) {e : Error} (hr : b.slot.ready = .error e) :
    b.build = .error e := by
  obtain ⟨s, hs⟩ := Option.ne_none_iff_exists'.1 fun hn => hs (h.owned.1 hn)
  unfold Slot.ready at hr
  rw [hs] at hr
  unfold build
  cases hc : b.slot.check with
  | error e' =>
    rw [hc] at hr
    cases hr
    rfl
  | ok => rw [hc] at hr; cases hr

omit [Statement κ] in
theorem execute_carries (b : Builder κ) (w : World σ) :
    b.Carries c.engine (b.slot.ready = .error ·) (b.execute c) w := by
  unfold Carries
  rw [execute_apply]
  cases hr : b.slot.ready with
  | error e => exact ⟨[], .refl _ w, .own rfl⟩
  | ok s =>
    have htidy : (Run.call (.execute s) (c.engine.execute s)).Tidy c.engine fun _ => False :=
      .call (f := .changed) (fun _ => rfl) (fun _ => rfl) rfl
    obtain ⟨talk, hp, hf⟩ := htidy w
    have hp := hp.owning b.slot.statement
    dsimp only
    rcases he : Run.call (.execute s) (c.engine.execute s) w with ⟨e | n, w'⟩ <;> rw [he] at hp hf
    · exact ⟨talk, hp, (hf.weaken fun _ => False.elim).error⟩
    · exact ⟨talk, hp, .ok n⟩

theorem exec_carries {b : Builder κ} {w : World σ} (h : b.Sound w) :
    b.Carries c.engine (b.build = .error ·) (b.exec c) w := by
  obtain ⟨talk, hp, hf⟩ := ensurePrepared_carries c b w
  unfold Carries
  rw [exec_apply]
  rcases he : b.ensurePrepared c w with ⟨⟨e | _, b'⟩, w'⟩ <;> rw [he] at hp hf
  · exact ⟨talk, hp, hf.error⟩
  · obtain ⟨hk, -, hst⟩ := ensurePrepared_spec c h he
    obtain ⟨talk', hp', hf'⟩ := execute_carries c b' w'
    have hready : ∀ e, b'.slot.ready = .error e → b.build = .error e := fun e hr =>
      hk.build ▸ hk.sound.build_of_ready (by rw [hst rfl]; decide) hr
    exact ⟨talk ++ talk', hp.trans hp', (hf'.weaken hready).after talk⟩

theorem passes_execOnce {b : Builder κ} {w : World σ} (h : b.Sound w) :
    ∃ talk, w.Passes c.engine b.slot.statement none talk (b.execOnce c w).2 ∧
      Faults (b.build = .error ·) talk (b.execOnce c w).1 := by
  obtain ⟨talk, hp, hf⟩ := exec_carries c h
  obtain ⟨talk', hp'⟩ := passes_drop c (b.exec c w).1.2 (b.exec c w).2
  exact ⟨talk ++ talk', hp.trans hp', hf.before talk'⟩

end

variable (c : Connection σ)

theorem start_carries {b : Builder Select} {w : World σ} (h : b.Sound w) :
    b.Carries c.engine (b.build = .error ·) (b.start c) w := by
  obtain ⟨talk, hp, hf⟩ := ensurePrepared_carries c b w
  unfold Carries
  rw [start_apply]
  rcases he : b.ensurePrepared c w with ⟨⟨e | _, b'⟩, w'⟩ <;> rw [he] at hp hf
  · exact ⟨talk, hp, hf.error⟩
  obtain ⟨hk, -, hst⟩ := ensurePrepared_spec c h he
  dsimp only
  cases hr : b'.slot.ready with
  | error e =>
    refine ⟨talk, hp, .own ?_⟩
    exact hk.build ▸ hk.sound.build_of_ready (by rw [hst rfl]; decide) hr
  | ok s =>
    have htidy : (Run.call (.query s) (c.engine.query s)).Tidy c.engine fun _ => False :=
      .call (f := fun _ => .accepted) (fun _ => rfl) (fun _ => rfl) rfl
    obtain ⟨talk', hp', hf'⟩ := htidy w'
    have hp' := hp.trans (hp'.owning b'.slot.statement)
    dsimp only
    rcases hq : Run.call (.query s) (c.engine.query s) w' with ⟨e | _, w''⟩ <;> rw [hq] at hp' hf'
    · exact ⟨talk ++ talk', hp', ((hf'.weaken fun _ => False.elim).error).after talk⟩
    · exact ⟨talk ++ talk', hp', .ok _⟩

theorem table_start {b b' : Builder Select} {w w' : World σ} {k : Cursor} (h : b.Sound w)
    (hs : b.start c w = ((.ok k, b'), w')) : k.table = b.content.table := by
  rw [start_apply] at hs
  rcases he : b.ensurePrepared c w with ⟨⟨e | _, b₁⟩, w₁⟩ <;> rw [he] at hs <;> dsimp only at hs
  · cases hs
  obtain ⟨hk, -⟩ := ensurePrepared_spec c h he
  cases hr : b₁.slot.ready with
  | error e =>
    rw [hr] at hs
    cases hs
  | ok s =>
    rw [hr] at hs
    dsimp only at hs
    rcases hq : Run.call (.query s) (c.engine.query s) w₁ with ⟨e | _, w₂⟩ <;> rw [hq] at hs <;>
      cases hs
    exact congrArg Select.table hk.content

theorem statement_settle (k : Cursor) (b : Builder Select) :
    (b.settle k).slot.statement = b.slot.statement := by
  unfold settle
  split <;> rfl

theorem rows_carries {b : Builder Select} {w : World σ} (h : b.Sound w) (n : Nat) :
    ∃ talk, w.Passes c.engine b.slot.statement (b.rows c n w).1.2.slot.statement talk
        (b.rows c n w).2 ∧
      Faults (b.build = .error ·) talk (b.rows c n w).1.1 ∧
      ∀ items, (b.rows c n w).1.1 = .ok items → ∀ x, some x ∈ items →
        Faults (Cursor.Unreadable b.content.table) talk x := by
  obtain ⟨talk, hp, hf⟩ := start_carries c h
  rw [rows_apply]
  rcases hs : b.start c w with ⟨⟨e | k, b'⟩, w'⟩ <;> rw [hs] at hp hf
  · exact ⟨talk, hp, hf.error, nofun⟩
  · obtain ⟨talk', hp', hf'⟩ := k.passes_take c n w'
    rw [table_start c h hs] at hf'
    refine ⟨talk ++ talk', ?_, .ok _, ?_⟩
    · rw [statement_settle]
      exact hp.trans (hp'.owning _)
    · rintro _ ⟨⟩ x hx
      exact (hf' x hx).after talk

theorem passes_reading {b : Builder Select} {w : World σ} (h : b.Sound w) {Q : Error → Prop}
    (hQ : ∀ e, b.build = .error e → Q e) {read : Cursor → Act σ (Except Error α)}
    (hread : ∀ k w, k.table = b.content.table →
      ∃ talk, w.Passes c.engine none none talk (read k w).2 ∧ Faults Q talk (read k w).1) :
    ∃ talk, w.Passes c.engine b.slot.statement none talk (b.reading c read w).2 ∧
      Faults Q talk (b.reading c read w).1 := by
  obtain ⟨talk, hp, hf⟩ := start_carries c h
  rw [reading_apply]
  rcases hs : b.start c w with ⟨⟨e | k, b'⟩, w'⟩ <;> rw [hs] at hp hf
  · obtain ⟨talk', hp'⟩ := passes_drop c b' w'
    exact ⟨talk ++ talk', hp.trans hp', ((hf.weaken hQ).error).before talk'⟩
  · obtain ⟨talk', hp', hf'⟩ := hread k w' (table_start c h hs)
    obtain ⟨talk'', hp''⟩ := passes_drop c b' (read k w').2
    refine ⟨talk ++ (talk' ++ talk''), ?_, ?_⟩
    · exact hp.trans ((hp'.owning _).trans hp'')
    · exact (hf'.before talk'').after talk

def Failing (b : Builder Select) (e : Error) : Prop :=
  b.build = .error e ∨ Cursor.Unreadable b.content.table e

theorem passes_fetchAll {b : Builder Select} {w : World σ} (h : b.Sound w) :
    ∃ talk, w.Passes c.engine b.slot.statement none talk (b.fetchAll c w).2 ∧
      Faults b.Failing talk (b.fetchAll c w).1 := by
  refine passes_reading c h (fun _ => .inl) fun k w hk => ?_
  obtain ⟨talk, hp, hf⟩ := k.passes_collect c (c.engine.pending k.statement w.engine + 1) w
  rw [hk] at hf
  exact ⟨talk, hp, hf.weaken fun _ => .inr⟩

theorem passes_fetchFirst {b : Builder Select} {w : World σ} (h : b.Sound w) :
    ∃ talk, w.Passes c.engine b.slot.statement none talk (b.fetchFirst c w).2 ∧
      Faults b.Failing talk (b.fetchFirst c w).1 := by
  refine passes_reading c h (fun _ => .inl) fun k w hk => ?_
  obtain ⟨talk, hp, hf⟩ := k.passes_next c w
  rw [hk] at hf
  rw [Act.bind_apply]
  rcases hn : k.next c w with ⟨⟨_ | r, k'⟩, w'⟩ <;> rw [hn] at hp hf
  · exact ⟨talk, hp, .ok none⟩
  · exact ⟨talk, hp, (hf r rfl).weaken (fun _ => .inr) |>.map _⟩

def noRow (b : Builder Select) : Error :=
  .notFound ("no row in " ++ quoted b.content.table.name ++ " matched")

theorem passes_fetchOne {b : Builder Select} {w : World σ} (h : b.Sound w) :
    ∃ talk, w.Passes c.engine b.slot.statement none talk (b.fetchOne c w).2 ∧
      Faults (fun e => b.Failing e ∨ e = b.noRow) talk (b.fetchOne c w).1 := by
  obtain ⟨talk, hp, hf⟩ := passes_fetchFirst c h
  unfold fetchOne
  rw [Run.bind_apply]
  rcases hs : b.fetchFirst c w with ⟨e | _ | r, w'⟩ <;> rw [hs] at hp hf
  · exact ⟨talk, hp, (hf.weaken fun _ => .inl).error⟩
  · exact ⟨talk, hp, .own (.inr rfl)⟩
  · exact ⟨talk, hp, .ok r⟩

theorem passes_one {b : Builder Select} {w : World σ} (h : b.Sound w) :
    ∃ talk, w.Passes c.engine b.slot.statement none talk (b.one c w).2 ∧
      Faults (b.edit (Select.Edit.limit 1)).Failing talk (b.one c w).1 := by
  have hf := passes_fetchFirst c (h.edit (Select.Edit.limit 1))
  rwa [statement_edit] at hf

theorem tidy_count (b : Builder Select) {Q : Error → Prop}
    (hbuild : ∀ e, b.buildCount = .error e → Q e)
    (hmissing : Q (.notFound "COUNT(*) returned no row"))
    (hfield : ∀ (row : Row) e, row.field 0 ⟨.integer .i64, false⟩ = .error e → Q e) :
    (b.count c).Tidy c.engine Q :=
  (Run.Tidy.ofExcept hbuild).bind fun sql => c.tidy_scalar sql hmissing hfield

section

variable [Statement κ] {Q : Error → Prop}

theorem Unused.tidy_execOnce {b : Builder κ} (h : b.Unused)
    (hQ : ∀ e, b.build = .error e → Q e) : (b.execOnce c).Tidy c.engine Q := by
  intro w
  obtain ⟨talk, hp, hf⟩ := passes_execOnce c (h.sound w)
  rw [h.statement] at hp
  exact ⟨talk, hp, hf.weaken hQ⟩

end

theorem Unused.tidy_one {b : Builder Select} (h : b.Unused) {Q : Error → Prop}
    (hQ : ∀ e, (b.edit (Select.Edit.limit 1)).Failing e → Q e) : (b.one c).Tidy c.engine Q := by
  intro w
  obtain ⟨talk, hp, hf⟩ := passes_one c (h.sound w)
  rw [h.statement] at hp
  exact ⟨talk, hp, hf.weaken hQ⟩

end Builder

end RecordSql
