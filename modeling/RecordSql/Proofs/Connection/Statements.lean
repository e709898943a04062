import RecordSql.Connection.Records
import RecordSql.Proofs.Engine.Journal

/-! The statements that a connection compiles: what the engine holds for one once it is compiled,
and the activities of a connection that leave all other statements alone. -/

namespace RecordSql

variable {σ α β : Type}

/-- An activity that owns no statement. What it compiles and runs is new, and compiled and bound as
a whole when it is run. -/
def Act.Contained (a : Act σ α) : Prop := ∀ w : World σ, w.Leads none loadedRule (a w).2

namespace World.Leads

variable {own : Option StatementId} {rule : RequestRule}

theorem emit (e : Event) (w : World σ) : w.Leads own rule (Act.emit e w).2 :=
  .entry (e := .event e) (by simp [Entry.statement?, Entry.call?]) (by simp [Entry.request?])
    (Nat.le_refl _) rfl

theorem call (c : Call) (answer : σ → Except Error α × σ) {w : World σ}
    (hs : ∀ s, c.statement? = some s → own = some s ∨ w.fresh ≤ s)
    (hr : ∀ accepted call, Entry.request? (.call c accepted) = some call → rule w.journal call) :
    w.Leads own rule (Run.call c answer w).2 :=
  .entry (e := .call c (succeeded (answer w.engine).1))
    (by simpa [Entry.statement?, Entry.call?] using hs) (hr _) (Nat.le_refl _) rfl

theorem finalize (E : Engine σ) {s : StatementId} {w : World σ}
    (hs : own = some s ∨ w.fresh ≤ s) : w.Leads own rule (E.finalizeStatement s w).2 :=
  .entry (e := .call (.finalize s) true)
    (fun _ h => by cases h; exact hs) (by simp [Entry.request?]) (Nat.le_refl _) rfl

theorem run_bind {r : Run σ α} {f : α → Run σ β} {w : World σ} (h : w.Leads own rule (r w).2)
    (hf : ∀ x w', r w = (.ok x, w') → w'.Leads own rule (f x w').2) :
    w.Leads own rule ((r >>= f) w).2 := by
  rw [Run.bind_apply]
  rcases hr : r w with ⟨e | x, w'⟩ <;> rw [hr] at h
  · exact h
  · exact h.trans (hf x w' hr) fun _ hs => .inl hs

theorem finalized (E : Engine σ) {s : StatementId} {body : Run σ α} {w : World σ}
    (h : w.Leads (some s) rule (body w).2) : w.Leads (some s) rule (E.owning s body w).2 :=
  h.trans (.finalize E (.inl rfl)) fun _ hs => .inl hs

theorem freshId (w : World σ) : w.Leads own rule (Run.freshId w).2 where
  fresh := Nat.le_succ _
  gained := ⟨[], (List.append_nil _).symm, by simp, by simp⟩

theorem announce (c : Connection σ) (kind : StatementKind) (sql : String) (params : Nat)
    (w : World σ) : w.Leads own rule (c.announce kind sql params w).2 := by
  unfold Connection.announce
  split
  · exact emit _ w
  · exact refl _ _ w

theorem bindFrom (hrule : rule.Lenient) (E : Engine σ) (s : StatementId) (slot : Nat)
    (vs : Params) (w : World σ) : w.Leads (some s) rule (E.bindFrom s slot vs w).2 := by
  induction vs generalizing slot w with
  | nil => exact refl _ _ w
  | cons v rest ih =>
    have h : w.Leads (some s) rule (Run.call (.bind s slot v) (E.bind s slot v) w).2 :=
      call _ _ (fun _ h => .inl (by simpa [Call.statement?] using h)) fun _ _ h => by
        cases h
        exact hrule _ _ rfl
    exact run_bind h fun _ w' _ => ih (slot + 1) w'

end World.Leads

theorem held_bindFrom {E : Engine σ} {s : StatementId} {slot : Nat} {vs : Params} {w w' : World σ}
    {h : Held} (hh : held w.journal s = some h) (hok : E.bindFrom s slot vs w = (.ok (), w')) :
    held w'.journal s =
      some { h with bindings := h.bindings ++ vs.mapIdx fun i v => (slot + i, v, true) } := by
  induction vs generalizing slot w h with
  | nil =>
    cases hok
    simpa using hh
  | cons v rest ih =>
    rw [Engine.bindFrom, Run.bind_apply] at hok
    rcases hc : E.bind s slot v w.engine with ⟨e | ⟨⟩, state⟩
    · simp only [Run.call, hc] at hok
      cases hok
    · simp only [Run.call, hc] at hok
      have hb : held (w.journal ++ [.call (.bind s slot v) true]) s =
          some (h.bind slot v true) := by
        rw [held_append, hh]
        simp [heldFrom, heldAfter]
      rw [ih (h := h.bind slot v true) hb hok]
      simp [Held.bind, List.mapIdx_cons, Nat.add_comm, Nat.add_left_comm]

namespace Connection

variable (c : Connection σ)

theorem compile_apply (kind : StatementKind) (sql : Sql) (w : World σ) :
    c.compile kind sql w =
      let w₁ := (c.announce kind sql.text sql.params.length w).2
      let s := w₁.fresh
      match Run.call (.prepare s sql.text) (c.engine.prepare s sql.text)
          { w₁ with fresh := w₁.fresh + 1 } with
      | (.error e, w) => (.error e, w)
      | (.ok (), w₃) =>
        match c.engine.bindFrom s 1 sql.params w₃ with
        | (.ok (), w₄) => (.ok s, w₄)
        | (.error e, w₄) => (.error e, (c.engine.finalizeStatement s w₄).2) := by
  rw [compile, Run.lift_bind_apply, Run.bind_apply]
  simp only [Run.freshId]
  rw [Run.bind_apply]
  rcases Run.call _ _ _ with ⟨_ | _, w₃⟩
  · rfl
  simp only [Run.outcome_bind_apply]
  rcases c.engine.bindFrom _ _ _ _ with ⟨_ | _, w₄⟩ <;> rfl

theorem leads_compile {rule : RequestRule} (hrule : rule.Lenient) (kind : StatementKind)
    (sql : Sql) (w : World σ) : w.Leads none rule (c.compile kind sql w).2 := by
  have h₁ : w.Leads none rule (c.announce kind sql.text sql.params.length w).2 := .announce ..
  rw [compile_apply]
  generalize (c.announce kind sql.text sql.params.length w).2 = w₁ at h₁
  have h₂ := h₁.andThen (.freshId w₁)
  have hnew : ∀ s, some w₁.fresh = some s → none = some s ∨ w.fresh ≤ s :=
    fun s hs => .inr (Option.some.inj hs ▸ h₁.fresh)
  have hp : (Run.freshId w₁).2.Leads (some w₁.fresh) rule
      (Run.call (.prepare w₁.fresh sql.text) (c.engine.prepare w₁.fresh sql.text)
        { w₁ with fresh := w₁.fresh + 1 }).2 :=
    .call _ _ (fun _ h => .inl h) fun _ _ h => by
      cases h
      exact hrule _ _ rfl
  -- the new statement is owned from here on, which no statement before it is
  have h₃ := h₂.trans hp hnew
  dsimp only
  rcases hp : Run.call _ _ { w₁ with fresh := w₁.fresh + 1 } with ⟨_ | _, w₃⟩ <;> rw [hp] at h₃
  · exact h₃
  have h₄ := h₃.trans (.bindFrom hrule c.engine w₁.fresh 1 sql.params w₃) hnew
  dsimp only
  rcases hb : c.engine.bindFrom w₁.fresh 1 sql.params w₃ with ⟨_ | _, w₄⟩ <;> rw [hb] at h₄
  · exact h₄.trans (.finalize c.engine (.inl rfl)) hnew
  · exact h₄

/-- A statement that compiles is new, and the engine holds it with every value bound. -/
theorem compile_eq_ok {kind : StatementKind} {sql : Sql} {w w' : World σ} {s : StatementId}
    (h : c.compile kind sql w = (.ok s, w')) :
    w.fresh ≤ s ∧ s < w'.fresh ∧ Loaded w'.journal s sql := by
  have h₁ : w.Leads none loadedRule (c.announce kind sql.text sql.params.length w).2 := .announce ..
  rw [compile_apply] at h
  generalize (c.announce kind sql.text sql.params.length w).2 = w₁ at h h₁
  dsimp only at h
  rcases hp : c.engine.prepare w₁.fresh sql.text w₁.engine with ⟨_ | _, state⟩
  · simp only [Run.call, hp] at h
    cases h
  simp only [Run.call, hp] at h
  generalize hw₃ : (World.mk _ _ _ : World σ) = w₃ at h
  have hb := World.Leads.bindFrom lenient_loadedRule c.engine w₁.fresh 1 sql.params w₃
  rcases hc : c.engine.bindFrom w₁.fresh 1 sql.params w₃ with ⟨_ | _, w₄⟩
  · rw [hc] at h
    cases h
  rw [hc] at h hb
  cases h
  refine ⟨h₁.fresh, ?_, ?_⟩
  · exact Nat.lt_of_lt_of_le (by simp [← hw₃]) hb.fresh
  -- compiling alone leaves no bindings, so those of the loop are all there are
  · have hh : held w₃.journal w₁.fresh = some ⟨sql.text, []⟩ := by
      rw [← hw₃]
      simp [held_append, heldFrom, heldAfter, succeeded]
    rw [Loaded, held_bindFrom hh hc]
    simp [Params.slots, List.mapIdx_eq_zipIdx_map, Function.comp_def, Nat.add_comm]

end Connection

end RecordSql
