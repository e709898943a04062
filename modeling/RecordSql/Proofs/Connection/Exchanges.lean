import RecordSql.Proofs.Builder.Running
import RecordSql.Proofs.Engine.Conversation

/-! What a connection and the engine say to each other: when a statement is compiled, when a new
builder is executed once, and around the body of a transaction. -/

namespace RecordSql

variable {σ α κ : Type}

def bindings (s : StatementId) (slot : Nat) (vs : Params) : List Exchange :=
  vs.mapIdx fun i v => (.bind s (slot + i) v, .accepted)

theorem bindings_cons (s : StatementId) (slot : Nat) (v : Value) (vs : Params) :
    bindings s slot (v :: vs) = (.bind s slot v, .accepted) :: bindings s (slot + 1) vs := by
  simp [bindings, List.mapIdx_cons, Nat.add_comm, Nat.add_left_comm]

/-- How a statement is compiled: its text is refused, or one of its values is, or it comes to be
bound as a whole. Nothing is left of it unless it is. -/
inductive Compiles (s : StatementId) (sql : Sql) : Except Error StatementId → List Exchange → Prop
  | refused (e : Error) : Compiles s sql (.error e) [(.prepare s sql.text, .refused e)]
  | unbound {bound : Params} {v : Value} (e : Error) : bound ++ [v] <+: sql.params →
    Compiles s sql (.error e) ((.prepare s sql.text, .accepted) :: bindings s 1 bound ++
      [(.bind s (bound.length + 1) v, .refused e), (.finalize s, .accepted)])
  | bound : Compiles s sql (.ok s) ((.prepare s sql.text, .accepted) :: bindings s 1 sql.params)

inductive RunsOnce (s : StatementId) (sql : Sql) : Except Error Nat → List Exchange → Prop
  | uncompiled {e : Error} {talk : List Exchange} :
    Compiles s sql (.error e) talk → RunsOnce s sql (.error e) talk
  | executed (answer : Except Error Nat) :
    RunsOnce s sql answer ((.prepare s sql.text, .accepted) :: bindings s 1 sql.params ++
      [(.execute s, .ofExcept .changed answer), (.finalize s, .accepted)])

theorem Compiles.refuses {s : StatementId} {sql : Sql} {e : Error} {talk : List Exchange}
    (h : Compiles s sql (.error e) talk) : ∃ c, (c, .refused e) ∈ talk := by
  cases h with
  | refused => exact ⟨_, List.mem_singleton_self _⟩
  | unbound => exact ⟨_, List.mem_append_right _ List.mem_cons_self⟩

/-- Only an answer of the engine fails it. -/
theorem RunsOnce.refuses {s : StatementId} {sql : Sql} {e : Error} {talk : List Exchange}
    (h : RunsOnce s sql (.error e) talk) : ∃ c, (c, .refused e) ∈ talk := by
  cases h with
  | uncompiled h => exact h.refuses
  | executed => exact ⟨_, List.mem_append_right _ List.mem_cons_self⟩

open Run

theorem Run.Does.converses {E : Engine σ} {r : Run σ α} {w : World σ} {result : Except Error α}
    {s : σ} {asked : List (Call × Bool)} {talk : List Exchange} (h : r.Does w result s asked)
    (hs : E.Says w.engine talk s) (ha : talk.map Exchange.noted = asked) :
    r.Converses E w result talk :=
  ⟨h.result_eq, h.state_eq.symm ▸ hs, ha.symm ▸ h.asked⟩

namespace Engine

variable (E : Engine σ)

theorem converses_bindFrom (s : StatementId) (slot : Nat) (vs : Params) (w : World σ) :
    (E.bindFrom s slot vs).Converses E w (.ok ()) (bindings s slot vs) ∨
      ∃ bound v e, bound ++ [v] <+: vs ∧ (E.bindFrom s slot vs).Converses E w (.error e)
        (bindings s slot bound ++ [(.bind s (slot + bound.length) v, .refused e)]) := by
  induction vs generalizing slot w with
  | nil => exact .inl (.pure () w)
  | cons v rest ih =>
    rcases ha : (E.bind s slot v w.engine).1 with e | ⟨⟩ <;>
      have hc : (Run.call (.bind s slot v) (E.bind s slot v)).Converses E w _ _ :=
        .call (fun _ => rfl) (fun _ => rfl) ha
    · exact .inr ⟨[], v, e, by simp, hc.bind_error⟩
    · rcases ih (slot + 1) (Run.call (.bind s slot v) (E.bind s slot v) w).2 with
        h | ⟨bound, u, e, hfront, h⟩
      · left
        rw [bindings_cons]
        exact hc.bind_ok h
      · refine .inr ⟨v :: bound, u, e, List.cons_prefix_cons.2 ⟨rfl, hfront⟩, ?_⟩
        rw [bindings_cons, List.length_cons, Nat.add_comm bound.length, ← Nat.add_assoc]
        exact hc.bind_ok h

end Engine

namespace Connection

variable (c : Connection σ)

theorem talks_announce (kind : StatementKind) (sql : String) (params : Nat) (w : World σ) :
    w.Talks c.engine [] (c.announce kind sql params w).2 := by
  unfold announce
  split
  · exact .emit _ w
  · exact .refl w

theorem fresh_announce (kind : StatementKind) (sql : String) (params : Nat) (w : World σ) :
    (c.announce kind sql params w).2.fresh = w.fresh := by
  unfold announce
  split <;> rfl

theorem converses_compile (kind : StatementKind) (sql : Sql) (w : World σ) :
    ∃ result talk, Compiles w.fresh sql result talk ∧
      (c.compile kind sql).Converses c.engine w result talk := by
  have h₁ := c.talks_announce kind sql.text sql.params.length w
  rw [← c.fresh_announce kind sql.text sql.params.length w]
  let w₁ := (c.announce kind sql.text sql.params.length w).2
  let s := w₁.fresh
  have h₂ : Run.freshId.Converses c.engine w₁ (.ok s) [] := ⟨rfl, .freshId w₁⟩
  let w₂ := (Run.freshId w₁).2
  rcases hp : (c.engine.prepare s sql.text w₂.engine).1 with e | ⟨⟩ <;>
    have h₃ : (Run.call (.prepare s sql.text) (c.engine.prepare s sql.text)).Converses
      c.engine w₂ _ _ := .call (fun _ => rfl) (fun _ => rfl) hp
  · exact ⟨_, _, .refused e, (Converses.lift h₁).silent_bind (h₂.silent_bind h₃.bind_error)⟩
  let w₃ := (Run.call (.prepare s sql.text) (c.engine.prepare s sql.text) w₂).2
  rcases c.engine.converses_bindFrom s 1 sql.params w₃ with h₄ | ⟨bound, v, e, hfront, h₄⟩
  · exact ⟨_, _, .bound, (Converses.lift h₁).silent_bind
      (h₂.silent_bind (h₃.bind_ok (h₄.outcome.bind_silent (.pure s _))))⟩
  · have hall : (c.compile kind sql).Converses c.engine w (.error e)
        ([(.prepare s sql.text, .accepted)] ++
          ((bindings s 1 bound ++ [(.bind s (1 + bound.length) v, .refused e)]) ++
            ([(.finalize s, .accepted)] ++ []))) :=
      (Converses.lift h₁).silent_bind (h₂.silent_bind (h₃.bind_ok
        (h₄.outcome.bind_ok ((Converses.lift (.finalize s _)).bind_ok (.throw e _)))))
    exact ⟨_, _, .unbound e hfront, by simpa [Nat.add_comm] using hall⟩

variable {c} in
theorem says_batch {sql : String} {s s' : σ} {answer : Except Error Unit}
    (h : c.engine.batch sql s = (answer, s')) :
    c.engine.Says s [(.batch sql, .ofExcept (fun _ => .accepted) answer)] s' :=
  .cons (by rw [Engine.respond, h]; rfl) (.nil _)

inductive Closes (f : Flavour) : Except Error α → Except Error α → List Exchange → Prop
  | failed {cause : Error} {rollback : Except Error Unit} {result : Except Error α} :
    Blames cause rollback result →
    Closes f (.error cause) result [(.batch f.rollback, .ofExcept (fun _ => .accepted) rollback)]
  | uncommitted {v : α} {e : Error} {rollback : Except Error Unit} {result : Except Error α} :
    Blames e rollback result →
    Closes f (.ok v) result [(.batch f.commit, .refused e),
      (.batch f.rollback, .ofExcept (fun _ => .accepted) rollback)]
  | committed (v : α) : Closes f (.ok v) (.ok v) [(.batch f.commit, .accepted)]

inductive Transacted (f : Flavour) (body : Except Error α → List Exchange → Prop) :
    Except Error α → List Exchange → Prop
  | unopened (e : Error) : Transacted f body (.error e) [(.batch f.opening, .refused e)]
  | opened {inner result : Except Error α} {talk closing : List Exchange} :
    body inner talk → Closes f inner result closing →
    Transacted f body result ((.batch f.opening, .accepted) :: talk ++ closing)

theorem converses_endLevel (nested : Bool) (inner : Except Error α) (w : World σ) :
    ∃ result closing, Closes (.entered (!nested)) inner result closing ∧
      (c.endLevel nested inner).Converses c.engine w result closing := by
  rw [Flavour.entered_not]
  cases inner with
  | error cause =>
    rcases hroll : c.engine.batch (rollbackText nested) w.engine with ⟨rollback, s⟩
    have hd : (c.abandon nested cause : Run σ α).Does w _ _ _ := does_abandon cause hroll
    exact ⟨_, _, .failed (blames_rollbackResult cause rollback),
      hd.converses (says_batch hroll) (by simp)⟩
  | ok v =>
    rcases hcommit : c.engine.batch (commitText nested) w.engine with ⟨e | ⟨⟩, s⟩
    · rcases hroll : c.engine.batch (rollbackText nested) s with ⟨rollback, s'⟩
      exact ⟨_, _, .uncommitted (blames_rollbackResult e rollback),
        (does_commitLevel_error v hcommit hroll).converses
          ((says_batch hcommit).append (says_batch hroll)) (by simp)⟩
    · exact ⟨_, _, .committed v, (does_commitLevel v hcommit).converses (says_batch hcommit) rfl⟩

theorem converses_transaction {body : Run σ α} {P : Except Error α → List Exchange → Prop}
    (hbody : ∀ w, ∃ inner talk, P inner talk ∧ body.Converses c.engine w inner talk)
    (w : World σ) :
    ∃ result talk, Transacted (.entered (c.engine.autocommit w.engine)) P result talk ∧
      (c.transaction body).Converses c.engine w result talk := by
  obtain ⟨nested, hn⟩ : ∃ nested, c.engine.autocommit w.engine = !nested :=
    ⟨!c.engine.autocommit w.engine, (Bool.not_not _).symm⟩
  rw [hn]
  rcases hopen : c.engine.batch (beginText nested) w.engine with ⟨e | ⟨⟩, s⟩
  · have hbegin := (does_beginLevel_error hn hopen).converses (says_batch hopen) rfl
    rw [Flavour.entered_not]
    exact ⟨_, _, .unopened e, hbegin.bind_error⟩
  · have hbegin := (does_beginLevel hn hopen).converses (says_batch hopen) rfl
    obtain ⟨inner, talk, hP, hinner⟩ := hbody (c.beginLevel w).2
    obtain ⟨result, closing, hcloses, hend⟩ := c.converses_endLevel nested inner _
    refine ⟨result, _, .opened hP hcloses, ?_⟩
    rw [Flavour.entered_not]
    exact hbegin.bind_ok (hinner.outcome.bind_ok hend)

end Connection

namespace Builder

variable [Statement κ] (c : Connection σ)

theorem execOnce_eq (b : Builder κ) (w : World σ) :
    b.execOnce c w =
      ((b.exec c w).1.1, ((b.exec c w).1.2.drop c (b.exec c w).2).2) := rfl

theorem Unused.execOnce_apply {b : Builder κ} (h : b.Unused) {sql : Sql} (hb : b.build = .ok sql)
    (w : World σ) :
    b.execOnce c w =
      match c.compile (Statement.kind κ) sql w with
      | (.error e, w) => (.error e, w)
      | (.ok s, w) =>
        let after := Run.call (.execute s) (c.engine.execute s) w
        (after.1, (c.engine.finalizeStatement s after.2).2) := by
  have herror := (build_eq_ok.1 hb).1
  have hready (s : StatementId) : Slot.ready ⟨some s, .prepared, b.slot.error⟩ = .ok s :=
    Slot.ready_eq_ok.2 ⟨herror, rfl⟩
  rw [execOnce_eq, exec_apply, h.ensurePrepared_apply, hb]
  rcases hcompile : c.compile (Statement.kind κ) sql w with ⟨e | s, w'⟩
  · simp only [hcompile]
    rfl
  · simp only [hcompile, execute_apply, hready]
    rcases Run.call (.execute s) (c.engine.execute s) w' with ⟨_ | _, w''⟩ <;> rfl

theorem Unused.converses_execOnce {b : Builder κ} (h : b.Unused) {sql : Sql}
    (hb : b.build = .ok sql) (w : World σ) :
    ∃ result talk, RunsOnce w.fresh sql result talk ∧
      (b.execOnce c).Converses c.engine w result talk := by
  have happly := h.execOnce_apply c hb w
  obtain ⟨compiled, talk, hcompiles, hresult, htalk⟩ :=
    c.converses_compile (Statement.kind κ) sql w
  rcases hcompile : c.compile (Statement.kind κ) sql w with ⟨e | s', w'⟩ <;>
    rw [hcompile] at hresult htalk happly <;> subst hresult
  · exact ⟨_, _, .uncompiled hcompiles, congrArg Prod.fst happly, happly ▸ htalk⟩
  · cases hcompiles
    have hcall : Run.Converses c.engine (Run.call (.execute w.fresh) (c.engine.execute w.fresh)) w'
        _ _ :=
      .call (fun _ => rfl) (fun _ => rfl) rfl
    have hall := (htalk.trans hcall.talks).trans (.finalize w.fresh _)
    rw [List.append_assoc] at hall
    refine ⟨_, _, .executed (c.engine.execute w.fresh w'.engine).1, congrArg Prod.fst happly, ?_⟩
    rw [happly]
    exact hall

end Builder

end RecordSql
