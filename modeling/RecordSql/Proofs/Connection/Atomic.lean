import RecordSql.Proofs.Connection.Levels
import RecordSql.Proofs.Engine.Savepoints

/-! Nested transactions are atomic on an engine with savepoints. All levels share one name, but a
level closes its savepoint whenever it ends, so the innermost one of that name is its own. -/

namespace RecordSql.Connection

open Run

variable {σ δ α β : Type}

def beginScript (nested : Bool) : List Control := [if nested then .savepoint "litorm" else .begin]

def commitScript (nested : Bool) : List Control := [if nested then .release "litorm" else .commit]

def rollbackScript (nested : Bool) : List Control :=
  if nested then [.rollbackTo "litorm", .release "litorm"] else [.rollback]

theorem script?_beginText (nested : Bool) :
    Control.script? (beginText nested) = some (beginScript nested) := by
  cases nested <;> rfl

theorem script?_commitText (nested : Bool) :
    Control.script? (commitText nested) = some (commitScript nested) := by
  cases nested <;> rfl

theorem script?_rollbackText (nested : Bool) :
    Control.script? (rollbackText nested) = some (rollbackScript nested) := by
  cases nested <;> rfl

def levelPoint (nested : Bool) (data : δ) : Savepoint δ :=
  ⟨if nested then some "litorm" else none, data⟩

section

variable {nested : Bool} {d d' : Store δ}

theorem run_beginScript (hn : d.stack.isEmpty = !nested) :
    d.run (beginScript nested) =
      some { d with stack := levelPoint nested d.data :: d.stack } := by
  cases nested with
  | true => rfl
  | false =>
    have hs : d.stack = [] := by simpa using hn
    simp [Store.run, beginScript, Store.apply, levelPoint, hs]

theorem run_commitScript (hn : d.stack.isEmpty = !nested)
    (hs : d'.stack = levelPoint nested d.data :: d.stack) :
    d'.run (commitScript nested) = some { d' with stack := d.stack } := by
  cases nested with
  | true => simp [Store.run, commitScript, Store.apply, Store.since, levelPoint, hs]
  | false =>
    have he : d.stack = [] := by simpa using hn
    simp [Store.run, commitScript, Store.apply, hs, he]

/-- A rollback leaves the store as it was before the level, whatever became of the data. -/
theorem run_rollbackScript (hn : d.stack.isEmpty = !nested)
    (hs : d'.stack = levelPoint nested d.data :: d.stack) :
    d'.run (rollbackScript nested) = some d := by
  cases nested with
  | true => simp [Store.run, rollbackScript, Store.apply, Store.since, levelPoint, hs]
  | false =>
    have he : d.stack = [] := by simpa using hn
    obtain ⟨data, stack⟩ := d
    subst he
    simp [Store.run, rollbackScript, Store.apply, levelPoint, hs]

theorem not_isCommit_beginScript : ¬Control.isCommit (beginScript nested) := by
  cases nested <;> decide

theorem not_isCommit_rollbackScript : ¬Control.isCommit (rollbackScript nested) := by
  cases nested <;> decide

end

variable (c : Connection σ) (store : σ → Store δ)

structure Atomic (body : Run σ α) (w : World σ) : Prop where
  stack_eq : (store (c.transaction body w).2.engine).stack = (store w.engine).stack
  opened : (store (c.beginLevel w).2.engine).data = (store w.engine).data
  committed : ∀ v, (c.transaction body w).1 = .ok v →
    (body (c.beginLevel w).2).1 = .ok v ∧
      (store (c.transaction body w).2.engine).data =
        (store (body (c.beginLevel w).2).2.engine).data
  undone : ∀ e, (c.transaction body w).1 = .error e →
    (store (c.transaction body w).2.engine).data = (store w.engine).data

variable {c store}

theorem opens (hE : c.engine.Keeps store) (w : World σ) :
    ∃ nested, (c.beginLevel w).1 = .ok nested ∧ (store w.engine).stack.isEmpty = !nested ∧
      store (c.beginLevel w).2.engine =
        { store w.engine with
          stack := levelPoint nested (store w.engine).data :: (store w.engine).stack } := by
  obtain ⟨nested, hn⟩ : ∃ nested, (store w.engine).stack.isEmpty = !nested :=
    ⟨!(store w.engine).stack.isEmpty, (Bool.not_not _).symm⟩
  have hauto := (hE.autocommit_eq w.engine).trans hn
  have hrun := run_beginScript hn
  obtain ⟨s, hbatch, hs⟩ :=
    hE.batch_eq_ok (script?_beginText nested) hrun not_isCommit_beginScript
  have hd := does_beginLevel hauto hbatch
  exact ⟨nested, hd.result_eq, hn, by rw [hd.state_eq, hs]⟩

theorem closes (hE : c.engine.Keeps store) {nested : Bool} {d : Store δ} {w : World σ}
    (hn : d.stack.isEmpty = !nested)
    (hs : (store w.engine).stack = levelPoint nested d.data :: d.stack)
    (outcome : Except Error α) :
    (∃ v, outcome = .ok v ∧ (c.endLevel nested outcome w).1 = .ok v ∧
      store (c.endLevel nested outcome w).2.engine = { store w.engine with stack := d.stack }) ∨
    ∃ e, (c.endLevel nested outcome w).1 = .error e ∧
      store (c.endLevel nested outcome w).2.engine = d := by
  have hrollback : ∀ s, store s = store w.engine →
      ∃ s', c.engine.batch (rollbackText nested) s = (.ok (), s') ∧ store s' = d := by
    intro s hsame
    have hrun : (store s).run (rollbackScript nested) = some d :=
      run_rollbackScript hn (by rw [hsame, hs])
    exact hE.batch_eq_ok (script?_rollbackText nested) hrun not_isCommit_rollbackScript
  cases outcome with
  | error e =>
    obtain ⟨s', hbatch, hs'⟩ := hrollback w.engine rfl
    have hd : (c.abandon nested e : Run σ α).Does w _ _ _ := does_abandon e hbatch
    exact .inr ⟨e, hd.result_eq, by rw [endLevel, hd.state_eq, hs']⟩
  | ok v =>
    have hrun := run_commitScript hn hs
    -- a refused commit changes nothing, so the level's own savepoint is there to go back to
    rcases hE.batch_commit (script?_commitText nested) hrun with
      ⟨s, hbatch, hstore⟩ | ⟨e, s, hbatch, hstore⟩
    · have hd := does_commitLevel v hbatch
      exact .inl ⟨v, rfl, hd.result_eq, by rw [endLevel, hd.state_eq, hstore]⟩
    · obtain ⟨s', hbatch', hs'⟩ := hrollback s hstore
      have hd := does_commitLevel_error v hbatch hbatch'
      exact .inr ⟨e, hd.result_eq, by rw [endLevel, hd.state_eq, hs']⟩

/-- A transaction is atomic if its body leaves the savepoints as they are. -/
theorem atomic_of_balanced (hE : c.engine.Keeps store) {body : Run σ α}
    (hbody : ∀ w, (store (body w).2.engine).stack = (store w.engine).stack) (w : World σ) :
    Atomic c store body w := by
  obtain ⟨nested, hopen, hn, hstore⟩ := opens hE w
  have hinside : (store (body (c.beginLevel w).2).2.engine).stack =
      levelPoint nested (store w.engine).data :: (store w.engine).stack := by
    rw [hbody, hstore]
  have hdata : (store (c.beginLevel w).2.engine).data = (store w.engine).data := by rw [hstore]
  have hlevel := transaction_of_opened body hopen
  rcases closes hE hn hinside (body (c.beginLevel w).2).1 with ⟨v, hv, hr, hs⟩ | ⟨e, hr, hs⟩
  · rw [← hlevel] at hr hs
    refine ⟨by rw [hs], hdata, fun u hu => ⟨?_, by rw [hs]⟩, fun e he => ?_⟩
    · rw [hv, ← hr, hu]
    · exact nomatch hr.symm.trans he
  · rw [← hlevel] at hr hs
    refine ⟨by rw [hs], hdata, fun u hu => ?_, fun _ _ => by rw [hs]⟩
    exact nomatch hr.symm.trans hu

variable (c store)

/-- Activities that are trees of transactions, of any depth: what is done between the transactions
leaves the savepoints as they are, and a failure can be caught. -/
inductive Transacts : {α : Type} → Run σ α → Prop
  | other {α : Type} {r : Run σ α}
    (h : ∀ w, (store (r w).2.engine).stack = (store w.engine).stack) : Transacts r
  | bind {α β : Type} {r : Run σ α} {f : α → Run σ β} (h : Transacts r)
    (hf : ∀ x, Transacts (f x)) : Transacts (r >>= f)
  | outcome {α : Type} {r : Run σ α} (h : Transacts r) : Transacts (Run.outcome r)
  | transaction {α : Type} {body : Run σ α} (h : Transacts body) : Transacts (c.transaction body)

variable {c store}

/-- Whatever becomes of the transactions in it, a tree leaves the savepoints as they were. -/
theorem Transacts.stack_eq (hE : c.engine.Keeps store) {r : Run σ α} (h : Transacts c store r)
    (w : World σ) : (store (r w).2.engine).stack = (store w.engine).stack := by
  -- on the tree: what was left open inside a transaction would be in the way of its own end
  induction h generalizing w with
  | other h => exact h w
  | @bind α β r f _ _ ih ihf =>
    have hr := ih w
    rw [bind_apply]
    rcases hrw : r w with ⟨e | x, w'⟩ <;> rw [hrw] at hr
    · exact hr
    · exact (ihf x w').trans hr
  | outcome _ ih => exact ih w
  | transaction _ ih => exact (atomic_of_balanced hE ih w).stack_eq

theorem Transacts.atomic (hE : c.engine.Keeps store) {body : Run σ α}
    (h : Transacts c store body) (w : World σ) : Atomic c store body w :=
  atomic_of_balanced hE (h.stack_eq hE) w

/-! An engine whose data are the texts of the batches that control nothing. It refuses as many
commits as it is told to. -/

namespace Texts

structure State where
  store : Store (List String)
  refusals : Nat := 0
deriving DecidableEq

def batch (sql : String) (s : State) : Except Error Unit × State :=
  match Control.script? sql with
  | none => (.ok (), { s with store := { s.store with data := s.store.data ++ [sql] } })
  | some script =>
    if Control.isCommit script ∧ 0 < s.refusals then
      (.error (.step "database is locked"), { s with refusals := s.refusals - 1 })
    else
      match s.store.run script with
      | none => (.error (.step "no such savepoint"), s)
      | some store => (.ok (), { s with store })

def engine : Engine State where
  batch := batch
  prepare _ _ s := (.ok (), s)
  bind _ _ _ s := (.ok (), s)
  execute _ s := (.ok 0, s)
  query _ s := (.ok (), s)
  step _ s := (.ok none, s)
  finalize _ s := s
  lastInsertRowid _ := 0
  autocommit s := s.store.stack.isEmpty
  pending _ _ := 0
  pending_step := by simp

theorem keeps : engine.Keeps State.store where
  autocommit_eq _ := rfl
  accepted {sql script s s'} hsql h := by
    change batch sql s = _ at h
    simp only [batch, hsql] at h
    split_ifs at h
    · exact nomatch h
    · split at h
      case h_1 => exact nomatch h
      case h_2 store hrun =>
        cases h
        exact hrun
  refused {sql script s s' e} hsql h := by
    change batch sql s = _ at h
    simp only [batch, hsql] at h
    split_ifs at h with hc
    · cases h
      exact .inr ⟨hc.1, rfl⟩
    · split at h
      case h_1 hrun => exact .inl hrun
      case h_2 => exact nomatch h

def connection : Connection State := ⟨engine, ⟨[], rfl⟩, {}⟩

theorem transacts_batch {sql : String} (hsql : Control.script? sql = none) :
    Transacts connection State.store (connection.batch sql) := by
  refine .other fun w => ?_
  have hd : (connection.batch sql).Does w _ _ _ := connection.does_batch rfl
  rw [hd.state_eq]
  change (batch sql w.engine).2.store.stack = _
  simp only [batch, hsql]

def body : Run State Unit := do
  connection.batch "first"
  let _ ← Run.outcome (connection.transaction (do
    connection.batch "failed"
    throw (.validation "no") : Run State Unit))
  let _ ← Run.outcome (connection.transaction (connection.batch "refused"))
  connection.batch "last"

def world : World State :=
  { engine := { store := { data := ["before"], stack := [⟨some "litorm", []⟩] }, refusals := 1 } }

theorem transacts_body : Transacts connection State.store body := by
  have hfailed : Transacts connection State.store
      (do connection.batch "failed"; throw (.validation "no") : Run State Unit) :=
    .bind (transacts_batch rfl) fun _ => .other fun _ => rfl
  refine .bind (transacts_batch rfl) fun _ => .bind hfailed.transaction.outcome fun _ => ?_
  exact .bind (transacts_batch rfl).transaction.outcome fun _ => transacts_batch rfl

theorem atomic_body :
    Atomic connection State.store body world ∧
      (connection.transaction body world).1 = .ok () ∧
      (connection.transaction body world).2.engine =
        ⟨⟨["before", "first", "last"], world.engine.store.stack⟩, 0⟩ :=
  ⟨transacts_body.atomic keeps world, by decide, by decide⟩

end Texts

end RecordSql.Connection
