import RecordSql.Proofs.Connection.Rowids

/-! Reading the answers of a query. Once a query is started the engine's answers to its steps are
settled: rows, and then the end or a failure. The cursor gives one item for each row, in their
order, and asks the engine for no more than it gives. -/

namespace RecordSql

variable {σ : Type}

namespace Engine

inductive Yields (E : Engine σ) (s : StatementId) : σ → List Row → Option Error → Prop where
  | ended {state state' : σ} : E.step s state = (.ok none, state') → Yields E s state [] none
  | failed {state state' : σ} {e : Error} : E.step s state = (.error e, state') →
      Yields E s state [] (some e)
  | row {state state' : σ} {r : Row} {rows : List Row} {failure : Option Error} :
      E.step s state = (.ok (some r), state') → Yields E s state' rows failure →
      Yields E s state (r :: rows) failure

variable {E : Engine σ} {s : StatementId} {state : σ} {rows : List Row} {failure : Option Error}

theorem Yields.length_le (h : E.Yields s state rows failure) : rows.length ≤ E.pending s state := by
  induction h with
  | ended => exact Nat.zero_le _
  | failed => exact Nat.zero_le _
  | row hstep _ ih => exact Nat.lt_of_le_of_lt ih (E.pending_step _ _ _ _ hstep)

theorem exists_yields (E : Engine σ) (s : StatementId) (state : σ) :
    ∃ rows failure, E.Yields s state rows failure := by
  induction hn : E.pending s state using Nat.strongRecOn generalizing state with
  | ind n ih =>
    rcases hstep : E.step s state with ⟨e | _ | r, state'⟩
    · exact ⟨_, _, .failed hstep⟩
    · exact ⟨_, _, .ended hstep⟩
    · have hless : E.pending s state' < n := hn ▸ E.pending_step _ _ _ _ hstep
      obtain ⟨rows, failure, hrest⟩ := ih _ hless state' rfl
      exact ⟨_, _, .row hstep hrest⟩

theorem Says.answer_unique {state' state'' : σ} (talk : List Exchange) {rest rest' : List Exchange}
    {c : Call} {a a' : Answer} (h : E.Says state (talk ++ (c, a) :: rest) state')
    (h' : E.Says state (talk ++ (c, a') :: rest') state'') : a = a' := by
  induction talk generalizing state with
  | nil =>
    obtain _ | ⟨hr, -⟩ := h
    obtain _ | ⟨hr', -⟩ := h'
    exact congrArg Prod.fst (hr.symm.trans hr')
  | cons x talk ih =>
    obtain _ | ⟨hr, h⟩ := h
    obtain _ | ⟨hr', h'⟩ := h'
    obtain rfl := congrArg Prod.snd (hr.symm.trans hr')
    exact ih h h'

theorem Says.state_unique {state' state'' : σ} {talk : List Exchange} (h : E.Says state talk state')
    (h' : E.Says state talk state'') : state' = state'' := by
  induction h with
  | nil => cases h'; rfl
  | cons hr _ ih =>
    obtain _ | ⟨hr', h'⟩ := h'
    obtain rfl := congrArg Prod.snd (hr.symm.trans hr')
    exact ih h'

theorem exists_call {α : Type} {c : Call} {answer : σ → Except Error α × σ} {f : α → Answer}
    (hr : ∀ s, E.respond c s = Prod.map (.ofExcept f) id (answer s)) (hf : ∀ a, (f a).accepts)
    {w : World σ} {result : Except Error α} (h : answer w.engine = (result, state)) :
    ∃ w', Run.call c answer w = (result, w') ∧ w'.engine = state ∧
      w.Talks E [(c, .ofExcept f result)] w' := by
  have htalks : w.Talks E _ (Run.call c answer w).2 := .call hr hf w
  have hanswer : (Run.call c answer w).1 = result := congrArg Prod.fst h
  rw [h] at htalks
  exact ⟨_, Prod.ext hanswer rfl, congrArg Prod.snd h, htalks⟩

theorem exists_step (E : Engine σ) {w : World σ} {answer : Except Error (Option Row)}
    (h : E.step s w.engine = (answer, state)) :
    ∃ w', Run.call (.step s) (E.step s) w = (answer, w') ∧ w'.engine = state ∧
      w.Talks E [(.step s, .ofExcept .row answer)] w' :=
  exists_call (fun _ => rfl) (fun _ => rfl) h

end Engine

def steps (s : StatementId) (rows : List Row) (failure : Option Error) : List Exchange :=
  rows.map (fun r => (.step s, .row (some r))) ++ [(.step s, failure.elim (.row none) .refused)]

theorem take_steps_nil (s : StatementId) (failure : Option Error) (n : Nat) :
    (steps s [] failure).take (n + 1) = [(.step s, failure.elim (.row none) .refused)] := by
  simp [steps]

def Table.items (t : Table) (rows : List Row) (failure : Option Error) :
    List (Except Error Record) :=
  rows.map t.ofRow ++ (failure.map Except.error).toList

/-- The items taken together, up to the first that is an error, and how many steps that takes: the
end of the rows takes one of its own. -/
inductive Gathered (items : List (Except Error Record)) :
    Except Error (List Record) → Nat → Prop where
  | all {records : List Record} : items = records.map .ok →
      Gathered items (.ok records) (items.length + 1)
  | failed {records : List Record} {e : Error} {rest : List (Except Error Record)} :
      items = records.map .ok ++ .error e :: rest → Gathered items (.error e) (records.length + 1)

theorem Gathered.cons {items : List (Except Error Record)} {result : Except Error (List Record)}
    {n : Nat} (h : Gathered items result n) (r : Record) :
    Gathered (.ok r :: items) (result.map (r :: ·)) (n + 1) := by
  cases h with
  | all hitems =>
    have hall : Except.ok r :: items = (r :: _).map Except.ok := congrArg (.ok r :: ·) hitems
    exact .all hall
  | @failed records e rest hitems =>
    have hfailed : Except.ok r :: items = (r :: records).map Except.ok ++ .error e :: rest :=
      congrArg (.ok r :: ·) hitems
    exact .failed hfailed

namespace Cursor

variable (c : Connection σ) {k : Cursor} {w : World σ} {rows : List Row} {failure : Option Error}

theorem next_of_row {r : Row} {state : σ} (hk : k.done = false)
    (h : c.engine.step k.statement w.engine = (.ok (some r), state)) :
    ∃ w', k.next c w = ((some (k.table.ofRow r), k), w') ∧ w'.engine = state ∧
      w.Talks c.engine [(.step k.statement, .row (some r))] w' := by
  obtain ⟨w', hcall, hstate, htalks⟩ := c.engine.exists_step h
  refine ⟨w', ?_, hstate, htalks⟩
  rw [next_apply, hk, hcall]
  rfl

theorem next_of_end {state : σ} (hk : k.done = false)
    (h : c.engine.step k.statement w.engine = (.ok none, state)) :
    ∃ w', k.next c w = ((none, { k with ended := true, done := true }), w') ∧
      w.Talks c.engine [(.step k.statement, .row none)] w' := by
  obtain ⟨w', hcall, -, htalks⟩ := c.engine.exists_step h
  refine ⟨w', ?_, htalks⟩
  rw [next_apply, hk, hcall]
  rfl

theorem next_of_failure {e : Error} {state : σ} (hk : k.done = false)
    (h : c.engine.step k.statement w.engine = (.error e, state)) :
    ∃ w', k.next c w = ((some (.error e), { k with done := true }), w') ∧
      w.Talks c.engine [(.step k.statement, .refused e)] w' := by
  obtain ⟨w', hcall, -, htalks⟩ := c.engine.exists_step h
  refine ⟨w', ?_, htalks⟩
  rw [next_apply, hk, hcall]
  rfl

theorem exists_next (hk : k.done = false)
    (h : c.engine.Yields k.statement w.engine rows failure) :
    ∃ k' w', k.next c w = (((k.table.items rows failure).head?, k'), w') ∧
      w.Talks c.engine ((steps k.statement rows failure).take 1) w' := by
  cases h with
  | ended hstep =>
    obtain ⟨w', hnext, htalks⟩ := next_of_end c hk hstep
    exact ⟨_, w', hnext, htalks⟩
  | failed hstep =>
    obtain ⟨w', hnext, htalks⟩ := next_of_failure c hk hstep
    exact ⟨_, w', hnext, htalks⟩
  | row hstep _ =>
    obtain ⟨w', hnext, -, htalks⟩ := next_of_row c hk hstep
    exact ⟨_, w', hnext, htalks⟩

theorem take_succ {n : Nat} {item : Option (Except Error Record)} {k' : Cursor} {w' : World σ}
    (h : k.next c w = ((item, k'), w')) :
    k.take c (n + 1) w =
      ((item :: (k'.take c n w').1.1, (k'.take c n w').1.2), (k'.take c n w').2) := by
  rw [take, Act.bind_apply, h]
  rfl

theorem take_of_done (n : Nat) (hk : k.done = true) :
    k.take c n w = ((List.replicate n none, k), w) := by
  induction n with
  | zero => rfl
  | succ n ih =>
    have hnext : k.next c w = ((none, k), w) := by
      rw [next_apply, hk]
      rfl
    rw [take_succ c hnext, ih]
    rfl

structure Taken (k : Cursor) (n : Nat) (w : World σ) (items : List (Except Error Record))
    (talk : List Exchange) : Prop where
  items_eq : (k.take c n w).1.1 = (List.range n).map (items[·]?)
  talks : w.Talks c.engine (talk.take n) (k.take c n w).2
  ended : (k.take c n w).1.2.ended ↔ (.step k.statement, .row none) ∈ talk.take n

theorem range_succ_map (n : Nat) (x : Except Error Record) (items : List (Except Error Record)) :
    (List.range (n + 1)).map ((x :: items)[·]?) = some x :: (List.range n).map (items[·]?) := by
  rw [List.range_succ_eq_map, List.map_cons, List.map_map]
  rfl

theorem range_map_nil (n : Nat) :
    (List.range n).map (([] : List (Except Error Record))[·]?) = List.replicate n none := by
  simp [List.map_const']

/-- An item for each row and one for a failure, then nothing; a step for each item and one for the
end. -/
theorem taken_of_yields (hk : k.done = false) (hend : k.ended = false)
    (h : c.engine.Yields k.statement w.engine rows failure) (n : Nat) :
    Taken c k n w (k.table.items rows failure) (steps k.statement rows failure) := by
  induction n generalizing w rows with
  | zero =>
    have hnone : (k.take c 0 w).1.2.ended = false := hend
    exact ⟨rfl, .refl w, by simp [hnone]⟩
  | succ n ih =>
    cases h with
    | ended hstep =>
      obtain ⟨w', hnext, htalks⟩ := next_of_end c hk hstep
      have htake := (take_succ c hnext).trans (by rw [take_of_done c n rfl])
      refine ⟨?_, ?_, ?_⟩
      · rw [htake]
        exact (range_map_nil (n + 1)).symm
      · rw [htake, take_steps_nil]
        exact htalks
      · rw [htake, take_steps_nil]
        exact iff_of_true rfl (List.mem_singleton_self _)
    | @failed _ _ e hstep =>
      obtain ⟨w', hnext, htalks⟩ := next_of_failure c hk hstep
      have htake := (take_succ c hnext).trans (by rw [take_of_done c n rfl])
      refine ⟨?_, ?_, ?_⟩
      · rw [htake]
        exact ((range_succ_map n (.error e) []).trans (by rw [range_map_nil])).symm
      · rw [htake, take_steps_nil]
        exact htalks
      · rw [htake]
        exact iff_of_false (by simp [hend]) (by simp [steps])
    | @row _ _ r rows _ hstep hrest =>
      obtain ⟨w', hnext, rfl, htalks⟩ := next_of_row c hk hstep
      obtain ⟨hitems, htalks', hended⟩ := ih hrest
      have htake := take_succ c (n := n) hnext
      refine ⟨?_, ?_, ?_⟩
      · rw [htake, hitems]
        exact (range_succ_map n _ _).symm
      · rw [htake]
        exact htalks.trans htalks'
      · rw [htake]
        exact hended.trans (by simp [steps])

theorem collect_of_yields (hk : k.done = false)
    (h : c.engine.Yields k.statement w.engine rows failure) {bound : Nat}
    (hbound : rows.length < bound) :
    ∃ n, Gathered (k.table.items rows failure) (k.collect c bound w).1 n ∧
      w.Talks c.engine ((steps k.statement rows failure).take n) (k.collect c bound w).2 := by
  induction bound generalizing w rows with
  | zero => exact absurd hbound (Nat.not_lt_zero _)
  | succ bound ih =>
    cases h with
    | ended hstep =>
      obtain ⟨w', hnext, htalks⟩ := next_of_end c hk hstep
      have hcollect : k.collect c (bound + 1) w = (.ok [], w') := by
        rw [collect, Act.bind_apply, hnext]
        rfl
      rw [hcollect]
      exact ⟨_, .all rfl, htalks⟩
    | @failed _ _ e hstep =>
      obtain ⟨w', hnext, htalks⟩ := next_of_failure c hk hstep
      have hcollect : k.collect c (bound + 1) w = (.error e, w') := by
        rw [collect, Act.bind_apply, hnext]
        rfl
      have hitems : k.table.items [] (some e) = ([] : List Record).map .ok ++ .error e :: [] := rfl
      rw [hcollect]
      exact ⟨_, .failed hitems, htalks⟩
    | @row _ _ r rows _ hstep hrest =>
      obtain ⟨w', hnext, rfl, htalks⟩ := next_of_row c hk hstep
      cases hrow : k.table.ofRow r with
      | error e =>
        have hcollect : k.collect c (bound + 1) w = (.error e, w') := by
          rw [collect, Act.bind_apply, hnext, hrow]
          rfl
        have hitems : k.table.items (r :: rows) failure =
            ([] : List Record).map .ok ++ .error e :: k.table.items rows failure :=
          congrArg (· :: _) hrow
        rw [hcollect]
        exact ⟨_, .failed hitems, htalks⟩
      | ok record =>
        have hcollect : k.collect c (bound + 1) w =
            ((k.collect c bound w').1.map (record :: ·), (k.collect c bound w').2) := by
          rw [collect, Act.bind_apply, hnext, hrow]
          rfl
        have hitems : k.table.items (r :: rows) failure =
            .ok record :: k.table.items rows failure := congrArg (· :: _) hrow
        have hless : rows.length < bound := Nat.lt_of_succ_lt_succ hbound
        obtain ⟨n, hgathered, htalks'⟩ := ih hrest hless
        rw [hcollect, hitems]
        exact ⟨n + 1, hgathered.cons record, htalks.trans htalks'⟩

end Cursor

theorem bindings_append (s : StatementId) (slot : Nat) (us vs : Params) :
    bindings s slot (us ++ vs) = bindings s slot us ++ bindings s (slot + us.length) vs := by
  simp [bindings, List.mapIdx_append, Nat.add_assoc, Nat.add_comm us.length]

namespace Engine

variable {E : Engine σ}

theorem query_of_respond {s : StatementId} {state state' : σ}
    (h : E.respond (.query s) state = (.accepted, state')) :
    E.query s state = (.ok (), state') := by
  simp only [respond] at h
  rcases hq : E.query s state with ⟨e | ⟨⟩, state₁⟩ <;> rw [hq] at h <;> cases h
  rfl

theorem Says.exists_query {s : StatementId} {w : World σ} {state : σ}
    (h : E.Says w.engine [(.query s, .accepted)] state) :
    ∃ w', Run.call (.query s) (E.query s) w = (.ok (), w') ∧ w'.engine = state ∧
      w.Talks E [(.query s, .accepted)] w' := by
  obtain _ | ⟨hr, hrest⟩ := h
  cases hrest
  exact exists_call (f := fun _ => .accepted) (fun _ => rfl) (fun _ => rfl) (query_of_respond hr)

end Engine

theorem Connection.converses_compile_of_says (c : Connection σ) (kind : StatementKind) {sql : Sql}
    {w : World σ} {rest : List Exchange} {state : σ}
    (h : c.engine.Says w.engine
      ((.prepare w.fresh sql.text, .accepted) :: bindings w.fresh 1 sql.params ++ rest) state) :
    (c.compile kind sql).Converses c.engine w (.ok w.fresh)
      ((.prepare w.fresh sql.text, .accepted) :: bindings w.fresh 1 sql.params) := by
  obtain ⟨result, talk, hcompiles, hconverses⟩ := c.converses_compile kind sql w
  have hspoken := hconverses.talks.spoken
  cases hcompiles with
  | refused e =>
    have hanswer := Engine.Says.answer_unique [] h hspoken
    cases hanswer
  | @unbound bound v e hfront =>
    -- the values up to the refused one are bound alike in both conversations
    obtain ⟨more, hmore⟩ := hfront
    rw [← hmore, List.append_assoc, bindings_append, List.singleton_append, bindings_cons,
      Nat.add_comm 1] at h
    have hanswer := Engine.Says.answer_unique
      ((.prepare w.fresh sql.text, .accepted) :: bindings w.fresh 1 bound)
      (by simpa only [List.cons_append, List.append_assoc] using h) hspoken
    cases hanswer
  | bound => exact hconverses

namespace Builder

variable (c : Connection σ)

def disposal {κ : Type} (b : Builder κ) : List Exchange :=
  (b.slot.statement.map fun s => (Call.finalize s, Answer.accepted)).toList

theorem talks_drop {κ : Type} (b : Builder κ) (w : World σ) :
    w.Talks c.engine b.disposal (b.drop c w).2 := by
  unfold drop disposal
  cases b.slot.statement with
  | none => exact .refl w
  | some s => exact .finalize s w

theorem fresh_drop {κ : Type} (b : Builder κ) (w : World σ) : (b.drop c w).2.fresh = w.fresh := by
  unfold drop
  cases b.slot.statement <;> rfl

theorem exists_prepare {κ : Type} [Statement κ] {b : Builder κ} {w : World σ} {sql : Sql}
    {rest : List Exchange} {state : σ} (hb : b.build = .ok sql)
    (h : c.engine.Says w.engine (b.disposal ++
      ((.prepare w.fresh sql.text, .accepted) :: bindings w.fresh 1 sql.params ++ rest)) state) :
    ∃ w', b.prepare c w = ((.ok (), ⟨b.content, ⟨some w.fresh, .prepared, b.slot.error⟩⟩), w') ∧
      w.Talks c.engine (b.disposal ++
        ((.prepare w.fresh sql.text, .accepted) :: bindings w.fresh 1 sql.params)) w' ∧
      c.engine.Says w'.engine rest state := by
  have hdrop := talks_drop c b w
  obtain ⟨state₁, hdisposed, hcompiled⟩ := h.split
  obtain rfl := hdrop.spoken.state_unique hdisposed
  rw [← fresh_drop c b w] at hcompiled ⊢
  obtain ⟨hresult, htalks⟩ := c.converses_compile_of_says (Statement.kind κ) hcompiled
  rcases hrun : c.compile (Statement.kind κ) sql (b.drop c w).2 with ⟨result, w'⟩
  rw [hrun] at hresult htalks
  obtain rfl : result = _ := hresult
  obtain ⟨state₂, hspoken, hrest⟩ := hcompiled.split
  obtain rfl := htalks.spoken.state_unique hspoken
  refine ⟨w', ?_, hdrop.trans htalks, hrest⟩
  rw [prepare_apply, hb]
  simp only [hrun]

variable {b : Builder Select} {w : World σ} {sql : Sql} {s : StatementId} {opening : List Exchange}

inductive Opens (b : Builder Select) (w : World σ) (sql : Sql) :
    StatementId → List Exchange → Prop where
  | ready {s : StatementId} : b.slot.stage = .prepared → b.slot.statement = some s →
      Loaded w.journal s sql → Opens b w sql s [(.query s, .accepted)]
  | anew : b.slot.stage ≠ .prepared →
      Opens b w sql w.fresh (b.disposal ++
        ((.prepare w.fresh sql.text, .accepted) :: bindings w.fresh 1 sql.params ++
          [(.query w.fresh, .accepted)]))

theorem Sound.exists_opens (h : b.Sound w) (hb : b.build = .ok sql) :
    ∃ s opening, b.Opens w sql s opening := by
  by_cases hstage : b.slot.stage = .prepared
  · obtain ⟨s, sql', hs, hb', hloaded⟩ := h.loaded hstage (build_eq_ok.1 hb).1
    obtain rfl : sql = sql' := Except.ok.inj (hb.symm.trans hb')
    exact ⟨s, _, .ready hstage hs hloaded⟩
  · exact ⟨w.fresh, _, .anew hstage⟩

def running (b : Builder Select) (s : StatementId) : Builder Select :=
  ⟨b.content, ⟨some s, .stepped, b.slot.error⟩⟩

theorem Opens.exists_start (ho : b.Opens w sql s opening) (hb : b.build = .ok sql) {state : σ}
    (h : c.engine.Says w.engine opening state) :
    ∃ w', b.start c w = ((.ok { statement := s, table := b.content.table }, b.running s), w') ∧
      w'.engine = state ∧ w.Talks c.engine opening w' := by
  have herror := (build_eq_ok.1 hb).1
  cases ho with
  | ready hstage hs _ =>
    obtain ⟨w', hquery, hstate, htalks⟩ := h.exists_query
    have hensured : b.ensurePrepared c w = ((.ok (), b), w) := by
      rw [ensurePrepared, if_pos hstage]
      rfl
    have hready := Slot.ready_eq_ok.2 ⟨herror, hs⟩
    refine ⟨w', ?_, hstate, htalks⟩
    rw [start_apply, hensured]
    simp only [hready, hquery]
    rw [running, ← hs]
  | anew hstage =>
    rw [← List.append_assoc] at h ⊢
    obtain ⟨w₁, hprepare, htalks₁, hrest⟩ := exists_prepare c hb (by rwa [List.append_assoc] at h)
    obtain ⟨w', hquery, hstate, htalks⟩ := hrest.exists_query
    have hensured : b.ensurePrepared c w = b.prepare c w := by rw [ensurePrepared, if_neg hstage]
    have hready : Slot.ready ⟨some w.fresh, .prepared, b.slot.error⟩ = .ok w.fresh :=
      Slot.ready_eq_ok.2 ⟨herror, rfl⟩
    refine ⟨w', ?_, hstate, htalks₁.trans htalks⟩
    rw [start_apply, hensured, hprepare]
    simp only [hready, hquery]
    rfl

def firstOf : List (Except Error Record) → Except Error (Option Record)
  | [] => .ok none
  | item :: _ => item.map some

/-- Iterating over the rows of a query: items as they come, a step for each, and a builder that is
exhausted once the end of the rows was reported. -/
structure Iterates (b : Builder Select) (w : World σ) (s : StatementId)
    (opening : List Exchange) (items : List (Except Error Record)) (talk : List Exchange)
    (n : Nat) : Prop where
  result : (b.rows c n w).1.1 = .ok ((List.range n).map (items[·]?))
  talks : w.Talks c.engine (opening ++ talk.take n) (b.rows c n w).2
  content : (b.rows c n w).1.2.content = b.content
  statement : (b.rows c n w).1.2.slot.statement = some s
  error : (b.rows c n w).1.2.slot.error = b.slot.error
  exhausted : (b.rows c n w).1.2.slot.stage = .exhausted ↔ (.step s, .row none) ∈ talk.take n
  stepped : (b.rows c n w).1.2.slot.stage = .exhausted ∨ (b.rows c n w).1.2.slot.stage = .stepped

structure Fetches (b : Builder Select) (w : World σ) (s : StatementId)
    (opening : List Exchange) (items : List (Except Error Record)) (talk : List Exchange) :
    Prop where
  all : ∃ n, Gathered items (b.fetchAll c w).1 n ∧
    w.Talks c.engine (opening ++ talk.take n ++ [(.finalize s, .accepted)]) (b.fetchAll c w).2
  first : (b.fetchFirst c w).1 = firstOf items ∧
    w.Talks c.engine (opening ++ talk.take 1 ++ [(.finalize s, .accepted)]) (b.fetchFirst c w).2
  one : (b.fetchOne c w).1 = items.head?.getD
      (.error (.notFound ("no row in " ++ quoted b.content.table.name ++ " matched"))) ∧
    w.Talks c.engine (opening ++ talk.take 1 ++ [(.finalize s, .accepted)]) (b.fetchOne c w).2

/-- Whatever is read from a started query, the statement is finalized behind it. -/
theorem reading_of_start {α : Type} {read : Cursor → Act σ (Except Error α)}
    {result : Except Error α} {talk : List Exchange} {k : Cursor} {w' : World σ}
    (hstart : b.start c w = ((.ok k, b.running s), w')) (htalks : w.Talks c.engine opening w')
    (hresult : (read k w').1 = result) (htalk : w'.Talks c.engine talk (read k w').2) :
    (b.reading c read w).1 = result ∧
      w.Talks c.engine (opening ++ talk ++ [(.finalize s, .accepted)]) (b.reading c read w).2 := by
  have hreading : b.reading c read w =
      ((read k w').1, ((b.running s).drop c (read k w').2).2) := by
    rw [reading_apply, hstart]
  rw [hreading]
  exact ⟨hresult, (htalks.trans htalk).trans (talks_drop c (b.running s) _)⟩

section Answered

variable {state : σ} {rows : List Row} {failure : Option Error} (ho : b.Opens w sql s opening)
  (hb : b.build = .ok sql) (hs : c.engine.Says w.engine opening state)
  (hy : c.engine.Yields s state rows failure)

include ho hb hs hy

theorem Opens.iterates (n : Nat) :
    Iterates c b w s opening (b.content.table.items rows failure) (steps s rows failure) n := by
  obtain ⟨w', hstart, rfl, htalks⟩ := ho.exists_start c hb hs
  let k : Cursor := { statement := s, table := b.content.table }
  obtain ⟨hitems, htalks', hended⟩ := Cursor.taken_of_yields c (k := k) rfl rfl hy n
  have hrows : b.rows c n w = ((.ok (k.take c n w').1.1, (b.running s).settle (k.take c n w').1.2),
      (k.take c n w').2) := by
    rw [rows_apply, hstart]
  have hsettle : ((b.running s).settle (k.take c n w').1.2).slot.stage =
      if (k.take c n w').1.2.ended then .exhausted else .stepped := by
    rw [settle]
    split_ifs
    · rfl
    · rfl
  have hkept : ((b.running s).settle (k.take c n w').1.2).content = b.content ∧
      ((b.running s).settle (k.take c n w').1.2).slot.statement = some s ∧
      ((b.running s).settle (k.take c n w').1.2).slot.error = b.slot.error := by
    rw [settle]
    split_ifs
    · exact ⟨rfl, rfl, rfl⟩
    · exact ⟨rfl, rfl, rfl⟩
  refine ⟨?_, ?_, ?_, ?_, ?_, ?_, ?_⟩
  · rw [hrows, hitems]
  · rw [hrows]
    exact htalks.trans htalks'
  · rw [hrows]
    exact hkept.1
  · rw [hrows]
    exact hkept.2.1
  · rw [hrows]
    exact hkept.2.2
  · rw [hrows, ← hended, hsettle]
    simp
  · rw [hrows, hsettle]
    split_ifs
    · exact .inl rfl
    · exact .inr rfl

theorem Opens.fetchFirst :
    (b.fetchFirst c w).1 = firstOf (b.content.table.items rows failure) ∧
      w.Talks c.engine (opening ++ (steps s rows failure).take 1 ++ [(.finalize s, .accepted)])
        (b.fetchFirst c w).2 := by
  obtain ⟨w', hstart, rfl, htalks⟩ := ho.exists_start c hb hs
  obtain ⟨k', w'', hnext, htalk⟩ := Cursor.exists_next c
    (k := { statement := s, table := b.content.table }) rfl hy
  refine reading_of_start c hstart htalks ?_ ?_
  · rw [Act.bind_apply, hnext]
    cases b.content.table.items rows failure with
    | nil => rfl
    | cons item rest => rfl
  · rw [Act.bind_apply, hnext]
    cases hitems : b.content.table.items rows failure with
    | nil => exact htalk
    | cons item rest => exact htalk

theorem Opens.fetchOne :
    (b.fetchOne c w).1 = (b.content.table.items rows failure).head?.getD
        (.error (.notFound ("no row in " ++ quoted b.content.table.name ++ " matched"))) ∧
      w.Talks c.engine (opening ++ (steps s rows failure).take 1 ++ [(.finalize s, .accepted)])
        (b.fetchOne c w).2 := by
  obtain ⟨hfirst, htalks⟩ := ho.fetchFirst c hb hs hy
  have happly : b.fetchOne c w = ((b.content.table.items rows failure).head?.getD
      (.error (.notFound ("no row in " ++ quoted b.content.table.name ++ " matched"))),
      (b.fetchFirst c w).2) := by
    rw [Builder.fetchOne, Run.bind_apply, Prod.ext (y := (_, _)) hfirst rfl]
    rcases b.content.table.items rows failure with _ | ⟨e | r, rest⟩
    · rfl
    · rfl
    · rfl
  rw [happly]
  exact ⟨rfl, htalks⟩

theorem Opens.fetchAll :
    ∃ n, Gathered (b.content.table.items rows failure) (b.fetchAll c w).1 n ∧
      w.Talks c.engine (opening ++ (steps s rows failure).take n ++ [(.finalize s, .accepted)])
        (b.fetchAll c w).2 := by
  obtain ⟨w', hstart, rfl, htalks⟩ := ho.exists_start c hb hs
  -- the engine's own bound on the rows that are left is large enough
  have hbound : rows.length < c.engine.pending s w'.engine + 1 := Nat.lt_succ_of_le hy.length_le
  obtain ⟨n, hgathered, htalk⟩ := Cursor.collect_of_yields c
    (k := { statement := s, table := b.content.table }) rfl hy hbound
  have hall : (b.fetchAll c w).1 = _ ∧ w.Talks c.engine _ (b.fetchAll c w).2 :=
    reading_of_start c hstart htalks rfl htalk
  refine ⟨n, ?_, hall.2⟩
  rw [hall.1]
  exact hgathered

theorem Opens.fetches :
    Fetches c b w s opening (b.content.table.items rows failure) (steps s rows failure) :=
  ⟨ho.fetchAll c hb hs hy, ho.fetchFirst c hb hs hy, ho.fetchOne c hb hs hy⟩

end Answered

theorem Iterates.opens {items : List (Except Error Record)} {talk : List Exchange} {n : Nat}
    (h : Iterates c b w s opening items talk n) (sql : Sql) :
    (b.rows c n w).1.2.Opens (b.rows c n w).2 sql (b.rows c n w).2.fresh
      ([(.finalize s, .accepted)] ++
        ((.prepare (b.rows c n w).2.fresh sql.text, .accepted) ::
            bindings (b.rows c n w).2.fresh 1 sql.params ++
          [(.query (b.rows c n w).2.fresh, .accepted)])) := by
  have hdisposal : (b.rows c n w).1.2.disposal = [(.finalize s, .accepted)] := by
    rw [disposal, h.statement]
    rfl
  have hstage : (b.rows c n w).1.2.slot.stage ≠ .prepared := by
    rcases h.stepped with hs | hs <;> rw [hs] <;> decide
  rw [← hdisposal]
  exact .anew hstage

theorem Iterates.build_eq {items : List (Except Error Record)} {talk : List Exchange} {n : Nat}
    (h : Iterates c b w s opening items talk n) : (b.rows c n w).1.2.build = b.build := by
  unfold Builder.build Slot.check
  rw [h.content, h.error]

structure Reads (b : Builder Select) (w : World σ) (sql : Sql) (s : StatementId)
    (opening : List Exchange) : Prop where
  opens : b.Opens w sql s opening
  answers : ∀ {state : σ}, c.engine.Says w.engine opening state →
    ∃ rows failure, c.engine.Yields s state rows failure
  iterates : ∀ {state : σ} {rows : List Row} {failure : Option Error},
    c.engine.Says w.engine opening state → c.engine.Yields s state rows failure → ∀ n,
      Iterates c b w s opening (b.content.table.items rows failure) (steps s rows failure) n
  fetches : ∀ {state : σ} {rows : List Row} {failure : Option Error},
    c.engine.Says w.engine opening state → c.engine.Yields s state rows failure →
      Fetches c b w s opening (b.content.table.items rows failure) (steps s rows failure)

theorem Opens.reads (ho : b.Opens w sql s opening) (hb : b.build = .ok sql) :
    Reads c b w sql s opening where
  opens := ho
  answers _ := c.engine.exists_yields s _
  iterates hs hy := ho.iterates c hb hs hy
  fetches hs hy := ho.fetches c hb hs hy

end Builder

end RecordSql
