import RecordSql.Engine.Basic

/-! An engine that answers from a script: queues of row counts and result sets, and rules by which
calls fail. It reads no SQL, except to see transactions begin and end and to count inserted rows. -/

namespace RecordSql.Script

inductive Target where
  | batch
  | prepare
  | bind
  | execute
  | query
  | step
deriving DecidableEq, Repr

/-- Fail the calls of a kind, after the first `skip` of them and up to `times` times. -/
structure Rule where
  on : Target
  sql : Option String := none
  slot : Option Nat := none
  skip : Nat := 0
  times : Option Nat := none
  error : Error

def Rule.concerns (r : Rule) (target : Target) (sql : String) (slot : Option Nat) : Bool :=
  r.on = target && (r.sql = none || r.sql = some sql) && (r.slot = none || r.slot = slot)

/-- Try the rules in order: one with calls left to skip skips this one, and one that is used up is
passed over. -/
def fire (target : Target) (sql : String) (slot : Option Nat) : List Rule → Option Error × List Rule
  | [] => (none, [])
  | r :: rest =>
    let pass (r : Rule) :=
      let (e, rest) := fire target sql slot rest
      (e, r :: rest)
    if r.concerns target sql slot then
      match r.skip, r.times with
      | skip + 1, _ => pass { r with skip }
      | 0, none => (some r.error, r :: rest)
      | 0, some 0 => pass r
      | 0, some (times + 1) => (some r.error, { r with times := some times } :: rest)
    else pass r

structure State where
  rules : List Rule := []
  changes : List Nat := []
  results : List (List Row) := []
  rowid : Int64 := 0
  autocommit : Bool := true
  /-- The text that each statement was compiled from. -/
  text : StatementId → String := fun _ => ""
  /-- The rows that the result set of each statement still has. -/
  rows : StatementId → List Row := fun _ => []

def answer {α : Type} (target : Target) (sql : String) (slot : Option Nat)
    (reply : State → Except Error α × State) (state : State) : Except Error α × State :=
  match fire target sql slot state.rules with
  | (some e, rules) => (.error e, { state with rules })
  | (none, rules) => reply { state with rules }

def update {α : Type} (f : StatementId → α) (s : StatementId) (a : α) : StatementId → α :=
  fun i => if i = s then a else f i

def autocommitAfter (sql : String) (before : Bool) : Bool :=
  if sql = "BEGIN TRANSACTION;" then false
  else if sql = "COMMIT TRANSACTION;" ∨ sql = "ROLLBACK TRANSACTION;" then true
  else before

def isInsert (sql : String) : Bool := "INSERT".toList.isPrefixOf sql.toList

def execute (s : StatementId) (state : State) : Except Error Nat × State :=
  let changed := state.changes.head?.getD 1
  let rowid := if isInsert (state.text s) then state.rowid + Int64.ofNat changed else state.rowid
  (.ok changed, { state with changes := state.changes.tail, rowid })

def query (s : StatementId) (state : State) : Except Error Unit × State :=
  (.ok (), { state with
    rows := update state.rows s (state.results.head?.getD [])
    results := state.results.tail })

def step (s : StatementId) (state : State) : Except Error (Option Row) × State :=
  match state.rows s with
  | [] => (.ok none, state)
  | row :: rest => (.ok (some row), { state with rows := update state.rows s rest })

theorem rows_step {s : StatementId} {state state' : State} {row : Row}
    (h : answer .step (state.text s) none (step s) state = (.ok (some row), state')) :
    (state'.rows s).length < (state.rows s).length := by
  unfold answer at h
  split at h
  · simp at h
  · unfold step at h
    simp only at h
    split at h
    · simp at h
    · next rest heq =>
      simp only [Prod.mk.injEq] at h
      rw [← h.2, heq]
      simp [update]

def engine : Engine State where
  batch sql := answer .batch sql none fun state =>
    (.ok (), { state with autocommit := autocommitAfter sql state.autocommit })
  prepare s sql := answer .prepare sql none fun state =>
    (.ok (), { state with text := update state.text s sql, rows := update state.rows s [] })
  bind s slot _ state :=
    answer .bind (state.text s) (some slot) (fun state => (.ok (), state)) state
  execute s state := answer .execute (state.text s) none (execute s) state
  query s state := answer .query (state.text s) none (query s) state
  step s state := answer .step (state.text s) none (step s) state
  finalize _ state := state
  lastInsertRowid := State.rowid
  autocommit := State.autocommit
  pending s state := (state.rows s).length
  pending_step _ _ _ _ h := rows_step h

def State.extend (state : State) (rules : List Rule) (changes : List Nat)
    (results : List (List Row)) (rowid : Option Int64) (autocommit : Option Bool) : State :=
  { state with
    rules := state.rules ++ rules
    changes := state.changes ++ changes
    results := state.results ++ results
    rowid := rowid.getD state.rowid
    autocommit := autocommit.getD state.autocommit }

end RecordSql.Script
