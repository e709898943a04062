import RecordSql.Proofs.Connection.Exchanges
import RecordSql.Proofs.Log

/-! What happens between a connection and its engine, line by line, and what the journal keeps of
each line under the settings of a log: each text that goes to the engine is announced directly
before, if statements are logged. -/

namespace RecordSql

def Call.IsPlain : Call → Prop
  | .batch _ | .prepare .. | .bind .. => False
  | .execute _ | .query _ | .step _ | .finalize _ => True

inductive Line where
  | event (e : Event) (h : e.target ≠ "litorm.sql")
  | call (c : Call) (accepted : Bool) (h : c.IsPlain)
  | batch (sql : String) (accepted : Bool)
  /-- A statement that is compiled, with the values that are bound to it. -/
  | compile (kind : StatementKind) (s : StatementId) (sql : Sql) (result : Except Error StatementId)
    (talk : List Exchange) (h : Compiles s sql result talk)

def LogConfig.announced (log : LogConfig) (kind : StatementKind) (sql : String) (params : Nat) :
    List Entry :=
  if log.enabled then [.event (.statement log.level kind params (log.shown sql))] else []

def Exchange.entry (x : Exchange) : Entry := .call x.1 x.2.accepts

namespace Line

def entries (log : LogConfig) : Line → List Entry
  | .event e _ => [.event e]
  | .call c accepted _ => [.call c accepted]
  | .batch sql accepted => log.announced .schema sql 0 ++ [.call (.batch sql) accepted]
  | .compile kind _ sql _ talk _ =>
    log.announced kind sql.text sql.params.length ++ talk.map Exchange.entry

def journal (log : LogConfig) (lines : List Line) : List Entry := lines.flatMap (entries log)

def statement? : Line → Option (StatementKind × Sql)
  | .compile kind _ sql _ _ _ => some (kind, sql)
  | _ => none

@[simp] theorem journal_nil (log : LogConfig) : journal log [] = [] := rfl

@[simp] theorem journal_cons (log : LogConfig) (line : Line) (rest : List Line) :
    journal log (line :: rest) = line.entries log ++ journal log rest := List.flatMap_cons

theorem journal_singleton (log : LogConfig) (line : Line) :
    journal log [line] = line.entries log := List.append_nil _

@[simp] theorem journal_append (log : LogConfig) (lines more : List Line) :
    journal log (lines ++ more) = journal log lines ++ journal log more := List.flatMap_append

theorem calls_journal (log log' : LogConfig) (lines : List Line) :
    calls (journal log lines) = calls (journal log' lines) := by
  have hannounced (log : LogConfig) (kind : StatementKind) (sql : String) (params : Nat) :
      calls (log.announced kind sql params) = [] := by
    unfold LogConfig.announced
    split <;> rfl
  induction lines with
  | nil => rfl
  | cons line rest ih =>
    rw [journal_cons, journal_cons, calls_append, calls_append, ih]
    cases line <;> simp only [entries, calls_append, hannounced]

def Compile (P : StatementKind → Sql → Prop) (lines : List Line) : Prop :=
  ∀ line ∈ lines, ∀ kind sql, line.statement? = some (kind, sql) → P kind sql

variable {P : StatementKind → Sql → Prop}

theorem compile_nil : Compile P [] := by simp [Compile]

theorem compile_singleton {line : Line} (h : line.statement? = none) : Compile P [line] := by
  simp [Compile, h]

theorem Compile.append {lines more : List Line} (h : Compile P lines) (h' : Compile P more) :
    Compile P (lines ++ more) := by
  intro line hline
  rcases List.mem_append.1 hline with hline | hline
  · exact h line hline
  · exact h' line hline

end Line

def Call.text? : Call → Option String
  | .batch sql => some sql
  | .prepare _ sql => some sql
  | _ => none

/-- Each text that goes to the engine is announced directly before the call, whether or not that is
accepted, and nothing else is. -/
inductive Announced (log : LogConfig) : List Entry → Prop
  | nil : Announced log []
  | event {e : Event} {rest : List Entry} (h : e.target ≠ "litorm.sql") :
    Announced log rest → Announced log (.event e :: rest)
  | call {c : Call} {accepted : Bool} {rest : List Entry} (h : c.text? = none) :
    Announced log rest → Announced log (.call c accepted :: rest)
  | sent {kind : StatementKind} {params : Nat} {c : Call} {sql : String} {accepted : Bool}
    {rest : List Entry} (h : c.text? = some sql) : Announced log rest → Announced log
      (.event (.statement log.level kind params (log.shown sql)) :: .call c accepted :: rest)

theorem Announced.append {log : LogConfig} {entries more : List Entry}
    (h : Announced log entries) (h' : Announced log more) : Announced log (entries ++ more) := by
  induction h with
  | nil => exact h'
  | event h _ ih => exact .event h ih
  | call h _ ih => exact .call h ih
  | sent h _ ih => exact .sent h ih

theorem announced_calls {log : LogConfig} {talk : List Exchange}
    (h : ∀ x ∈ talk, x.1.text? = none) : Announced log (talk.map Exchange.entry) := by
  induction talk with
  | nil => exact .nil
  | cons x rest ih =>
    rw [List.forall_mem_cons] at h
    exact .call h.1 (ih h.2)

theorem text?_bindings {s : StatementId} {slot : Nat} {vs : Params} :
    ∀ x ∈ bindings s slot vs, x.1.text? = none := by
  intro x hx
  obtain ⟨i, hi, rfl⟩ := List.mem_mapIdx.1 hx
  rfl

theorem Compiles.talk_eq {s : StatementId} {sql : Sql} {result : Except Error StatementId}
    {talk : List Exchange} (h : Compiles s sql result talk) :
    ∃ answer rest, talk = (.prepare s sql.text, answer) :: rest ∧ ∀ x ∈ rest, x.1.text? = none := by
  cases h with
  | refused e => exact ⟨_, [], rfl, by simp⟩
  | unbound e hfront =>
    refine ⟨_, _, rfl, fun x hx => ?_⟩
    rcases List.mem_append.1 hx with hx | hx
    · exact text?_bindings x hx
    · simp only [List.mem_cons, List.not_mem_nil, or_false] at hx
      rcases hx with rfl | rfl <;> rfl
  | bound => exact ⟨_, _, rfl, text?_bindings⟩

theorem Line.announced_journal {log : LogConfig} (hlog : log.enabled) (lines : List Line) :
    Announced log (journal log lines) := by
  have hone (kind : StatementKind) (sql : String) (params : Nat) :
      log.announced kind sql params = [.event (.statement log.level kind params (log.shown sql))] :=
    if_pos hlog
  induction lines with
  | nil => exact .nil
  | cons line rest ih =>
    suffices hline : Announced log (line.entries log) from hline.append ih
    cases line with
    | event e h => exact .event h .nil
    | call c accepted h =>
      refine .call ?_ .nil
      cases c <;> first | rfl | cases h
    | batch sql accepted =>
      rw [Line.entries, hone]
      exact .sent rfl .nil
    | compile kind s sql result talk h =>
      obtain ⟨answer, rest, rfl, hrest⟩ := h.talk_eq
      rw [Line.entries, hone]
      exact .sent rfl (announced_calls hrest)

theorem Line.target_of_disabled {log : LogConfig} (hlog : ¬log.enabled) (lines : List Line) :
    ∀ e, .event e ∈ journal log lines → e.target ≠ "litorm.sql" := by
  have hnone (kind : StatementKind) (sql : String) (params : Nat) :
      log.announced kind sql params = [] := if_neg hlog
  intro e he
  obtain ⟨line, -, he⟩ := List.mem_flatMap.1 he
  cases line with
  | event e' h =>
    cases List.mem_singleton.1 he
    exact h
  | call c accepted h => simp [Line.entries] at he
  | batch sql accepted => simp [Line.entries, hnone] at he
  | compile kind s sql result talk h => simp [Line.entries, hnone, Exchange.entry] at he

end RecordSql
