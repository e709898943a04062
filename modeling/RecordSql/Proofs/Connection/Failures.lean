import RecordSql.Connection.Open
import RecordSql.Engine.Script
import RecordSql.Proofs.Connection.Levels

/-! What a connection writes to its log when it fails. Opening it, its setting for foreign keys and
the creation of its tables end a failure with a report of it. A transaction does so too if a
statement of its own is refused, unless that is the one that opens it. -/

namespace RecordSql

variable {σ α β : Type}

structure Event.Reports (event : Event) (cause : Error) : Prop where
  level : event.level = .error
  target : event.target = "litorm"
  error : ("error", cause.message) ∈ event.fields

theorem Event.reports_failed (activity : Activity) (cause : Error) :
    (Event.failed activity cause).Reports cause :=
  ⟨rfl, rfl, List.mem_cons_of_mem _ (List.mem_singleton.2 rfl)⟩

def Refused (entries : List Entry) : Prop := ∃ call, .call call false ∈ entries

def Reported (entries : List Entry) (cause : Error) : Prop :=
  ∃ event, .event event ∈ entries ∧ event.Reports cause

def Quiet (entries : List Entry) : Prop := ∀ cause, ¬Reported entries cause

def Accounts : Except Error α → List Entry → Prop
  | .ok _, entries => Quiet entries
  | .error e, entries => ∃ before event, entries = before ++ [.event event] ∧ Quiet before ∧
      event.Reports e

section

variable {entries more : List Entry}

theorem refused_append : Refused (entries ++ more) ↔ Refused entries ∨ Refused more := by
  simp only [Refused, List.mem_append, exists_or]

theorem quiet_nil : Quiet [] := by simp [Quiet, Reported]

theorem Quiet.append (h : Quiet entries) (h' : Quiet more) : Quiet (entries ++ more) := by
  rintro cause ⟨event, hmem, hreports⟩
  rcases List.mem_append.1 hmem with hmem | hmem
  · exact h cause ⟨event, hmem, hreports⟩
  · exact h' cause ⟨event, hmem, hreports⟩

theorem quiet_event {event : Event} (h : event.level ≠ .error ∨ event.target ≠ "litorm") :
    Quiet [.event event] := by
  rintro cause ⟨event', hmem, hreports⟩
  cases List.mem_singleton.1 hmem
  rcases h with h | h
  · exact h hreports.level
  · exact h hreports.target

theorem quiet_call (call : Call) (accepted : Bool) : Quiet [.call call accepted] := by
  rintro cause ⟨event, hmem, -⟩
  cases List.mem_singleton.1 hmem

theorem not_refused_event (event : Event) : ¬Refused [.event event] := by
  rintro ⟨call, hmem⟩
  cases List.mem_singleton.1 hmem

theorem Quiet.accounts (h : Quiet entries) (activity : Activity) (e : Error) :
    Accounts (.error e : Except Error α) (entries ++ [.event (.failed activity e)]) :=
  ⟨entries, _, rfl, h, Event.reports_failed activity e⟩

theorem Accounts.after {result : Except Error α} (h : Quiet entries) (h' : Accounts result more) :
    Accounts result (entries ++ more) := by
  cases result with
  | ok => exact h.append h'
  | error e =>
    obtain ⟨before, event, rfl, hbefore, hreports⟩ := h'
    exact ⟨entries ++ before, event, (List.append_assoc ..).symm, h.append hbefore, hreports⟩

theorem Accounts.reported {e : Error} (h : Accounts (.error e : Except Error α) entries) :
    Reported entries e := by
  obtain ⟨before, event, rfl, -, hreports⟩ := h
  exact ⟨event, List.mem_append_right _ (List.mem_singleton.2 rfl), hreports⟩

end

namespace Run

def Leaves (P : Except Error α → List Entry → Prop) (r : Run σ α) : Prop :=
  ∀ w, ∃ gained, (r w).2.journal = w.journal ++ gained ∧ P (r w).1 gained

variable {P P' : Except Error α → List Entry → Prop} {Q : Except Error β → List Entry → Prop}
  {r : Run σ α}

theorem Leaves.mono (h : Leaves P r) (hp : ∀ x gained, P x gained → P' x gained) :
    Leaves P' r := by
  intro w
  obtain ⟨gained, hj, hx⟩ := h w
  exact ⟨gained, hj, hp _ _ hx⟩

theorem leaves_result {x : Except Error α} (h : P x []) : Leaves P (ofExcept x : Run σ α) :=
  fun w => ⟨[], (List.append_nil w.journal).symm, h⟩

theorem Leaves.bind {f : α → Run σ β} (h : Leaves P r)
    (herror : ∀ e gained, P (.error e) gained → Q (.error e) gained)
    (hf : ∀ a gained, P (.ok a) gained → Leaves (fun y more => Q y (gained ++ more)) (f a)) :
    Leaves Q (r >>= f) := by
  intro w
  obtain ⟨gained, hj, hp⟩ := h w
  rw [bind_apply]
  rcases hr : r w with ⟨e | a, w'⟩ <;> rw [hr] at hj hp
  · exact ⟨gained, hj, herror e gained hp⟩
  · obtain ⟨more, hj', hq⟩ := hf a gained hp w'
    exact ⟨gained ++ more, by rw [hj', hj, List.append_assoc], hq⟩

theorem Leaves.outcome_bind {f : Except Error α → Run σ β} (h : Leaves P r)
    (hf : ∀ x gained, P x gained → Leaves (fun y more => Q y (gained ++ more)) (f x)) :
    Leaves Q (outcome r >>= f) := by
  intro w
  obtain ⟨gained, hj, hp⟩ := h w
  obtain ⟨more, hj', hq⟩ := hf _ gained hp (r w).2
  exact ⟨gained ++ more, by rw [outcome_bind_apply, hj', hj, List.append_assoc], hq⟩

theorem leaves_emit_bind {event : Event} {f : Unit → Run σ β}
    (hf : Leaves (fun y more => Q y (.event event :: more)) (f ())) :
    Leaves Q ((liftM (Act.emit event : Act σ Unit) : Run σ Unit) >>= f) := by
  intro w
  obtain ⟨more, hj, hq⟩ := hf (Act.emit event w).2
  exact ⟨.event event :: more, by rw [lift_bind_apply, hj]; simp [Act.emit], hq⟩

abbrev Traces (r : Run σ α) : Prop := Leaves Accounts r

theorem Traces.bind {f : α → Run σ β} (h : Traces r) (hf : ∀ a, Traces (f a)) :
    Traces (r >>= f) :=
  Leaves.bind h (fun _ _ he => he) fun a _ hq =>
    (hf a).mono fun _ _ hy => hy.after hq

theorem Leaves.logged (h : Leaves P r) (hq : ∀ x gained, P x gained → Quiet gained)
    (activity : Activity) : Traces (Connection.logged activity r) := by
  refine h.outcome_bind fun x gained hp => ?_
  cases x with
  | ok a => exact leaves_result (by rw [List.append_nil]; exact hq _ _ hp)
  | error e => exact leaves_emit_bind (leaves_result ((hq _ _ hp).accounts activity e))

theorem traces_forM {γ : Type} {f : γ → Run σ Unit} (h : ∀ a, Traces (f a)) (xs : List γ) :
    Traces (xs.forM f) := by
  induction xs with
  | nil => exact leaves_result quiet_nil
  | cons a xs ih => exact (h a).bind fun _ => ih

theorem traces_emit {event : Event} (h : event.level ≠ .error ∨ event.target ≠ "litorm") :
    Traces (liftM (Act.emit event : Act σ Unit) : Run σ Unit) :=
  fun _ => ⟨_, rfl, quiet_event h⟩

end Run

namespace Connection

open Run

structure Sent (result : Except Error α) (entries : List Entry) : Prop where
  quiet : Quiet entries
  refused_iff : Refused entries ↔ ∃ e, result = .error e

theorem Sent.not_refused {a : α} {entries : List Entry}
    (h : Sent (.ok a : Except Error α) entries) : ¬Refused entries := by
  intro hr
  obtain ⟨e, he⟩ := h.refused_iff.1 hr
  cases he

theorem Sent.refused {e : Error} {entries : List Entry}
    (h : Sent (.error e : Except Error α) entries) : Refused entries :=
  h.refused_iff.2 ⟨e, rfl⟩

variable (c : Connection σ)

theorem leaves_batch (sql : String) : Leaves Sent (c.batch sql) := by
  have hcall : Leaves Sent (Run.call (.batch sql) (c.engine.batch sql)) := by
    intro w
    refine ⟨_, rfl, quiet_call _ _, ?_⟩
    show Refused [.call _ (succeeded (c.engine.batch sql w.engine).1)] ↔ _
    cases hr : (c.engine.batch sql w.engine).1 <;> simp [Refused, succeeded, Run.call, hr]
  unfold batch announce
  split
  · refine leaves_emit_bind (hcall.mono fun _ gained h => ⟨?_, ?_⟩)
    · exact (quiet_event (.inr (by simp [Event.target]))).append h.quiet
    · rw [← h.refused_iff]
      exact refused_append.trans (or_iff_right (not_refused_event _))
  · exact hcall

theorem traces_logged_batch (activity : Activity) (sql : String) :
    Traces (logged activity (c.batch sql)) :=
  (c.leaves_batch sql).logged (fun _ _ h => h.quiet) activity

theorem traces_setForeignKeys (enabled : Bool) : Traces (c.setForeignKeys enabled) :=
  (traces_emit (.inl (by simp [Event.level]))).bind fun _ => c.traces_logged_batch _ _

theorem traces_createTables (ifNotExists : Bool) : Traces (c.createTables ifNotExists) :=
  (traces_forM (fun _ => c.traces_logged_batch _ _) _).bind fun _ =>
    traces_emit (.inl (by simp [Event.level]))

theorem traces_openOn (engine : Engine σ) (config : Config)
    (declarations : List (Except Error Table)) : Traces (openOn engine config declarations) := by
  have hcheck {γ : Type} (activity : Activity) (x : Except Error γ) :
      Traces (logged activity (Run.ofExcept x : Run σ γ)) :=
    (leaves_result (P := fun _ gained => gained = []) rfl).logged
      (fun _ _ h => h ▸ quiet_nil) activity
  have hschema : Traces (checkedSchema declarations : Run σ Schema) :=
    (hcheck _ _).bind fun _ => hcheck _ _
  refine hschema.bind fun schema => (traces_emit (.inl (by simp [Event.level]))).bind fun _ => ?_
  exact (traces_setForeignKeys _ _).bind fun _ => leaves_result quiet_nil

inductive Concludes (outcome : Except Error α) : Except Error α → List Entry → Prop
  | kept {entries : List Entry} (hr : ¬Refused entries) (hq : Quiet entries) :
    Concludes outcome outcome entries
  | failed {entries : List Entry} {e : Error} (hr : Refused entries)
    (ha : Accounts (.error e : Except Error α) entries) : Concludes outcome (.error e) entries

theorem Concludes.after {outcome result : Except Error α} {entries more : List Entry}
    (hr : ¬Refused entries) (hq : Quiet entries) (h : Concludes outcome result more) :
    Concludes outcome result (entries ++ more) := by
  cases h with
  | kept hr' hq' => exact .kept (fun h => (refused_append.1 h).elim hr hr') (hq.append hq')
  | failed hr' ha => exact .failed (refused_append.2 (.inr hr')) (ha.after hq)

theorem Concludes.accounts {outcome result : Except Error α} {entries : List Entry}
    (h : Concludes outcome result entries) (hr : Refused entries) :
    ∃ e, result = .error e ∧ Accounts (.error e : Except Error α) entries := by
  cases h with
  | kept hr' => exact absurd hr hr'
  | failed _ ha => exact ⟨_, rfl, ha⟩

theorem Concludes.passes {outcome result : Except Error α} {entries : List Entry}
    (h : Concludes outcome result entries) (hr : ¬Refused entries) :
    Quiet entries ∧ result = outcome := by
  cases h with
  | kept _ hq => exact ⟨hq, rfl⟩
  | failed hr' => exact absurd hr' hr

theorem concludes_reported {outcome : Except Error α} {entries : List Entry} (hr : Refused entries)
    (hq : Quiet entries) (activity : Activity) (e : Error) :
    Concludes outcome (.error e) (entries ++ [.event (.failed activity e)]) :=
  .failed (refused_append.2 (.inl hr)) (hq.accounts activity e)

theorem leaves_logged_throw {P : Except Error α → List Entry → Prop} {activity : Activity}
    {e : Error} (h : P (.error e) [.event (.failed activity e)]) :
    Leaves P (logged activity (throw e) : Run σ α) :=
  fun _ => ⟨_, rfl, h⟩

theorem leaves_commitLevel (nested : Bool) (v : α) :
    Leaves (Concludes (.ok v)) (c.commitLevel nested v) := by
  refine (c.leaves_batch _).outcome_bind fun x gained hcommit => ?_
  cases x with
  | ok =>
    refine leaves_emit_bind (leaves_result (.after hcommit.not_refused hcommit.quiet ?_))
    exact .kept (not_refused_event _) (quiet_event (.inl (by simp [Event.level])))
  | error e =>
    refine (c.leaves_batch _).outcome_bind fun x more hrollback => ?_
    have hrefused : Refused (gained ++ more) := refused_append.2 (.inl hcommit.refused)
    have hquiet : Quiet (gained ++ more) := hcommit.quiet.append hrollback.quiet
    cases x with
    | ok =>
      refine leaves_logged_throw ?_
      rw [← List.append_assoc]
      exact concludes_reported hrefused hquiet .commit e
    | error e' =>
      refine leaves_logged_throw ?_
      rw [← List.append_assoc]
      exact concludes_reported hrefused hquiet .commit (unrecovered e e')

theorem leaves_abandon (nested : Bool) (cause : Error) :
    Leaves (Concludes (.error cause)) (c.abandon nested cause : Run σ α) := by
  have hrolledBack : Quiet [.event (.rolledBack nested cause)] :=
    quiet_event (.inl (by simp [Event.level]))
  refine leaves_emit_bind ((c.leaves_batch _).outcome_bind fun x gained hrollback => ?_)
  cases x with
  | ok =>
    have hkept : Concludes (.error cause : Except Error α) (.error cause) gained :=
      .kept hrollback.not_refused hrollback.quiet
    rw [← List.append_nil gained] at hkept
    exact leaves_result (hkept.after (not_refused_event _) hrolledBack)
  | error e =>
    refine leaves_logged_throw (.after (not_refused_event _) hrolledBack ?_)
    exact concludes_reported hrollback.refused hrollback.quiet .rollback (unrecovered cause e)

theorem leaves_endLevel (nested : Bool) (outcome : Except Error α) :
    Leaves (Concludes outcome) (c.endLevel nested outcome) := by
  cases outcome with
  | ok v => exact c.leaves_commitLevel nested v
  | error cause => exact c.leaves_abandon nested cause

/-- There is no report of a level that cannot be opened. -/
theorem leaves_beginLevel : Leaves Sent c.beginLevel := by
  have hopen (nested : Bool) : Leaves Sent (do
      c.batch (beginText nested)
      (Act.emit (.begun nested) : Act σ Unit)
      return nested : Run σ Bool) := by
    refine (c.leaves_batch _).bind (fun e gained h => ?_) fun _ gained h => ?_
    · exact ⟨h.quiet, iff_of_true h.refused ⟨e, rfl⟩⟩
    · refine leaves_emit_bind (leaves_result ⟨h.quiet.append (quiet_event ?_), ?_⟩)
      · exact .inl (by simp [Event.level])
      · refine iff_of_false (fun hr => ?_) nofun
        exact (refused_append.1 hr).elim h.not_refused (not_refused_event _)
  exact fun w => hopen (!c.engine.autocommit w.engine) w

/-- The entries that a transaction adds to the journal itself, without those of its body. -/
inductive Own (body : Run σ α) (w : World σ) : List Entry → Prop
  | unopened {e : Error} {entries : List Entry} (hb : (c.beginLevel w).1 = .error e)
    (hj : (c.transaction body w).2.journal = w.journal ++ entries) : Own body w entries
  | opened {nested : Bool} {before after : List Entry} (hb : (c.beginLevel w).1 = .ok nested)
    (hj : (c.beginLevel w).2.journal = w.journal ++ before)
    (hj' : (c.transaction body w).2.journal = (body (c.beginLevel w).2).2.journal ++ after) :
    Own body w (before ++ after)

def Opens (w : World σ) : Prop :=
  (c.engine.batch (Flavour.entered (c.engine.autocommit w.engine)).opening w.engine).1 = .ok ()

theorem opens_iff {w : World σ} : c.Opens w ↔ ∃ nested, (c.beginLevel w).1 = .ok nested := by
  obtain ⟨nested, hn⟩ : ∃ nested, c.engine.autocommit w.engine = !nested :=
    ⟨!c.engine.autocommit w.engine, (Bool.not_not _).symm⟩
  rw [Opens, hn, Flavour.entered_not]
  rcases h : c.engine.batch (beginText nested) w.engine with ⟨e | ⟨⟩, s⟩
  · rw [(does_beginLevel_error hn h).result_eq]
    exact iff_of_false nofun fun ⟨_, hok⟩ => nomatch hok
  · rw [(does_beginLevel hn h).result_eq]
    exact iff_of_true rfl ⟨nested, rfl⟩

structure Answers (body : Run σ α) (w : World σ) (own : List Entry) : Prop where
  /-- It fails, and there is a report unless the level could not be opened. -/
  refused : Refused own → ∃ e, (c.transaction body w).1 = .error e ∧
    (Reported own e ↔ c.Opens w)
  /-- The report is the last that it does. -/
  last : c.Opens w → Refused own → Accounts (c.transaction body w).1 own
  unopened : ¬c.Opens w → Refused own ∧ Quiet own
  /-- Otherwise the outcome of the body is passed on, and there is nothing to report. -/
  passed : ¬Refused own → Quiet own ∧
    (c.transaction body w).1 = (body (c.beginLevel w).2).1

theorem answers_transaction (body : Run σ α) (w : World σ) :
    ∃ own, c.Own body w own ∧ c.Answers body w own := by
  obtain ⟨before, hj, hbegin⟩ := c.leaves_beginLevel w
  cases hb : (c.beginLevel w).1 with
  | error e =>
    have ht := transaction_of_refused body hb
    rw [hb] at hbegin
    have hclosed : ¬c.Opens w := by
      rw [opens_iff, hb]
      exact fun ⟨_, hok⟩ => nomatch hok
    refine ⟨before, .unopened hb (by rw [ht, hj]), ?_⟩
    refine ⟨fun _ => ⟨e, by rw [ht], ?_⟩, fun h => absurd h hclosed, fun _ => ?_, fun h => ?_⟩
    · exact iff_of_false (hbegin.quiet e) hclosed
    · exact ⟨hbegin.refused, hbegin.quiet⟩
    · exact absurd hbegin.refused h
  | ok nested =>
    have ht := transaction_of_opened body hb
    rw [hb] at hbegin
    have hopens : c.Opens w := c.opens_iff.2 ⟨nested, hb⟩
    obtain ⟨after, hj', hend⟩ := c.leaves_endLevel nested (body (c.beginLevel w).2).1
      (body (c.beginLevel w).2).2
    rw [← ht] at hj' hend
    refine ⟨before ++ after, .opened hb hj hj', ?_⟩
    -- the statement that opens the level is not among those that are refused
    have hall := hend.after hbegin.not_refused hbegin.quiet
    refine ⟨fun hr => ?_, fun _ hr => ?_, fun h => absurd hopens h, hall.passes⟩
    · obtain ⟨e, he, ha⟩ := hall.accounts hr
      exact ⟨e, he, iff_of_true ha.reported hopens⟩
    · obtain ⟨e, he, ha⟩ := hall.accounts hr
      rwa [he]

structure Discloses : Prop where
  opening : ∀ (config : Config) (declarations : List (Except Error Table)),
    Traces (openOn c.engine config declarations)
  setting : ∀ enabled, Traces (c.setForeignKeys enabled)
  creating : ∀ ifNotExists, Traces (c.createTables ifNotExists)
  /-- The body can be any activity, with transactions of its own. -/
  level : ∀ {α : Type} (body : Run σ α) (w : World σ),
    ∃ own, c.Own body w own ∧ c.Answers body w own

theorem disclosesFailures : c.Discloses where
  opening := traces_openOn c.engine
  setting := c.traces_setForeignKeys
  creating := c.traces_createTables
  level := c.answers_transaction

namespace Refusals

def refusing (sql : String) : World Script.State where
  engine := { rules := [{ on := .batch, sql := some sql, error := .step "refused" }] }

theorem fault?_nil : Schema.fault? [] = none := rfl

def connection : Connection Script.State := ⟨Script.engine, ⟨[], fault?_nil⟩, {}⟩

theorem discloses_commit :
    connection.Discloses ∧
      ∃ own, connection.Own (pure ()) (refusing "COMMIT TRANSACTION;") own ∧
        Reported own (.step "refused") := by
  have h : connection.Discloses := connection.disclosesFailures
  obtain ⟨own, hown, ha⟩ := h.level (pure ()) (refusing "COMMIT TRANSACTION;")
  have hresult : (connection.transaction (pure ()) (refusing "COMMIT TRANSACTION;")).1 =
      .error (.step "refused") := rfl
  have hrefused : Refused own := by
    refine Classical.byContradiction fun hr => ?_
    have hpassed := (ha.passed hr).2
    rw [hresult] at hpassed
    cases hpassed
  obtain ⟨e, he, hreported⟩ := ha.refused hrefused
  rw [hresult] at he
  cases he
  exact ⟨h, own, hown, hreported.2 rfl⟩

/-- The refusal of the statement that opens a transaction is returned without a report. -/
theorem not_reported_begin :
    ¬∀ (c : Connection Script.State) (body : Run Script.State Unit) (w : World Script.State)
      (own : List Entry) (e : Error), c.Own body w own → Refused own →
      (c.transaction body w).1 = .error e → Reported own e := by
  intro h
  obtain ⟨own, hown, ha⟩ := connection.answers_transaction (pure ()) (refusing "BEGIN TRANSACTION;")
  have hclosed : ¬connection.Opens (refusing "BEGIN TRANSACTION;") := by
    intro hopens
    have hanswer : (.error (.step "refused") : Except Error Unit) = .ok () := hopens
    cases hanswer
  obtain ⟨hrefused, hquiet⟩ := ha.unopened hclosed
  obtain ⟨e, he, -⟩ := ha.refused hrefused
  exact hquiet e (h connection (pure ()) _ own e hown hrefused he)

end Refusals

end Connection

end RecordSql
