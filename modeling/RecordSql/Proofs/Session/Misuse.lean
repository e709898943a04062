import RecordSql.Proofs.Session.Requests

/-! What a builder records as misuse: which request records which error, and that the first error
that is recorded stays. -/

namespace RecordSql

variable {σ κ α : Type}

namespace Slot

def misuse (s : Slot) (clause : Clause) : Option Error :=
  if s.stage = .unprepared then none
  else some (.validation ("cannot change " ++ clause.description ++ " after prepare()"))

theorem error_fail (s : Slot) (e : Error) : (s.fail e).error = s.error.or (some e) := by
  unfold fail
  cases s.error <;> rfl

theorem error_guard (s : Slot) (clause : Clause) :
    (s.guard clause).error = s.error.or (s.misuse clause) := by
  unfold guard misuse
  split
  · rw [Option.or_none]
  · exact s.error_fail _

end Slot

namespace Builder

variable [Statement κ]

theorem error_edit (b : Builder κ) (e : Statement.Edit κ) :
    (b.edit e).slot.error = b.slot.error.or (b.slot.misuse (Statement.clause e)) :=
  b.slot.error_guard _

theorem misuse_edit (b : Builder κ) (e : Statement.Edit κ) (clause : Clause) :
    (b.edit e).slot.misuse clause = b.slot.misuse clause := by
  unfold Slot.misuse
  rw [stage_edit]

theorem error_edits (b : Builder κ) (clause : Clause) (es : List (Statement.Edit κ))
    (h : ∀ e ∈ es, Statement.clause e = clause) :
    (b.edits es).slot.error =
      b.slot.error.or (if es.isEmpty then none else b.slot.misuse clause) := by
  induction es generalizing b with
  | nil => simp [edits]
  | cons e rest ih =>
    obtain ⟨he, hrest⟩ := List.forall_mem_cons.1 h
    change ((b.edit e).edits rest).slot.error = _
    rw [ih _ hrest, error_edit, he, misuse_edit, Option.or_assoc]
    cases rest <;> cases b.slot.misuse clause <;> rfl

end Builder

namespace Session

def recordsSelect (c : Connection σ) (s : Session σ) (b : Builder Select) :
    Request → Option Error
  | .filter _ => b.slot.misuse .condition
  | .columns _ => b.slot.misuse .columns
  | .distinct => b.slot.misuse .distinct
  | .join recordType _ _ =>
    match c.table recordType with
    | .ok _ => b.slot.misuse .joins
    | .error e => some e
  | .joinSubquery sub _ _ => (s.subquery? sub).bind fun _ => b.slot.misuse .joins
  | .order .. => b.slot.misuse .order
  | .limit _ => b.slot.misuse .limit
  | .offset _ => b.slot.misuse .offset
  | _ => none

def recordsInsert (b : Builder Insert) : Request → Option Error
  | .values rows =>
    match rows.mapM b.content.table.record with
    | .ok records => if records.isEmpty then none else b.slot.misuse .values
    | .error _ => none
  | .onConflict _ => b.slot.misuse .conflict
  | _ => none

def recordsUpdate (b : Builder Update) : Request → Option Error
  | .filter _ => b.slot.misuse .condition
  | .set .. => b.slot.misuse .assignments
  | .setJson _ (some _) => b.slot.misuse .assignments
  | .setJson _ none => some (.serialization "key must be a string")
  | _ => none

def recordsDelete (b : Builder Delete) : Request → Option Error
  | .filter _ => b.slot.misuse .condition
  | _ => none

def records (c : Connection σ) (s : Session σ) : AnyBuilder → Request → Option Error
  | .select b, r => recordsSelect c s b r
  | .insert b, r => recordsInsert b r
  | .update b, r => recordsUpdate b r
  | .delete b, r => recordsDelete b r

variable (c : Connection σ) (s : Session σ) (name : String)

def Called.Records (called : Called σ) (b : AnyBuilder) (recorded : Option Error) : Prop :=
  called.Leaves fun b' => b'.slot.error = b.slot.error.or recorded

theorem records_told (b : AnyBuilder) (result : Except Error Reply) :
    (s.told b result).Records b none :=
  leaves_told (Option.or_none).symm _

theorem records_worked [Statement κ] {b : Builder κ} (hs : b.Sound s.world)
    {a : Act σ (Except Error α × Builder κ)} (ha : Builder.Works b a)
    {wrap : Builder κ → AnyBuilder}
    (hwrap : ∀ b : Builder κ, (wrap b).slot = b.slot) (reply : α → Reply) :
    (s.worked wrap reply a).Records (wrap b) none := by
  rintro b' ⟨⟩
  rw [hwrap, hwrap, Option.or_none]
  exact (ha s.world hs).1.error

theorem records_select {b : Builder Select} (h : b.Sound s.world) (r : Request) :
    (s.callSelect c name b r).Records (.select b) (s.recordsSelect c b r) := by
  cases r with
  | filter | columns | distinct | order | limit | offset =>
    exact leaves_changed (Builder.error_edit b _)
  | join recordType kind on =>
    refine leaves_changed ?_
    dsimp only [Builder.joinRecords, recordsSelect]
    cases c.table recordType with
    | ok t => exact Builder.error_edit b _
    | error e => exact b.slot.error_fail e
  | joinSubquery sub kind on =>
    dsimp only [callSelect, recordsSelect]
    cases s.subquery? sub with
    | some q => exact leaves_changed (Builder.error_edit b _)
    | none => exact s.records_told _ _
  | subquery key sub =>
    dsimp only [callSelect]
    cases b.subquery key <;> exact leaves_told (Option.or_none).symm _
  | count => exact leaves_told (Option.or_none).symm _
  | prepare => exact s.records_worked h (Builder.prepare_works c b) (fun _ => rfl) _
  | rows n => exact s.records_worked h (Builder.rows_works c n b) (fun _ => rfl) _
  | fetchAll | fetchFirst | fetchOne | one => exact leaves_used _ _
  | _ => exact s.records_told _ _

theorem records_insert {b : Builder Insert} (h : b.Sound s.world) (r : Request) :
    (s.callInsert c name b r).Records (.insert b) (recordsInsert b r) := by
  cases r with
  | values rows =>
    dsimp only [callInsert, recordsInsert]
    cases rows.mapM b.content.table.record with
    | ok records =>
      refine leaves_told ?_ _
      have he := b.error_edits .values
        (records.map fun r => Insert.Edit.row (Insert.row b.content.table r))
        (List.forall_mem_map.2 fun _ _ => rfl)
      rwa [List.isEmpty_map] at he
    | error e => exact s.records_told _ _
  | onConflict clause => exact leaves_changed (Builder.error_edit b _)
  | prepare => exact s.records_worked h (Builder.prepare_works c b) (fun _ => rfl) _
  | exec => exact s.records_worked h (Builder.exec_works c b) (fun _ => rfl) _
  | _ => exact s.records_told _ _

theorem records_update {b : Builder Update} (h : b.Sound s.world) (r : Request) :
    (s.callUpdate c name b r).Records (.update b) (recordsUpdate b r) := by
  cases r with
  | filter | set => exact leaves_changed (Builder.error_edit b _)
  | setJson column document =>
    refine leaves_changed ?_
    cases document with
    | some j => exact Builder.error_edit b _
    | none => exact b.slot.error_fail _
  | prepare => exact s.records_worked h (Builder.prepare_works c b) (fun _ => rfl) _
  | exec => exact s.records_worked h (Builder.exec_works c b) (fun _ => rfl) _
  | _ => exact s.records_told _ _

theorem records_delete {b : Builder Delete} (h : b.Sound s.world) (r : Request) :
    (s.callDelete c name b r).Records (.delete b) (recordsDelete b r) := by
  cases r with
  | filter => exact leaves_changed (Builder.error_edit b _)
  | prepare => exact s.records_worked h (Builder.prepare_works c b) (fun _ => rfl) _
  | exec => exact s.records_worked h (Builder.exec_works c b) (fun _ => rfl) _
  | _ => exact s.records_told _ _

theorem records_request {b : AnyBuilder} (h : b.Sound s.world) (r : Request) :
    (s.request c name b r).Records b (s.records c b r) := by
  unfold request
  split
  · cases b <;> exact s.records_told _ _
  · cases b <;> exact s.records_told _ _
  · cases b <;> exact s.records_told _ _
  · cases b with
    | select b => exact s.records_select c name h r
    | insert b => exact s.records_insert c name h r
    | update b => exact s.records_update c name h r
    | delete b => exact s.records_delete c name h r

end Session

end RecordSql
