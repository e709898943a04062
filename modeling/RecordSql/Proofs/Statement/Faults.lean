import RecordSql.Builder.Cursor
import RecordSql.Proofs.Statement.Insertion

/-! The faults of a statement, of a record and of a row are worded by what is wrong with them: none
of them is the error of a statement that is not prepared. -/

namespace RecordSql

section

variable {ε α β : Type} {e : ε}

theorem bind_ne_error {x : Except ε α} {f : α → Except ε β} (hx : x ≠ .error e)
    (hf : ∀ a, f a ≠ .error e) : x >>= f ≠ .error e := by
  cases x with
  | error e' => exact fun h => hx (congrArg Except.error (Except.error.inj h))
  | ok a => exact hf a

theorem forM_ne_error {f : α → Except ε Unit} (hf : ∀ a, f a ≠ .error e) (xs : List α) :
    xs.forM f ≠ .error e := by
  induction xs with
  | nil => exact nofun
  | cons x xs ih => exact bind_ne_error (hf x) fun _ => ih

theorem optionForM_ne_error {f : α → Except ε Unit} (hf : ∀ a, f a ≠ .error e) (x : Option α) :
    x.forM f ≠ .error e := by
  cases x with
  | none => exact nofun
  | some a => exact hf a

theorem mapM_ne_error {f : α → Except ε β} (hf : ∀ a, f a ≠ .error e) (xs : List α) :
    xs.mapM f ≠ .error e := by
  induction xs with
  | nil => exact nofun
  | cons x xs ih =>
    rw [List.mapM_cons]
    exact bind_ne_error (hf x) fun _ => bind_ne_error ih fun _ => nofun

theorem foldlM_ne_error {f : β → α → Except ε β} (hf : ∀ b a, f b a ≠ .error e) (b : β)
    (xs : List α) : xs.foldlM f b ≠ .error e := by
  induction xs generalizing b with
  | nil => exact nofun
  | cons x xs ih =>
    rw [List.foldlM_cons]
    exact bind_ne_error (hf b x) ih

theorem map_ne_error {x : Except ε α} {f : α → β} (hx : x ≠ .error e) : x.map f ≠ .error e := by
  cases x with
  | error e' => exact fun h => hx (congrArg Except.error (Except.error.inj h))
  | ok a => exact nofun

theorem guard_ne_error {p : Prop} [Decidable p] {e' : ε} {f : Unit → Except ε β} (he : e' ≠ e)
    (hf : f () ≠ .error e) : (if p then throw e' >>= f else f ()) ≠ .error e := by
  split
  · exact fun h => he (Except.error.inj h)
  · exact hf

end

def unprepared : Error := .validation "statement is not prepared"

theorem validation_ne_unprepared {s : String} (h : s.toList.head? ≠ some 's') :
    Error.validation s ≠ unprepared := by
  intro he
  cases he
  exact h rfl

theorem notFound_ne_unprepared (detail : String) : Error.notFound detail ≠ unprepared := nofun

theorem step_ne_unprepared (detail : String) : Error.step detail ≠ unprepared := nofun

theorem mismatch_ne_unprepared (column : String) (expected : StorageClass) (found : Value) :
    Error.mismatch column expected found ≠ unprepared := nofun

theorem Column.check_ne (c : Column) (v : Value) : c.check v ≠ .error unprepared := by
  unfold Column.check
  split
  · split
    · exact nofun
    · exact fun h => mismatch_ne_unprepared _ _ _ (Except.error.inj h)
  · exact nofun

namespace Scope

theorem resolve_ne (scope : Scope) (r : ColumnRef) : scope.resolve r ≠ .error unprepared := by
  unfold resolve
  split <;> split
  · exact nofun
  · split <;> exact nofun
  all_goals exact nofun

theorem checkValues_ne (scope : Scope) (r : ColumnRef) (values : List Value) :
    scope.checkValues r values ≠ .error unprepared :=
  bind_ne_error (scope.resolve_ne r) fun c => forM_ne_error c.check_ne values

end Scope

theorem Condition.check_ne (scope : Scope) (e : Condition) :
    e.check scope ≠ .error unprepared := by
  induction e with
  | compare | nullCheck | inList | between => exact scope.checkValues_ne _ _
  | columns left _ right =>
    exact bind_ne_error (scope.checkValues_ne _ _) fun _ => scope.checkValues_ne _ _
  | logical _ _ _ ihl ihr => exact bind_ne_error ihl fun _ => ihr
  | not _ ih => exact ih
  | raw sql params =>
    unfold Condition.check
    split
    · exact nofun
    · exact fun h => validation_ne_unprepared (by simp) (Except.error.inj h)

namespace Select

theorem check_ne (q : Select) : q.check ≠ .error unprepared :=
  bind_ne_error (forM_ne_error (fun r => Scope.checkValues_ne _ r []) _) fun _ =>
    bind_ne_error (forM_ne_error (Condition.check_ne _) _) fun _ =>
      bind_ne_error (optionForM_ne_error (Condition.check_ne _) _) fun _ =>
        forM_ne_error (fun (r, _) => Scope.checkValues_ne _ r []) _

theorem build_ne (q : Select) : q.build ≠ .error unprepared :=
  bind_ne_error q.check_ne fun _ => nofun

theorem buildCount_ne (q : Select) : q.buildCount ≠ .error unprepared :=
  bind_ne_error q.check_ne fun _ => by split <;> exact nofun

theorem subquery_ne (q : Select) (name : String) : q.subquery name ≠ .error unprepared :=
  bind_ne_error q.check_ne fun _ => nofun

end Select

namespace Insert

theorem quotedColumn_ne (t : Table) (name : String) :
    quotedColumn t name ≠ .error unprepared := by
  unfold quotedColumn
  split <;> exact nofun

theorem overwritten_ne (t : Table) (clause : OnConflict) :
    overwritten t clause ≠ .error unprepared := by
  unfold overwritten
  split
  · exact nofun
  · exact nofun
  · exact mapM_ne_error (quotedColumn_ne t) _

theorem conflictText_ne (t : Table) (clause : OnConflict) :
    conflictText t clause ≠ .error unprepared := by
  refine bind_ne_error (mapM_ne_error (quotedColumn_ne t) _) fun target =>
    bind_ne_error (overwritten_ne t clause) fun updated => ?_
  by_cases ha : clause.action = .nothing
  · rw [if_pos ha]
    exact nofun
  · rw [if_neg ha]
    exact guard_ne_error (validation_ne_unprepared (by decide))
      (guard_ne_error (validation_ne_unprepared (by decide)) nofun)

theorem tuples_ne (columns : List Column) (rows : List (List Value)) :
    tuples columns rows ≠ .error unprepared :=
  bind_ne_error (forM_ne_error (fun _ => forM_ne_error (fun (c, v) => c.check_ne v) _) _)
    fun _ => nofun

theorem source_ne (q : Insert) : q.source ≠ .error unprepared := by
  dsimp only [source]
  split
  · exact guard_ne_error (validation_ne_unprepared (by decide)) nofun
  · exact bind_ne_error (tuples_ne _ _) fun _ => nofun

theorem build_ne (q : Insert) : q.build ≠ .error unprepared := by
  dsimp only [build]
  refine guard_ne_error (validation_ne_unprepared ?_) (bind_ne_error q.source_ne fun _ => ?_)
  · simp
  cases q.onConflict with
  | none => exact nofun
  | some clause => exact bind_ne_error (conflictText_ne q.table clause) fun _ => nofun

end Insert

namespace Update

theorem assignment_ne (t : Table) (name : String) (v : Value) :
    assignment t name v ≠ .error unprepared := by
  unfold assignment
  split
  · exact nofun
  · next c _ => exact bind_ne_error (c.check_ne v) fun _ => nofun

theorem build_ne (q : Update) : q.build ≠ .error unprepared := by
  dsimp only [build]
  refine guard_ne_error (validation_ne_unprepared ?_) ?_
  · simp
  · exact bind_ne_error (mapM_ne_error (fun (name, v) => assignment_ne q.table name v) _) fun _ =>
      bind_ne_error (optionForM_ne_error (Condition.check_ne _) _) fun _ => nofun

end Update

theorem Delete.build_ne (q : Delete) : q.build ≠ .error unprepared :=
  bind_ne_error (optionForM_ne_error (Condition.check_ne _) _) fun _ => nofun

theorem Row.value_ne (row : Row) (index : Nat) (expected : StorageClass) :
    row.value index expected ≠ .error unprepared := by
  unfold Row.value
  split <;> exact nofun

theorem Row.field_ne (row : Row) (index : Nat) (type : FieldType) :
    row.field index type ≠ .error unprepared :=
  bind_ne_error (row.value_ne _ _) fun _ => by split <;> exact nofun

theorem Column.assign_ne (c : Column) (r : Record) (v : Value) :
    c.assign r v ≠ .error unprepared := by
  unfold Column.assign
  split <;> exact nofun

namespace Table

theorem ofRow_ne (t : Table) (row : Row) : t.ofRow row ≠ .error unprepared := by
  refine foldlM_ne_error (fun r c => ?_) _ _
  split
  · exact bind_ne_error (row.value_ne _ _) fun _ => c.assign_ne _ _
  · exact nofun

theorem fillColumns_ne (r : Record) (columns : List Column) (values : List (Option Value)) :
    (fillColumns r columns values).2 ≠ .error unprepared := by
  fun_induction fillColumns r columns values with
  | case1 _ _ _ _ _ _ _ ih => exact ih
  | case2 r c _ v _ e ha => exact fun h => c.assign_ne r v (by rw [ha, Except.error.inj h])
  | case3 _ _ _ _ ih => exact ih
  | case4 => simp

theorem record_ne (t : Table) (values : List (Option Value)) :
    t.record values ≠ .error unprepared := by
  have hf := fillColumns_ne t.initial t.columns values
  unfold record fill
  split
  · exact nofun
  · next h =>
    rw [h] at hf
    exact fun he => hf (congrArg Except.error (Except.error.inj he))

theorem primaryKey_ne (t : Table) : t.primaryKey ≠ .error unprepared := by
  unfold primaryKey
  split <;> exact nofun

end Table

theorem Connection.table_ne {σ : Type} (c : Connection σ) (recordType : String) :
    c.table recordType ≠ .error unprepared := by
  unfold Connection.table Schema.table
  split <;> exact nofun

end RecordSql
