import RecordSql.Proofs.Builder.Ownership
import RecordSql.Proofs.Statement.Faults

/-! The calls on whole records and on the connection itself: each compiles at most what it
finalizes, and none of them comes to run a statement that is not there. -/

namespace RecordSql

variable {σ α κ : Type}

theorem Slot.check_ne {s : Slot} (h : s.error ≠ some unprepared) :
    s.check ≠ .error unprepared := by
  unfold check
  split
  · next e he => exact fun hu => h (he.trans (congrArg some (Except.error.inj hu)))
  · exact nofun

namespace Builder

variable [Statement κ]

theorem slot_edit {b : Builder κ} (h : b.slot.stage = .unprepared) (e : Statement.Edit κ) :
    (b.edit e).slot = b.slot := by
  unfold edit Slot.guard
  rw [if_pos h]

theorem slot_edits {b : Builder κ} (h : b.slot.stage = .unprepared)
    (es : List (Statement.Edit κ)) : (b.edits es).slot = b.slot := by
  induction es generalizing b with
  | nil => rfl
  | cons e rest ih => exact (ih ((stage_edit b e).trans h)).trans (slot_edit h e)

theorem build_ne {b : Builder κ} (he : b.slot.error ≠ some unprepared)
    (hb : Statement.build b.content ≠ .error unprepared) : b.build ≠ .error unprepared :=
  bind_ne_error (Slot.check_ne he) fun _ => hb

theorem failing_ne {b : Builder Select} (h : b.slot.error ≠ some unprepared) :
    ¬b.Failing unprepared := by
  rintro (hb | ⟨row, hr⟩)
  · exact build_ne h b.content.build_ne hb
  · exact b.content.table.ofRow_ne row hr

end Builder

open Run

abbrev Expected (e : Error) : Prop := e ≠ unprepared

theorem expected_of_ne {x : Except Error α} (h : x ≠ .error unprepared) :
    ∀ e, x = .error e → Expected e := by
  rintro e rfl rfl
  exact h rfl

namespace Connection

variable (c : Connection σ)

theorem tidy_ofExcept {x : Except Error α} (h : x ≠ .error unprepared) :
    Tidy c.engine Expected (Run.ofExcept x : Run σ α) := .ofExcept (expected_of_ne h)

theorem tidy_execOnce [Statement κ] {b : Builder κ} (h : b.Unused) (he : b.slot.error = none)
    (hb : Statement.build b.content ≠ .error unprepared) :
    (b.execOnce c).Tidy c.engine Expected :=
  h.tidy_execOnce c (expected_of_ne (Builder.build_ne (by simp [he]) hb))

theorem tidy_countTables : c.countTables.Tidy c.engine Expected :=
  c.tidy_scalar _ (notFound_ne_unprepared _) fun row _ => expected_of_ne (row.field_ne _ _) _

theorem tidy_insertMany_bind {recordType : String} {records : List Record}
    {f : Builder Insert → Run σ α}
    (hf : ∀ q : Insert, (f { content := q }).Tidy c.engine Expected) :
    (ofExcept (c.insertMany recordType records) >>= f).Tidy c.engine Expected := by
  intro w
  rw [ofExcept_bind_apply]
  cases ht : c.table recordType with
  | error e =>
    have hmany : c.insertMany recordType records = .error e := by
      unfold insertMany
      rw [ht]
      rfl
    rw [hmany]
    exact ⟨[], .refl _ w, .own (expected_of_ne (c.table_ne recordType) e ht)⟩
  | ok t =>
    rw [c.insertMany_eq_ok ht]
    exact hf _ w

theorem tidy_insertOnce (q : Insert) :
    (({ content := q } : Builder Insert).execOnce c).Tidy c.engine Expected :=
  c.tidy_execOnce (Builder.unused_new q) rfl q.build_ne

theorem tidy_insertRecord (recordType : String) (r : Record) :
    (c.insertRecord recordType r).Tidy c.engine Expected := by
  refine (c.tidy_ofExcept (c.table_ne recordType)).bind fun t => c.tidy_insertMany_bind fun q =>
    (c.tidy_insertOnce q).bind fun _ => ?_
  cases t.assignedKey? r with
  | none => exact .pure r
  | some pk => exact (Tidy.observe _).bind fun _ => c.tidy_ofExcept (pk.assign_ne _ _)

theorem tidy_insertBatches (recordType : String) (batches : List (List Record)) :
    (c.insertBatches recordType batches).Tidy c.engine Expected := by
  induction batches with
  | nil => exact .pure 0
  | cons batch rest ih =>
    exact c.tidy_insertMany_bind fun q => (c.tidy_insertOnce q).bind fun _ => ih.bind fun _ =>
      .pure _

theorem tidy_insertManyRecords (recordType : String) (records : List Record) (batchSize : Nat) :
    (c.insertManyRecords recordType records batchSize).Tidy c.engine Expected := by
  unfold insertManyRecords
  split_ifs
  · exact .throw (validation_ne_unprepared (by decide))
  · exact .pure _
  · exact c.tidy_transaction step_ne_unprepared (c.tidy_insertBatches _ _)

theorem tidy_updateRecord (recordType : String) (r : Record) :
    (c.updateRecord recordType r).Tidy c.engine Expected :=
  (c.tidy_ofExcept (c.table_ne recordType)).bind fun t =>
    (c.tidy_ofExcept t.primaryKey_ne).bind fun _ =>
      c.tidy_execOnce ((Builder.unused_new _).edit _)
        (congrArg Slot.error (Builder.slot_edit rfl _)) (Update.build_ne _)

theorem tidy_deleteRecord (recordType : String) (key : Value) :
    (c.deleteRecord recordType key).Tidy c.engine Expected :=
  (c.tidy_ofExcept (c.table_ne recordType)).bind fun t =>
    (c.tidy_ofExcept t.primaryKey_ne).bind fun _ =>
      c.tidy_execOnce ((Builder.unused_new _).edit _)
        (congrArg Slot.error (Builder.slot_edit rfl _)) (Delete.build_ne _)

theorem tidy_truncate (recordType : String) :
    (c.truncate recordType).Tidy c.engine Expected :=
  (c.tidy_ofExcept (c.table_ne recordType)).bind fun _ =>
    c.tidy_execOnce (Builder.unused_new _) rfl (Delete.build_ne _)

theorem tidy_one (q : Select) (e : Select.Edit) :
    ((({ content := q } : Builder Select).edit e).one c).Tidy c.engine Expected := by
  have hu : (({ content := q } : Builder Select).edit e).Unused := (Builder.unused_new q).edit e
  refine hu.tidy_one c fun e' he => ?_
  rintro rfl
  refine Builder.failing_ne ?_ he
  rw [Builder.slot_edit hu.stage, Builder.slot_edit rfl]
  exact nofun

theorem tidy_findRecord (recordType : String) (key : Value) :
    (c.findRecord recordType key).Tidy c.engine Expected :=
  (c.tidy_ofExcept (c.table_ne recordType)).bind fun t =>
    (c.tidy_ofExcept t.primaryKey_ne).bind fun _ => c.tidy_one _ _

theorem tidy_extreme (recordType : String) (direction : Direction) :
    (c.extreme recordType direction).Tidy c.engine Expected :=
  (c.tidy_ofExcept (c.table_ne recordType)).bind fun t =>
    (c.tidy_ofExcept t.primaryKey_ne).bind fun _ => c.tidy_one _ _

theorem passes_openOn (engine : Engine σ) (config : Config)
    (declarations : List (Except Error Table)) (w : World σ) :
    ∃ talk, w.Passes engine none none talk (openOn engine config declarations w).2 := by
  have h : (openOn engine config declarations).Tidy engine fun _ => True := by
    refine Tidy.bind ?_ fun schema => (Tidy.emit _).bind fun _ => Tidy.bind
      (tidy_setForeignKeys ⟨engine, schema, config⟩ _) fun _ => .pure _
    exact ((Tidy.ofExcept fun _ _ => trivial).logged _).bind fun _ =>
      (Tidy.ofExcept fun _ _ => trivial).logged _
  obtain ⟨talk, hp, -⟩ := h w
  exact ⟨talk, hp⟩

end Connection

end RecordSql
