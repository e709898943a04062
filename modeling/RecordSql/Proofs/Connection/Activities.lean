import RecordSql.Connection.Open
import RecordSql.Proofs.Builder.Running

/-! The activities of a connection that no kept builder takes part in. They leave the statements
that there are alone, and what they compile is run as a whole or not at all. -/

namespace RecordSql

variable {σ α β : Type}

namespace Run

def Contained (r : Run σ α) : Prop := Act.Contained r.run

theorem Contained.bind {r : Run σ α} {f : α → Run σ β} (h : r.Contained)
    (hf : ∀ x, (f x).Contained) : (r >>= f).Contained := fun w =>
  .run_bind (h w) fun x w' _ => hf x w'

theorem contained_pure (x : α) : Contained (pure x : Run σ α) := fun w => .refl _ _ w

theorem contained_throw (e : Error) : Contained (throw e : Run σ α) := fun w => .refl _ _ w

theorem contained_ofExcept (x : Except Error α) : Contained (ofExcept x : Run σ α) := fun w =>
  .refl _ _ w

theorem contained_observe (f : σ → α) : Contained (liftM (Act.observe f : Act σ α) : Run σ α) :=
  fun w => .refl _ _ w

theorem contained_emit (e : Event) : Contained (liftM (Act.emit e : Act σ Unit) : Run σ Unit) :=
  fun w => .emit e w

theorem Contained.outcome {r : Run σ α} (h : r.Contained) : (outcome r).Contained := fun w => h w

theorem Contained.logged {r : Run σ α} (h : r.Contained) (activity : Activity) :
    (Connection.logged activity r).Contained := by
  refine h.outcome.bind fun x => ?_
  cases x with
  | ok a => exact contained_pure a
  | error e => exact (contained_emit _).bind fun _ => contained_throw e

theorem contained_forM {f : β → Run σ Unit} (h : ∀ x, (f x).Contained) (xs : List β) :
    Contained (xs.forM f) := by
  induction xs with
  | nil => exact contained_pure ()
  | cons x xs ih => exact (h x).bind fun _ => ih

end Run

open Run

namespace Connection

variable (c : Connection σ)

theorem contained_batch (sql : String) : (c.batch sql).Contained := by
  intro w
  have ha : w.Leads none loadedRule (c.announce .schema sql 0 w).2 := .announce ..
  exact ha.andThen (.call _ _ (by simp [Call.statement?]) (by simp [Entry.request?]))

theorem leads_scalar (sql : Sql) (missing : String) (w : World σ) :
    w.Leads none (builtRule (.ok sql)) (c.scalar sql missing w).2 := by
  have hrule : (builtRule (.ok sql)).Lenient := lenient_builtRule rfl
  have hc := c.leads_compile hrule .select sql w
  rw [scalar, Run.bind_apply]
  rcases hs : c.compile .select sql w with ⟨e | s, w₁⟩ <;> rw [hs] at hc
  · exact hc
  obtain ⟨hnew, -, hl⟩ := c.compile_eq_ok hs
  have hown : ∀ t, some s = some t → none = some t ∨ w.fresh ≤ t :=
    fun t ht => .inr (Option.some.inj ht ▸ hnew)
  refine hc.trans (.finalized c.engine (.run_bind ?_ fun _ w₂ _ => ?_)) hown
  · refine .call _ _ (fun _ h => .inl h) fun _ _ h => ?_
    cases h
    exact ⟨sql, rfl, fun t ht => by cases ht; exact hl⟩
  · refine .run_bind (.call _ _ (fun _ h => .inl h) (by simp [Entry.request?])) fun row w₃ _ => ?_
    cases row with
    | none => exact .refl _ _ w₃
    | some row => exact .run_bind (.refl _ _ w₃) fun _ w₄ _ => .refl _ _ w₄

theorem contained_beginLevel : c.beginLevel.Contained :=
  (contained_observe _).bind fun _ => (c.contained_batch _).bind fun _ =>
    (contained_emit _).bind fun _ => contained_pure _

theorem contained_abandon (nested : Bool) (cause : Error) :
    (c.abandon nested cause : Run σ α).Contained := by
  refine (contained_emit _).bind fun _ => (c.contained_batch _).outcome.bind fun r => ?_
  cases r with
  | ok => exact contained_throw cause
  | error e => exact (contained_throw _).logged _

theorem contained_commitLevel (nested : Bool) (result : α) :
    (c.commitLevel nested result).Contained := by
  refine (c.contained_batch _).outcome.bind fun r => ?_
  cases r with
  | ok => exact (contained_emit _).bind fun _ => contained_pure result
  | error e =>
    refine (c.contained_batch _).outcome.bind fun r => ?_
    cases r with
    | ok => exact (contained_throw e).logged _
    | error e' => exact (contained_throw _).logged _

theorem contained_endLevel (nested : Bool) (outcome : Except Error α) :
    (c.endLevel nested outcome).Contained := by
  cases outcome with
  | ok result => exact c.contained_commitLevel nested result
  | error cause => exact c.contained_abandon nested cause

theorem contained_transaction {body : Run σ α} (h : body.Contained) :
    (c.transaction body).Contained :=
  c.contained_beginLevel.bind fun nested => h.outcome.bind fun r => c.contained_endLevel nested r

theorem contained_setForeignKeys (enabled : Bool) : (c.setForeignKeys enabled).Contained :=
  (contained_emit _).bind fun _ => (c.contained_batch _).logged _

theorem contained_openOn (engine : Engine σ) (config : Config)
    (declarations : List (Except Error Table)) :
    (openOn engine config declarations).Contained := by
  refine Run.Contained.bind ?_ fun schema => (contained_emit _).bind fun _ =>
    (contained_setForeignKeys _ _).bind fun _ => contained_pure _
  exact ((contained_ofExcept _).logged _).bind fun _ => (contained_ofExcept _).logged _

theorem contained_createTables (ifNotExists : Bool) : (c.createTables ifNotExists).Contained :=
  (contained_forM (fun _ => (c.contained_batch _).logged _) _).bind fun _ => contained_emit _

theorem contained_countTables : c.countTables.Contained := fun w =>
  (c.leads_scalar _ _ w).weaken fun _ _ => loadedRule_of_builtRule

end Connection

namespace Builder

section

variable {κ : Type} [Statement κ]

theorem Unused.contained_execOnce {b : Builder κ} (h : b.Unused) (c : Connection σ) :
    (b.execOnce c).Contained := by
  intro w
  have hw := leads_execOnce c (h.sound w)
  rw [h.statement] at hw
  exact hw.weaken fun _ _ => loadedRule_of_builtRule

end

theorem Unused.contained_one {b : Builder Select} (h : b.Unused) (c : Connection σ) :
    (b.one c).Contained := by
  intro w
  have hw := leads_one c (h.sound w)
  rw [h.statement] at hw
  exact hw.weaken fun _ _ => loadedRule_of_builtRule

theorem leads_count (c : Connection σ) (b : Builder Select) (w : World σ) :
    w.Leads none (builtRule b.buildCount) (b.count c w).2 := by
  rw [count, Run.ofExcept_bind_apply]
  cases b.buildCount with
  | error e => exact .refl _ _ w
  | ok sql => exact c.leads_scalar sql _ w

end Builder

namespace Connection

variable (c : Connection σ)

theorem insertMany_unused {recordType : String} {records : List Record} {b : Builder Insert}
    (h : c.insertMany recordType records = .ok b) : b.Unused := by
  obtain ⟨t, -, h⟩ := bind_eq_ok.1 h
  cases h
  exact (Builder.unused_new _).edits _

theorem contained_insertMany_bind {recordType : String} {records : List Record}
    {f : Builder Insert → Run σ α} (hf : ∀ b : Builder Insert, b.Unused → (f b).Contained) :
    (ofExcept (c.insertMany recordType records) >>= f).Contained := by
  intro w
  change World.Leads _ _ w ((ofExcept (c.insertMany recordType records) >>= f) w).2
  rw [ofExcept_bind_apply]
  cases hb : c.insertMany recordType records with
  | error e => exact .refl _ _ w
  | ok b => exact hf b (c.insertMany_unused hb) w

theorem contained_insertRecord (recordType : String) (r : Record) :
    (c.insertRecord recordType r).Contained := by
  refine (contained_ofExcept _).bind fun t => c.contained_insertMany_bind fun b hb => ?_
  refine (hb.contained_execOnce c).bind fun _ => ?_
  cases t.assignedKey? r with
  | none => exact contained_pure r
  | some pk => exact (contained_observe _).bind fun _ => contained_ofExcept _

theorem contained_insertBatches (recordType : String) (batches : List (List Record)) :
    (c.insertBatches recordType batches).Contained := by
  induction batches with
  | nil => exact contained_pure 0
  | cons batch rest ih =>
    refine c.contained_insertMany_bind fun b hb => ?_
    exact (hb.contained_execOnce c).bind fun _ => ih.bind fun _ => contained_pure _

theorem contained_insertManyRecords (recordType : String) (records : List Record)
    (batchSize : Nat) : (c.insertManyRecords recordType records batchSize).Contained := by
  unfold insertManyRecords
  split_ifs
  · exact contained_throw _
  · exact contained_pure _
  · exact c.contained_transaction (c.contained_insertBatches _ _)

theorem contained_updateRecord (recordType : String) (r : Record) :
    (c.updateRecord recordType r).Contained :=
  (contained_ofExcept _).bind fun _ => (contained_ofExcept _).bind fun _ =>
    ((Builder.unused_new _).edit _).contained_execOnce c

theorem contained_findRecord (recordType : String) (key : Value) :
    (c.findRecord recordType key).Contained :=
  (contained_ofExcept _).bind fun _ => (contained_ofExcept _).bind fun _ =>
    ((Builder.unused_new _).edit _).contained_one c

theorem contained_deleteRecord (recordType : String) (key : Value) :
    (c.deleteRecord recordType key).Contained :=
  (contained_ofExcept _).bind fun _ => (contained_ofExcept _).bind fun _ =>
    ((Builder.unused_new _).edit _).contained_execOnce c

theorem contained_extreme (recordType : String) (direction : Direction) :
    (c.extreme recordType direction).Contained :=
  (contained_ofExcept _).bind fun _ => (contained_ofExcept _).bind fun _ =>
    ((Builder.unused_new _).edit _).contained_one c

theorem contained_truncate (recordType : String) : (c.truncate recordType).Contained :=
  (contained_ofExcept _).bind fun _ => (Builder.unused_new _).contained_execOnce c

end Connection

end RecordSql
