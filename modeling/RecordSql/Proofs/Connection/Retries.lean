import RecordSql.Proofs.Connection.Rowids

/-! Inserting a record again after its insertion failed. The record is as it was, and the engine
executed nothing, with one exception: the row is in where its rowid is beyond the width of the key
that it is written to. -/

namespace RecordSql

variable {σ : Type}

def Executed (i : StatementId) (talk : List Exchange) : Prop := ∃ n, (.execute i, .changed n) ∈ talk

theorem Executed.append {i : StatementId} {talk talk' : List Exchange} :
    Executed i (talk ++ talk') ↔ Executed i talk ∨ Executed i talk' := by
  simp [Executed, exists_or]

theorem not_executed_compiles {i j : StatementId} {sql : Sql} {result : Except Error StatementId}
    {talk : List Exchange} (h : Compiles j sql result talk) : ¬Executed i talk := by
  rintro ⟨n, hn⟩
  cases h <;> simp [bindings, List.mem_mapIdx] at hn

theorem RunsOnce.executed_iff {i : StatementId} {sql : Sql} {answer : Except Error Nat}
    {talk : List Exchange} (h : RunsOnce i sql answer talk) :
    Executed i talk ↔ ∃ n, answer = .ok n := by
  cases h with
  | uncompiled h => exact iff_of_false (not_executed_compiles h) (by simp)
  | executed =>
    have hbound : ¬Executed i ((.prepare i sql.text, .accepted) :: bindings i 1 sql.params) :=
      not_executed_compiles .bound
    rw [Executed.append, or_iff_right hbound]
    cases answer <;> simp [Executed, Answer.ofExcept]

theorem Scalar.decode_integer_eq_none {s : Scalar} {i : Int64} (h : s.storage = .integer) :
    s.decode (.integer i) = none ↔ ∃ width, s = .integer width ∧ ¬width.Holds i := by
  cases s with
  | bool =>
    have hdecode : decode .bool (.integer i) = some (i != 0) := rfl
    rw [hdecode]
    exact iff_of_false nofun nofun
  | integer width =>
    have hdecode : decode (.integer width) (.integer i) =
      if h : width.Holds i then some ⟨i, h⟩ else none := rfl
    rw [hdecode]
    split_ifs with hfits
    · exact iff_of_false nofun fun ⟨_, hwidth, hbeyond⟩ => hbeyond (by cases hwidth; exact hfits)
    · exact iff_of_true rfl ⟨width, rfl, hfits⟩
  | _ => cases h

theorem FieldType.decode_integer_eq_none {type : FieldType} {i : Int64}
    (h : type.storage = .integer) :
    type.decode (.integer i) = none ↔
      ∃ width, type.scalar = .integer width ∧ ¬width.Holds i := by
  obtain ⟨s, _ | _⟩ := type
  · exact Scalar.decode_integer_eq_none h
  · change (s.decode (.integer i)).map some = none ↔ _
    rw [Option.map_eq_none_iff]
    exact Scalar.decode_integer_eq_none h

namespace Table

variable {t : Table} {r : Record} {rowid : Int64}

def Outgrown (t : Table) (r : Record) (rowid : Int64) : Prop :=
  ∃ pk f width, t.assignedKey? r = some pk ∧ t.fields[pk.ordinal]? = some f ∧
    f.type.scalar = .integer width ∧ ¬width.Holds rowid

theorem store_eq_none_iff {pk : Column} (hr : t.Holds r) (hkey : t.assignedKey? r = some pk) :
    r.store pk.ordinal (.integer rowid) = none ↔ t.Outgrown r rowid := by
  obtain ⟨hmem, hstorage⟩ := of_assignedKey? hkey
  obtain ⟨f, hf, hcolumn⟩ := exists_field hmem
  obtain ⟨cell, hcell, htype⟩ := hr.exists_cell hf
  have hfield : f.type.storage = .integer := by
    rw [← hstorage, ← hcolumn]
    rfl
  rw [Record.store_eq hcell, Option.map_eq_none_iff, Cell.store, Option.map_eq_none_iff, htype,
    FieldType.decode_integer_eq_none hfield]
  constructor
  · rintro ⟨width, hwidth⟩
    exact ⟨pk, f, width, hkey, hf, hwidth⟩
  · rintro ⟨pk', f', width, hkey', hf', hwidth⟩
    obtain rfl : pk = pk' := Option.some.inj (hkey.symm.trans hkey')
    obtain rfl : f = f' := Option.some.inj (hf.symm.trans hf')
    exact ⟨width, hwidth⟩

/-- A rowid is refused where it does not fit the key, and nowhere else. -/
theorem assignRowid_eq_error {e : Error} (hr : t.Holds r) :
    t.assignRowid r rowid = .error e ↔ t.Outgrown r rowid ∧ ∃ pk, t.assignedKey? r = some pk ∧
      e = .mismatch pk.name .integer (.integer rowid) := by
  unfold assignRowid
  cases hkey : t.assignedKey? r with
  | none => simp
  | some pk =>
    simp only [assign_integer (of_assignedKey? hkey).2]
    rw [← store_eq_none_iff hr hkey]
    cases r.store pk.ordinal (.integer rowid) <;> simp [@eq_comm _ _ e]

end Table

namespace Connection

/-- What the caller of an insertion finds: the record that is left, and whether it can be inserted
again if the insertion failed. -/
structure Retries (t : Table) (r : Record) (i : StatementId) (talk : List Exchange) (rowid : Int64)
    (result : Except Error Unit) (after : Record) : Prop where
  kept : ∀ e, result = .error e → after = r
  unexecuted : ¬t.Outgrown r rowid → ∀ e, result = .error e → ¬Executed i talk
  refused : t.Outgrown r rowid → Executed i talk → ∃ pk, t.assignedKey? r = some pk ∧
    result = .error (.mismatch pk.name .integer (.integer rowid))

namespace Retries

variable {t : Table} {r after : Record} {i : StatementId} {talk : List Exchange} {rowid : Int64}
  {e : Error}

theorem of_unexecuted (h : ¬Executed i talk) : Retries t r i talk rowid (.error e) r where
  kept _ _ := rfl
  unexecuted _ _ _ := h
  refused _ hexecuted := absurd hexecuted h

theorem of_assigned (hr : t.Holds r) (h : t.assignRowid r rowid = .ok after) :
    Retries t r i talk rowid (.ok ()) after where
  kept := nofun
  unexecuted _ := nofun
  refused houtgrown _ := by
    obtain ⟨pk, _, _, hkey, _⟩ := id houtgrown
    have herror := (Table.assignRowid_eq_error hr).2 ⟨houtgrown, pk, hkey, rfl⟩
    exact nomatch h.symm.trans herror

theorem of_refused (hr : t.Holds r) (h : t.assignRowid r rowid = .error e) :
    Retries t r i talk rowid (.error e) r := by
  obtain ⟨houtgrown, pk, hkey, rfl⟩ := (Table.assignRowid_eq_error hr).1 h
  exact ⟨fun _ _ => rfl, fun hfits => absurd houtgrown hfits, fun _ _ => ⟨pk, hkey, rfl⟩⟩

end Retries

variable {c : Connection σ} {recordType : String} {t : Table} {r : Record}

theorem insertInPlace_apply (ht : c.table recordType = .ok t) (w : World σ) :
    c.insertInPlace recordType r w =
      match (insertion t r).execOnce c w with
      | (.error e, w) => ((.error e, r), w)
      | (.ok _, w) =>
        match t.assignRowid r (c.engine.lastInsertRowid w.engine) with
        | .ok after => ((.ok (), after), w)
        | .error e => ((.error e, r), w) := by
  have hinsert : c.insert recordType r = .ok (insertion t r) := insertMany_eq_ok ht [r]
  unfold insertInPlace
  simp only [ht, hinsert]
  rcases (insertion t r).execOnce c w with ⟨e | n, w'⟩
  · rfl
  · unfold Table.assignRowid
    cases t.assignedKey? r with
    | none => rfl
    | some pk =>
      simp only [Table.fillColumns]
      cases pk.assign r (.integer (c.engine.lastInsertRowid w'.engine)) <;> rfl

/-- Both insertions do the same; one returns the record that the other leaves. -/
theorem insertRecord_eq_inPlace (c : Connection σ) (recordType : String) (r : Record)
    (w : World σ) :
    c.insertRecord recordType r w =
      let ((result, after), w') := c.insertInPlace recordType r w
      (result.map fun _ => after, w') := by
  cases ht : c.table recordType with
  | error e =>
    have hinsert : c.insert recordType r = .error e := by
      rw [insert, insertMany, ht]
      rfl
    rw [insertRecord, Run.ofExcept_bind_apply, insertInPlace, ht]
    rfl
  | ok t =>
    rw [insertRecord_apply ht, insertInPlace_apply ht]
    rcases (insertion t r).execOnce c w with ⟨e | n, w'⟩
    · rfl
    · cases ha : t.assignRowid r (c.engine.lastInsertRowid w'.engine) <;> simp only [ha] <;> rfl

theorem insertInPlace_world (ht : c.table recordType = .ok t) (w : World σ) :
    (c.insertInPlace recordType r w).2 = ((insertion t r).execOnce c w).2 := by
  rw [insertInPlace_apply ht]
  rcases (insertion t r).execOnce c w with ⟨e | n, w'⟩
  · rfl
  · dsimp only
    split <;> rfl

theorem insertInPlace_retries (ht : c.table recordType = .ok t) (hr : t.Holds r) (w : World σ) :
    ∃ sql answer talk result after w',
      Insert.build { table := t, rows := [Insert.row t r] } = .ok sql ∧
      RunsOnce w.fresh sql answer talk ∧ w.Talks c.engine talk w' ∧
      c.insertInPlace recordType r w = ((result, after), w') ∧
      c.insertRecord recordType r w = (result.map fun _ => after, w') ∧
      Retries t r w.fresh talk (c.engine.lastInsertRowid w'.engine) result after := by
  obtain ⟨sql, hsql⟩ := Insert.exists_build_row hr
  have hunused : (insertion t r).Unused := Builder.unused_new _
  obtain ⟨answer, talk, hruns, hexec⟩ := hunused.converses_execOnce c hsql w
  have htalks := hexec.talks
  rw [← insertInPlace_world ht] at htalks
  have hplace := insertInPlace_apply (r := r) ht w
  have hsame := c.insertRecord_eq_inPlace recordType r w
  rcases hin : c.insertInPlace recordType r w with ⟨⟨result, after⟩, w'⟩
  rw [hin] at hplace hsame htalks
  refine ⟨sql, answer, talk, result, after, w', hsql, hruns, htalks, rfl, hsame, ?_⟩
  rcases hrun : (insertion t r).execOnce c w with ⟨e | n, w₁⟩ <;>
    obtain rfl := hexec.result_eq <;> simp only [hrun] at hplace hruns
  · have hnone : ¬Executed w.fresh talk := by simp [hruns.executed_iff]
    cases hplace
    exact .of_unexecuted hnone
  · cases hassign : t.assignRowid r (c.engine.lastInsertRowid w₁.engine) with
    | ok after' =>
      simp only [hassign] at hplace
      cases hplace
      exact .of_assigned hr hassign
    | error e =>
      simp only [hassign] at hplace
      cases hplace
      exact .of_refused hr hassign

end Connection

namespace Connection.Counters

def table : Table where
  name := "counters"
  recordType := "Counter"
  fields :=
    [{ name := "id", type := { scalar := .integer .i8 },
        constraints := [.primaryKey .abort true] },
      { name := "label", type := { scalar := .text } }]
  wellFormed := rfl

def connection : Connection Script.State where
  engine := Script.engine
  schema := ⟨[table], rfl⟩
  config := {}

def unsaved : Record :=
  [⟨{ scalar := .integer .i8 }, Scalar.initial (.integer .i8)⟩, ⟨{ scalar := .text }, "draft"⟩]

theorem insertInPlace_unsaved :
    let w : World Script.State := { engine := { rowid := 127 } }
    connection.table "Counter" = .ok table ∧ table.Holds unsaved ∧
      ∃ sql answer talk result after w',
        Insert.build { table, rows := [Insert.row table unsaved] } = .ok sql ∧
        RunsOnce w.fresh sql answer talk ∧ w.Talks Script.engine talk w' ∧
        connection.insertInPlace "Counter" unsaved w = ((result, after), w') ∧
        connection.insertRecord "Counter" unsaved w = (result.map fun _ => after, w') ∧
        Retries table unsaved w.fresh talk (Script.engine.lastInsertRowid w'.engine) result
          after := by
  have ht : connection.table "Counter" = .ok table := rfl
  have hr : table.Holds unsaved := rfl
  intro w
  exact ⟨ht, hr, insertInPlace_retries ht hr w⟩

/-- The counter is inserted under a rowid that its key cannot hold, and the insertion fails. -/
theorem not_unexecuted_outgrown :
    ¬∀ (recordType : String) (t : Table) (r : Record) (w w' : World Script.State)
      (result : Except Error Unit) (after : Record) (talk : List Exchange),
      connection.table recordType = .ok t → t.Holds r →
        connection.insertInPlace recordType r w = ((result, after), w') →
          w.Talks Script.engine talk w' → ∀ e, result = .error e →
            after = r ∧ ¬Executed w.fresh talk := by
  intro h
  let w : World Script.State := { engine := { rowid := 127 } }
  have ht : connection.table "Counter" = .ok table := rfl
  have hr : table.Holds unsaved := rfl
  obtain ⟨sql, hsql⟩ := Insert.exists_build_row hr
  have hunused : (insertion table unsaved).Unused := Builder.unused_new _
  obtain ⟨answer, talk, hruns, hexec⟩ := hunused.converses_execOnce connection hsql w
  have hanswer : ((insertion table unsaved).execOnce connection w).1 = .ok 1 := by decide +kernel
  obtain rfl : .ok 1 = answer := hanswer.symm.trans hexec.result_eq
  have htalks := hexec.talks
  rw [← insertInPlace_world ht] at htalks
  have hfailed : succeeded (connection.insertInPlace "Counter" unsaved w).1.1 = false := by
    decide +kernel
  rcases hin : connection.insertInPlace "Counter" unsaved w with ⟨⟨e | ⟨⟩, after⟩, w'⟩ <;>
    rw [hin] at htalks hfailed
  · obtain ⟨-, hnone⟩ := h "Counter" table unsaved w w' _ after talk ht hr hin htalks e rfl
    exact hnone (hruns.executed_iff.2 ⟨1, rfl⟩)
  · cases hfailed

end Connection.Counters

end RecordSql
