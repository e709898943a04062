import RecordSql.Engine.Script
import RecordSql.Proofs.Builder.Iteration
import RecordSql.Proofs.Connection.Fitting
import RecordSql.Proofs.Statement.Addressing
import RecordSql.Proofs.Table.Rows

/-! Calls on single records. They reach the engine with a statement that addresses the primary key,
under the names that tables and columns can have, but for one kind of name: a key with a point in
its name is taken for a column of a source. -/

namespace RecordSql

variable {σ α : Type}

namespace Table

def firstRecord (t : Table) (answer : Except Error (Option Row)) : Except Error (Option Record) :=
  answer.bind fun
    | some row => (t.ofRow row).map some
    | none => .ok none

theorem schema_of_ofRow {t : Table} {row : Row} {fault : SchemaError} :
    t.ofRow row ≠ .error (.schema fault) := by
  intro h
  obtain ⟨_, _, _, _, _, hunread⟩ := ofRow_eq_error.1 h
  cases hunread

theorem schema_of_firstRecord {t : Table} {answer : Except Error (Option Row)}
    {fault : SchemaError} (h : t.firstRecord answer = .error (.schema fault)) :
    answer = .error (.schema fault) := by
  rcases answer with e | _ | row
  · cases h
    rfl
  · cases h
  · change (t.ofRow row).map some = _ at h
    cases hrow : t.ofRow row with
    | ok r =>
      rw [hrow] at h
      cases h
    | error e =>
      rw [hrow] at h
      cases h
      exact absurd hrow schema_of_ofRow

end Table

/-- How a query of its own is read up to its first row: it is finalized whatever comes of it. -/
inductive ReadsOnce (t : Table) (s : StatementId) (sql : Sql) :
    Except Error (Option Record) → List Exchange → Prop
  | uncompiled {e : Error} {talk : List Exchange} :
    Compiles s sql (.error e) talk → ReadsOnce t s sql (.error e) talk
  | refused (e : Error) :
    ReadsOnce t s sql (.error e) ((.prepare s sql.text, .accepted) :: bindings s 1 sql.params ++
      [(.query s, .refused e), (.finalize s, .accepted)])
  | stepped (answer : Except Error (Option Row)) :
    ReadsOnce t s sql (t.firstRecord answer)
      ((.prepare s sql.text, .accepted) :: bindings s 1 sql.params ++
        [(.query s, .accepted), (.step s, .ofExcept .row answer), (.finalize s, .accepted)])

section ReadsOnce

variable {t : Table} {s : StatementId} {sql : Sql} {result : Except Error (Option Record)}
  {talk : List Exchange}

theorem ReadsOnce.refuses (h : ReadsOnce t s sql result talk) {fault : SchemaError}
    (hresult : result = .error (.schema fault)) : ∃ c, (c, .refused (.schema fault)) ∈ talk := by
  cases h with
  | uncompiled h =>
    cases hresult
    exact h.refuses
  | refused =>
    cases hresult
    exact ⟨_, List.mem_append_right _ List.mem_cons_self⟩
  | stepped answer =>
    obtain rfl := Table.schema_of_firstRecord hresult
    exact ⟨_, List.mem_append_right _ (List.mem_cons_of_mem _ List.mem_cons_self)⟩

theorem Compiles.head? {compiled : Except Error StatementId} (h : Compiles s sql compiled talk) :
    (talk.map Prod.fst).head? = some (.prepare s sql.text) := by
  cases h <;> rfl

theorem ReadsOnce.head? (h : ReadsOnce t s sql result talk) :
    (talk.map Prod.fst).head? = some (.prepare s sql.text) := by
  cases h with
  | uncompiled h => exact h.head?
  | refused => rfl
  | stepped => rfl

end ReadsOnce

theorem World.Asks.unique {w w' : World σ} {asked asked' : List (Call × Bool)}
    (h : w.Asks asked w') (h' : w.Asks asked' w') : asked = asked' := by
  obtain ⟨gained, hgained, rfl⟩ := h
  obtain ⟨gained', hgained', rfl⟩ := h'
  rw [List.append_cancel_left (hgained.symm.trans hgained')]

namespace Builder

variable {b : Builder Select} {sql : Sql} (c : Connection σ)

theorem Unused.fetchFirst_apply (h : b.Unused) (hb : b.build = .ok sql) (w : World σ) :
    b.fetchFirst c w =
      match c.compile .select sql w with
      | (.error e, w) => (.error e, w)
      | (.ok s, w) =>
        match Run.call (.query s) (c.engine.query s) w with
        | (.error e, w) => (.error e, (c.engine.finalizeStatement s w).2)
        | (.ok (), w) =>
          let after := Run.call (.step s) (c.engine.step s) w
          (b.content.table.firstRecord after.1, (c.engine.finalizeStatement s after.2).2) := by
  have herror := (build_eq_ok.1 hb).1
  have hready (s : StatementId) : Slot.ready ⟨some s, .prepared, b.slot.error⟩ = .ok s :=
    Slot.ready_eq_ok.2 ⟨herror, rfl⟩
  rw [fetchFirst, reading_apply, start_apply, h.ensurePrepared_apply, hb]
  rcases hcompile : c.compile (Statement.kind Select) sql w with ⟨e | s, w₁⟩ <;>
    simp only [hcompile]
  · rfl
  · simp only [hready]
    rcases Run.call (.query s) (c.engine.query s) w₁ with ⟨e | ⟨⟩, w₂⟩
    · rfl
    · simp only [Act.bind_apply, Cursor.next_apply]
      rcases Run.call (.step s) (c.engine.step s) w₂ with ⟨e | _ | row, w₃⟩
      · rfl
      · rfl
      · rfl

theorem Unused.converses_fetchFirst (h : b.Unused) (hb : b.build = .ok sql) (w : World σ) :
    ∃ result talk, ReadsOnce b.content.table w.fresh sql result talk ∧
      (b.fetchFirst c).Converses c.engine w result talk := by
  have happly := h.fetchFirst_apply c hb w
  obtain ⟨compiled, talk, hcompiles, hresult, htalk⟩ := c.converses_compile .select sql w
  rcases hcompile : c.compile .select sql w with ⟨e | s, w₁⟩ <;>
    rw [hcompile] at hresult htalk happly <;> subst hresult
  · exact ⟨_, _, .uncompiled hcompiles, congrArg Prod.fst happly, happly ▸ htalk⟩
  cases hcompiles
  rcases hanswer : c.engine.query w.fresh w₁.engine with ⟨queried, state⟩
  obtain ⟨w₂, hquery, -, htalk₂⟩ := Engine.exists_call (c := .query w.fresh)
    (f := fun _ => .accepted) (fun _ => rfl) (fun _ => rfl) hanswer
  dsimp only at happly
  rw [hquery] at happly
  have hopened := htalk.trans htalk₂
  cases queried with
  | error e =>
    refine ⟨_, _, .refused e, congrArg Prod.fst happly, ?_⟩
    rw [happly]
    have hall := hopened.trans (.finalize w.fresh w₂)
    rwa [List.append_assoc] at hall
  | ok =>
    rcases hanswer : c.engine.step w.fresh w₂.engine with ⟨answer, state⟩
    obtain ⟨w₃, hstep, -, htalk₃⟩ := c.engine.exists_step hanswer
    dsimp only at happly
    rw [hstep] at happly
    refine ⟨_, _, .stepped answer, congrArg Prod.fst happly, ?_⟩
    rw [happly]
    have hall := hopened.trans (htalk₃.trans (.finalize w.fresh w₃))
    rwa [List.append_assoc] at hall

theorem Unused.fetchFirst_of_error (h : b.Unused) {e : Error} (hb : b.build = .error e)
    (w : World σ) : b.fetchFirst c w = (.error e, w) := by
  rw [fetchFirst, reading_apply, start_apply, h.ensurePrepared_apply, hb]
  dsimp only
  rw [drop, h.statement]
  rfl

end Builder

namespace Connection

def Runs (c : Connection σ) (w : World σ) (call : Run σ α)
    (how : Except Error α → List Exchange → Prop) : Prop :=
  ∃ result talk, how result talk ∧ call.Converses c.engine w result talk ∧
    ∀ fault, result = .error (.schema fault) → ∃ asked, (asked, .refused (.schema fault)) ∈ talk

structure AddressesKey (c : Connection σ) (recordType : String) (t : Table) (pk : Column)
    (w : World σ) : Prop where
  find : ∀ key, pk.Takes key →
    c.Runs w (c.findRecord recordType key) (ReadsOnce t w.fresh (t.lookup pk key))
  delete : ∀ key, pk.Takes key →
    c.Runs w (c.deleteRecord recordType key) (RunsOnce w.fresh (t.removal pk key))
  first : c.Runs w (c.first recordType) (ReadsOnce t w.fresh (t.extreme pk .asc))
  last : c.Runs w (c.last recordType) (ReadsOnce t w.fresh (t.extreme pk .desc))
  update : ∀ r, t.Holds r → t.others pk ≠ [] →
    c.Runs w (c.updateRecord recordType r) (RunsOnce w.fresh (t.revision pk r))

variable {c : Connection σ} {recordType : String} {t : Table} {pk : Column}

theorem runs_fetchFirst {q : Select} {sql : Sql} (hq : q.build = .ok sql) (w : World σ) :
    c.Runs w (Builder.fetchFirst c { content := q }) (ReadsOnce q.table w.fresh sql) := by
  have hb : Builder.build { content := q } = .ok sql := hq
  obtain ⟨result, talk, hreads, hconverses⟩ := (Builder.unused_new q).converses_fetchFirst c hb w
  exact ⟨result, talk, hreads, hconverses, fun _ => hreads.refuses⟩

theorem runs_execOnce {κ : Type} [Statement κ] {q : κ} {sql : Sql}
    (hq : Statement.build q = .ok sql) (w : World σ) :
    c.Runs w (Builder.execOnce c { content := q }) (RunsOnce w.fresh sql) := by
  have hb : Builder.build { content := q } = .ok sql := hq
  obtain ⟨result, talk, hruns, hconverses⟩ := (Builder.unused_new q).converses_execOnce c hb w
  refine ⟨result, talk, hruns, hconverses, fun _ hresult => ?_⟩
  subst hresult
  exact hruns.refuses

section Key

variable (ht : c.table recordType = .ok t) (hpk : t.primaryKey? = some pk)

include ht hpk

theorem findRecord_eq (key : Value) :
    c.findRecord recordType key =
      Builder.fetchFirst c { content := .whole t (.keyed (.ofText pk.name) key) } :=
  funext fun w => keyed_apply ht hpk _ w

theorem deleteRecord_eq (key : Value) :
    c.deleteRecord recordType key = Builder.execOnce c
      { content := Delete.mk t (some (.compare (.ofText pk.name) .eq key)) } :=
  funext fun w => keyed_apply ht hpk _ w

theorem extreme_eq (direction : Direction) :
    c.extreme recordType direction =
      Builder.fetchFirst c { content := .whole t (.foremost (.ofText pk.name) direction) } :=
  funext fun w => keyed_apply ht hpk _ w

theorem addressesKey (hpoint : '.' ∉ pk.name.toList) (w : World σ) :
    c.AddressesKey recordType t pk w := by
  have hmem := List.mem_of_find?_eq_some hpk
  have hplain := ColumnRef.ofText_eq_plain hpoint
  constructor
  · intro key hkey
    rw [findRecord_eq ht hpk, hplain]
    exact runs_fetchFirst (Select.build_lookup hmem hkey) w
  · intro key hkey
    rw [deleteRecord_eq ht hpk, hplain]
    exact runs_execOnce (Delete.build_removal hmem hkey) w
  · rw [first, extreme_eq ht hpk, hplain]
    exact runs_fetchFirst (Select.build_extreme hmem .asc) w
  · rw [last, extreme_eq ht hpk, hplain]
    exact runs_fetchFirst (Select.build_extreme hmem .desc) w
  · intro r hr hothers
    rw [updateRecord_eq ht hpk, revision, hplain]
    exact runs_execOnce (Update.build_revision hr hpk hothers) w

/-- Where the key has a point in its name, the call for the first record does not order by it. -/
theorem not_runs_first (hpoint : '.' ∈ pk.name.toList) (w : World σ) :
    ¬c.Runs w (c.first recordType) (ReadsOnce t w.fresh (t.extreme pk .asc)) := by
  rintro ⟨result, talk, hreads, hconverses, -⟩
  rw [first, extreme_eq ht hpk] at hconverses
  let b : Builder Select := { content := .whole t (.foremost (.ofText pk.name) .asc) }
  have hunused : b.Unused := Builder.unused_new _
  have hasked := hconverses.talks.asked
  have hhead := hreads.head?
  cases hb : b.build with
  | error e =>
    rw [hunused.fetchFirst_of_error c hb] at hasked
    have hnone := hasked.unique (.refl w)
    rw [List.map_eq_nil_iff.1 hnone] at hhead
    cases hhead
  | ok sql =>
    obtain ⟨result', talk', hreads', hconverses'⟩ := hunused.converses_fetchFirst c hb w
    have hsame := hasked.unique hconverses'.talks.asked
    have hcalls : talk.map Prod.fst = talk'.map Prod.fst := by
      have hnoted (talk : List Exchange) :
          (talk.map Exchange.noted).map Prod.fst = talk.map Prod.fst := by
        rw [List.map_map]
        rfl
      rw [← hnoted talk, hsame, hnoted]
    have htexts := hhead.symm.trans ((congrArg List.head? hcalls).trans hreads'.head?)
    obtain ⟨-, htext⟩ := Call.prepare.inj (Option.some.inj htexts)
    exact Select.text_build_ne_extreme hpoint hb htext.symm

theorem addressesKey_iff (w : World σ) :
    c.AddressesKey recordType t pk w ↔ '.' ∉ pk.name.toList :=
  ⟨fun h hpoint => not_runs_first ht hpk hpoint w h.first, fun h => addressesKey ht hpk h w⟩

end Key

end Connection

namespace Connection.Memos

def memos : Table where
  name := "memos"
  recordType := "Memo"
  fields :=
    [{ name := "title", type := { scalar := .text } },
      { name := "id", type := { scalar := .integer .i64 },
        constraints := [.primaryKey .abort false] },
      { name := "due", type := { scalar := .date, optional := true } }]
  wellFormed := rfl

def notes : Table where
  name := "notes"
  recordType := "Note"
  fields :=
    [{ name := "notes.id", type := { scalar := .integer .i64 },
        constraints := [.primaryKey .abort false] },
      { name := "id", type := { scalar := .integer .i64 } }]
  wellFormed := rfl

def connection : Connection Script.State where
  engine := Script.engine
  schema := ⟨[memos, notes], rfl⟩
  config := {}

def id : Column :=
  { name := "id", storage := .integer, optional := false, ordinal := 1,
    constraints := [.primaryKey .abort false] }

def notesId : Column := { id with name := "notes.id", ordinal := 0 }

theorem addressesKey_memos :
    connection.table "Memo" = .ok memos ∧ memos.primaryKey? = some id ∧
      connection.AddressesKey "Memo" memos id { engine := {} } := by
  have ht : connection.table "Memo" = .ok memos := rfl
  have hpk : memos.primaryKey? = some id := rfl
  exact ⟨ht, hpk, (addressesKey_iff ht hpk _).2 (by decide)⟩

theorem not_addressesKey_notes :
    ¬∀ (recordType : String) (t : Table) (pk : Column) (w : World Script.State),
      connection.table recordType = .ok t → t.primaryKey? = some pk →
        connection.AddressesKey recordType t pk w := by
  intro h
  have ht : connection.table "Note" = .ok notes := rfl
  have hpk : notes.primaryKey? = some notesId := rfl
  have hpoint : '.' ∈ notesId.name.toList := by decide
  exact not_runs_first ht hpk hpoint _ (h "Note" notes notesId { engine := {} } ht hpk).first

end Connection.Memos

end RecordSql
