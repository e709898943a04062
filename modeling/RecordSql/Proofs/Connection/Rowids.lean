import RecordSql.Engine.Script
import RecordSql.Proofs.Connection.Exchanges
import RecordSql.Proofs.Statement.Insertion
import RecordSql.Proofs.Table

/-! The rowid that comes back to a record that is inserted. A key that the engine assigns becomes
the rowid of the row; where the engine skips the row it becomes the rowid that an earlier INSERT
left. No other cell changes. -/

namespace RecordSql

variable {σ : Type}

/-- A value that the type reads and stores again as it is. -/
def FieldType.Admits (type : FieldType) (v : Value) : Prop :=
  ∃ x, type.decode v = some x ∧ type.encode x = v

namespace Record

variable {r r' : Record} {i : Nat} {v : Value}

theorem store_eq {cell : Cell} (h : r[i]? = some cell) :
    r.store i v = (cell.store v).map (r.set i) := by
  rw [store, h]
  exact Option.map_eq_bind.symm

theorem getElem?_store_ne (h : r.store i v = some r') {k : Nat} (hk : k ≠ i) : r'[k]? = r[k]? := by
  obtain ⟨cell, _, h⟩ := Option.bind_eq_some_iff.1 h
  obtain ⟨cell', _, h⟩ := Option.bind_eq_some_iff.1 h
  cases h
  exact List.getElem?_set_ne hk.symm

theorem exists_store {cell : Cell} (h : r[i]? = some cell) (hv : cell.type.Admits v) :
    ∃ r', r.store i v = some r' ∧ r'.value i = v := by
  obtain ⟨x, hx, hvalue⟩ := hv
  obtain ⟨hi, -⟩ := List.getElem?_eq_some_iff.1 h
  refine ⟨r.set i ⟨cell.type, x⟩, ?_, ?_⟩
  · rw [store_eq h, Cell.store, hx]
    rfl
  · simpa [value, hi, Cell.value] using hvalue

theorem store_eq_none {cell : Cell} (h : r[i]? = some cell) (hv : cell.type.decode v = none) :
    r.store i v = none := by
  rw [store_eq h, Cell.store, hv]
  rfl

end Record

namespace Table

variable {t : Table} {r r' : Record} {pk : Column} {rowid : Int64}

def assignRowid (t : Table) (r : Record) (rowid : Int64) : Except Error Record :=
  match t.assignedKey? r with
  | some pk => pk.assign r (.integer rowid)
  | none => .ok r

structure WritesBack (t : Table) (r : Record) (rowid : Int64) (result : Except Error Record) :
    Prop where
  unassigned : t.assignedKey? r = none → result = .ok r
  assigned : ∀ pk f, t.assignedKey? r = some pk → t.fields[pk.ordinal]? = some f →
    f.type.Admits (.integer rowid) → ∃ r', result = .ok r' ∧ pk.extract r' = .integer rowid
  refused : ∀ pk f, t.assignedKey? r = some pk → t.fields[pk.ordinal]? = some f →
    f.type.decode (.integer rowid) = none →
      result = .error (.mismatch pk.name .integer (.integer rowid))
  others : ∀ r', result = .ok r' → t.Holds r' ∧
    ∀ c ∈ t.columns, t.assignedKey? r ≠ some c → r'[c.ordinal]? = r[c.ordinal]?

theorem eq_of_ordinal {c c' : Column} (h : c ∈ t.columns) (h' : c' ∈ t.columns)
    (ho : c.ordinal = c'.ordinal) : c = c' := by
  obtain ⟨f, hf, hcolumn⟩ := exists_field h
  obtain ⟨f', hf', hcolumn'⟩ := exists_field h'
  rw [ho] at hf
  obtain rfl : f = f' := Option.some.inj (hf.symm.trans hf')
  exact hcolumn.symm.trans ((congrArg f.column ho).trans hcolumn')

theorem of_assignedKey? (h : t.assignedKey? r = some pk) :
    pk ∈ t.columns ∧ pk.storage = .integer := by
  obtain ⟨hkey, hassigned⟩ := Option.filter_eq_some_iff.1 h
  rw [Bool.and_eq_true, decide_eq_true_iff] at hassigned
  exact ⟨List.mem_of_find?_eq_some hkey, hassigned.2⟩

theorem assign_integer (h : pk.storage = .integer) :
    pk.assign r (.integer rowid) =
      match r.store pk.ordinal (.integer rowid) with
      | some r' => .ok r'
      | none => .error (.mismatch pk.name .integer (.integer rowid)) := by
  rw [Column.assign, h]
  rfl

theorem writesBack_assignRowid (hr : t.Holds r) (rowid : Int64) :
    t.WritesBack r rowid (t.assignRowid r rowid) := by
  cases hkey : t.assignedKey? r with
  | none =>
    have hresult : t.assignRowid r rowid = .ok r := by rw [assignRowid, hkey]
    rw [hresult]
    refine ⟨fun _ => rfl, fun pk f h => ?_, fun pk f h => ?_, ?_⟩
    · exact nomatch hkey.symm.trans h
    · exact nomatch hkey.symm.trans h
    · rintro _ ⟨⟩
      exact ⟨hr, fun _ _ _ => rfl⟩
  | some pk =>
    obtain ⟨hmem, hstorage⟩ := of_assignedKey? hkey
    have hresult : t.assignRowid r rowid = pk.assign r (.integer rowid) := by
      rw [assignRowid, hkey]
    rw [hresult]
    refine ⟨fun h => ?_, fun pk' f h hf hadmits => ?_, fun pk' f h hf hdecode => ?_,
      fun r' h => ?_⟩
    · exact nomatch hkey.symm.trans h
    · obtain rfl : pk = pk' := Option.some.inj (hkey.symm.trans h)
      obtain ⟨cell, hcell, htype⟩ := hr.exists_cell hf
      obtain ⟨r', hstore, hvalue⟩ := Record.exists_store hcell (htype ▸ hadmits)
      exact ⟨r', by rw [assign_integer hstorage, hstore], hvalue⟩
    · obtain rfl : pk = pk' := Option.some.inj (hkey.symm.trans h)
      obtain ⟨cell, hcell, htype⟩ := hr.exists_cell hf
      have hstore := Record.store_eq_none hcell (htype ▸ hdecode)
      rw [assign_integer hstorage, hstore]
    · refine ⟨(Column.types_assign h).trans hr, fun c hc hne => ?_⟩
      rw [assign_integer hstorage] at h
      split at h
      · next hstore =>
        cases h
        refine Record.getElem?_store_ne hstore fun ho => hne ?_
        rw [hkey, eq_of_ordinal hc hmem ho]
      · cases h

theorem assignRowid_eq_self :
    t.assignRowid r rowid = .ok r ↔
      ∀ pk, t.assignedKey? r = some pk → pk.assign r (.integer rowid) = .ok r := by
  unfold assignRowid
  cases t.assignedKey? r with
  | none => simp
  | some pk => simp

end Table

theorem RunsOnce.talk_eq {i : StatementId} {sql : Sql} {n : Nat} {talk : List Exchange}
    (h : RunsOnce i sql (.ok n) talk) :
    talk = (.prepare i sql.text, .accepted) :: bindings i 1 sql.params ++
      [(.execute i, .changed n), (.finalize i, .accepted)] := by
  cases h
  rfl

namespace Engine

variable {E : Engine σ}

theorem Says.split {s s'' : σ} {talk talk' : List Exchange} (h : E.Says s (talk ++ talk') s'') :
    ∃ s', E.Says s talk s' ∧ E.Says s' talk' s'' := by
  induction talk generalizing s with
  | nil => exact ⟨s, .nil s, h⟩
  | cons x talk ih =>
    obtain _ | ⟨hr, h⟩ := h
    obtain ⟨s', hs, hs'⟩ := ih h
    exact ⟨s', .cons hr hs, hs'⟩

/-- How an engine numbers the rows that are inserted. `added` is the rowid of the last row that an
execution adds, if it adds one. -/
structure Numbers (E : Engine σ) (added : StatementId → σ → Option Int64) : Prop where
  prepare : ∀ i sql s, E.lastInsertRowid (E.prepare i sql s).2 = E.lastInsertRowid s
  bind : ∀ i slot v s, E.lastInsertRowid (E.bind i slot v s).2 = E.lastInsertRowid s
  finalize : ∀ i s, E.lastInsertRowid (E.finalize i s) = E.lastInsertRowid s
  /-- The last rowid is that of the row that was added last, whichever statement added it. -/
  execute : ∀ i s n s', E.execute i s = (.ok n, s') →
    E.lastInsertRowid s' = (added i s).getD (E.lastInsertRowid s)
  /-- Who changes no row adds none. -/
  unchanged : ∀ i s s', E.execute i s = (.ok 0, s') → added i s = none
  /-- An INSERT that leaves other rows alone changes those that it adds. -/
  inserts : ∀ (q : Insert) sql i s₀ s n s', q.onConflict = none → q.build = .ok sql →
    E.Says s₀ ((.prepare i sql.text, .accepted) :: bindings i 1 sql.params) s →
    E.execute i s = (.ok n, s') → 1 ≤ n → ∃ rowid, added i s = some rowid

structure Numbered (E : Engine σ) (added : StatementId → σ → Option Int64) (i : StatementId)
    (sql : Sql) (s : σ) (n : Nat) (last : σ) : Prop where
  inserted : 1 ≤ n → ∃ s₁ s₂,
    E.Says s ((.prepare i sql.text, .accepted) :: bindings i 1 sql.params) s₁ ∧
      E.execute i s₁ = (.ok n, s₂) ∧ added i s₁ = some (E.lastInsertRowid last)
  skipped : n = 0 → E.lastInsertRowid last = E.lastInsertRowid s

variable {added : StatementId → σ → Option Int64}

theorem Numbers.says_bindings (h : E.Numbers added) {i : StatementId} {slot : Nat} {vs : Params}
    {s s' : σ} (hs : E.Says s (bindings i slot vs) s') :
    E.lastInsertRowid s' = E.lastInsertRowid s := by
  induction vs generalizing slot s with
  | nil =>
    cases hs
    rfl
  | cons v vs ih =>
    rw [bindings_cons] at hs
    obtain _ | ⟨hr, hs⟩ := hs
    rw [ih hs, ← h.bind i slot v s]
    exact congrArg (fun r => E.lastInsertRowid r.2) hr.symm

theorem Numbers.says_compiled (h : E.Numbers added) {i : StatementId} {sql : Sql} {s s' : σ}
    (hs : E.Says s ((.prepare i sql.text, .accepted) :: bindings i 1 sql.params) s') :
    E.lastInsertRowid s' = E.lastInsertRowid s := by
  obtain _ | ⟨hr, hs⟩ := hs
  rw [h.says_bindings hs, ← h.prepare i sql.text s]
  exact congrArg (fun r => E.lastInsertRowid r.2) hr.symm

theorem execute_of_respond {i : StatementId} {s s' : σ} {n : Nat}
    (h : E.respond (.execute i) s = (.changed n, s')) : E.execute i s = (.ok n, s') := by
  simp only [respond] at h
  rcases he : E.execute i s with ⟨e | m, s₁⟩ <;> rw [he] at h <;> cases h
  rfl

theorem Numbers.numbered (h : E.Numbers added) {q : Insert} (hq : q.onConflict = none) {sql : Sql}
    (hsql : q.build = .ok sql) {i : StatementId} {n : Nat} {talk : List Exchange}
    (hruns : RunsOnce i sql (.ok n) talk) {s last : σ} (hs : E.Says s talk last) :
    E.Numbered added i sql s n last := by
  rw [hruns.talk_eq] at hs
  obtain ⟨s₁, hcompiled, hrest⟩ := hs.split
  obtain _ | ⟨hexecute, hrest⟩ := hrest
  obtain _ | ⟨hfinalize, hrest⟩ := hrest
  cases hrest
  cases hfinalize
  have hexecute := execute_of_respond hexecute
  have hlast := h.execute _ _ _ _ hexecute
  rw [h.says_compiled hcompiled, ← h.finalize i] at hlast
  constructor
  · intro hn
    obtain ⟨rowid, hadded⟩ := h.inserts q sql _ _ _ _ _ hq hsql hcompiled hexecute hn
    rw [hadded, Option.getD_some] at hlast
    exact ⟨s₁, _, hcompiled, hexecute, hadded.trans (congrArg some hlast.symm)⟩
  · rintro rfl
    rwa [h.unchanged _ _ _ hexecute, Option.getD_none] at hlast

end Engine

theorem Insert.exists_build_row {t : Table} {r : Record} (hr : t.Holds r) :
    ∃ sql, build { table := t, rows := [row t r] } = .ok sql := by
  by_cases hcolumns : t.inserted = []
  · exact ⟨_, by simp [build, source, hcolumns]; rfl⟩
  · have hall : ∀ r' ∈ [r], t.Holds r' := List.forall_mem_singleton.2 hr
    exact ⟨_, build_rows hcolumns (List.cons_ne_nil _ _) hall⟩

namespace Connection

/-- What comes of inserting a record, whatever the engine answers to its INSERT. A row that is
skipped is not told from one that is inserted: if the engine numbers its rows, the rowid that is
written for it is the one from before. -/
inductive InsertsRecord (E : Engine σ) (t : Table) (r : Record) (w : World σ) (sql : Sql)
    (result : Except Error Record) (talk : List Exchange) : Prop
  | failed {e : Error} : RunsOnce w.fresh sql (.error e) talk → result = .error e →
    InsertsRecord E t r w sql result talk
  | executed {n : Nat} {last : σ} : RunsOnce w.fresh sql (.ok n) talk →
    E.Says w.engine talk last → t.WritesBack r (E.lastInsertRowid last) result →
    (result = .ok r ↔ ∀ pk, t.assignedKey? r = some pk →
      pk.assign r (.integer (E.lastInsertRowid last)) = .ok r) →
    (∀ added, E.Numbers added → E.Numbered added w.fresh sql w.engine n last) →
    InsertsRecord E t r w sql result talk

variable {c : Connection σ} {recordType : String} {t : Table} {r : Record} {w : World σ}

def insertion (t : Table) (r : Record) : Builder Insert :=
  { content := { table := t, rows := [Insert.row t r] } }

/-- The call is the execution of the INSERT, and the last rowid is read after it. -/
theorem insertRecord_apply (ht : c.table recordType = .ok t) (w : World σ) :
    c.insertRecord recordType r w =
      match (insertion t r).execOnce c w with
      | (.error e, w) => (.error e, w)
      | (.ok _, w) => (t.assignRowid r (c.engine.lastInsertRowid w.engine), w) := by
  have hinsert : c.insert recordType r = .ok (insertion t r) := insertMany_eq_ok ht [r]
  rw [insertRecord, Run.ofExcept_bind_apply, ht]
  dsimp only
  rw [Run.ofExcept_bind_apply, hinsert]
  dsimp only
  rw [Run.bind_apply]
  rcases (insertion t r).execOnce c w with ⟨e | n, w'⟩
  · rfl
  · dsimp only
    unfold Table.assignRowid
    cases t.assignedKey? r <;> rfl

theorem converses_insertRecord (ht : c.table recordType = .ok t) {answer : Except Error Nat}
    {talk : List Exchange} (h : ((insertion t r).execOnce c).Converses c.engine w answer talk) :
    ∃ s, c.engine.Says w.engine talk s ∧
      (c.insertRecord recordType r).Converses c.engine w
        (answer.bind fun _ => t.assignRowid r (c.engine.lastInsertRowid s)) talk := by
  have happly := insertRecord_apply (r := r) ht w
  obtain ⟨rfl, htalks⟩ := h
  rcases hexec : (insertion t r).execOnce c w with ⟨e | n, w'⟩ <;> rw [hexec] at happly htalks
  · exact ⟨_, htalks.spoken, congrArg Prod.fst happly, happly ▸ htalks⟩
  · exact ⟨_, htalks.spoken, congrArg Prod.fst happly, happly ▸ htalks⟩

theorem insertRecord_writesBack (ht : c.table recordType = .ok t) (hr : t.Holds r) (w : World σ) :
    ∃ sql result talk, Insert.build { table := t, rows := [Insert.row t r] } = .ok sql ∧
      InsertsRecord c.engine t r w sql result talk ∧
        (c.insertRecord recordType r).Converses c.engine w result talk := by
  obtain ⟨sql, hsql⟩ := Insert.exists_build_row hr
  have hbuild : (insertion t r).build = .ok sql := hsql
  obtain ⟨answer, talk, hruns, hexec⟩ := (Builder.unused_new _).converses_execOnce c hbuild w
  obtain ⟨last, hsays, hconverses⟩ := converses_insertRecord ht hexec
  refine ⟨sql, _, talk, hsql, ?_, hconverses⟩
  cases answer with
  | error e => exact .failed hruns rfl
  | ok n =>
    have hwrites := Table.writesBack_assignRowid hr (c.engine.lastInsertRowid last)
    exact .executed hruns hsays hwrites Table.assignRowid_eq_self fun _ hE =>
      hE.numbered rfl hsql hruns hsays

end Connection

namespace Script

open Connection

def added (i : StatementId) (s : State) : Option Int64 :=
  let changed := s.changes.head?.getD 1
  if isInsert (s.text i) ∧ changed ≠ 0 then some (s.rowid + Int64.ofNat changed) else none

theorem engine_execute {i : StatementId} {s s' : State} {n : Nat}
    (h : engine.execute i s = (.ok n, s')) :
    n = s.changes.head?.getD 1 ∧
      s'.rowid = if isInsert (s.text i) then s.rowid + Int64.ofNat n else s.rowid := by
  simp only [engine, answer] at h
  split at h
  · cases h
  · cases h
    exact ⟨rfl, rfl⟩

theorem text_of_prepare {i : StatementId} {sql : String} {s s' : State}
    (h : engine.respond (.prepare i sql) s = (.accepted, s')) : s'.text i = sql := by
  simp only [Engine.respond, engine, answer] at h
  split at h
  · cases h
  · cases h
    exact if_pos rfl

theorem text_bind (i : StatementId) (slot : Nat) (v : Value) (s : State) :
    (engine.respond (.bind i slot v) s).2.text = s.text := by
  simp only [Engine.respond, engine, answer]
  split <;> rfl

theorem text_bindings {i : StatementId} {slot : Nat} {vs : Params} {s s' : State}
    (h : engine.Says s (bindings i slot vs) s') : s'.text = s.text := by
  induction vs generalizing slot s with
  | nil =>
    cases h
    rfl
  | cons v vs ih =>
    rw [bindings_cons] at h
    obtain _ | ⟨hr, h⟩ := h
    rw [ih h, ← text_bind i slot v s, hr]

theorem isInsert_build {q : Insert} {sql : Sql} (h : q.build = .ok sql) : isInsert sql.text := by
  obtain ⟨-, source, conflict, -, -, rfl⟩ := Insert.build_eq_ok h
  simp [isInsert, Sql.ofText, List.isPrefixOf]

theorem numbers_added : engine.Numbers added where
  prepare i sql s := by
    simp only [engine, answer]
    split <;> rfl
  bind i slot v s := by
    simp only [engine, answer]
    split <;> rfl
  finalize _ _ := rfl
  execute i s n s' h := by
    obtain ⟨rfl, hrowid⟩ := engine_execute h
    change s'.rowid = (added i s).getD s.rowid
    rw [hrowid, added]
    by_cases hinsert : isInsert (s.text i)
    · by_cases hn : s.changes.head?.getD 1 = 0
      · simp [hn]
      · simp [hinsert, hn]
    · simp [hinsert]
  unchanged i s s' h := by
    obtain ⟨hn, -⟩ := engine_execute h
    exact if_neg fun hadded => hadded.2 hn.symm
  inserts q sql i s₀ s n s' _ hbuild hsays h hn := by
    obtain ⟨rfl, -⟩ := engine_execute h
    obtain _ | ⟨hprepare, hbindings⟩ := hsays
    have htext : s.text i = sql.text := by
      rw [text_bindings hbindings, text_of_prepare hprepare]
    exact ⟨_, if_pos ⟨htext ▸ isInsert_build hbuild, Nat.ne_of_gt hn⟩⟩

end Script

namespace Connection.Labels

def table : Table where
  name := "labels"
  recordType := "Label"
  fields :=
    [{ name := "id", type := { scalar := .integer .i64 },
        constraints := [.primaryKey .abort true] },
      { name := "name", type := { scalar := .text }, constraints := [.unique .ignore] }]
  wellFormed := rfl

def connection : Connection Script.State where
  engine := Script.engine
  schema := ⟨[table], rfl⟩
  config := {}

def label (id : (Scalar.integer .i64).Carrier) : Record :=
  [⟨{ scalar := .integer .i64 }, id⟩, ⟨{ scalar := .text }, "draft"⟩]

def unsaved : Record := label (Scalar.initial (.integer .i64))

theorem writesBack_unsaved :
    let w : World Script.State := { engine := { rowid := 41 } }
    connection.table "Label" = .ok table ∧ table.Holds unsaved ∧
      Script.engine.Numbers Script.added ∧ ∃ sql result talk,
        Insert.build { table, rows := [Insert.row table unsaved] } = .ok sql ∧
          InsertsRecord Script.engine table unsaved w sql result talk ∧
            (connection.insertRecord "Label" unsaved).Converses Script.engine w result talk := by
  have hr : table.Holds unsaved := rfl
  have ht : connection.table "Label" = .ok table := rfl
  intro w
  exact ⟨ht, hr, Script.numbers_added, insertRecord_writesBack ht hr w⟩

/-- The label is skipped, and its key becomes the rowid of the row that was inserted before. -/
theorem not_kept_skipped :
    ¬∀ (recordType : String) (t : Table) (r : Record) (w : World Script.State) (sql : Sql)
      (result : Except Error Record) (talk : List Exchange),
      connection.table recordType = .ok t → t.Holds r → RunsOnce w.fresh sql (.ok 0) talk →
        (connection.insertRecord recordType r).Converses Script.engine w result talk →
          result = .ok r := by
  intro h
  let w : World Script.State := { engine := { changes := [0], rowid := 41 } }
  have hr : table.Holds unsaved := rfl
  have ht : connection.table "Label" = .ok table := rfl
  obtain ⟨sql, hsql⟩ := Insert.exists_build_row hr
  have hbuild : (insertion table unsaved).build = .ok sql := hsql
  obtain ⟨answer, talk, hruns, hexec⟩ :=
    (Builder.unused_new _).converses_execOnce connection hbuild w
  have hanswer : ((insertion table unsaved).execOnce connection w).1 = .ok 0 := by decide +kernel
  obtain rfl : .ok 0 = answer := hanswer.symm.trans hexec.result_eq
  obtain ⟨_, _, hconverses⟩ := converses_insertRecord ht hexec
  have hkept := h "Label" table unsaved w sql _ talk ht hr hruns hconverses
  have hkey : (connection.insertRecord "Label" unsaved w).1.toOption.map (·.value 0) =
      some (.integer 41) := by decide +kernel
  rw [hconverses.result_eq, hkept] at hkey
  exact absurd hkey (by decide +kernel)

end Connection.Labels

end RecordSql
