import Mathlib.Algebra.Order.Floor.Div
import RecordSql.Engine.Script
import RecordSql.Proofs.Connection.Exchanges
import RecordSql.Proofs.Statement.Insertion

/-! Records inserted in batches: one INSERT for each batch, inside one transaction level. The
batches are the list of records cut into pieces, so whatever the engine answers, what was inserted
is a prefix of the records, and all of them if nothing is refused. -/

namespace RecordSql

section Pieces

variable {α : Type} {size : Nat} {xs : List α}

theorem length_pieces (size : Nat) (xs : List α) :
    (pieces size xs).length = xs.length ⌈/⌉ size := by
  rw [pieces, List.length_map, List.length_range, Nat.ceilDiv_eq_add_pred_div]

theorem getElem_pieces {k : Nat} (h : k < (pieces size xs).length) :
    (pieces size xs)[k] = (xs.drop (k * size)).take size := by
  simp [pieces]

theorem flatten_take_pieces {k : Nat} (h : k ≤ (pieces size xs).length) :
    ((pieces size xs).take k).flatten = xs.take (k * size) := by
  induction k with
  | zero => simp
  | succ k ih =>
    rw [List.take_succ_eq_append_getElem h, List.flatten_append, ih (Nat.le_of_lt h),
      getElem_pieces, List.flatten_singleton, Nat.succ_mul, List.take_add]

theorem flatten_pieces (hsize : 1 ≤ size) (xs : List α) : (pieces size xs).flatten = xs := by
  have h := flatten_take_pieces (Nat.le_refl (pieces size xs).length)
  have hall : xs.length ≤ (pieces size xs).length * size := by
    rw [length_pieces, Nat.mul_comm]
    exact (ceilDiv_le_iff_le_mul hsize).1 (Nat.le_refl _)
  rwa [List.take_length, List.take_of_length_le hall] at h

theorem length_getElem_pieces {k : Nat} (h : k < (pieces size xs).length) :
    (pieces size xs)[k].length = min size (xs.length - k * size) := by
  rw [getElem_pieces, List.length_take, List.length_drop]

/-- Every piece has the given size, except that the last one has what remains. -/
theorem size_getElem_pieces (hsize : 1 ≤ size) {k : Nat} (h : k < (pieces size xs).length) :
    (k + 1 < (pieces size xs).length → (pieces size xs)[k].length = size) ∧
      (k + 1 = (pieces size xs).length →
        k * size + (pieces size xs)[k].length = xs.length) ∧
      1 ≤ (pieces size xs)[k].length ∧ (pieces size xs)[k].length ≤ size := by
  have hstart : k * size < xs.length := by
    have hk : ¬(pieces size xs).length ≤ k := Nat.not_le_of_lt h
    rw [length_pieces, ceilDiv_le_iff_le_mul hsize, Nat.mul_comm] at hk
    exact Nat.lt_of_not_le hk
  rw [length_getElem_pieces]
  refine ⟨fun hnext => ?_, fun hlast => ?_, by omega, by omega⟩
  · have hk : ¬(pieces size xs).length ≤ k + 1 := Nat.not_le_of_lt hnext
    rw [length_pieces, ceilDiv_le_iff_le_mul hsize, Nat.mul_comm, Nat.succ_mul] at hk
    omega
  · have hk : (pieces size xs).length ≤ k + 1 := Nat.le_of_eq hlast.symm
    rw [length_pieces, ceilDiv_le_iff_le_mul hsize, Nat.mul_comm, Nat.succ_mul] at hk
    omega

end Pieces

def Exchange.bound? : Exchange → Option Value
  | (.bind _ _ v, .accepted) => some v
  | _ => none

@[simp] theorem filterMap_bound?_bindings (s : StatementId) (slot : Nat) (vs : Params) :
    (bindings s slot vs).filterMap Exchange.bound? = vs := by
  induction vs generalizing slot with
  | nil => rfl
  | cons v rest ih =>
    rw [bindings_cons, List.filterMap_cons, ih]
    rfl

@[simp] theorem any_execute_bindings (s : StatementId) (slot : Nat) (vs : Params) :
    (bindings s slot vs).any (fun x => x.1 = .execute s) = false := by
  induction vs generalizing slot with
  | nil => rfl
  | cons v rest ih => simp [bindings_cons, ih]

namespace RunsOnce

variable {s : StatementId} {sql : Sql} {result : Except Error Nat} {talk : List Exchange}

theorem bound_prefix (h : RunsOnce s sql result talk) :
    talk.filterMap Exchange.bound? <+: sql.params := by
  cases h with
  | executed => simp [List.filterMap_cons, Exchange.bound?]
  | uncompiled h =>
    cases h with
    | refused => simp [List.filterMap_cons, Exchange.bound?]
    | unbound e hfront =>
      have hbound := (List.prefix_append _ _).trans hfront
      simpa [List.filterMap_cons, Exchange.bound?] using hbound

theorem bound_eq (h : RunsOnce s sql result talk) (he : talk.any fun x => x.1 = .execute s) :
    talk.filterMap Exchange.bound? = sql.params := by
  cases h with
  | executed => simp [List.filterMap_cons, Exchange.bound?]
  | uncompiled h => cases h <;> simp at he

theorem executes_of_ok {n : Nat} (h : RunsOnce s sql (.ok n) talk) :
    talk.any fun x => x.1 = .execute s := by
  cases h
  simp

end RunsOnce

structure Issue where
  records : List Record
  statement : StatementId
  result : Except Error Nat
  talk : List Exchange

namespace Issue

def bound (i : Issue) : Params := i.talk.filterMap Exchange.bound?

def executes (i : Issue) : Bool := i.talk.any fun x => x.1 = .execute i.statement

def Runs (t : Table) (i : Issue) : Prop :=
  RunsOnce i.statement (t.insertion i.records) i.result i.talk

theorem Runs.executes_of_ok {t : Table} {i : Issue} (h : i.Runs t) {n : Nat}
    (hn : i.result = .ok n) : i.executes := by
  rw [Runs, hn] at h
  exact RunsOnce.executes_of_ok h

end Issue

inductive Inserts (t : Table) : List (List Record) → List Issue → Except Error Nat → Prop
  | done : Inserts t [] [] (.ok 0)
  | failed {i : Issue} {e : Error} (rest : List (List Record)) :
    i.Runs t → i.result = .error e → Inserts t (i.records :: rest) [i] (.error e)
  | next {i : Issue} {n : Nat} {rest : List (List Record)} {issues : List Issue}
      {result : Except Error Nat} :
    i.Runs t → i.result = .ok n → Inserts t rest issues result →
    Inserts t (i.records :: rest) (i :: issues) (result.map (n + ·))

namespace Inserts

variable {t : Table} {batches : List (List Record)} {issues : List Issue}
  {result : Except Error Nat}

theorem runs (h : Inserts t batches issues result) : ∀ i ∈ issues, i.Runs t := by
  induction h with
  | done => simp
  | failed _ hi => simpa using hi
  | next hi _ _ ih => exact List.forall_mem_cons.2 ⟨hi, ih⟩

theorem map_records (h : Inserts t batches issues result) :
    issues.map Issue.records <+: batches := by
  induction h with
  | done => exact List.nil_prefix
  | failed => simp
  | next _ _ _ ih => simpa using ih

theorem bound (h : Inserts t batches issues result) :
    issues.flatMap Issue.bound <+: batches.flatten.flatMap (Insert.row t) := by
  induction h with
  | done => exact List.nil_prefix
  | failed rest hi =>
    rw [List.flatMap_singleton, List.flatten_cons, List.flatMap_append]
    exact (RunsOnce.bound_prefix hi).trans (List.prefix_append _ _)
  | next hi hn _ ih =>
    have hbound : _ = (t.insertion _).params := RunsOnce.bound_eq hi (hi.executes_of_ok hn)
    rw [List.flatMap_cons, Issue.bound, hbound, List.flatten_cons, List.flatMap_append]
    exact (List.prefix_append_right_inj _).2 ih

theorem stopped (h : Inserts t batches issues result) {k : Nat} (hk : k < issues.length)
    {e : Error} (he : issues[k].result = .error e) :
    k + 1 = issues.length ∧ result = .error e := by
  induction h generalizing k with
  | done => exact absurd hk (Nat.not_lt_zero k)
  | failed _ _ hi =>
    obtain rfl : k = 0 := by simpa using hk
    exact ⟨rfl, hi.symm.trans he⟩
  | next _ hn _ ih =>
    cases k with
    | zero => exact nomatch hn.symm.trans he
    | succ k =>
      obtain ⟨hlength, rfl⟩ := ih (by simpa using hk) he
      exact ⟨by simpa using hlength, rfl⟩

theorem complete (h : Inserts t batches issues result) {counts : List Nat}
    (hcounts : issues.map Issue.result = counts.map .ok) :
    issues.map Issue.records = batches ∧ result = .ok counts.sum := by
  induction h generalizing counts with
  | done =>
    obtain rfl : counts = [] := by simpa using hcounts.symm
    exact ⟨rfl, rfl⟩
  | failed _ _ hi =>
    cases counts with
    | nil => simp at hcounts
    | cons => simp [hi] at hcounts
  | next _ hn _ ih =>
    cases counts with
    | nil => simp at hcounts
    | cons m counts =>
      rw [List.map_cons, List.map_cons, List.cons.injEq, hn] at hcounts
      obtain ⟨hm, hrest⟩ := hcounts
      obtain ⟨hrecords, rfl⟩ := ih hrest
      cases hm
      exact ⟨by rw [List.map_cons, hrecords], rfl⟩

/-- An engine does not report more rows than it was given, and then neither does the sum. -/
theorem sum_le (h : Inserts t batches issues result)
    (hrows : ∀ i ∈ issues, ∀ n, i.result = .ok n → n ≤ i.records.length) :
    ∀ n, result = .ok n → n ≤ batches.flatten.length := by
  induction h with
  | done =>
    rintro _ ⟨⟩
    exact Nat.zero_le _
  | failed => exact nofun
  | @next i n rest issues result hi hn _ ih =>
    obtain ⟨hfirst, hrest⟩ := List.forall_mem_cons.1 hrows
    intro total htotal
    cases result with
    | error e => cases htotal
    | ok m =>
      cases htotal
      rw [List.flatten_cons, List.length_append]
      exact Nat.add_le_add (hfirst n hn) (ih hrest m rfl)

theorem executed (h : Inserts t batches issues result) :
    ∃ k, issues.filter Issue.executes = issues.take k := by
  induction h with
  | done => exact ⟨0, rfl⟩
  | @failed i _ _ _ =>
    cases hi : i.executes with
    | true => exact ⟨1, by simp [hi]⟩
    | false => exact ⟨0, by simp [hi]⟩
  | next hi hn _ ih =>
    obtain ⟨k, hk⟩ := ih
    exact ⟨k + 1, by rw [List.filter_cons_of_pos (hi.executes_of_ok hn), hk, List.take_succ_cons]⟩

end Inserts

structure Issued (t : Table) (records : List Record) (size : Nat) (issues : List Issue)
    (result : Except Error Nat) : Prop where
  runs : ∀ i ∈ issues, i.Runs t
  bounded : issues.length ≤ records.length ⌈/⌉ size
  full : ∀ k (h : k < issues.length), k + 1 < records.length ⌈/⌉ size →
    issues[k].records.length = size
  /-- The INSERT of the last batch has what the others leave. -/
  last : ∀ k (h : k < issues.length), k + 1 = records.length ⌈/⌉ size →
    k * size + issues[k].records.length = records.length ∧
      1 ≤ issues[k].records.length ∧ issues[k].records.length ≤ size
  inOrder : issues.flatMap Issue.records <+: records
  bound : issues.flatMap Issue.bound <+: records.flatMap (Insert.row t)
  /-- What was executed has the values of whole records, and of a prefix of them. -/
  executed : ∃ m, (issues.filter Issue.executes).flatMap Issue.bound =
    (records.take m).flatMap (Insert.row t)
  stopped : ∀ k (h : k < issues.length) e, issues[k].result = .error e →
    k + 1 = issues.length ∧ result = .error e
  complete : ∀ counts : List Nat, issues.map Issue.result = counts.map .ok →
    issues.length = records.length ⌈/⌉ size ∧
      issues.flatMap Issue.bound = records.flatMap (Insert.row t) ∧ result = .ok counts.sum
  /-- The sum is no greater than a number of records, if no INSERT reports more than its own. -/
  fits : (∀ i ∈ issues, ∀ n, i.result = .ok n → n ≤ i.records.length) →
    ∀ n, result = .ok n → n ≤ records.length

theorem Inserts.issued {t : Table} {records : List Record} {size : Nat} {issues : List Issue}
    {result : Except Error Nat} (hsize : 1 ≤ size)
    (h : Inserts t (pieces size records) issues result) : Issued t records size issues result := by
  have hlength : issues.length ≤ (pieces size records).length := by
    simpa using h.map_records.length_le
  have hget (k : Nat) (hk : k < issues.length) (hk' : k < (pieces size records).length) :
      issues[k].records = (pieces size records)[k] := by
    rw [← h.map_records.getElem (by simpa using hk), List.getElem_map]
  have hbound (is : List Issue) (his : ∀ i ∈ is, i ∈ issues ∧ i.executes) :
      is.flatMap Issue.bound = (is.flatMap Issue.records).flatMap (Insert.row t) := by
    rw [List.flatMap_assoc]
    exact List.flatMap_congr fun i hi => RunsOnce.bound_eq (h.runs i (his i hi).1) (his i hi).2
  have hfront (is : List Issue) (his : is <+: issues) :
      is.flatMap Issue.records <+: records := by
    obtain ⟨rest, hrest⟩ := (his.map Issue.records).trans h.map_records
    refine ⟨rest.flatten, ?_⟩
    rw [List.flatMap_def, ← List.flatten_append, hrest, flatten_pieces hsize]
  refine ⟨h.runs, length_pieces size records ▸ hlength, fun k hk hnext => ?_,
    fun k hk hlast => ?_, hfront _ List.prefix_rfl, ?_, ?_, fun k hk e he => h.stopped hk he,
    fun counts hcounts => ?_, fun hrows n hn => ?_⟩
  · rw [hget k hk (Nat.lt_of_lt_of_le hk hlength)]
    exact (size_getElem_pieces hsize _).1 (length_pieces size records ▸ hnext)
  · rw [hget k hk (Nat.lt_of_lt_of_le hk hlength)]
    exact (size_getElem_pieces hsize _).2.imp_left fun h => h (length_pieces size records ▸ hlast)
  · rw [← flatten_pieces hsize records]
    exact h.bound
  · obtain ⟨k, hk⟩ := h.executed
    have hmem : ∀ i ∈ issues.take k, i ∈ issues ∧ i.executes := by
      rw [← hk]
      exact fun i hi => List.mem_filter.1 hi
    refine ⟨((issues.take k).flatMap Issue.records).length, ?_⟩
    rw [hk, hbound _ hmem, ← List.prefix_iff_eq_take.1 (hfront _ (List.take_prefix k issues))]
  · obtain ⟨hrecords, hresult⟩ := h.complete hcounts
    have hall : ∀ i ∈ issues, i ∈ issues ∧ i.executes := by
      intro i hi
      have hok : i.result ∈ counts.map Except.ok := hcounts ▸ List.mem_map_of_mem hi
      obtain ⟨n, -, hn⟩ := List.mem_map.1 hok
      exact ⟨hi, (h.runs i hi).executes_of_ok hn.symm⟩
    refine ⟨?_, ?_, hresult⟩
    · rw [← length_pieces, ← hrecords, List.length_map]
    · have hflat : issues.flatMap Issue.records = records := by
        rw [List.flatMap_def, hrecords, flatten_pieces hsize]
      rw [hbound issues hall, hflat]
  · have hsum := h.sum_le hrows n hn
    rwa [flatten_pieces hsize] at hsum

namespace Connection

variable {σ : Type} (c : Connection σ)

theorem converses_insertBatches {recordType : String} {t : Table} (ht : c.table recordType = .ok t)
    (hcolumns : t.inserted ≠ []) {batches : List (List Record)}
    (hbatches : ∀ batch ∈ batches, batch ≠ [] ∧ ∀ r ∈ batch, t.Holds r) (w : World σ) :
    ∃ issues result, Inserts t batches issues result ∧
      (c.insertBatches recordType batches).Converses c.engine w result
        (issues.flatMap Issue.talk) := by
  induction batches generalizing w with
  | nil => exact ⟨[], _, .done, .pure 0 w⟩
  | cons batch rest ih =>
    obtain ⟨⟨hne, hholds⟩, hrest⟩ := List.forall_mem_cons.1 hbatches
    let b : Builder Insert := { content := { table := t, rows := batch.map (Insert.row t) } }
    have hbuild : b.build = .ok (t.insertion batch) :=
      Builder.build_eq_ok.2 ⟨rfl, Insert.build_rows hcolumns hne hholds⟩
    have hmany : Run.Converses c.engine (Run.ofExcept (c.insertMany recordType batch)) w (.ok b)
        [] :=
      ⟨c.insertMany_eq_ok ht batch, .refl w⟩
    obtain ⟨answer, talk, hruns, hexec⟩ := (Builder.unused_new _).converses_execOnce c hbuild w
    cases answer with
    | error e =>
      have hi : Issue.Runs t ⟨batch, w.fresh, .error e, talk⟩ := hruns
      refine ⟨[_], _, .failed rest hi rfl, ?_⟩
      rw [List.flatMap_singleton]
      exact hmany.silent_bind hexec.bind_error
    | ok n =>
      obtain ⟨issues, result, hinserts, hnext⟩ := ih hrest (b.execOnce c w).2
      have hi : Issue.Runs t ⟨batch, w.fresh, .ok n, talk⟩ := hruns
      refine ⟨_ :: issues, _, .next hi rfl hinserts, ?_⟩
      refine hmany.silent_bind (hexec.bind_ok ?_)
      cases result with
      | error e => exact hnext.bind_error
      | ok m => exact hnext.bind_silent (.pure (n + m) _)

def Inserted (t : Table) (records : List Record) (size : Nat) (result : Except Error Nat)
    (talk : List Exchange) : Prop :=
  ∃ issues, talk = issues.flatMap Issue.talk ∧ Issued t records size issues result

structure Batched (f : Flavour) (t : Table) (records : List Record) (size : Nat)
    (result : Except Error Nat) (talk : List Exchange) : Prop where
  transacted : Transacted f (Inserted t records size) result talk
  /-- What is said if the engine refuses nothing. -/
  unfailing : (∀ x ∈ talk, x.2.accepts) → ∃ (issues : List Issue) (counts : List Nat),
    talk = (.batch f.opening, .accepted) :: issues.flatMap Issue.talk ++
      [(.batch f.commit, .accepted)] ∧
    issues.map Issue.result = counts.map .ok ∧ issues.length = records.length ⌈/⌉ size ∧
    issues.flatMap Issue.bound = records.flatMap (Insert.row t) ∧ result = .ok counts.sum ∧
    ((∀ i ∈ issues, ∀ n, i.result = .ok n → n ≤ i.records.length) → counts.sum ≤ records.length)

theorem exists_counts {issues : List Issue}
    (h : ∀ i ∈ issues, ∀ e, i.result ≠ .error e) :
    ∃ counts : List Nat, issues.map Issue.result = counts.map .ok := by
  induction issues with
  | nil => exact ⟨[], rfl⟩
  | cons i rest ih =>
    obtain ⟨hi, hrest⟩ := List.forall_mem_cons.1 h
    obtain ⟨counts, hcounts⟩ := ih hrest
    cases hr : i.result with
    | error e => exact absurd hr (hi e)
    | ok n => exact ⟨n :: counts, by rw [List.map_cons, List.map_cons, hr, hcounts]⟩

theorem Batched.of_transacted {f : Flavour} {t : Table} {records : List Record} {size : Nat}
    {result : Except Error Nat} {talk : List Exchange}
    (h : Transacted f (Inserted t records size) result talk) :
    Batched f t records size result talk := by
  refine ⟨h, fun haccepts => ?_⟩
  cases h with
  | unopened e => exact absurd (haccepts _ (List.mem_singleton_self _)) (by simp [Answer.accepts])
  | @opened inner _ _ closing hinner hcloses =>
    obtain ⟨issues, rfl, hissued⟩ := hinner
    have hclosing : ∀ x ∈ closing, x.2.accepts := fun x hx =>
      haccepts x (List.mem_append_right _ hx)
    -- an INSERT that fails was refused something
    obtain ⟨counts, hcounts⟩ : ∃ counts : List Nat, issues.map Issue.result = counts.map .ok := by
      refine exists_counts fun i hi e he => ?_
      have hruns := hissued.runs i hi
      rw [Issue.Runs, he] at hruns
      obtain ⟨call, hcall⟩ := RunsOnce.refuses hruns
      have hmem : (call, Answer.refused e) ∈ issues.flatMap Issue.talk :=
        List.mem_flatMap.2 ⟨i, hi, hcall⟩
      exact absurd (haccepts _ (List.mem_append_left _ (List.mem_cons_of_mem _ hmem)))
        (by simp [Answer.accepts])
    obtain ⟨hlength, hbound, rfl⟩ := hissued.complete counts hcounts
    cases hcloses with
    | uncommitted => exact absurd (hclosing _ List.mem_cons_self) (by simp [Answer.accepts])
    | committed =>
      exact ⟨issues, counts, rfl, hcounts, hlength, hbound, rfl, fun hrows =>
        hissued.fits hrows _ rfl⟩

theorem insertManyRecords_batched {recordType : String} {t : Table} {records : List Record}
    {size : Nat} (ht : c.table recordType = .ok t)
    (hcolumns : ∃ col ∈ t.columns, !col.isAutoincrement)
    (hrecords : records ≠ []) (hholds : ∀ r ∈ records, t.Holds r) (hsize : 1 ≤ size)
    (w : World σ) :
    ∃ result talk,
      Batched (.entered (c.engine.autocommit w.engine)) t records size result talk ∧
        (c.insertManyRecords recordType records size).Converses c.engine w result talk := by
  have hinserted : t.inserted ≠ [] := by
    obtain ⟨col, hcol, hauto⟩ := hcolumns
    exact List.ne_nil_of_mem (List.mem_filter.2 ⟨hcol, hauto⟩)
  have hpieces : ∀ batch ∈ pieces size records, batch ≠ [] ∧ ∀ r ∈ batch, t.Holds r := by
    intro batch hbatch
    obtain ⟨k, hk, rfl⟩ := List.mem_iff_getElem.1 hbatch
    refine ⟨List.ne_nil_of_length_pos (size_getElem_pieces hsize hk).2.2.1, fun r hr => ?_⟩
    exact hholds r (flatten_pieces hsize records ▸ List.mem_flatten_of_mem hbatch hr)
  have hbody (w : World σ) : ∃ inner talk, Inserted t records size inner talk ∧
      (c.insertBatches recordType (pieces size records)).Converses c.engine w inner talk := by
    obtain ⟨issues, inner, hinserts, hconverses⟩ := c.converses_insertBatches ht hinserted hpieces w
    exact ⟨inner, _, ⟨issues, rfl, hinserts.issued hsize⟩, hconverses⟩
  obtain ⟨result, talk, htransacted, hconverses⟩ := c.converses_transaction hbody w
  refine ⟨result, talk, .of_transacted htransacted, ?_⟩
  rw [insertManyRecords, if_neg (Nat.ne_of_gt hsize), if_neg (by simpa using hrecords)]
  exact hconverses

namespace Titles

def table : Table where
  name := "titles"
  recordType := "Title"
  fields :=
    [{ name := "id", type := { scalar := .integer .i64 },
        constraints := [.primaryKey .abort true] },
      { name := "text", type := { scalar := .text } }]
  wellFormed := rfl

def connection : Connection Script.State where
  engine := Script.engine
  schema := ⟨[table], rfl⟩
  config := {}

def record (text : String) : Record :=
  [⟨{ scalar := .integer .i64 }, ⟨0, by decide⟩⟩, ⟨{ scalar := .text }, text⟩]

theorem record_eq (text : String) : table.record [none, some (.text text)] = .ok (record text) :=
  rfl

def records : List Record := ["a", "b", "c"].map record

theorem batched_titles :
    let w : World Script.State :=
      { engine := { rules := [{ on := .execute, skip := 1, error := .step "full" }] } }
    connection.table "Title" = .ok table ∧ records ≠ [] ∧ (∀ r ∈ records, table.Holds r) ∧
      (connection.insertManyRecords "Title" records 2 w).1 = .error (.step "full") ∧
      ∃ result talk, Batched .outermost table records 2 result talk ∧
        (connection.insertManyRecords "Title" records 2).Converses Script.engine w result talk := by
  have hholds : ∀ r ∈ records, table.Holds r :=
    List.forall_mem_map.2 fun text _ => Table.holds_record (record_eq text)
  have hcolumns : ∃ col ∈ table.columns, !col.isAutoincrement := by decide
  have hsize : 1 ≤ 2 := by decide
  intro w
  exact ⟨rfl, by decide, hholds, by decide +kernel,
    insertManyRecords_batched connection rfl hcolumns (by decide) hholds hsize w⟩

end Titles

end Connection

end RecordSql
