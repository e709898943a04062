import RecordSql.Proofs.Builder.Independence
import RecordSql.Proofs.Session.Filtered
import RecordSql.Proofs.Session.Grounded

/-! Calls that change a builder before it has a statement, by themselves and as requests of a session.
Only the order of the calls on each clause matters: calls on different clauses can be interleaved in
any way, and conditions that are added one by one are one condition. -/

namespace RecordSql

variable {σ : Type}

inductive Change where
  | columns (refs : List ColumnRef)
  | distinct
  | join (recordType : String) (kind : JoinKind) (on : Condition)
  | joinSubquery (q : Subquery) (kind : JoinKind) (on : Condition)
  | order (r : ColumnRef) (direction : Direction)
  | limit (n : Nat)
  | offset (n : Nat)
  | filter (e : Condition)
  | set (column : String) (v : Value)
  | setJson (column : String) (document : Option Json)
  | values (records : List Record)
  | onConflict (clause : OnConflict)

def Change.clause : Change → Clause
  | .columns _ => .columns
  | .distinct => .distinct
  | .join .. | .joinSubquery .. => .joins
  | .order .. => .order
  | .limit _ => .limit
  | .offset _ => .offset
  | .filter _ => .condition
  | .set .. | .setJson .. => .assignments
  | .values _ => .values
  | .onConflict _ => .conflict

namespace Builder

variable (c : Connection σ)

def changeSelect : Change → Builder Select → Builder Select
  | .columns refs => edit (Select.Edit.columns refs)
  | .distinct => edit Select.Edit.distinct
  | .join recordType kind on => joinRecords c recordType kind on
  | .joinSubquery q kind on => edit (Select.Edit.join kind q.source on)
  | .order r direction => edit (Select.Edit.order r direction)
  | .limit n => edit (Select.Edit.limit n)
  | .offset n => edit (Select.Edit.offset n)
  | .filter e => edit (Select.Edit.filter e)
  | _ => id

def changeInsert : Change → Builder Insert → Builder Insert
  | .values records => addRecords records
  | .onConflict clause => edit (Insert.Edit.onConflict clause)
  | _ => id

def changeUpdate : Change → Builder Update → Builder Update
  | .set column v => edit (Update.Edit.set column v)
  | .setJson column document => setJson column document
  | .filter e => edit (Update.Edit.filter e)
  | _ => id

def changeDelete : Change → Builder Delete → Builder Delete
  | .filter e => edit (Delete.Edit.filter e)
  | _ => id

theorem alters_changeSelect (x : Change) : Alters x.clause .joins (changeSelect c x) := by
  cases x with
  | join recordType kind on =>
    cases ht : c.table recordType with
    | ok t =>
      have hjoin : changeSelect c (.join recordType kind on) =
          edit (Select.Edit.join kind (.table t) on) := by
        funext b
        rw [changeSelect, joinRecords, ht]
      rw [hjoin]
      exact .edit rfl
    | error e =>
      refine .fails e rfl fun b => ?_
      rw [changeSelect, joinRecords, ht]
  | set | setJson | values | onConflict => exact .nothing
  | _ => exact .edit rfl

theorem alters_changeInsert (x : Change) : Alters x.clause .values (changeInsert x) := by
  cases x with
  | values records =>
    refine .edits (fun q => records.map fun r => .row (Insert.row q.table r)) ?_ ?_ fun _ => rfl
    · exact fun q => List.forall_mem_map.2 fun _ _ => rfl
    · intro e q
      cases e <;> rfl
  | onConflict => exact .edit rfl
  | _ => exact .nothing

theorem alters_changeUpdate (x : Change) : Alters x.clause .assignments (changeUpdate x) := by
  cases x with
  | setJson column document =>
    cases document with
    | some j =>
      have hset : Alters .assignments .assignments fun b : Builder Update =>
          b.edit (Update.Edit.set column (.text j.compact)) := .edit rfl
      exact hset
    | none => exact .fails _ rfl fun _ => rfl
  | set | filter => exact .edit rfl
  | _ => exact .nothing

theorem alters_changeDelete (x : Change) : Alters x.clause .condition (changeDelete x) := by
  cases x with
  | filter => exact .edit rfl
  | _ => exact .nothing

end Builder

namespace AnyBuilder

variable (c : Connection σ)

def change : AnyBuilder → Change → AnyBuilder
  | .select b, x => .select (b.changeSelect c x)
  | .insert b, x => .insert (b.changeInsert x)
  | .update b, x => .update (b.changeUpdate x)
  | .delete b, x => .delete (b.changeDelete x)

def changes (b : AnyBuilder) (xs : List Change) : AnyBuilder := xs.foldl (change c) b

variable {c} {b b' : AnyBuilder}

theorem stage_change (b : AnyBuilder) (x : Change) : (b.change c x).stage = b.stage := by
  cases b with
  | select b => exact (Builder.alters_changeSelect c x).stage_eq b
  | insert b => exact (Builder.alters_changeInsert x).stage_eq b
  | update b => exact (Builder.alters_changeUpdate x).stage_eq b
  | delete b => exact (Builder.alters_changeDelete x).stage_eq b

theorem change_comm (hb : b.stage = .unprepared) {x y : Change} (h : x.clause ≠ y.clause) :
    (b.change c x).change c y = (b.change c y).change c x := by
  cases b with
  | select b =>
    exact congrArg select ((Builder.alters_changeSelect c x).comm Select.independent
      (Builder.alters_changeSelect c y) h hb)
  | insert b =>
    exact congrArg insert ((Builder.alters_changeInsert x).comm Insert.independent
      (Builder.alters_changeInsert y) h hb)
  | update b =>
    exact congrArg update ((Builder.alters_changeUpdate x).comm Update.independent
      (Builder.alters_changeUpdate y) h hb)
  | delete b =>
    exact congrArg delete ((Builder.alters_changeDelete x).comm Delete.independent
      (Builder.alters_changeDelete y) h hb)

end AnyBuilder

/-- The change that a request of a session asks for. A nested query and the values of records are
those that the session and the builder's table make of what is given. -/
def Request.change? (s : Session σ) (b : AnyBuilder) : Request → Option Change
  | .columns refs => some (.columns refs)
  | .distinct => some .distinct
  | .join recordType kind on => some (.join recordType kind on)
  | .joinSubquery sub kind on => (s.subquery? sub).map (.joinSubquery · kind on)
  | .order r direction => some (.order r direction)
  | .limit n => some (.limit n)
  | .offset n => some (.offset n)
  | .filter e => some (.filter e)
  | .set column v => some (.set column v)
  | .setJson column document => some (.setJson column document)
  | .values given =>
    match b with
    | .insert b => (given.mapM b.content.table.record).toOption.map .values
    | _ => none
  | .onConflict clause => some (.onConflict clause)
  | _ => none

theorem Session.request_change (c : Connection σ) (s : Session σ) (name : String) {b : AnyBuilder}
    {r : Request} {x : Change} (h : r.change? s b = some x) :
    (s.request c name b r).builder = some (b.change c x) ∧ (s.request c name b r).session = s := by
  cases r with
  | joinSubquery sub kind on =>
    obtain ⟨q, hq, rfl⟩ := Option.map_eq_some_iff.1 h
    cases b with
    | select b =>
      dsimp only [request, callSelect]
      rw [hq]
      exact ⟨rfl, rfl⟩
    | _ => exact ⟨rfl, rfl⟩
  | values rows =>
    cases b with
    | insert b =>
      obtain ⟨records, hrecords, rfl⟩ := Option.map_eq_some_iff.1 h
      dsimp only [request, callInsert]
      cases hrows : rows.mapM b.content.table.record with
      | error e =>
        rw [hrows] at hrecords
        cases hrecords
      | ok records' =>
        rw [hrows] at hrecords
        cases hrecords
        exact ⟨rfl, rfl⟩
    | _ => cases h
  | columns | distinct | join | order | limit | offset | filter | set | setJson | onConflict =>
    cases h
    cases b <;> exact ⟨rfl, rfl⟩
  | _ => cases h

def Session.Asks (s : Session σ) (b : AnyBuilder) (rs : List Request) (xs : List Change) : Prop :=
  List.Forall₂ (fun r x => r.change? s b = some x) rs xs

def Session.requests (c : Connection σ) (s : Session σ) (name : String) (rs : List Request) :
    Session σ :=
  s.moves c (rs.map fun r => .perform (.call name r))

namespace Session

variable {c : Connection σ} {s : Session σ} {name : String} {b b' : AnyBuilder}

theorem keep_keep : (s.keep name b).keep name b' = s.keep name b' := by
  simp [keep, without]

/-- Changes leave the table of a builder and the nested queries of a session alone, so they do not
bear on what later requests ask for. -/
theorem change?_keep (r : Request) (x : Change) :
    r.change? (s.keep name (b.change c x)) (b.change c x) = r.change? s b := by
  cases r with
  | values given =>
    cases b with
    | insert b =>
      have htable : (b.changeInsert x).content.table = b.content.table := by
        cases x with
        | values records => exact Builder.table_addRecords records b
        | _ => rfl
      change (given.mapM (b.changeInsert x).content.table.record).toOption.map _ = _
      rw [htable]
      rfl
    | _ => rfl
  | _ => rfl

theorem move_change (hb : s.builder? name = some b) {r : Request} {x : Change}
    (h : r.change? s b = some x) :
    s.move c (.perform (.call name r)) = s.keep name (b.change c x) := by
  obtain ⟨hbuilder, hsession⟩ := request_change c s name h
  change (s.call c name r).2.2 = _
  rw [call_of_some hb, hbuilder, hsession]

/-- A session that is asked for changes keeps the builder with all of them. -/
theorem requests_eq_keep {r : Request} {rs : List Request} {xs : List Change}
    (hb : s.builder? name = some b) (h : s.Asks b (r :: rs) xs) :
    s.requests c name (r :: rs) = s.keep name (b.changes c xs) := by
  induction rs generalizing s b r xs with
  | nil =>
    cases h with
    | cons hx hnone =>
      cases hnone
      exact move_change hb hx
  | cons r' rs ih =>
    cases h with
    | @cons _ x _ xs hx hrest =>
      -- what the other requests ask for is the same after the first change
      have hrest : (s.keep name (b.change c x)).Asks (b.change c x) (r' :: rs) xs :=
        hrest.imp fun r y h => (change?_keep r x).trans h
      have hnext := ih (builder?_keep_self name _) hrest
      rw [keep_keep, ← move_change hb hx] at hnext
      exact hnext

theorem requests_eq {rs rs' : List Request} {xs ys : List Change} (hb : s.builder? name = some b)
    (h : s.Asks b rs xs) (h' : s.Asks b rs' ys) (hsame : b.changes c xs = b.changes c ys)
    (hempty : xs = [] ↔ ys = []) : s.requests c name rs = s.requests c name rs' := by
  cases h with
  | nil =>
    obtain rfl := hempty.1 rfl
    cases h'
    rfl
  | cons hx hrest =>
    cases h' with
    | nil => exact absurd (hempty.2 rfl) (List.cons_ne_nil _ _)
    | cons hy hrest' =>
      rw [requests_eq_keep hb (.cons hx hrest), requests_eq_keep hb (.cons hy hrest'), hsame]

end Session

namespace Change

variable {xs ys fs : List Change}

/-- Two sequences of calls that interleave the same sequences of calls on each clause. -/
def Shuffled (xs ys : List Change) : Prop :=
  ∀ k, xs.filter (·.clause = k) = ys.filter (·.clause = k)

theorem Shuffled.eq_nil_iff (h : Shuffled xs ys) : xs = [] ↔ ys = [] := by
  have hnil {zs : List Change} : zs = [] ↔ ∀ k, zs.filter (·.clause = k) = [] := by
    refine ⟨by rintro rfl k; rfl, fun hzs => List.eq_nil_iff_forall_not_mem.2 fun z hz => ?_⟩
    exact List.filter_eq_nil_iff.1 (hzs z.clause) z hz (by simp)
  rw [hnil, hnil]
  exact forall_congr' fun k => by rw [h k]

theorem shuffled_append (hfs : xs.filter (·.clause = .condition) = fs)
    (hys : ∀ k ≠ .condition, xs.filter (·.clause = k) = ys.filter (·.clause = k)) :
    Shuffled xs (ys.filter (·.clause ≠ .condition) ++ fs) := by
  subst hfs
  intro k
  rw [List.filter_append, List.filter_filter, List.filter_filter]
  by_cases hk : k = .condition
  · subst hk
    simp
  · have hall : ys.filter (fun x => x.clause = k && x.clause ≠ .condition) =
        ys.filter (·.clause = k) := by
      refine List.filter_congr fun x _ => ?_
      by_cases hx : x.clause = k
      · simp [hx, hk]
      · simp [hx]
    have hnone : xs.filter (fun x => x.clause = k && x.clause = .condition) = [] := by
      refine List.filter_eq_nil_iff.2 fun x _ => ?_
      by_cases hx : x.clause = k
      · simp [hx, hk]
      · simp [hx]
    rw [hall, hnone, List.append_nil, hys k hk]

end Change

namespace AnyBuilder

variable {c : Connection σ} {b b' : AnyBuilder}

theorem changes_shuffled (hb : b.stage = .unprepared) {xs ys : List Change}
    (h : Change.Shuffled xs ys) : b.changes c xs = b.changes c ys := by
  refine foldl_eq_of_filter (P := fun b => b.stage = .unprepared) ?_ ?_ h hb
  · intro b x hb
    rwa [stage_change]
  · intro b x y hb hne
    exact change_comm hb hne

theorem condition?_change {x : Change} (h : x.clause ≠ .condition) :
    (b.change c x).condition? = b.condition? := by
  cases b with
  | select b =>
    cases x with
    | join recordType kind on =>
      change (b.joinRecords c recordType kind on).content.clauses.condition = _
      rw [Builder.joinRecords]
      cases c.table recordType <;> rfl
    | filter => exact absurd rfl h
    | _ => rfl
  | insert b => rfl
  | update b =>
    cases x with
    | setJson column document => cases document <;> rfl
    | filter => exact absurd rfl h
    | _ => rfl
  | delete b =>
    cases x with
    | filter => exact absurd rfl h
    | _ => rfl

theorem condition?_changes {xs : List Change} (h : ∀ x ∈ xs, x.clause ≠ .condition) :
    (b.changes c xs).condition? = b.condition? := by
  induction xs generalizing b with
  | nil => rfl
  | cons x rest ih =>
    obtain ⟨hx, hrest⟩ := List.forall_mem_cons.1 h
    exact (ih hrest).trans (condition?_change hx)

theorem stage_changes (b : AnyBuilder) (xs : List Change) :
    (b.changes c xs).stage = b.stage := by
  induction xs generalizing b with
  | nil => rfl
  | cons x rest ih => exact (ih (b.change c x)).trans (stage_change b x)

/-- A condition that is added to the first one makes one condition with it. -/
theorem change_filter_filter (hb : b.stage = .unprepared) (hnone : b.condition? = none)
    (e e' : Condition) :
    (b.change c (.filter e)).change c (.filter e') = b.change c (.filter (.logical .and e e')) := by
  cases b with
  | select b =>
    have hcondition : b.content.clauses.condition = none := hnone
    refine congrArg select (Builder.edit_edit_eq hb ?_)
    simp [Statement.apply, Clauses.edit, Joined.edit, Condition.conjoin, hcondition]
  | insert b => rfl
  | update b =>
    have hcondition : b.content.condition = none := hnone
    refine congrArg update (Builder.edit_edit_eq hb ?_)
    simp [Statement.apply, Condition.conjoin, hcondition]
  | delete b =>
    have hcondition : b.content.condition = none := hnone
    refine congrArg delete (Builder.edit_edit_eq hb ?_)
    simp [Statement.apply, Condition.conjoin, hcondition]

theorem changes_filters (hb : b.stage = .unprepared) (hnone : b.condition? = none)
    {es : List Condition} {e : Condition} (h : Condition.join .and es = some e) :
    b.changes c (es.map .filter) = b.change c (.filter e) := by
  cases es with
  | nil => cases h
  | cons e₀ rest =>
    obtain rfl : rest.foldl (.logical .and) e₀ = e := Option.some.inj h
    clear h
    induction rest generalizing e₀ with
    | nil => rfl
    | cons e' rest ih =>
      rw [List.foldl_cons, ← ih]
      change ((b.change c (.filter e₀)).change c (.filter e')).changes c (rest.map .filter) = _
      rw [change_filter_filter hb hnone]
      rfl

structure Alike (b b' : AnyBuilder) : Prop where
  kind : b.kind = b'.kind
  build : b.build = b'.build
  buildCount : ∀ q q', b = .select q → b' = .select q' → q.buildCount = q'.buildCount
  subquery : ∀ q q' name, b = .select q → b' = .select q' → q.subquery name = q'.subquery name

theorem Alike.of_eq (h : b = b') : b.Alike b' := by
  subst h
  refine ⟨rfl, rfl, ?_, ?_⟩
  · rintro q _ rfl ⟨⟩
    rfl
  · rintro q _ name rfl ⟨⟩
    rfl

theorem changes_conjoined (hb : b.stage = .unprepared) (hnone : b.condition? = none)
    {es : List Condition} {e : Condition} (he : Condition.join .and es = some e)
    {xs ys : List Change} (hxs : xs.filter (·.clause = .condition) = es.map .filter)
    (hys : ys.filter (·.clause = .condition) = [.filter e])
    (hothers : ∀ k ≠ .condition, xs.filter (·.clause = k) = ys.filter (·.clause = k)) :
    b.changes c xs = b.changes c ys := by
  let others := ys.filter (·.clause ≠ .condition)
  have hone : Change.Shuffled xs (others ++ es.map .filter) :=
    Change.shuffled_append hxs hothers
  have hall : Change.Shuffled ys (others ++ [.filter e]) :=
    Change.shuffled_append hys fun _ _ => rfl
  have hstage : (b.changes c others).stage = .unprepared := (stage_changes b others).trans hb
  have hunfiltered : (b.changes c others).condition? = none := by
    refine (condition?_changes fun x hx => ?_).trans hnone
    simpa using (List.mem_filter.1 hx).2
  have happend (zs : List Change) :
      b.changes c (others ++ zs) = (b.changes c others).changes c zs := List.foldl_append
  rw [changes_shuffled hb hone, changes_shuffled hb hall, happend, happend,
    changes_filters hstage hunfiltered he]
  rfl

/-- In what order a builder is changed matters only among the calls on one clause, and conditions
that are added one by one are the condition that joins them. -/
structure Orderless (b : AnyBuilder) (c : Connection σ) : Prop where
  shuffled : ∀ xs ys, Change.Shuffled xs ys → (b.changes c xs).Alike (b.changes c ys)
  conjoined : b.condition? = none → ∀ es e, Condition.join .and es = some e → ∀ xs ys,
    xs.filter (·.clause = .condition) = es.map .filter →
    ys.filter (·.clause = .condition) = [.filter e] →
    (∀ k ≠ .condition, xs.filter (·.clause = k) = ys.filter (·.clause = k)) →
    (b.changes c xs).Alike (b.changes c ys)
  /-- A session that makes the same changes of its builder on request comes to the same. -/
  requested : ∀ (s : Session σ) name, s.builder? name = some b → ∀ rs rs' xs ys,
    s.Asks b rs xs → s.Asks b rs' ys → Change.Shuffled xs ys →
    s.requests c name rs = s.requests c name rs'
  requestedConjoined : b.condition? = none → ∀ es e, Condition.join .and es = some e →
    ∀ (s : Session σ) name, s.builder? name = some b → ∀ rs rs' xs ys,
    s.Asks b rs xs → s.Asks b rs' ys →
    xs.filter (·.clause = .condition) = es.map .filter →
    ys.filter (·.clause = .condition) = [.filter e] →
    (∀ k ≠ .condition, xs.filter (·.clause = k) = ys.filter (·.clause = k)) →
    s.requests c name rs = s.requests c name rs'

theorem orderless (hb : b.stage = .unprepared) : b.Orderless c where
  shuffled _ _ h := .of_eq (changes_shuffled hb h)
  conjoined hnone _ _ he _ _ hxs hys hothers :=
    .of_eq (changes_conjoined hb hnone he hxs hys hothers)
  requested _ _ hs _ _ _ _ hxs hys h :=
    Session.requests_eq hs hxs hys (changes_shuffled hb h) h.eq_nil_iff
  requestedConjoined hnone es e he _ _ hs _ _ xs ys hasks hasks' hxs hys hothers := by
    refine Session.requests_eq hs hasks hasks' (changes_conjoined hb hnone he hxs hys hothers)
      (iff_of_false ?_ ?_)
    · rintro rfl
      obtain rfl : es = [] := List.map_eq_nil_iff.1 hxs.symm
      cases he
    · rintro rfl
      cases hys

end AnyBuilder

namespace Session.Notes

def query : AnyBuilder := .select { content := .ofTable table }

def clausewise : List Change :=
  [.columns [.plain "title"], .join "Draft" .inner keyed, .join "Note" .left keyed,
    .join "Tag" .inner keyed, .filter keyed, .filter either, .order (.plain "title") .desc,
    .limit 5]

def scrambled : List Change :=
  [.limit 5, .filter keyed, .join "Draft" .inner keyed, .order (.plain "title") .desc,
    .join "Note" .left keyed, .filter either, .columns [.plain "title"],
    .join "Tag" .inner keyed]

theorem orderless_query :
    query.stage = .unprepared ∧ query.condition? = none ∧ Change.Shuffled clausewise scrambled ∧
      query.Orderless connection ∧
      (query.changes connection clausewise).Alike (query.changes connection scrambled) := by
  have hstage : query.stage = .unprepared := rfl
  have hshuffled : Change.Shuffled clausewise scrambled := by
    intro k
    cases k <;> rfl
  have h := AnyBuilder.orderless (c := connection) hstage
  exact ⟨hstage, rfl, hshuffled, h, h.shuffled _ _ hshuffled⟩

end Session.Notes

end RecordSql
