import RecordSql.Proofs.Connection.Tidiness
import RecordSql.Proofs.Session.Carried
import RecordSql.Proofs.Session.Misuse

/-! The first error that a builder recorded is final. Whatever is to be built or run afterwards
fails with it and leaves the engine alone; and where nothing was recorded, a failure is one of the
clauses, of the rows or of the engine. -/

namespace RecordSql

variable {σ κ α : Type}

namespace Builder

section

variable [Statement κ] {b : Builder κ} {e : Error} (h : b.slot.error = some e)
include h

omit [Statement κ] in
theorem check_of_error : b.slot.check = .error e := by
  unfold Slot.check
  rw [h]

theorem build_of_error : b.build = .error e := by
  unfold build
  rw [check_of_error h]
  rfl

omit [Statement κ] in
theorem ready_of_error : b.slot.ready = .error e := by
  unfold Slot.ready
  rw [check_of_error h]
  rfl

variable (c : Connection σ) (w : World σ)

theorem prepare_of_error : b.prepare c w = ((.error e, b), w) := by
  rw [prepare_apply, build_of_error h]

theorem ensurePrepared_of_error :
    b.ensurePrepared c w = ((.ok (), b), w) ∨ b.ensurePrepared c w = ((.error e, b), w) := by
  unfold ensurePrepared
  split
  · exact .inl rfl
  · exact .inr (prepare_of_error h c w)

theorem exec_of_error : b.exec c w = ((.error e, b), w) := by
  rw [exec_apply]
  rcases ensurePrepared_of_error h c w with hp | hp <;> rw [hp]
  dsimp only
  rw [execute_apply, ready_of_error h]

end

section

variable {b : Builder Select} {e : Error} (h : b.slot.error = some e) (c : Connection σ)
  (w : World σ)
include h

theorem start_of_error : b.start c w = ((.error e, b), w) := by
  rw [start_apply]
  rcases ensurePrepared_of_error h c w with hp | hp <;> rw [hp]
  dsimp only
  rw [ready_of_error h]

theorem rows_of_error (n : Nat) : b.rows c n w = ((.error e, b), w) := by
  rw [rows_apply, start_of_error h]

theorem reading_of_error (read : Cursor → Act σ (Except Error α)) :
    b.reading c read w = (.error e, (b.drop c w).2) := by
  rw [reading_apply, start_of_error h]

theorem fetchOne_of_error : b.fetchOne c w = (.error e, (b.drop c w).2) := by
  unfold fetchOne
  rw [Run.bind_apply, fetchFirst, reading_of_error h]

theorem count_of_error : b.count c w = (.error e, w) := by
  unfold count
  rw [Run.ofExcept_bind_apply, buildCount, check_of_error h]
  rfl

end

theorem one_of_error {b : Builder Select} {e : Error}
    (h : (b.edit (Select.Edit.limit 1)).slot.error = some e) (c : Connection σ) (w : World σ) :
    b.one c w = (.error e, (b.drop c w).2) := by
  rw [one, fetchFirst, reading_of_error h]
  unfold drop
  rw [statement_edit]

end Builder

def Request.consumes : Request → Bool
  | .fetchAll | .fetchFirst | .fetchOne | .one => true
  | _ => false

def AnyBuilder.Terminal : AnyBuilder → Request → Prop
  | _, .build | _, .text | _, .prepare => True
  | .select _, .buildCount | .select _, .count | .select _, .subquery .. => True
  | .select _, .rows _ => True
  | .select _, .fetchAll | .select _, .fetchFirst | .select _, .fetchOne | .select _, .one => True
  | .insert _, .exec | .update _, .exec | .delete _, .exec => True
  | _, _ => False

namespace Session

variable {c : Connection σ} {s : Session σ}

theorem told_of_error {x : Except Error α} {e : Error} (h : x = .error e) (b : AnyBuilder)
    (f : α → Reply) : s.told b (x.map f) = ⟨.error e, some b, s⟩ := by
  rw [h]
  rfl

theorem worked_of_error {a : Act σ (Except Error α × Builder κ)} {b : Builder κ} {e : Error}
    (h : a s.world = ((.error e, b), s.world)) (wrap : Builder κ → AnyBuilder)
    (reply : α → Reply) : s.worked wrap reply a = ⟨.error e, some (wrap b), s⟩ := by
  unfold worked act
  rw [h]
  rfl

theorem used_of_error {run : Run σ α} {e : Error} {w : World σ} (h : run s.world = (.error e, w))
    (reply : α → Reply) : s.used reply run = ⟨.error e, none, { s with world := w }⟩ := by
  unfold used answer act
  rw [show run.run s.world = _ from h]
  rfl

theorem request_of_error {b : AnyBuilder} {e : Error} (h : b.slot.error = some e)
    (name : String) {r : Request} (ht : b.Terminal r) :
    s.request c name b r =
      if r.consumes then ⟨.error e, none, { s with world := (b.drop c s.world).2 }⟩
      else ⟨.error e, some b, s⟩ := by
  cases b with
  | select b =>
    have hedit : (b.edit (Select.Edit.limit 1)).slot.error = some e := by
      rw [Builder.error_edit, show b.slot.error = some e from h]
      rfl
    cases r with
    | build | text => exact told_of_error (Builder.build_of_error h) _ _
    | prepare => exact worked_of_error (Builder.prepare_of_error h c s.world) .select _
    | rows n => exact worked_of_error (Builder.rows_of_error h c s.world n) .select _
    | fetchAll => exact used_of_error (Builder.reading_of_error h c s.world _) _
    | fetchFirst => exact used_of_error (Builder.reading_of_error h c s.world _) _
    | fetchOne => exact used_of_error (Builder.fetchOne_of_error h c s.world) _
    | one => exact used_of_error (Builder.one_of_error hedit c s.world) _
    | buildCount =>
      have hc : b.buildCount = .error e := by
        rw [Builder.buildCount, Builder.check_of_error h]
        rfl
      exact told_of_error hc _ _
    | count =>
      have hc : s.answer (b.count c) Reply.integer = (.error e, s) := by
        unfold answer act
        rw [show (b.count c).run s.world = _ from Builder.count_of_error h c s.world]
        rfl
      dsimp only [request, callSelect]
      rw [hc]
      rfl
    | subquery sub key =>
      have hq : b.subquery sub = .error e := by
        rw [Builder.subquery, Builder.check_of_error h]
        rfl
      dsimp only [request, callSelect]
      rw [hq]
      rfl
    | _ => exact ht.elim
  | insert b =>
    cases r with
    | build | text => exact told_of_error (Builder.build_of_error h) _ _
    | prepare => exact worked_of_error (Builder.prepare_of_error h c s.world) .insert _
    | exec => exact worked_of_error (Builder.exec_of_error h c s.world) .insert _
    | _ => exact ht.elim
  | update b =>
    cases r with
    | build | text => exact told_of_error (Builder.build_of_error h) _ _
    | prepare => exact worked_of_error (Builder.prepare_of_error h c s.world) .update _
    | exec => exact worked_of_error (Builder.exec_of_error h c s.world) .update _
    | _ => exact ht.elim
  | delete b =>
    cases r with
    | build | text => exact told_of_error (Builder.build_of_error h) _ _
    | prepare => exact worked_of_error (Builder.prepare_of_error h c s.world) .delete _
    | exec => exact worked_of_error (Builder.exec_of_error h c s.world) .delete _
    | _ => exact ht.elim

def recorded (c : Connection σ) (name : String) (s : Session σ) : Move σ → Option Error
  | .perform (.call other r) =>
    if other = name then (s.builder? name).bind fun b => s.records c b r else none
  | _ => none

def recordings (c : Connection σ) (name : String) : Session σ → List (Move σ) → List Error
  | _, [] => []
  | s, m :: rest => (s.recorded c name m).toList ++ recordings c name (s.move c m) rest

theorem recorded_of_ne {name : String} {m : Move σ} (h : m.builder? ≠ some name) :
    s.recorded c name m = none := by
  unfold recorded
  split
  · next other r =>
    refine if_neg ?_
    rintro rfl
    exact h rfl
  · rfl

theorem Sound.error_recorded (h : s.Sound) {name : String} {m : Move σ} (hm : m.Keeps name)
    {b' : AnyBuilder} (hb' : (s.move c m).builder? name = some b') :
    ∃ b, s.builder? name = some b ∧ b'.slot.error = b.slot.error.or (s.recorded c name m) := by
  obtain ⟨r, b, rfl, hb, hc⟩ | ⟨hne, hb⟩ := h.builder?_move hm hb'
  · refine ⟨b, hb, ?_⟩
    have hr := s.records_request c name (h.builders _ (mem_of_builder? hb)) r b' hc
    simpa [recorded, hb] using hr
  · exact ⟨b', hb, by rw [recorded_of_ne hne, Option.or_none]⟩

/-- The error of a builder is the one that it had, or the first that was recorded since. -/
theorem Reached.error_recordings (h : Reached c s) {name : String} {ms : List (Move σ)}
    (hm : ∀ m ∈ ms, m.Keeps name) {b' : AnyBuilder}
    (hb' : (s.moves c ms).builder? name = some b') :
    ∃ b, s.builder? name = some b ∧
      b'.slot.error = b.slot.error.or (s.recordings c name ms).head? := by
  induction ms generalizing s with
  | nil => exact ⟨b', hb', (Option.or_none).symm⟩
  | cons m rest ih =>
    obtain ⟨hm, hrest⟩ := List.forall_mem_cons.1 hm
    obtain ⟨b₁, hb₁, he₁⟩ := ih (h.moved m) hrest hb'
    obtain ⟨b, hb, he⟩ := h.sound.error_recorded hm hb₁
    refine ⟨b, hb, ?_⟩
    rw [he₁, he, Option.or_assoc, recordings]
    cases s.recorded c name m <;> rfl

end Session

namespace Builder

def bare (b : Builder κ) : Builder κ := { content := b.content }

variable [Statement κ]

theorem build_bare {b : Builder κ} (h : b.slot.error = none) : b.bare.build = b.build := by
  unfold build Slot.check
  rw [h]
  rfl

end Builder

theorem AnyBuilder.FaultOf.bare {b : AnyBuilder} {r : Request} {e : Error} (h : b.FaultOf r e)
    (he : b.slot.error = none) (hone : r = .one → b.stage = .unprepared) :
    b.bare.FaultOf r e := by
  cases h with
  | build hb =>
    refine .build ?_
    cases b with
    | select b => exact (Builder.build_bare he).trans hb
    | insert b => exact (Builder.build_bare he).trans hb
    | update b => exact (Builder.build_bare he).trans hb
    | delete b => exact (Builder.build_bare he).trans hb
  | @limited b _ hb =>
    refine .limited ?_
    have hedit : (b.edit (Select.Edit.limit 1)).slot.error = none :=
      (congrArg Slot.error (Builder.slot_edit (hone rfl) _)).trans he
    exact (Builder.build_bare hedit).trans hb
  | @counting b _ _ hb =>
    refine .counting ?_
    rw [Builder.buildCount, Slot.check, show b.slot.error = none from he] at hb
    exact hb
  | @nesting b _ _ _ hb =>
    refine .nesting ?_
    rw [Builder.subquery, Slot.check, show b.slot.error = none from he] at hb
    exact hb
  | row hrow => exact .row hrow
  | noRow b => exact .noRow b.bare
  | noCount b => exact .noCount b.bare
  | field hrow => exact .field hrow
  | values hrows => exact .values hrows

namespace Session

variable {c : Connection σ} {s : Session σ}

structure Surfaces (c : Connection σ) (s : Session σ) (name : String) (b : AnyBuilder)
    (first : Option Error) : Prop where
  recorded : b.slot.error = first
  returned : ∀ e, first = some e → ∀ r, b.Terminal r → (s.call c name r).1 = .error e
  /-- Such a call leaves the engine alone, and the builder, unless it uses it up. -/
  silent : ∀ e, first = some e → ∀ r, b.Terminal r →
    gained s (s.call c name r).2.2 =
        (if r.consumes then b.slot.statement.toList.map fun i => .call (.finalize i) true else []) ∧
      (s.call c name r).2.2.world = (if r.consumes then (b.drop c s.world).2 else s.world) ∧
      (s.call c name r).2.2.builder? name = if r.consumes then none else some b
  unrecorded : first = none → ∀ r, b.Terminal r → (r = .one → b.stage = .unprepared) → ∀ e,
    Tells (s.call c name r).1 e → b.bare.FaultOf r e ∨
      ∃ talk, s.world.Talks c.engine talk (s.call c name r).2.2.world ∧
        ∃ call, (call, .refused e) ∈ talk
  /-- One row is asked for with a limit, which is a change of a clause. -/
  limited : first = none → ∀ q, b = .select q → b.stage ≠ .unprepared →
    (s.call c name .one).1 = .error (.validation "cannot change LIMIT after prepare()") ∧
      (s.call c name .one).2.2.world = (b.drop c s.world).2

theorem drop_journal (c : Connection σ) (b : AnyBuilder) (w : World σ) :
    (b.drop c w).2.journal =
      w.journal ++ b.slot.statement.toList.map fun i => .call (.finalize i) true := by
  have hdrop {κ : Type} [Statement κ] (b : Builder κ) : (b.drop c w).2.journal =
      w.journal ++ b.slot.statement.toList.map fun i => .call (.finalize i) true := by
    unfold Builder.drop
    cases b.slot.statement with
    | some i => rfl
    | none => exact (List.append_nil _).symm
  cases b with
  | select b => exact hdrop b
  | insert b => exact hdrop b
  | update b => exact hdrop b
  | delete b => exact hdrop b

theorem call_of_error {name : String} {b : AnyBuilder} (hb : s.builder? name = some b) {e : Error}
    (h : b.slot.error = some e) {r : Request} (ht : b.Terminal r) :
    (s.call c name r).1 = .error e ∧ (s.call c name r).2.2 =
      if r.consumes then ({ s with world := (b.drop c s.world).2 } : Session σ).without name
      else s.keep name b := by
  obtain ⟨hresult, -⟩ := call_world (c := c) (r := r) hb
  rw [hresult, call_of_some hb, request_of_error h name ht]
  cases r.consumes <;> exact ⟨rfl, rfl⟩

theorem Reached.surfaces (h : Reached c s) {name : String} {b : AnyBuilder}
    (hb : s.builder? name = some b) {ms : List (Move σ)} (hm : ∀ m ∈ ms, m.Keeps name)
    {b' : AnyBuilder} (hb' : (s.moves c ms).builder? name = some b') :
    Surfaces c (s.moves c ms) name b' (b.slot.error.or (s.recordings c name ms).head?) := by
  have hs := (h.moves ms).sound
  obtain ⟨b₀, hb₀, he⟩ := h.error_recordings hm hb'
  obtain rfl : b = b₀ := Option.some.inj (hb.symm.trans hb₀)
  generalize b.slot.error.or (s.recordings c name ms).head? = first at he
  generalize s.moves c ms = s' at hs hb'
  refine ⟨he, fun e hf r ht => ?_, fun e hf r ht => ?_, fun hf r ht hone e htold => ?_,
    fun hf q hq hst => ?_⟩
  · exact (call_of_error hb' (he.trans hf) ht).1
  · obtain ⟨-, hcall⟩ := call_of_error hb' (he.trans hf) ht
    rw [hcall]
    cases r.consumes with
    | true =>
      refine ⟨?_, rfl, builder?_without_self name⟩
      change List.drop _ (b'.drop c s'.world).2.journal = _
      rw [drop_journal, List.drop_left]
      rfl
    | false => exact ⟨List.drop_length .., rfl, builder?_keep_self name b'⟩
  · obtain ⟨hresult, hworld⟩ := call_world (c := c) (r := r) hb'
    obtain ⟨talk, hp, htells⟩ := carried_request c s' name (hs.builders _ (mem_of_builder? hb')) r
    rw [hresult] at htold
    rw [hworld]
    rcases htells e htold with hfault | hrefused
    · exact .inl (hfault.bare (he.trans hf) hone)
    · exact .inr ⟨talk, hp.talks, hrefused⟩
  · subst hq
    have hst : q.slot.stage ≠ .unprepared := hst
    have hlimit : (q.edit (Select.Edit.limit 1)).slot.error =
        some (.validation "cannot change LIMIT after prepare()") := by
      rw [Builder.error_edit, show q.slot.error = none from he.trans hf, Slot.misuse, if_neg hst]
      rfl
    obtain ⟨hresult, hworld⟩ := call_world (c := c) (r := .one) hb'
    rw [hresult, hworld]
    have hused := used_of_error (s := s') (Builder.one_of_error hlimit c s'.world) .record
    change (s'.used .record (q.one c)).result = _ ∧ (s'.used .record (q.one c)).session.world = _
    rw [hused]
    exact ⟨rfl, rfl⟩

namespace Notes

def late : List (Move Script.State) :=
  [.perform (.call "q" .prepare), .perform (.call "q" (.limit 3)), .perform (.call "q" (.rows 1)),
    .perform (.call "q" (.offset 2))]

theorem surfaces_late :
    let s := (opened {}).moves connection [.perform (.select "q" "Note")]
    let b : Builder Select :=
      { content := { Select.ofTable table with clauses := { limit := some 3, offset := some 2 } }
        slot :=
          { statement := some 0, stage := .prepared,
            error := some (.validation "cannot change LIMIT after prepare()") } }
    s.recordings connection "q" late =
        [.validation "cannot change LIMIT after prepare()",
          .validation "cannot change OFFSET after prepare()"] ∧
      Surfaces connection (s.moves connection late) "q" (.select b)
        (some (.validation "cannot change LIMIT after prepare()")) := by
  have hs := reached_opened.moves [.perform (.select "q" "Note")]
  have hb : ((opened {}).moves connection [.perform (.select "q" "Note")]).builder? "q" =
      some (.select { content := .ofTable table }) := rfl
  have hkeeps : ∀ m ∈ late, m.Keeps "q" := by simp [late, Move.Keeps]
  exact ⟨rfl, hs.surfaces hb hkeeps rfl⟩

/-- A builder on which nothing was recorded can fail with an error that a change of a clause
records: its one row is asked for with a limit. -/
theorem not_unrecorded_one :
    ¬∀ (c : Connection Script.State) (s : Session Script.State) (name : String) (b : AnyBuilder),
      Reached c s → s.builder? name = some b → b.slot.error = none →
      ∀ ms : List (Move Script.State), (∀ m ∈ ms, m.Keeps name) →
      ∀ b', (s.moves c ms).builder? name = some b' → s.recordings c name ms = [] →
      let s' := s.moves c ms
      ∀ r, b'.Terminal r → (∀ x ∈ calls (gained s' (s'.call c name r).2.2), x.2) →
      ∀ e, (s'.call c name r).1 = .error e → ∀ r', s'.records c b' r' ≠ some e := by
  intro h
  have hs := reached_opened.moves [.perform (.select "q" "Note")]
  exact h connection _ "q" (.select { content := .ofTable table }) hs rfl rfl
    [.perform (.call "q" .prepare)] (by simp [Move.Keeps])
    (.select { content := .ofTable table, slot := { statement := some 0, stage := .prepared } })
    rfl rfl .one trivial (by decide) _ rfl (.limit 1) rfl

end Notes

end Session

end RecordSql
