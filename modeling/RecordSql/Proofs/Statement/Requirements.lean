import RecordSql.Proofs.Statement.Addressing
import RecordSql.Proofs.Statement.Resolution
import RecordSql.Session.Basic

/-! What a statement has to meet before it is built, as one list in the order of its text. A
statement is built exactly if everything in the list holds, and otherwise it is refused for the
first thing that does not. How a condition is grouped cannot be seen in the list. -/

namespace RecordSql

inductive Requirement where
  /-- An UPDATE of the table assigns something. -/
  | assigned (table : String) (assignments : List (String × Value))
  /-- The reference denotes a column. -/
  | column (scope : Scope) (r : ColumnRef)
  /-- The column that the reference denotes takes the value. -/
  | value (scope : Scope) (r : ColumnRef) (v : Value)
  /-- A raw part has a value for each placeholder. -/
  | placeholders (sql : String) (params : Params)

namespace Requirement

variable {α β : Type}

def Holds : Requirement → Prop
  | .assigned _ assignments => assignments ≠ []
  | .column scope r => ∃ c, scope.Finds r (.ok c)
  | .value scope r v => ∀ c, scope.Finds r (.ok c) → c.Takes v
  | .placeholders sql params => Placeholder.count sql = params.length

inductive Fails : Requirement → Error → Prop
  | assigned (table : String) :
    Fails (.assigned table []) (.validation ("UPDATE of " ++ quoted table ++ " has no SET columns"))
  | column {scope : Scope} {r : ColumnRef} {fault : SchemaError}
    (h : scope.Finds r (.error fault)) : Fails (.column scope r) (.schema fault)
  | value {scope : Scope} {r : ColumnRef} {c : Column} {v : Value} (h : scope.Finds r (.ok c))
    (hv : ¬c.Takes v) : Fails (.value scope r v) (.typeMismatch c.name c.storage v.typeName)
  | placeholders {sql : String} {params : Params} (h : Placeholder.count sql ≠ params.length) :
    Fails (.placeholders sql params) (.validation ("raw condition has " ++
      toString (Placeholder.count sql) ++ " placeholders but " ++ toString params.length ++
      " values"))

theorem Fails.not_holds {k : Requirement} {e : Error} (h : k.Fails e) : ¬k.Holds := by
  cases h with
  | assigned => exact fun hk => hk rfl
  | column h => exact fun ⟨c, hc⟩ => nomatch h.unique hc
  | value h hv => exact fun hk => hv (hk _ h)
  | placeholders h => exact h

theorem Fails.unique {k : Requirement} {e e' : Error} (h : k.Fails e) (h' : k.Fails e') :
    e = e' := by
  cases h with
  | assigned => cases h'; rfl
  | column h =>
    cases h' with
    | column h' =>
      cases h.unique h'
      rfl
  | value h _ =>
    cases h' with
    | value h' _ =>
      cases h.unique h'
      rfl
  | placeholders => cases h'; rfl

def Refuses (ks : List Requirement) (e : Error) : Prop :=
  ∃ front k back, ks = front ++ k :: back ∧ (∀ j ∈ front, j.Holds) ∧ k.Fails e

theorem refuses_cons {k : Requirement} {ks : List Requirement} {e : Error} :
    Refuses (k :: ks) e ↔ k.Fails e ∨ (k.Holds ∧ Refuses ks e) := by
  constructor
  · rintro ⟨front, k', back, heq, hfront, hk⟩
    cases front with
    | nil =>
      obtain ⟨rfl, rfl⟩ := List.cons.inj heq
      exact .inl hk
    | cons j front =>
      obtain ⟨rfl, rfl⟩ := List.cons.inj heq
      obtain ⟨hj, hfront⟩ := List.forall_mem_cons.1 hfront
      exact .inr ⟨hj, front, k', back, rfl, hfront, hk⟩
  · rintro (hk | ⟨hk, front, k', back, rfl, hfront, hk'⟩)
    · exact ⟨[], k, ks, rfl, nofun, hk⟩
    · exact ⟨k :: front, k', back, rfl, List.forall_mem_cons.2 ⟨hk, hfront⟩, hk'⟩

theorem Refuses.append {ks : List Requirement} {e : Error} (h : Refuses ks e)
    (ls : List Requirement) : Refuses (ks ++ ls) e := by
  obtain ⟨front, k, back, rfl, hfront, hk⟩ := h
  exact ⟨front, k, back ++ ls, by simp, hfront, hk⟩

theorem Refuses.after {ks ls : List Requirement} {e : Error} (hks : ∀ k ∈ ks, k.Holds)
    (h : Refuses ls e) : Refuses (ks ++ ls) e := by
  obtain ⟨front, k, back, rfl, hfront, hk⟩ := h
  exact ⟨ks ++ front, k, back, by simp, List.forall_mem_append.2 ⟨hks, hfront⟩, hk⟩

theorem Refuses.unique {ks : List Requirement} {e e' : Error} (h : Refuses ks e)
    (h' : Refuses ks e') : e = e' := by
  induction ks with
  | nil =>
    obtain ⟨front, k, back, hnil, -, -⟩ := h
    simp at hnil
  | cons k ks ih =>
    rcases refuses_cons.1 h with hk | ⟨hk, hks⟩ <;> rcases refuses_cons.1 h' with hk' | ⟨hk', hks'⟩
    · exact hk.unique hk'
    · exact absurd hk' hk.not_holds
    · exact absurd hk hk'.not_holds
    · exact ih hks hks'

theorem Refuses.not_all {ks : List Requirement} {e : Error} (h : Refuses ks e) :
    ¬∀ k ∈ ks, k.Holds := by
  obtain ⟨front, k, back, rfl, -, hk⟩ := h
  exact fun hall => hk.not_holds (hall k (by simp))

/-- A result that depends on a list of requirements: there is one if all of them hold, and the error
is that of the first that does not. -/
def Decides (ks : List Requirement) : Except Error α → Prop
  | .ok _ => ∀ k ∈ ks, k.Holds
  | .error e => Refuses ks e

namespace Decides

variable {ks ls : List Requirement} {x : Except Error α}

theorem exists_ok_iff (h : Decides ks x) : (∃ a, x = .ok a) ↔ ∀ k ∈ ks, k.Holds := by
  cases x with
  | ok a => exact iff_of_true ⟨a, rfl⟩ h
  | error e => exact iff_of_false (fun ⟨_, ha⟩ => nomatch ha) h.not_all

theorem eq_error_iff (h : Decides ks x) (e : Error) : x = .error e ↔ Refuses ks e := by
  cases x with
  | ok a => exact iff_of_false nofun fun hr => hr.not_all h
  | error e' =>
    refine ⟨fun he => Except.error.inj he ▸ h, fun hr => ?_⟩
    exact congrArg Except.error (Refuses.unique h hr)

theorem nil (a : α) : Decides [] (.ok a : Except Error α) := nofun

theorem cons {k : Requirement} (hk : k.Holds) (h : Decides ks x) : Decides (k :: ks) x := by
  cases x with
  | ok a => exact List.forall_mem_cons.2 ⟨hk, h⟩
  | error e => exact refuses_cons.2 (.inr ⟨hk, h⟩)

theorem bind {f : α → Except Error β} (h : Decides ks x) (hf : ∀ a, x = .ok a → Decides ls (f a)) :
    Decides (ks ++ ls) (x >>= f) := by
  cases x with
  | error e => exact Refuses.append h ls
  | ok a =>
    have hnext := hf a rfl
    change Decides (ks ++ ls) (f a)
    cases hfa : f a with
    | error e =>
      rw [hfa] at hnext
      exact Refuses.after h hnext
    | ok b =>
      rw [hfa] at hnext
      exact List.forall_mem_append.2 ⟨h, hnext⟩

theorem bind_ok {f : α → β} (h : Decides ks x) : Decides ks (x >>= fun a => .ok (f a)) := by
  have hbind := h.bind fun a _ => nil (f a)
  rwa [List.append_nil] at hbind

variable {γ : Type} {xs : List γ} {g : γ → List Requirement}

theorem forM {f : γ → Except Error Unit} (h : ∀ a, Decides (g a) (f a)) :
    Decides (xs.flatMap g) (xs.forM f) := by
  induction xs with
  | nil => exact nil ()
  | cons a xs ih =>
    rw [List.flatMap_cons]
    exact (h a).bind fun _ _ => ih

theorem mapM {f : γ → Except Error α} (h : ∀ a, Decides (g a) (f a)) :
    Decides (xs.flatMap g) (xs.mapM f) := by
  induction xs with
  | nil => exact nil []
  | cons a xs ih =>
    rw [List.flatMap_cons, List.mapM_cons]
    exact (h a).bind fun _ _ => ih.bind_ok

theorem optionForM {o : Option γ} {f : γ → Except Error Unit} (h : ∀ a, Decides (g a) (f a)) :
    Decides (o.toList.flatMap g) (o.forM f) := by
  cases o with
  | none => exact nil ()
  | some a =>
    rw [Option.toList_some, List.flatMap_singleton]
    exact h a

end Decides

end Requirement

open Requirement

theorem Column.decides_check {scope : Scope} {r : ColumnRef} {c : Column}
    (h : scope.Finds r (.ok c)) (v : Value) : Decides [.value scope r v] (c.check v) := by
  by_cases hv : c.Takes v
  · rw [Column.check_of_takes hv]
    refine List.forall_mem_singleton.2 fun c' hc' => ?_
    cases h.unique hc'
    exact hv
  · have hfails : c.check v = .error (.mismatch c.name c.storage v) := by
      cases hc : c.check v with
      | ok => exact absurd (Column.takes_of_check hc) hv
      | error e =>
        unfold Column.check at hc
        split at hc
        · split_ifs at hc
          exact hc.symm
        · cases hc
    rw [hfails]
    exact refuses_cons.2 (.inl (.value h hv))

theorem Scope.decides_checkValues (scope : Scope) (r : ColumnRef) (values : List Value) :
    Decides (.column scope r :: values.map (.value scope r)) (scope.checkValues r values) := by
  obtain ⟨x, hx⟩ := scope.exists_finds r
  have hcolumn : ∀ x, scope.Finds r x →
      Decides [.column scope r] (x.mapError Error.schema) := by
    intro x hx
    cases x with
    | error fault => exact refuses_cons.2 (.inl (.column hx))
    | ok c => exact List.forall_mem_singleton.2 ⟨c, hx⟩
  have hvalues : ∀ c, scope.resolve r = .ok c →
      Decides (values.map (.value scope r)) (values.forM c.check) := by
    intro c hc
    rw [List.map_eq_flatMap]
    exact .forM (Column.decides_check (scope.finds_iff.2 hc))
  unfold checkValues
  exact .bind (hx.resolve_eq ▸ hcolumn x hx) hvalues

namespace Condition

def requirements (scope : Scope) : Condition → List Requirement
  | .compare r _ v => [.column scope r, .value scope r v]
  | .columns left _ right => [.column scope left, .column scope right]
  | .logical _ left right => left.requirements scope ++ right.requirements scope
  | .not inner => inner.requirements scope
  | .nullCheck r _ => [.column scope r]
  | .inList r values _ => .column scope r :: values.map (.value scope r)
  | .between r low high _ => [.column scope r, .value scope r low, .value scope r high]
  | .raw sql params => [.placeholders sql params]

theorem decides_check (scope : Scope) (e : Condition) :
    Decides (e.requirements scope) (e.check scope) := by
  induction e with
  | compare r _ v => exact scope.decides_checkValues r [v]
  | columns left _ right =>
    exact (scope.decides_checkValues left []).bind fun _ _ => scope.decides_checkValues right []
  | logical _ left right ihl ihr => exact ihl.bind fun _ _ => ihr
  | not inner ih => exact ih
  | nullCheck r _ => exact scope.decides_checkValues r []
  | inList r values _ => exact scope.decides_checkValues r values
  | between r low high _ => exact scope.decides_checkValues r [low, high]
  | raw sql params =>
    unfold check
    split
    · next h => exact List.forall_mem_singleton.2 h
    · next h => exact refuses_cons.2 (.inl (.placeholders h))

inductive Regroups : Condition → Condition → Prop
  | refl (e : Condition) : Regroups e e
  | symm {e e' : Condition} : Regroups e e' → Regroups e' e
  | trans {e e' e'' : Condition} : Regroups e e' → Regroups e' e'' → Regroups e e''
  | not (e : Condition) : Regroups (.not e) e
  | assoc (op₁ op₂ op₃ op₄ : Connective) (a b c : Condition) :
    Regroups (.logical op₁ (.logical op₂ a b) c) (.logical op₃ a (.logical op₄ b c))
  | logical (op op' : Connective) {a a' b b' : Condition} : Regroups a a' → Regroups b b' →
    Regroups (.logical op a b) (.logical op' a' b')

theorem Regroups.requirements_eq {e e' : Condition} (h : Regroups e e') (scope : Scope) :
    e.requirements scope = e'.requirements scope := by
  induction h with
  | refl => rfl
  | symm _ ih => exact ih.symm
  | trans _ _ ih ih' => exact ih.trans ih'
  | not => rfl
  | assoc => exact List.append_assoc ..
  | logical _ _ _ _ iha ihb => exact congrArg₂ (· ++ ·) iha ihb

end Condition

def filterRequirements (scope : Scope) (condition : Option Condition) : List Requirement :=
  condition.toList.flatMap (Condition.requirements scope)

theorem filterRequirements_eq {e e' : Option Condition} (h : Option.Rel Condition.Regroups e e')
    (scope : Scope) : filterRequirements scope e = filterRequirements scope e' := by
  cases h with
  | none => rfl
  | some h => simp only [filterRequirements, Option.toList_some, List.flatMap_singleton,
      h.requirements_eq scope]

namespace Joined

inductive Regroups : Joined → Joined → Prop
  | base (s : Source) : Regroups (.base s) (.base s)
  | join {left left' : Joined} {on on' : Condition} (kind : JoinKind) (right : Source) :
    Regroups left left' → on.Regroups on' →
    Regroups (.join left kind right on) (.join left' kind right on')

theorem Regroups.scope_eq {j j' : Joined} (h : Regroups j j') : j.scope = j'.scope := by
  induction h with
  | base => rfl
  | join kind right _ _ ih => rw [scope, scope, ih]

theorem Regroups.requirements_eq {j j' : Joined} (h : Regroups j j') (scope : Scope) :
    j.conditions.flatMap (Condition.requirements scope) =
      j'.conditions.flatMap (Condition.requirements scope) := by
  induction h with
  | base => rfl
  | join kind right _ hon ih =>
    rw [conditions, conditions, List.flatMap_append, List.flatMap_append, ih]
    simp only [List.flatMap_singleton, hon.requirements_eq scope]

end Joined

namespace Select

def requirements (q : Select) : List Requirement :=
  (q.clauses.columns.getD []).map (.column q.sources.scope) ++
    (q.sources.conditions.flatMap (Condition.requirements q.sources.scope) ++
      (filterRequirements q.sources.scope q.clauses.condition ++
        q.clauses.order.map fun o => .column q.sources.scope o.1))

theorem decides_check (q : Select) : Decides q.requirements q.check := by
  have hcolumn (r : ColumnRef) := q.sources.scope.decides_checkValues r []
  unfold requirements check
  rw [List.map_eq_flatMap, List.map_eq_flatMap]
  refine (Decides.forM hcolumn).bind fun _ _ => ?_
  refine (Decides.forM (Condition.decides_check _)).bind fun _ _ => ?_
  refine (Decides.optionForM (Condition.decides_check _)).bind fun _ _ => ?_
  exact .forM fun o => hcolumn o.1

theorem decides_build (q : Select) : Decides q.requirements q.build := q.decides_check.bind_ok

end Select

namespace Update

def requirements (q : Update) : List Requirement :=
  .assigned q.table.name q.assignments ::
    ((q.assignments.flatMap fun (name, v) =>
        [.column q.scope (.plain name), .value q.scope (.plain name) v]) ++
      filterRequirements q.scope q.condition)

theorem decides_assignment (q : Update) (name : String) (v : Value) :
    Decides [.column q.scope (.plain name), .value q.scope (.plain name) v]
      (assignment q.table name v) := by
  have hscope : q.scope = [] ++ ⟨q.table.name, q.table.columns⟩ :: [] := rfl
  unfold assignment
  cases hc : q.table.find? name with
  | none =>
    have hfinds : q.scope.Finds (.plain name)
        (.error (.unknownColumn (quoted q.table.name) name)) :=
      .nowhere rfl (List.forall_mem_singleton.2 hc)
    exact refuses_cons.2 (.inl (.column hfinds))
  | some c =>
    have hfinds : q.scope.Finds (.plain name) (.ok c) := .alone rfl hscope nofun hc
    exact .cons ⟨c, hfinds⟩ (Column.decides_check hfinds v).bind_ok

theorem decides_build (q : Update) : Decides q.requirements q.build := by
  unfold requirements
  dsimp only [build]
  split
  · next hempty =>
    rw [List.isEmpty_iff.1 hempty]
    exact refuses_cons.2 (.inl (.assigned _))
  · next hempty =>
    refine .cons (fun h => hempty (List.isEmpty_iff.2 h)) ?_
    refine (Decides.mapM fun a : String × Value => q.decides_assignment a.1 a.2).bind fun _ _ => ?_
    exact (Decides.optionForM (Condition.decides_check _)).bind_ok

end Update

namespace Delete

def requirements (q : Delete) : List Requirement := filterRequirements q.scope q.condition

theorem decides_build (q : Delete) : Decides q.requirements q.build :=
  (Decides.optionForM (Condition.decides_check _)).bind_ok

end Delete

namespace AnyBuilder

def requirements? : AnyBuilder → Option (List Requirement)
  | .select b => some b.content.requirements
  | .insert _ => none
  | .update b => some b.content.requirements
  | .delete b => some b.content.requirements

inductive Regroups : AnyBuilder → AnyBuilder → Prop
  | select (b : Builder Select) {sources : Joined} {condition : Option Condition}
    (hs : b.content.sources.Regroups sources)
    (hc : Option.Rel Condition.Regroups b.content.clauses.condition condition) :
    Regroups (.select b) (.select { b with content := { b.content with
      sources := sources, clauses := { b.content.clauses with condition := condition } } })
  | update (b : Builder Update) {condition : Option Condition}
    (hc : Option.Rel Condition.Regroups b.content.condition condition) :
    Regroups (.update b) (.update { b with content := { b.content with condition := condition } })
  | delete (b : Builder Delete) {condition : Option Condition}
    (hc : Option.Rel Condition.Regroups b.content.condition condition) :
    Regroups (.delete b) (.delete { b with content := { b.content with condition := condition } })

variable {b b' : AnyBuilder} {ks : List Requirement}

theorem Regroups.requirements?_eq (h : b.Regroups b') : b'.requirements? = b.requirements? := by
  cases h with
  | select b hs hc =>
    have hscope := hs.scope_eq
    simp only [requirements?, Select.requirements, ← hscope, ← hs.requirements_eq,
      ← filterRequirements_eq hc]
  | update b hc =>
    have hw := filterRequirements_eq hc b.content.scope
    simp only [requirements?, Update.requirements, Update.scope] at hw ⊢
    rw [hw]
  | delete b hc =>
    have hw := filterRequirements_eq hc b.content.scope
    simp only [requirements?, Delete.requirements, Delete.scope] at hw ⊢
    rw [hw]

theorem Regroups.slot_eq (h : b.Regroups b') : b'.slot = b.slot := by
  cases h <;> rfl

theorem decides_build (hks : b.requirements? = some ks) (he : b.slot.error = none) :
    Decides ks b.build := by
  have hslot : ∀ s : Slot, s.error = none → s.check = .ok () := by
    intro s hs
    rw [Slot.check, hs]
  cases b with
  | insert => cases hks
  | select b =>
    cases hks
    have hb := hslot b.slot he
    rw [build, Builder.build, hb]
    exact b.content.decides_build
  | update b =>
    cases hks
    have hb := hslot b.slot he
    rw [build, Builder.build, hb]
    exact b.content.decides_build
  | delete b =>
    cases hks
    have hb := hslot b.slot he
    rw [build, Builder.build, hb]
    exact b.content.decides_build

structure Requires (b : AnyBuilder) (ks : List Requirement) : Prop where
  built_iff : (∃ sql, b.build = .ok sql) ↔ ∀ k ∈ ks, k.Holds
  refused_iff : ∀ e, b.build = .error e ↔
    ∃ front k back, ks = front ++ k :: back ∧ (∀ j ∈ front, j.Holds) ∧ k.Fails e
  /-- Any other builder with the same list is refused alike. -/
  alike : ∀ b' : AnyBuilder, b'.requirements? = some ks → b'.slot.error = none →
    ∀ e, b'.build = .error e ↔ b.build = .error e
  regrouped : ∀ b' : AnyBuilder, b.Regroups b' → ∀ e, b'.build = .error e ↔ b.build = .error e

theorem refusedInOrder (hks : b.requirements? = some ks) (he : b.slot.error = none) :
    b.Requires ks := by
  have hb := decides_build hks he
  have halike : ∀ b' : AnyBuilder, b'.requirements? = some ks → b'.slot.error = none →
      ∀ e, b'.build = .error e ↔ b.build = .error e := by
    intro b' hks' he' e
    exact ((decides_build hks' he').eq_error_iff e).trans (hb.eq_error_iff e).symm
  refine ⟨hb.exists_ok_iff, hb.eq_error_iff, halike, fun b' hb' => ?_⟩
  have hslot : b'.slot.error = none := by rw [hb'.slot_eq, he]
  exact halike b' (hb'.requirements?_eq.trans hks) hslot

end AnyBuilder

namespace Errands

def table : Table where
  name := "errands"
  recordType := "Errand"
  fields :=
    [{ name := "id", type := { scalar := .integer .i64 } },
      { name := "title", type := { scalar := .text } }]
  wellFormed := rfl

def misspelled : Builder Select where
  content := { Select.ofTable table with
    clauses := { condition := some (.logical .or (.compare (.plain "title") .eq (.integer 1))
      (.not (.nullCheck (.plain "due") true))) } }

theorem refusedInOrder_misspelled :
    (AnyBuilder.select misspelled).Requires misspelled.content.requirements ∧
      (AnyBuilder.select misspelled).build = .error (.typeMismatch "title" .text "INTEGER") := by
  have hb : (AnyBuilder.select misspelled).Requires misspelled.content.requirements :=
    AnyBuilder.refusedInOrder rfl rfl
  refine ⟨hb, (hb.refused_iff _).2 ?_⟩
  have hscope : misspelled.content.sources.scope = [] ++ ⟨table.name, table.columns⟩ :: [] := rfl
  have hfinds : misspelled.content.sources.scope.Finds (.plain "title")
      (.ok { name := "title", storage := .text, optional := false, ordinal := 1 }) :=
    .alone rfl hscope nofun rfl
  refine ⟨[_], _, [_], rfl, ?_, .value hfinds ?_⟩
  · exact List.forall_mem_singleton.2 ⟨_, hfinds⟩
  · rintro (hnull | ⟨found, hfound, haccepts⟩)
    · cases hnull
    · cases hfound
      cases haccepts

end Errands

end RecordSql
