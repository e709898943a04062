import Mathlib.Data.List.Perm.Basic
import RecordSql.Proofs.Connection.ForeignKeys
import RecordSql.Proofs.Engine.Conversation

/-! The order in which tables are declared. What is checked when a connection is opened is said of
all pairs of tables and all references, so no order of the same declarations passes that another one
fails, and a table is found by its record type wherever it stands. -/

namespace RecordSql

variable {σ τ : Type}

namespace Engine

def answersTo (E : Engine σ) : List Call → σ → List Answer
  | [], _ => []
  | c :: rest, s => (E.respond c s).1 :: E.answersTo rest (E.respond c s).2

/-- No sequence of calls tells the one engine in its state from the other in its own. -/
def Alike (E : Engine σ) (s : σ) (F : Engine τ) (u : τ) : Prop :=
  ∀ cs, E.answersTo cs s = F.answersTo cs u

theorem Alike.batch_eq {E : Engine σ} {s : σ} {F : Engine τ} {u : τ} (h : E.Alike s F u)
    (sql : String) : (E.batch sql s).1 = (F.batch sql u).1 := by
  have hanswers : (E.respond (.batch sql) s).1 = (F.respond (.batch sql) u).1 :=
    (List.cons.inj (h [.batch sql])).1
  have hanswer : Answer.ofExcept (fun _ => .accepted) (E.batch sql s).1 =
      Answer.ofExcept (fun _ => .accepted) (F.batch sql u).1 := hanswers
  cases hE : (E.batch sql s).1 <;> cases hF : (F.batch sql u).1 <;> rw [hE, hF] at hanswer
  · exact congrArg Except.error (Answer.refused.inj hanswer)
  · cases hanswer
  · cases hanswer

end Engine

namespace Schema

theorem Resolves.perm {tables tables' : List Table} (hp : tables.Perm tables') {r : Reference}
    (h : Resolves tables r) : Resolves tables' r := by
  obtain ⟨t, ht, hresolves⟩ := h
  exact ⟨t, hp.mem_iff.1 ht, hresolves⟩

theorem Checked.perm {tables tables' : List Table} (hp : tables.Perm tables')
    (h : Checked tables) : Checked tables' where
  names := (hp.map Table.name).nodup_iff.1 h.names
  recordTypes := (hp.map Table.recordType).nodup_iff.1 h.recordTypes
  references t ht c hc r hr := (h.references t (hp.mem_iff.2 ht) c hc r hr).perm hp

theorem Checked.filter_eq {tables : List Table} {t : Table} (h : Checked tables) (ht : t ∈ tables) :
    tables.filter (·.recordType = t.recordType) = [t] := by
  have hn := h.recordTypes
  clear h
  induction tables with
  | nil => cases ht
  | cons u rest ih =>
    obtain ⟨hu, hrest⟩ := List.nodup_cons.1 hn
    have hother : ∀ v ∈ rest, v.recordType ≠ u.recordType := fun v hv he =>
      hu (he ▸ List.mem_map_of_mem hv)
    rcases List.mem_cons.1 ht with rfl | ht
    · have hnone : rest.filter (·.recordType = t.recordType) = [] :=
        List.filter_eq_nil_iff.2 fun v hv => by simpa using hother v hv
      rw [List.filter_cons_of_pos (by simp), hnone]
    · rw [List.filter_cons_of_neg (by simpa using (hother t ht).symm), ih ht hrest]

theorem table_eq_ok {s : Schema} {recordType : String} {t : Table} :
    s.table recordType = .ok t ↔ t ∈ s.tables ∧ t.recordType = recordType := by
  have hn := (fault?_eq_none.1 s.wellFormed).recordTypes
  unfold table
  cases hf : s.tables.find? (·.recordType = recordType) with
  | none =>
    refine iff_of_false nofun ?_
    rintro ⟨ht, hr⟩
    exact absurd hr (by simpa using List.find?_eq_none.1 hf t ht)
  | some t' =>
    have ht' := List.mem_of_find?_eq_some hf
    have hr' : t'.recordType = recordType := by simpa using List.find?_some hf
    constructor
    · intro h
      cases h
      exact ⟨ht', hr'⟩
    · rintro ⟨ht, rfl⟩
      rw [List.inj_on_of_nodup_map hn ht' ht hr']

theorem table_of_none {s : Schema} {recordType : String}
    (h : ∀ t ∈ s.tables, t.recordType ≠ recordType) :
    s.table recordType =
      .error (.notFound ("no table registered for record type " ++ quoted recordType)) := by
  have hf : s.tables.find? (·.recordType = recordType) = none :=
    List.find?_eq_none.2 fun t ht => by simpa using h t ht
  rw [table, hf]

end Schema

namespace Connection

def Consistent (declarations : List (Except Error Table)) : Prop :=
  ∃ tables, declarations = tables.map .ok ∧ Schema.Checked tables

def declaredFor (recordType : String) (declarations : List (Except Error Table)) : List Table :=
  declarations.filterMap fun d => d.toOption.filter (·.recordType = recordType)

section

variable {declarations declarations' : List (Except Error Table)}

theorem Consistent.perm (hp : declarations.Perm declarations') (h : Consistent declarations) :
    Consistent declarations' := by
  obtain ⟨tables, rfl, hchecked⟩ := h
  have hmap : Relation.Comp (· = List.map Except.ok ·) List.Perm declarations' tables := by
    rw [List.eq_map_comp_perm]
    exact hp.symm
  obtain ⟨tables', rfl, hp'⟩ := hmap
  exact ⟨tables', rfl, hchecked.perm hp'.symm⟩

theorem consistent_perm (hp : declarations.Perm declarations') :
    Consistent declarations ↔ Consistent declarations' := ⟨.perm hp, .perm hp.symm⟩

theorem consistent_iff :
    Consistent declarations ↔ ∃ s : Schema, declarations = s.tables.map .ok := by
  constructor
  · rintro ⟨tables, rfl, hchecked⟩
    exact ⟨⟨tables, Schema.fault?_eq_none.2 hchecked⟩, rfl⟩
  · rintro ⟨s, rfl⟩
    exact ⟨s.tables, rfl, Schema.fault?_eq_none.1 s.wellFormed⟩

theorem declaredFor_map (recordType : String) (tables : List Table) :
    declaredFor recordType (tables.map .ok) = tables.filter (·.recordType = recordType) := by
  rw [declaredFor, List.filterMap_map, ← List.filterMap_eq_filter]
  refine congrArg (tables.filterMap ·) (funext fun t => ?_)
  simp [Except.toOption, Option.guard, Option.filter]

variable {engine : Engine σ} {config : Config} {w : World σ}

theorem does_ofExcept_of {α : Type} {x y : Except Error α} (h : x = y) (w : World σ) :
    (Run.ofExcept x).Does w y w.engine [] :=
  h ▸ does_ofExcept x w

/-- What is wrong with the declarations is found before the engine is asked for anything. -/
theorem does_openOn_of_not (h : ¬Consistent declarations) :
    ∃ e, (openOn engine config declarations).Does w (.error e) w.engine [] := by
  have hchecked : ∃ e,
      (checkedSchema declarations : Run σ Schema).Does w (.error e) w.engine [] := by
    cases hd : declared declarations with
    | error e => exact ⟨e, ((does_ofExcept_of hd w).logged .tableDeclaration).bind_error⟩
    | ok tables =>
      cases hs : Schema.ofTables tables with
      | ok s =>
        have hall : declarations = s.tables.map .ok := by
          rw [declared_eq_ok.1 hd, ofTables_eq_ok.1 hs]
        exact absurd (consistent_iff.2 ⟨s, hall⟩) h
      | error e =>
        refine ⟨e, ((does_ofExcept_of hd w).logged .tableDeclaration).bind_silent fun w' hw => ?_⟩
        rw [← hw]
        exact (does_ofExcept_of hs w').logged .schemaValidation
  obtain ⟨e, he⟩ := hchecked
  exact ⟨e, he.bind_error⟩

theorem succeeded_openOn :
    succeeded (openOn engine config declarations w).1 ↔
      Consistent declarations ∧
        (engine.batch (pragmaText config.foreignKeys) w.engine).1 = .ok () := by
  constructor
  · intro h
    cases hc : (openOn engine config declarations w).1 with
    | error e => rw [hc] at h; cases h
    | ok c =>
      obtain ⟨-, -, hdeclared, hbatch⟩ := openOn_eq_ok.1 hc
      exact ⟨consistent_iff.2 ⟨c.schema, hdeclared⟩, hbatch⟩
  · rintro ⟨hconsistent, hbatch⟩
    obtain ⟨s, hs⟩ := consistent_iff.1 hconsistent
    have hok : (openOn engine config declarations w).1 = .ok ⟨engine, s, config⟩ :=
      openOn_eq_ok.2 ⟨rfl, rfl, hs, hbatch⟩
    rw [hok]
    rfl

/-- The tables of a connection are found under the record types that they were declared for, one
under each, and none under any other. -/
structure Provides (c : Connection σ) (declarations : List (Except Error Table)) : Prop where
  declared : ∀ recordType t, t ∈ declaredFor recordType declarations →
    declaredFor recordType declarations = [t] ∧ c.table recordType = .ok t
  undeclared : ∀ recordType, declaredFor recordType declarations = [] →
    c.table recordType =
      .error (.notFound ("no table registered for record type " ++ quoted recordType))

theorem provides_of_openOn {c : Connection σ}
    (h : (openOn engine config declarations w).1 = .ok c) : c.Provides declarations := by
  obtain ⟨-, -, rfl, -⟩ := openOn_eq_ok.1 h
  have hchecked := Schema.fault?_eq_none.1 c.schema.wellFormed
  constructor
  · intro recordType t ht
    rw [declaredFor_map] at ht ⊢
    obtain ⟨hmem, hr⟩ := List.mem_filter.1 ht
    obtain rfl : t.recordType = recordType := by simpa using hr
    exact ⟨hchecked.filter_eq hmem, Schema.table_eq_ok.2 ⟨hmem, rfl⟩⟩
  · intro recordType hnone
    rw [declaredFor_map] at hnone
    refine Schema.table_of_none fun t ht => ?_
    simpa using List.filter_eq_nil_iff.1 hnone t ht

theorem Provides.perm {c : Connection σ} (hp : declarations.Perm declarations')
    (h : c.Provides declarations) : c.Provides declarations' := by
  have hfor (recordType : String) :
      (declaredFor recordType declarations).Perm (declaredFor recordType declarations') :=
    hp.filterMap _
  constructor
  · intro recordType t ht
    obtain ⟨hone, htable⟩ := h.declared recordType t ((hfor recordType).mem_iff.2 ht)
    have hperm := hfor recordType
    rw [hone] at hperm
    exact ⟨List.perm_singleton.1 hperm.symm, htable⟩
  · intro recordType hnone
    have hperm := hfor recordType
    rw [hnone] at hperm
    exact h.undeclared recordType (List.perm_nil.1 hperm)

end

structure OpenAlike (declarations : List (Except Error Table)) (opening : Run σ (Connection σ))
    (w : World σ) (opening' : Run τ (Connection τ)) (w' : World τ) : Prop where
  succeeds_iff : succeeded (opening w).1 ↔ succeeded (opening' w').1
  /-- A declaration or a check that fails keeps both from their engines. -/
  silent : ¬Consistent declarations →
    (∃ e, opening.Does w (.error e) w.engine []) ∧ ∃ e, opening'.Does w' (.error e) w'.engine []
  provides : ∀ c c', (opening w).1 = .ok c → (opening' w').1 = .ok c' →
    c.Provides declarations ∧ c'.Provides declarations

theorem openOn_perm {declarations declarations' : List (Except Error Table)}
    (hp : declarations.Perm declarations') {engine : Engine σ} {engine' : Engine τ} {w : World σ}
    {w' : World τ} (ha : engine.Alike w.engine engine' w'.engine) (config : Config) :
    OpenAlike declarations (openOn engine config declarations) w
      (openOn engine' config declarations') w' := by
  refine ⟨?_, fun h => ⟨does_openOn_of_not h, ?_⟩, fun c c' hc hc' => ?_⟩
  · rw [succeeded_openOn, succeeded_openOn, consistent_perm hp, ha.batch_eq]
  · exact does_openOn_of_not fun h' => h (h'.perm hp.symm)
  · exact ⟨provides_of_openOn hc, (provides_of_openOn hc').perm hp.symm⟩

namespace Shelves

theorem openOn_perm_books :
    let inOrder : List (Except Error Table) := [.ok authors, .ok (books [⟨"authors", "id"⟩])]
    let forward : List (Except Error Table) := [.ok (books [⟨"authors", "id"⟩]), .ok authors]
    let w : World Script.State := { engine := {} }
    inOrder.Perm forward ∧ Script.engine.Alike w.engine Script.engine w.engine ∧
      succeeded (openOn Script.engine {} forward w).1 ∧
      OpenAlike inOrder (openOn Script.engine {} inOrder) w
        (openOn Script.engine {} forward) w := by
  intro inOrder forward w
  have hp : inOrder.Perm forward := .swap ..
  have ha : Script.engine.Alike w.engine Script.engine w.engine := fun _ => rfl
  exact ⟨hp, ha, rfl, openOn_perm hp ha {}⟩

end Shelves

end Connection

end RecordSql
