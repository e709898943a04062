import RecordSql.Proofs.Derive.Described

/-! What a declaration expands to: the calls that make its table, one after the other, or nothing if
some part of what its fields say has no meaning. -/

namespace RecordSql.Derive

namespace Attribute

theorem AllLists.mem_iff {attributes : List Attribute} {ps : List (List Tree)}
    (h : AllLists attributes ps) {p : List Tree} :
    p ∈ ps ↔ ∃ a ∈ attributes, a.isMapping ∧ ∃ qs, a.Lists qs ∧ p ∈ qs := by
  obtain ⟨pss, hpss, rfl⟩ := h
  rw [List.mem_flatten]
  constructor
  · rintro ⟨qs, hqs, hp⟩
    obtain ⟨a, ha, hlists⟩ := exists_of_mem_right hpss hqs
    obtain ⟨ha, hmapping⟩ := List.mem_filter.1 ha
    exact ⟨a, ha, hmapping, qs, hlists, hp⟩
  · rintro ⟨a, ha, hmapping, qs, hlists, hp⟩
    obtain ⟨qs', hqs', hlists'⟩ := exists_of_mem_left hpss (List.mem_filter.2 ⟨ha, hmapping⟩)
    exact ⟨qs', hqs', hlists.unique hlists' ▸ hp⟩

end Attribute

def argumentKeys : String → List String
  | "primary_key" => ["conflict", "autoincrement"]
  | "not_null" | "unique" => ["conflict"]
  | "foreign_key" => ["table", "column", "on_update", "on_delete"]
  | _ => []

inductive Faulty : List Tree → Prop
  | nameless {p : List Tree} (h : headWord p = none) : Faulty p
  | unknown {key : String} {rest : List Tree} (h : key ∉ fieldKeys) :
    Faulty (.leaf (.word key) :: rest)
  | qualified {key : String} {rest : List Tree} :
    Faulty (.leaf (.word key) :: .leaf (.mark "::") :: rest)
  | argument {key : String} {content rest p : List Tree} {ps : List (List Tree)}
    (hc : Separates content ps) (hp : p ∈ ps)
    (h : ∀ word, headWord p = some word → word ∉ argumentKeys key) :
    Faulty (.leaf (.word key) :: .group .parenthesis content :: rest)
  | policy {key : String} {content rest : List Tree} {ps : List (List Tree)} {t : TextLiteral}
    (hc : Separates content ps) (hp : .leaf (.word "conflict") :: assigned t ∈ ps)
    (h : ∀ policy, (t.value.toLower, policy) ∉ policyNames) :
    Faulty (.leaf (.word key) :: .group .parenthesis content :: rest)
  | action {key : String} {content rest : List Tree} {ps : List (List Tree)} {t : TextLiteral}
    (hk : key ∈ ["on_update", "on_delete"]) (hc : Separates content ps)
    (hp : .leaf (.word key) :: assigned t ∈ ps)
    (h : ∀ action, (normalized t.value, action) ∉ actionNames) :
    Faulty (.leaf (.word "foreign_key") :: .group .parenthesis content :: rest)
  | incomplete {key : String} {content rest : List Tree} {ps : List (List Tree)}
    (hk : key ∈ ["table", "column"]) (hc : Separates content ps)
    (h : ∀ p ∈ ps, headWord p ≠ some key) :
    Faulty (.leaf (.word "foreign_key") :: .group .parenthesis content :: rest)
  | bare {rest : List Tree} (h : ∀ content, rest.head? ≠ some (.group .parenthesis content)) :
    Faulty (.leaf (.word "foreign_key") :: rest)

structure Argues (key : String) (p : List Tree) : Prop where
  known : ∃ word, headWord p = some word ∧ word ∈ argumentKeys key
  policy : ∀ t, p = .leaf (.word "conflict") :: assigned t →
    ∃ policy, (t.value.toLower, policy) ∈ policyNames
  action : ∀ key ∈ ["on_update", "on_delete"], ∀ t, p = .leaf (.word key) :: assigned t →
    ∃ action, (normalized t.value, action) ∈ actionNames

theorem Argues.text {key word : String} {t : TextLiteral} (hk : word ∈ argumentKeys key)
    (hp : word = "conflict" → ∃ policy, (t.value.toLower, policy) ∈ policyNames)
    (ha : word ∈ ["on_update", "on_delete"] →
      ∃ action, (normalized t.value, action) ∈ actionNames) :
    Argues key (.leaf (.word word) :: assigned t) where
  known := ⟨word, rfl, hk⟩
  policy t' ht := by
    obtain ⟨rfl, rfl⟩ : word = "conflict" ∧ t = t' := by simpa [assigned] using ht
    exact hp rfl
  action word' hword t' ht := by
    obtain ⟨rfl, rfl⟩ : word = word' ∧ t = t' := by simpa [assigned] using ht
    exact ha hword

section

variable {p : List Tree}

theorem PolicyWritten.argues {key : String} {a : ConflictPolicy} (h : PolicyWritten p a)
    (hk : "conflict" ∈ argumentKeys key) : Argues key p := by
  cases h with
  | conflict hp => exact .text hk (fun _ => ⟨a, hp⟩) (absurd · (by decide))

theorem KeyArgument.Written.argues {a : KeyArgument} (h : Written p a) :
    Argues "primary_key" p := by
  cases h with
  | conflict hp => exact PolicyWritten.argues (.conflict hp) (by decide)
  | autoincrement =>
    exact ⟨⟨_, rfl, by decide⟩, fun t ht => by simp [assigned] at ht,
      fun key _ t ht => by simp [assigned] at ht⟩

theorem ReferenceArgument.Written.argues {a : ReferenceArgument} (h : Written p a) :
    Argues "foreign_key" p := by
  cases h with
  | table t => exact .text (by decide) (absurd · (by decide)) (absurd · (by decide))
  | column t => exact .text (by decide) (absurd · (by decide)) (absurd · (by decide))
  | onUpdate ha => exact .text (by decide) (absurd · (by decide)) fun _ => ⟨_, ha⟩
  | onDelete ha => exact .text (by decide) (absurd · (by decide)) fun _ => ⟨_, ha⟩

theorem ReferenceArgument.Written.headWord_of_table? {a : ReferenceArgument} {table : String}
    (h : Written p a) (ht : a.table? = some table) : headWord p = some "table" := by
  cases h <;> first | rfl | cases ht

theorem ReferenceArgument.Written.headWord_of_column? {a : ReferenceArgument} {column : String}
    (h : Written p a) (hc : a.column? = some column) : headWord p = some "column" := by
  cases h <;> first | rfl | cases hc

end

section

variable {α : Type} {Written : List Tree → α → Prop} {content rest p : List Tree}
  {ps : List (List Tree)} {as : List α}

theorem Enclosed.of_group (h : Enclosed Written (.group .parenthesis content :: rest) as)
    (hc : Separates content ps) : List.Forall₂ Written ps as := by
  cases h with
  | mk _ hlisted =>
    obtain ⟨qs, hqs, hwritten⟩ := hlisted
    exact hc.unique hqs ▸ hwritten

theorem Optional.of_group (h : Optional Written (.group .parenthesis content :: rest) as)
    (hc : Separates content ps) : List.Forall₂ Written ps as := by
  cases h with
  | given h => exact h.of_group hc

theorem argues_of_forall₂ {key : String} (h : List.Forall₂ Written ps as)
    (hall : ∀ p a, Written p a → Argues key p) (hp : p ∈ ps) : Argues key p := by
  obtain ⟨a, -, ha⟩ := exists_of_mem_left h hp
  exact hall p a ha

end

namespace FieldItem.Written

variable {p rest content : List Tree} {ps : List (List Tree)} {key : String} {item : FieldItem}

theorem head_mem (h : Written p item) : ∃ key rest, p = .leaf (.word key) :: rest ∧
    key ∈ fieldKeys ∧ rest.head? ≠ some (.leaf (.mark "::")) := by
  obtain ⟨key, rest, rfl, -, hhead⟩ := reads.word _ _ h
  refine ⟨key, rest, rfl, ?_, hhead⟩
  cases h <;> decide

theorem argues (h : Written (.leaf (.word key) :: .group .parenthesis content :: rest) item)
    (hc : Separates content ps) (hp : p ∈ ps) : Argues key p := by
  cases h with
  | primaryKey h =>
    exact argues_of_forall₂ (h.of_group hc) (fun _ _ => KeyArgument.Written.argues) hp
  | notNull h =>
    exact argues_of_forall₂ (h.of_group hc) (fun _ _ h => h.argues (by decide)) hp
  | unique h =>
    exact argues_of_forall₂ (h.of_group hc) (fun _ _ h => h.argues (by decide)) hp
  | foreignKey h =>
    exact argues_of_forall₂ (h.of_group hc) (fun _ _ => ReferenceArgument.Written.argues) hp

theorem refers (h : Written (.leaf (.word "foreign_key") :: rest) item) :
    ∃ content, rest = [.group .parenthesis content] ∧ ∀ ps, Separates content ps →
      ∀ key ∈ ["table", "column"], ∃ p ∈ ps, headWord p = some key := by
  generalize hk : "foreign_key" = key at h
  cases h with
  | @foreignKey _ arguments table column h ht hc =>
    cases h with
    | @mk content _ hne hlisted =>
      refine ⟨content, rfl, fun ps hps key hkey => ?_⟩
      have henclosed : Enclosed ReferenceArgument.Written [.group .parenthesis content] arguments :=
        .mk hne hlisted
      have hwritten := henclosed.of_group hps
      simp only [List.mem_cons, List.not_mem_nil, or_false] at hkey
      rcases hkey with rfl | rfl
      · obtain ⟨a, ha, ht⟩ := exists_of_last? ht
        obtain ⟨p, hp, hpa⟩ := exists_of_mem_right hwritten ha
        exact ⟨p, hp, hpa.headWord_of_table? ht⟩
      · obtain ⟨a, ha, hc⟩ := exists_of_last? hc
        obtain ⟨p, hp, hpa⟩ := exists_of_mem_right hwritten ha
        exact ⟨p, hp, hpa.headWord_of_column? hc⟩
  | _ => exact absurd hk (by decide)

theorem headWord_eq_get (h : Written p item) :
    headWord p = some "get" ↔ ∃ method, item = .reader method := by
  cases h <;> simp [headWord]

theorem headWord_eq_set (h : Written p item) :
    headWord p = some "set" ↔ ∃ method, item = .writer method := by
  cases h <;> simp [headWord]

end FieldItem.Written

theorem Faulty.not_written {p : List Tree} (h : Faulty p) (item : FieldItem) :
    ¬FieldItem.Written p item := by
  intro hw
  cases h with
  | nameless h =>
    obtain ⟨key, rest, rfl, -⟩ := hw.head_mem
    cases h
  | unknown h =>
    obtain ⟨key, rest, heq, hk, -⟩ := hw.head_mem
    cases heq
    exact h hk
  | qualified =>
    obtain ⟨key, rest, heq, -, hhead⟩ := hw.head_mem
    cases heq
    exact hhead rfl
  | argument hc hp h =>
    obtain ⟨word, hword, hk⟩ := (hw.argues hc hp).known
    exact h word hword hk
  | policy hc hp h =>
    obtain ⟨policy, hpolicy⟩ := (hw.argues hc hp).policy _ rfl
    exact h policy hpolicy
  | action hk hc hp h =>
    obtain ⟨action, haction⟩ := (hw.argues hc hp).action _ hk _ rfl
    exact h action haction
  | incomplete hk hc h =>
    obtain ⟨content, heq, hrefers⟩ := hw.refers
    cases heq
    obtain ⟨p, hp, hword⟩ := hrefers _ hc _ hk
    exact h p hp hword
  | bare h =>
    obtain ⟨content, rfl, -⟩ := hw.refers
    exact h content rfl

namespace FieldDeclaration

variable {f : FieldDeclaration} {items : List FieldItem} {ps : List (List Tree)} {p : List Tree}

def Part (f : FieldDeclaration) (p : List Tree) : Prop :=
  ∃ a ∈ f.attributes, a.isMapping ∧ ∃ ps, a.Lists ps ∧ p ∈ ps

def Gives (f : FieldDeclaration) (key : String) : Prop := ∃ p, f.Part p ∧ headWord p = some key

theorem Binds.methods {b : Binding} (h : f.Binds items b) :
    (∃ item ∈ items, ∃ method, item = .reader method) ↔
      ∃ item ∈ items, ∃ method, item = .writer method := by
  cases h with
  | @accessor reader writer hr hw =>
    obtain ⟨item, hitem, hr⟩ := exists_of_last? hr
    obtain ⟨item', hitem', hw⟩ := exists_of_last? hw
    exact iff_of_true ⟨item, hitem, reader, FieldItem.reader?_eq_some.1 hr⟩
      ⟨item', hitem', writer, FieldItem.writer?_eq_some.1 hw⟩
  | field hr hw =>
    refine iff_of_false ?_ ?_
    · rintro ⟨_, hmem, method, rfl⟩
      exact hr method hmem
    · rintro ⟨_, hmem, method, rfl⟩
      exact hw method hmem

theorem Describes.written {c : Option ColumnPlan} (h : f.Describes c) :
    ∃ ps items binding, Attribute.AllLists f.attributes ps ∧
      List.Forall₂ FieldItem.Written ps items ∧ f.Binds items binding := by
  cases h with
  | skipped hl hw hb => exact ⟨_, _, _, hl, hw, hb⟩
  | column hl hw hb => exact ⟨_, _, _, hl, hw, hb⟩

theorem Describes.not_faulty {c : Option ColumnPlan} (h : f.Describes c) (hp : f.Part p) :
    ¬Faulty p := by
  obtain ⟨ps, items, b, hl, hw, -⟩ := h.written
  obtain ⟨item, -, hitem⟩ := exists_of_mem_left hw (hl.mem_iff.2 hp)
  exact fun hfaulty => hfaulty.not_written item hitem

theorem gives_iff {key : String} {Item : FieldItem → Prop}
    (hl : Attribute.AllLists f.attributes ps) (hw : List.Forall₂ FieldItem.Written ps items)
    (hkey : ∀ p item, FieldItem.Written p item → (headWord p = some key ↔ Item item)) :
    f.Gives key ↔ ∃ item ∈ items, Item item := by
  constructor
  · rintro ⟨p, hp, hword⟩
    obtain ⟨item, hitem, hpitem⟩ := exists_of_mem_left hw (hl.mem_iff.2 hp)
    exact ⟨item, hitem, (hkey p item hpitem).1 hword⟩
  · rintro ⟨item, hitem, hi⟩
    obtain ⟨p, hp, hpitem⟩ := exists_of_mem_right hw hitem
    exact ⟨p, hl.mem_iff.1 hp, (hkey p item hpitem).2 hi⟩

theorem Describes.gives_iff {c : Option ColumnPlan} (h : f.Describes c) :
    f.Gives "get" ↔ f.Gives "set" := by
  obtain ⟨ps, items, b, hl, hw, hb⟩ := h.written
  rw [FieldDeclaration.gives_iff hl hw fun _ _ => FieldItem.Written.headWord_eq_get,
    FieldDeclaration.gives_iff hl hw fun _ _ => FieldItem.Written.headWord_eq_set]
  exact hb.methods

end FieldDeclaration

namespace ColumnPlan

def made (record : String) (c : ColumnPlan) : List String :=
  match c.binding with
  | .field field =>
    [libraryPath ["Column", "field"], "::", "<"] ++ c.type ++
      [">", "(", Escaped.literal c.name, ",", readerName field, ",", writerName field, ")"]
  | .accessor reader writer =>
    [libraryPath ["Column", "accessor"], "::", "<"] ++ c.type ++
      [">", "(", Escaped.literal c.name, ",", record, "::", reader, ",", record, "::", writer, ")"]

def call (record : String) (c : ColumnPlan) : List String :=
  [".", "column", "("] ++ c.made record ++
    (c.constraints.map fun k => [".", "constraint", "("] ++ constraintCode k ++ [")"]).flatten ++
    [")"]

end ColumnPlan

def Plan.calls (p : Plan) : List (List String) :=
  [libraryPath ["Table", "builder"], "(", Escaped.literal p.table, ")"] ::
    p.columns.map (ColumnPlan.call p.record) ++ [[".", "build", "(", ")"]]

namespace Declaration

variable {d : Declaration} {fields : List FieldDeclaration}

theorem exists_error (h : ∀ p, ¬d.Describes p) : ∃ fault, d.plan = .error fault := by
  cases hplan : d.plan with
  | error fault => exact ⟨fault, rfl⟩
  | ok p => exact absurd (plan_iff.1 hplan) (h p)

theorem refuses (hbody : d.body = .named fields) {f : FieldDeclaration} (hf : f ∈ fields)
    (h : (∃ p, f.Part p ∧ Faulty p) ∨ ¬(f.Gives "get" ↔ f.Gives "set")) :
    ∃ fault, d.plan = .error fault := by
  refine exists_error fun plan hplan => ?_
  obtain ⟨_, columns, hbody', hcolumns, -⟩ := hplan.columns
  obtain rfl : fields = _ := Body.named.inj (hbody.symm.trans hbody')
  obtain ⟨c, -, hc⟩ := exists_of_mem_left hcolumns hf
  rcases h with ⟨p, hp, hfaulty⟩ | hmethods
  · exact hc.not_faulty hp hfaulty
  · exact hmethods hc.gives_iff

end Declaration

namespace Gauges

def literal (value : String) : TextLiteral := ⟨"\"" ++ value ++ "\"", value, ""⟩

def comma : Tree := .leaf (.mark ",")

def columnPart : List Tree := .leaf (.word "column") :: assigned (literal "kind")

def notNullPart : List Tree := [.leaf (.word "not_null")]

def uniquePart (policy : String) : List Tree :=
  [.leaf (.word "unique"),
    .group .parenthesis (.leaf (.word "conflict") :: assigned (literal policy))]

def split : FieldDeclaration :=
  integer "r#type"
    [mapping (columnPart ++ comma :: notNullPart), mapping (uniquePart "FAIL")]

end Gauges

end RecordSql.Derive
