import RecordSql.Proofs.Statement.Keys

/-! NOT NULL in table definitions. Whether a column admits NULL is a flag that every constraint
passes on or clears when it is added, and the definition looks for the constraints again. Both come
to the same: there is one clause exactly if NULL is not admitted, in front of all others, wherever
and how often the constraint was added. -/

namespace RecordSql

open RecordSql.Part

namespace Constraint

theorem foldl_flagAfter (nullable : Bool) (ks : List Constraint) :
    ks.foldl flagAfter nullable = (nullable && !ks.any isNotNull) := by
  have hstep (flag : Bool) (k : Constraint) : k.flagAfter flag = (flag && !k.isNotNull) := by
    cases k <;> simp [flagAfter, isNotNull]
  induction ks generalizing nullable with
  | nil => simp
  | cons k rest ih =>
    rw [List.foldl_cons, ih, hstep, List.any_cons, Bool.not_or, Bool.and_assoc]

theorem notNullPolicy?_eq_some {k : Constraint} {policy : ConflictPolicy} :
    k.notNullPolicy? = some policy ↔ k = .notNull policy := by
  cases k <;> simp [notNullPolicy?]

theorem notNullPolicy?_eq_none {k : Constraint} :
    k.notNullPolicy? = none ↔ ∀ policy, k ≠ .notNull policy := by
  rw [Option.eq_none_iff_forall_ne_some]
  exact forall_congr' fun policy => not_congr notNullPolicy?_eq_some

theorem findSome?_eq_none {ks : List Constraint} :
    ks.findSome? notNullPolicy? = none ↔ ∀ policy, .notNull policy ∉ ks := by
  rw [List.findSome?_eq_none_iff]
  constructor
  · intro h policy hmem
    exact notNullPolicy?_eq_none.1 (h _ hmem) policy rfl
  · intro h k hk
    refine notNullPolicy?_eq_none.2 fun policy he => h policy (he ▸ hk)

theorem any_isNotNull (ks : List Constraint) :
    ks.any isNotNull = (ks.findSome? notNullPolicy?).isSome := by
  induction ks with
  | nil => rfl
  | cons k rest ih =>
    cases k with
    | notNull => rfl
    | primaryKey | unique | foreignKey => exact ih

end Constraint

theorem intercalate_blank {α : Type} (write : α → String) (s : String) (as : List α) :
    " ".intercalate (s :: as.map write) = s ++ String.join (as.map fun a => " " ++ write a) := by
  induction as generalizing s with
  | nil => simp
  | cons a rest ih =>
    rw [List.map_cons, String.intercalate_cons_cons, ih, List.map_cons, String.join_cons]
    simp only [String.append_assoc]

namespace Field

def others (f : Field) : List Constraint := f.constraints.filter (!·.isNotNull)

/-- The policy under which a column refuses NULL: that of its first NOT NULL constraint, or ABORT if
it has none and its type has no absent value. -/
inductive Refuses (f : Field) : Option ConflictPolicy → Prop
  | declared {before after : List Constraint} {policy : ConflictPolicy}
    (h : f.constraints = before ++ .notNull policy :: after)
    (hfirst : ∀ earlier, .notNull earlier ∉ before) : Refuses f (some policy)
  | implied (h : ∀ policy, .notNull policy ∉ f.constraints) (ht : f.type.optional = false) :
    Refuses f (some .abort)
  | admitted (h : ∀ policy, .notNull policy ∉ f.constraints) (ht : f.type.optional = true) :
    Refuses f none

def notNullText : Option ConflictPolicy → String
  | none => ""
  | some policy => " NOT NULL ON CONFLICT " ++ policy.sql

structure Alike (f g : Field) : Prop where
  name : f.name = g.name
  type : f.type = g.type
  others : f.others = g.others
  first : (f.constraints.filterMap Constraint.notNullPolicy?).head? =
    (g.constraints.filterMap Constraint.notNullPolicy?).head?

variable {f g : Field}

theorem nullable_column (f : Field) (i : Nat) :
    (f.column i).nullable =
      (f.type.optional && !(f.constraints.findSome? Constraint.notNullPolicy?).isSome) := by
  rw [← Constraint.any_isNotNull]
  exact Constraint.foldl_flagAfter f.type.optional f.constraints

theorem notNullPolicy?_column (f : Field) (i : Nat) :
    (f.column i).notNullPolicy? = (f.constraints.findSome? Constraint.notNullPolicy?).or
      (if f.type.optional then none else some .abort) := by
  have hconstraints : (f.column i).constraints = f.constraints := rfl
  rw [Column.notNullPolicy?, nullable_column, hconstraints]
  cases f.constraints.findSome? Constraint.notNullPolicy? <;> simp

theorem refuses_notNullPolicy? (f : Field) (i : Nat) :
    f.Refuses (f.column i).notNullPolicy? := by
  rw [notNullPolicy?_column]
  cases hfind : f.constraints.findSome? Constraint.notNullPolicy? with
  | some policy =>
    obtain ⟨before, k, after, hsplit, hk, hbefore⟩ := List.findSome?_eq_some_iff.1 hfind
    obtain rfl := Constraint.notNullPolicy?_eq_some.1 hk
    refine .declared hsplit fun earlier hmem => ?_
    cases hbefore _ hmem
  | none =>
    have hnone := Constraint.findSome?_eq_none.1 hfind
    rw [Option.none_or]
    split
    · next ht => exact .admitted hnone ht
    · next ht => exact .implied hnone (Bool.not_eq_true _ ▸ ht)

theorem notNullPolicy?_eq_none {i : Nat} :
    (f.column i).notNullPolicy? = none ↔ (f.column i).nullable := by
  rw [notNullPolicy?_column, nullable_column]
  cases f.constraints.findSome? Constraint.notNullPolicy? <;> cases f.type.optional <;> simp

theorem definition_column (f : Field) (i : Nat) :
    (f.column i).definition = quoted f.name ++ " " ++ f.type.storage.sql ++
      notNullText (f.column i).notNullPolicy? ++
        String.join (f.others.map fun k => " " ++ k.sql) := by
  have hothers : (f.column i).constraints.filter (!·.isNotNull) = f.others := rfl
  have hname : (f.column i).name = f.name := rfl
  have hstorage : (f.column i).storage = f.type.storage := rfl
  rw [Column.definition, intercalate_blank, Column.clauses, hothers, hname, hstorage]
  cases (f.column i).notNullPolicy? with
  | none =>
    have hnone : notNullText none = "" := rfl
    rw [hnone, String.append_empty, Option.map_none, Option.toList_none, List.nil_append]
  | some policy =>
    have hsql : " " ++ (Constraint.notNull policy).sql = notNullText (some policy) :=
      String.append_assoc.symm
    rw [Option.map_some, Option.toList_some, List.cons_append, List.nil_append, List.map_cons,
      String.join_cons, hsql]
    simp only [String.append_assoc]

end Field

namespace Constraint

theorem count_not (k : Constraint) :
    (tokens k.parts).count (keyword "NOT") = if k.isNotNull then 1 else 0 := by
  have hpolicy (p : ConflictPolicy) : (scan p.sql).count (keyword "NOT") = 0 := by
    cases p <;> decide
  have haction (a : ReferentialAction) : (scan a.sql).count (keyword "NOT") = 0 := by
    cases a <;> decide
  cases k with
  | primaryKey conflict autoincrement =>
    rw [tokens_primaryKey]
    cases conflict <;> cases autoincrement <;> decide
  | notNull conflict =>
    have hwords : (scan "NOT NULL ON CONFLICT ").count (keyword "NOT") = 1 := by decide
    simp [parts, hwords, hpolicy, isNotNull]
  | unique conflict =>
    have hwords : (scan "UNIQUE ON CONFLICT ").count (keyword "NOT") = 0 := by decide
    simp [parts, hwords, hpolicy, isNotNull]
  | foreignKey reference onUpdate onDelete =>
    have hwords : (scan "REFERENCES ").count (keyword "NOT") = 0 ∧
        (scan " (").count (keyword "NOT") = 0 ∧
        (scan ") ON UPDATE ").count (keyword "NOT") = 0 ∧
        (scan " ON DELETE ").count (keyword "NOT") = 0 := by decide
    obtain ⟨hreferences, hopen, hupdate, hdelete⟩ := hwords
    have hname (name : String) (ts : List Token) :
        (.quoted '\x60' name.toList :: ts).count (keyword "NOT") = ts.count (keyword "NOT") :=
      List.count_cons_of_ne (by simp [keyword])
    simp [parts, hreferences, hopen, hupdate, hdelete, haction, hname, isNotNull]

end Constraint

namespace Column

theorem count_not_clauseTokens (ks : List Constraint) :
    ([].intercalate (ks.map fun k => tokens k.parts)).count (keyword "NOT") =
      ks.countP Constraint.isNotNull := by
  induction ks with
  | nil => rfl
  | cons k rest ih =>
    rw [List.map_cons, nil_intercalate_cons, List.count_append, ih, Constraint.count_not,
      List.countP_cons, Nat.add_comm]

/-- The text of a definition has NOT once or not at all. -/
theorem count_not_parts (c : Column) :
    (tokens c.parts).count (keyword "NOT") = c.notNullPolicy?.toList.length := by
  have hname : Token.quoted '\x60' c.name.toList ≠ keyword "NOT" := Token.noConfusion
  have hstorage : keyword c.storage.sql ≠ keyword "NOT" := by cases c.storage <;> decide
  have hothers : (c.constraints.filter (!·.isNotNull)).countP Constraint.isNotNull = 0 := by
    simp [List.countP_eq_zero]
  rw [tokens_parts, List.count_cons_of_ne hname, List.count_cons_of_ne hstorage, clauseTokens,
    count_not_clauseTokens, clauses, List.countP_append, hothers, Nat.add_zero]
  cases c.notNullPolicy? <;> rfl

end Column

namespace Field

variable {f g : Field}

structure StatesNull (f : Field) (c : Column) : Prop where
  /-- The flag that is kept while the constraints are added. -/
  flag : f.constraints.foldl Constraint.flagAfter f.type.optional = c.nullable
  nullable_iff : c.nullable ↔ f.type.optional ∧ ∀ policy, .notNull policy ∉ f.constraints
  definition : ∃ policy, f.Refuses policy ∧ (policy = none ↔ c.nullable) ∧
    c.definition = quoted f.name ++ " " ++ f.type.storage.sql ++ notNullText policy ++
      String.join (f.others.map fun k => " " ++ k.sql)
  /-- The text has NOT once or not at all, if the names in it can be read back. -/
  once : Suit c.parts →
    (scan c.definition).count (keyword "NOT") = if c.nullable then 0 else 1

theorem statesNull_column (f : Field) (i : Nat) : f.StatesNull (f.column i) := by
  refine ⟨rfl, ?_, ⟨_, f.refuses_notNullPolicy? i, notNullPolicy?_eq_none, ?_⟩, fun hs => ?_⟩
  · rw [nullable_column, ← Constraint.findSome?_eq_none]
    simp
  · exact f.definition_column i
  · rw [← Column.text_parts, (Column.apart_parts _).scan_eq hs, Column.count_not_parts]
    have hnone : (f.column i).notNullPolicy? = none ↔ (f.column i).nullable :=
      notNullPolicy?_eq_none
    cases hp : (f.column i).notNullPolicy? with
    | none => rw [if_pos (hnone.1 hp), Option.toList_none, List.length_nil]
    | some policy =>
      have hnot : ¬(f.column i).nullable := fun h => nomatch (hnone.2 h).symm.trans hp
      rw [if_neg hnot, Option.toList_some, List.length_singleton]

theorem any_constraints {p : Constraint → Bool} (hp : ∀ policy, p (.notNull policy) = false)
    (f : Field) : f.constraints.any p = f.others.any p := by
  have hothers (k : Constraint) : (!k.isNotNull && p k) = p k := by
    cases k with
    | notNull policy => rw [hp, Bool.and_false]
    | primaryKey | unique | foreignKey => rfl
  rw [others, List.any_filter]
  simp only [hothers]

theorem Alike.isPrimaryKey (h : f.Alike g) : f.isPrimaryKey = g.isPrimaryKey := by
  rw [Field.isPrimaryKey, Field.isPrimaryKey, any_constraints (fun _ => rfl),
    any_constraints (fun _ => rfl), h.others]

theorem Alike.isAutoincrement (h : f.Alike g) : f.isAutoincrement = g.isAutoincrement := by
  rw [Field.isAutoincrement, Field.isAutoincrement, any_constraints (fun _ => rfl),
    any_constraints (fun _ => rfl), h.others]

theorem Alike.definition (h : f.Alike g) (i : Nat) :
    (f.column i).definition = (g.column i).definition := by
  have hfirst := h.first
  rw [List.head?_filterMap, List.head?_filterMap] at hfirst
  rw [definition_column, definition_column, notNullPolicy?_column, notNullPolicy?_column, hfirst,
    h.name, h.type, h.others]

end Field

namespace Table

variable {fs gs : List Field}

theorem fieldFault?_alike (h : List.Forall₂ Field.Alike fs gs) (table : String)
    (earlier : List String) : fieldFault? table earlier fs = fieldFault? table earlier gs := by
  induction h generalizing earlier with
  | nil => rfl
  | cons hfg _ ih =>
    rw [fieldFault?, fieldFault?, hfg.name, hfg.type, hfg.isAutoincrement, ih]

theorem length_keys_alike (h : List.Forall₂ Field.Alike fs gs) :
    (fs.filter Field.isPrimaryKey).length = (gs.filter Field.isPrimaryKey).length := by
  induction h with
  | nil => rfl
  | cons hfg _ ih =>
    rw [List.filter_cons, List.filter_cons, hfg.isPrimaryKey]
    split
    · rw [List.length_cons, List.length_cons, ih]
    · exact ih

theorem fault?_alike (h : List.Forall₂ Field.Alike fs gs) (table : String) :
    fault? table fs = fault? table gs := by
  have hempty : fs.isEmpty = gs.isEmpty := by cases h <;> rfl
  rw [fault?, fault?, hempty, fieldFault?_alike h, length_keys_alike h]

theorem definitions_alike (h : List.Forall₂ Field.Alike fs gs) :
    (fs.map fun f => "    " ++ (f.column 0).definition) =
      gs.map fun f => "    " ++ (f.column 0).definition := by
  induction h with
  | nil => rfl
  | cons hfg _ ih => rw [List.map_cons, List.map_cons, hfg.definition, ih]

theorem creation_alike {t u : Table} (hname : t.name = u.name)
    (h : List.Forall₂ Field.Alike t.fields u.fields) (ifNotExists : Bool) :
    t.creation ifNotExists = u.creation ifNotExists := by
  -- the place of a column is not in its definition
  have hlines (v : Table) : (v.columns.map fun c => "    " ++ c.definition) =
      v.fields.map fun f => "    " ++ (f.column 0).definition := v.map_columns fun _ _ => rfl
  have htext (v : Table) : v.creation ifNotExists =
      "CREATE TABLE " ++ (if ifNotExists then "IF NOT EXISTS " else "") ++ v.name ++ " (\n" ++
        ",\n".intercalate (v.columns.map fun c => "    " ++ c.definition) ++ "\n);\n" := rfl
  rw [htext, htext, hname, hlines, hlines, definitions_alike h]

theorem declare_cases (name recordType : String) (fs : List Field)
    (defaults : (f : Field) → f.type.Carrier) :
    (∃ fault, fault? name fs = some fault ∧
      declare name recordType fs defaults = .error (.schema fault)) ∨
    ∃ t, fault? name fs = none ∧ declare name recordType fs defaults = .ok t := by
  unfold declare
  split
  · next fault hfault => exact .inl ⟨fault, hfault, rfl⟩
  · next hfault => exact .inr ⟨_, hfault, rfl⟩

theorem declare_alike (h : List.Forall₂ Field.Alike fs gs) (name recordType : String)
    (defaults defaults' : (f : Field) → f.type.Carrier) (ifNotExists : Bool) :
    (declare name recordType fs defaults).map (fun t => t.creation ifNotExists) =
      (declare name recordType gs defaults').map fun t => t.creation ifNotExists := by
  have hfault := fault?_alike h name
  rcases declare_cases name recordType fs defaults with ⟨fault, hf, hfs⟩ | ⟨t, hf, hfs⟩ <;>
    rcases declare_cases name recordType gs defaults' with ⟨fault', hg, hgs⟩ | ⟨u, hg, hgs⟩ <;>
    rw [hf, hg] at hfault
  · obtain rfl := Option.some.inj hfault
    rw [hfs, hgs]
  · cases hfault
  · cases hfault
  · obtain ⟨hname, -, hfields⟩ := declare_eq_ok hfs
    obtain ⟨hname', -, hfields'⟩ := declare_eq_ok hgs
    have hcreation : t.creation ifNotExists = u.creation ifNotExists :=
      creation_alike (hname.trans hname'.symm) (by rwa [hfields, hfields']) ifNotExists
    rw [hfs, hgs]
    exact congrArg Except.ok hcreation

structure StatesNull (name recordType : String) (fs : List Field) : Prop where
  columns : ∀ f ∈ fs, ∀ i, f.StatesNull (f.column i)
  alike : ∀ gs, List.Forall₂ Field.Alike fs gs → ∀ defaults defaults' ifNotExists,
    (declare name recordType fs defaults).map (fun t => t.creation ifNotExists) =
      (declare name recordType gs defaults').map fun t => t.creation ifNotExists

theorem statesNull (name recordType : String) (fs : List Field) :
    StatesNull name recordType fs where
  columns f _ i := f.statesNull_column i
  alike _ h := declare_alike h name recordType

end Table

namespace Gardens

def plot : Field := ⟨"plot", ⟨.text, true⟩, [.notNull .fail, .unique .abort, .notNull .replace]⟩

def plotOnce : Field := ⟨"plot", ⟨.text, true⟩, [.unique .abort, .notNull .fail]⟩

theorem statesNull_plot :
    Table.StatesNull "gardens" "Garden" [plot] ∧
      (Table.declare "gardens" "Garden" [plot]).map (fun t => t.creation false) =
        .ok ("CREATE TABLE gardens (\n    `plot` TEXT NOT NULL ON CONFLICT FAIL " ++
          "UNIQUE ON CONFLICT ABORT\n);\n") := by
  have hstates := Table.statesNull "gardens" "Garden" [plot]
  have halike : List.Forall₂ Field.Alike [plot] [plotOnce] :=
    .cons ⟨rfl, rfl, rfl, rfl⟩ .nil
  refine ⟨hstates, ?_⟩
  rw [hstates.alike _ halike _ fun f => f.type.initial]
  rfl

end Gardens

end RecordSql
