import Mathlib.Data.List.Lattice
import Mathlib.Data.List.Nodup
import Mathlib.Data.List.Pairwise
import RecordSql.Derive.Code
import RecordSql.Proofs.Outcome

/-! The functions that the program text of a table defines. For each column that stands for a field
of its own there is one that lends the field for reading and one that lends it for writing. Two
readers have different names, and so have two writers; the writer of a field has the name of the
reader of another one exactly if the other is named like it behind `mut_`. -/

namespace RecordSql.Derive

def Binding.field? : Binding → Option String
  | .field name => some name
  | .accessor .. => none

structure Helper where
  name : String
  rest : List String

def Helper.words (h : Helper) : List String := ["fn", h.name] ++ h.rest

theorem readerName_eq_readerName {f g : String} :
    readerName f = readerName g ↔ plainName f = plainName g := String.append_right_inj _

theorem writerName_eq_writerName {f g : String} :
    writerName f = writerName g ↔ plainName f = plainName g := String.append_right_inj _

theorem writerName_eq_readerName {f g : String} :
    writerName f = readerName g ↔ plainName g = "mut_" ++ plainName f := by
  have hreader : readerName g = "__litorm_get_" ++ plainName g := rfl
  have hwriter : writerName f = "__litorm_get_" ++ "mut_" ++ plainName f := rfl
  rw [hwriter, hreader, String.append_assoc, String.append_right_inj]
  exact eq_comm

theorem writerName_ne_readerName (f : String) : writerName f ≠ readerName f := by
  intro h
  have hlength := congrArg String.length (writerName_eq_readerName.1 h)
  rw [String.length_append] at hlength
  have hmut : "mut_".length = 4 := rfl
  omega

namespace ColumnPlan

def definitions (record : String) (c : ColumnPlan) : List Helper :=
  match c.binding with
  | .field field =>
    [⟨readerName field, ["(", "record", ":", "&", record, ")", "->", "&"] ++ c.type ++
        ["\x7b", "&", "record", ".", field, "\x7d"]⟩,
      ⟨writerName field, ["(", "record", ":", "&", "mut", record, ")", "->", "&", "mut"] ++
        c.type ++ ["\x7b", "&", "mut", "record", ".", field, "\x7d"]⟩]
  | .accessor .. => []

theorem helpers_eq (record : String) (c : ColumnPlan) :
    c.helpers record = (c.definitions record).flatMap Helper.words := by
  unfold helpers definitions
  cases c.binding <;> simp [Helper.words]

theorem map_name_definitions (record : String) (c : ColumnPlan) :
    (c.definitions record).map Helper.name = c.helperNames := by
  unfold definitions helperNames
  cases c.binding <;> rfl

theorem helperNames_eq (c : ColumnPlan) :
    c.helperNames = c.binding.field?.toList.flatMap fun f => [readerName f, writerName f] := by
  unfold helperNames
  cases c.binding <;> rfl

end ColumnPlan

namespace Plan

def lent (p : Plan) : List String := p.columns.filterMap (·.binding.field?)

def definitions (p : Plan) : List Helper := p.columns.flatMap (ColumnPlan.definitions p.record)

def opening (p : Plan) : List String :=
  ["impl", libraryPath ["Record"], "for", p.record, "\x7b", "fn", "table", "(", ")", "->",
    libraryPath ["OrmResult"], "<", libraryPath ["Table"], "<", "Self", ">", ">", "\x7b"]

def closing (p : Plan) : List String :=
  [libraryPath ["Table", "builder"], "(", Escaped.literal p.table, ")"] ++
    p.columns.flatMap (ColumnPlan.code p.record) ++ [".", "build", "(", ")", "\x7d", "\x7d"]

theorem words_eq (p : Plan) :
    p.words = p.opening ++ p.definitions.flatMap Helper.words ++ p.closing := by
  have hhelpers : p.columns.flatMap (ColumnPlan.helpers p.record) =
      p.definitions.flatMap Helper.words := by
    rw [definitions, List.flatMap_assoc]
    exact List.flatMap_congr fun c _ => c.helpers_eq p.record
  rw [words, hhelpers, opening, closing]
  simp only [List.append_assoc]

theorem map_name_definitions (p : Plan) : p.definitions.map Helper.name = p.helperNames := by
  rw [definitions, helperNames, List.map_flatMap]
  exact List.flatMap_congr fun c _ => c.map_name_definitions p.record

theorem helperNames_eq (p : Plan) :
    p.helperNames = p.lent.flatMap fun f => [readerName f, writerName f] := by
  rw [helperNames, lent]
  induction p.columns with
  | nil => rfl
  | cons c cs ih =>
    rw [List.flatMap_cons, List.filterMap_cons, ih, c.helperNames_eq]
    cases c.binding.field? <;> rfl

/-- The names that two fields give to their functions. -/
theorem disjoint_names_iff {f g : String} (h : plainName f ≠ plainName g) :
    List.Disjoint [readerName f, writerName f] [readerName g, writerName g] ↔
      plainName g ≠ "mut_" ++ plainName f ∧ plainName f ≠ "mut_" ++ plainName g := by
  have hreaders : readerName g ≠ readerName f := mt readerName_eq_readerName.1 h.symm
  have hwriters : writerName g ≠ writerName f := mt writerName_eq_writerName.1 h.symm
  have hreader : readerName g = writerName f ↔ plainName g = "mut_" ++ plainName f :=
    eq_comm.trans writerName_eq_readerName
  simp [hreaders, hwriters, hreader, writerName_eq_readerName]

theorem nodup_helperNames_iff {p : Plan} (h : (p.lent.map plainName).Nodup) :
    p.helperNames.Nodup ↔
      ∀ f ∈ p.lent, ∀ g ∈ p.lent, plainName g ≠ "mut_" ++ plainName f := by
  have hpairs : p.lent.Pairwise fun f g => plainName f ≠ plainName g := List.pairwise_map.1 h
  have hown (f : String) : [readerName f, writerName f].Nodup := by
    simpa using (writerName_ne_readerName f).symm
  rw [helperNames_eq, List.nodup_flatMap, and_iff_right fun f _ => hown f]
  constructor
  · intro hdisjoint f hf g hg he
    have hne : f ≠ g := by
      rintro rfl
      exact writerName_ne_readerName f (writerName_eq_readerName.2 he)
    have hsymm : Std.Symm (Function.onFun List.Disjoint fun f => [readerName f, writerName f]) :=
      ⟨fun _ _ => List.Disjoint.symm⟩
    have hfg := hdisjoint.forall hf hg hne
    exact hfg (List.mem_cons_of_mem _ (List.mem_singleton_self _))
      (writerName_eq_readerName.2 he ▸ List.mem_cons_self)
  · intro hclash
    refine hpairs.imp_of_mem fun hf hg hne => ?_
    exact (disjoint_names_iff hne).2 ⟨hclash _ hf _ hg, hclash _ hg _ hf⟩

end Plan

theorem FieldDeclaration.field?_of_column {f : FieldDeclaration} {c : ColumnPlan}
    (h : f.column = .ok (some c)) : ∀ name ∈ c.binding.field?, name = f.name := by
  obtain ⟨items, -, h⟩ := bind_eq_ok.1 h
  obtain ⟨b, hb, h⟩ := bind_eq_ok.1 h
  have hc : c.binding = b := by
    split at h
    · cases h
    · cases h
      rfl
  rw [hc]
  unfold binding at hb
  split at hb
  · cases hb
    nofun
  · cases hb
    rintro _ ⟨⟩
    rfl
  · cases hb

theorem sublist_of_columns {fields : List FieldDeclaration} {columns : List (Option ColumnPlan)}
    (h : List.Forall₂ (fun f c => f.column = .ok c) fields columns) :
    ((columns.filterMap id).filterMap (·.binding.field?)).Sublist
      (fields.map FieldDeclaration.name) := by
  induction h with
  | nil => exact List.Sublist.refl _
  | @cons f column fields columns hf _ ih =>
    cases column with
    | none => exact ih.cons _
    | some c =>
      have hfield := FieldDeclaration.field?_of_column hf
      have hcolumns : (some c :: columns).filterMap id = c :: columns.filterMap id := rfl
      rw [hcolumns, List.filterMap_cons]
      cases hc : c.binding.field? with
      | none => exact ih.cons _
      | some name =>
        rw [hfield name hc]
        exact ih.cons_cons _

namespace Declaration

variable {d : Declaration} {fields : List FieldDeclaration} {p : Plan}

theorem plan_eq_ok (hbody : d.body = .named fields) (h : d.plan = .ok p) :
    ∃ columns, List.Forall₂ (fun f c => f.column = .ok c) fields columns ∧
      p.columns = columns.filterMap id := by
  dsimp only [plan] at h
  obtain ⟨-, h⟩ := guard_eq_ok.1 h
  obtain ⟨_, hfields, h⟩ := bind_eq_ok.1 h
  rw [hbody] at hfields
  cases hfields
  obtain ⟨table, -, h⟩ := bind_eq_ok.1 h
  obtain ⟨columns, hcolumns, h⟩ := bind_eq_ok.1 h
  cases h
  exact ⟨columns, mapM_eq_ok.1 hcolumns, rfl⟩

theorem lent_sublist (hbody : d.body = .named fields) (h : d.plan = .ok p) :
    p.lent.Sublist (fields.map FieldDeclaration.name) := by
  obtain ⟨columns, hcolumns, hp⟩ := plan_eq_ok hbody h
  rw [Plan.lent, hp]
  exact sublist_of_columns hcolumns

/-- The functions that the program text of a declaration defines are a reader and a writer for each
field that a column stands for. No name is that of two readers or of two writers, and all of them
are different exactly if no such field is named like another one behind `mut_`. -/
theorem definesOnce_iff (hbody : d.body = .named fields)
    (hnames : (fields.map fun f => plainName f.name).Nodup) (h : d.plan = .ok p) :
    p.words = p.opening ++ p.definitions.flatMap Helper.words ++ p.closing ∧
      (p.definitions.map Helper.name = p.lent.flatMap fun f => [readerName f, writerName f]) ∧
      (p.lent.map readerName).Nodup ∧ (p.lent.map writerName).Nodup ∧
      ((p.definitions.map Helper.name).Nodup ↔
        ∀ f ∈ p.lent, ∀ g ∈ p.lent, plainName g ≠ "mut_" ++ plainName f) := by
  have hlent : (p.lent.map plainName).Nodup := by
    refine ((lent_sublist hbody h).map plainName).nodup ?_
    rwa [List.map_map]
  have hpairs : p.lent.Pairwise fun f g => plainName f ≠ plainName g := List.pairwise_map.1 hlent
  refine ⟨p.words_eq, ?_, ?_, ?_, ?_⟩
  · rw [p.map_name_definitions, p.helperNames_eq]
  · exact List.pairwise_map.2 (hpairs.imp fun hne => mt readerName_eq_readerName.1 hne)
  · exact List.pairwise_map.2 (hpairs.imp fun hne => mt writerName_eq_writerName.1 hne)
  · rw [p.map_name_definitions]
    exact Plan.nodup_helperNames_iff hlent

end Declaration

namespace Gauges

def integer (name : String) (attributes : List Attribute) : FieldDeclaration :=
  ⟨name, [.leaf (.word "i64")], attributes⟩

def mapping (content : List Tree) : Attribute := ⟨"orm", .listed content⟩

def gauge (fields : List FieldDeclaration) : Declaration where
  name := "Gauge"
  generics := []
  attributes := [mapping
    [.leaf (.word "table"), .leaf (.mark "="), .leaf (.text ⟨"\"gauges\"", "gauges", ""⟩)]]
  body := .named fields

def skipping : List FieldDeclaration :=
  [integer "level" [], integer "mut_level" [mapping [.leaf (.word "skip")]], integer "r#type" []]

theorem definesOnce_skipping :
    (skipping.map fun f => plainName f.name).Nodup ∧
      ∃ p, (gauge skipping).plan = .ok p ∧ p.lent = ["level", "r#type"] ∧
        (p.definitions.map Helper.name).Nodup := by
  have hnames : (skipping.map fun f => plainName f.name).Nodup := by decide
  have hiff := (Declaration.definesOnce_iff (d := gauge skipping) rfl hnames rfl).2.2.2.2
  exact ⟨hnames, _, rfl, rfl, hiff.2 (by decide)⟩

/-- The writer of one field has the name of the reader of the other. -/
theorem not_definesOnce_level :
    ¬∀ (d : Declaration) (fields : List FieldDeclaration) (p : Plan), d.body = .named fields →
      (fields.map fun f => plainName f.name).Nodup → d.plan = .ok p →
        (p.definitions.map Helper.name).Nodup := by
  intro h
  have hnodup := h (gauge [integer "level" [], integer "mut_level" []]) _ _ rfl (by decide) rfl
  exact absurd hnodup (by decide)

end Gauges

end RecordSql.Derive
