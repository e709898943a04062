import RecordSql.Proofs.Statement.Declared

/-! The lists in a statement that SQL requires to have an item: the projection of each SELECT, the
columns and the tuples of an INSERT, the assignments of UPDATE and DO UPDATE, a conflict target, an
ORDER BY. A statement that builds has an item in each of them, unless a SELECT in it was given an
empty list of columns. -/

namespace RecordSql

open RecordSql.Part

inductive Chunk where
  | part (p : Part)
  | items (pss : List (List Part))
  /-- A list of lists in parentheses. -/
  | tuples (psss : List (List (List Part)))

namespace Chunk

def parts : Chunk → List Part
  | .part p => [p]
  | .items pss => listed pss
  | .tuples psss => listed (psss.map fun pss => .words "(" :: listed pss ++ [.words ")"])

def print (cs : List Chunk) : Sql := printAll (cs.flatMap parts)

def Full : Chunk → Prop
  | .part _ => True
  | .items pss => pss ≠ []
  | .tuples psss => psss ≠ [] ∧ ∀ pss ∈ psss, pss ≠ []

def AllFull (cs : List Chunk) : Prop := ∀ c ∈ cs, c.Full

@[simp] theorem print_append (cs ds : List Chunk) : print (cs ++ ds) = print cs ++ print ds := by
  simp [print]

@[simp] theorem print_cons (c : Chunk) (cs : List Chunk) :
    print (c :: cs) = printAll c.parts ++ print cs := by simp [print]

@[simp] theorem print_nil : print [] = .empty := rfl

@[simp] theorem print_map_part (ps : List Part) : print (ps.map .part) = printAll ps := by
  simp [print, List.flatMap_map, parts]

@[simp] theorem allFull_nil : AllFull [] := by simp [AllFull]

@[simp] theorem allFull_cons {c : Chunk} {cs : List Chunk} :
    AllFull (c :: cs) ↔ c.Full ∧ AllFull cs := List.forall_mem_cons

@[simp] theorem allFull_append {cs ds : List Chunk} :
    AllFull (cs ++ ds) ↔ AllFull cs ∧ AllFull ds := List.forall_mem_append

@[simp] theorem allFull_map_part (ps : List Part) : AllFull (ps.map .part) := by
  simp [AllFull, Full]

end Chunk

namespace Clauses

def orderChunks (q : Clauses) (sources : List Source) : List Chunk :=
  if q.order.isEmpty then []
  else [.part (.words " ORDER BY "), .items
    (q.order.map fun (r, d) => [.column sources r, .words (" " ++ d.sql)])]

def chunks (q : Clauses) (sources : List Source) (from_ : List Chunk) : List Chunk :=
  .part (.words "SELECT ") :: .part (.words q.distinctText) ::
      .items (q.projectionParts sources) :: .part (.words " FROM ") :: from_ ++
    (filtering sources q.condition).map .part ++ q.orderChunks sources ++
    [.part (.words q.limitText)]

def countChunks (q : Clauses) (sources : List Source) (from_ : List Chunk) : List Chunk :=
  .part (.words "SELECT ") :: .items [[.words "COUNT(*)"]] :: .part (.words " FROM ") :: from_ ++
    (filtering sources q.condition).map .part

def Projects (q : Clauses) : Prop := q.columns ≠ some []

instance (q : Clauses) : Decidable q.Projects := by unfold Projects; infer_instance

theorem print_orderChunks (q : Clauses) (sources : List Source) :
    Chunk.print (q.orderChunks sources) = printAll (q.orderParts sources) := by
  unfold orderChunks orderParts
  split_ifs <;> simp [Chunk.parts]

theorem print_chunks (q : Clauses) (sources : List Source) {from_ : List Chunk} {ps : List Part}
    (h : Chunk.print from_ = printAll ps) :
    Chunk.print (q.chunks sources from_) = printAll (q.parts sources ps) := by
  simp [chunks, Clauses.parts, Chunk.parts, h, print_orderChunks]

theorem print_countChunks (q : Clauses) (sources : List Source) {from_ : List Chunk}
    {ps : List Part} (h : Chunk.print from_ = printAll ps) :
    Chunk.print (q.countChunks sources from_) = printAll (q.countParts sources ps) := by
  have hwords : Sql.ofText "SELECT " ++ (Sql.ofText "COUNT(*)" ++ Sql.ofText " FROM ") =
      .ofText "SELECT COUNT(*) FROM " := rfl
  simp [countChunks, Clauses.countParts, Chunk.parts, listed, h, Part.print, ← hwords,
    Sql.append_assoc]

theorem allFull_orderChunks (q : Clauses) (sources : List Source) :
    Chunk.AllFull (q.orderChunks sources) := by
  unfold orderChunks
  split_ifs with h
  · exact Chunk.allFull_nil
  · simpa [Chunk.Full] using h

theorem allFull_chunks (q : Clauses) (sources : List Source) (from_ : List Chunk) :
    Chunk.AllFull (q.chunks sources from_) ↔
      q.projectionParts sources ≠ [] ∧ Chunk.AllFull from_ := by
  simp [chunks, Chunk.Full, allFull_orderChunks]

theorem allFull_countChunks (q : Clauses) (sources : List Source) (from_ : List Chunk) :
    Chunk.AllFull (q.countChunks sources from_) ↔ Chunk.AllFull from_ := by
  simp [countChunks, Chunk.Full]

end Clauses

mutual

def Source.chunks : Source → List Chunk
  | .table t => [.part (.table t)]
  | .subquery name q inner =>
    .part (.words "(") :: q.chunks inner.sources (inner.chunks inner.sources) ++
      [.part (.words ")"), .part (.words " AS "), .part (.given name)]

def Joined.chunks (sources : List Source) : Joined → List Chunk
  | .base s => s.chunks
  | .join left kind right on =>
    left.chunks sources ++ .part (.words (" " ++ kind.sql ++ " ")) :: right.chunks ++
      .part (.words " ON ") :: (on.parts sources).map .part

end

mutual

def Source.queries : Source → List Clauses
  | .table _ => []
  | .subquery _ q inner => q :: inner.queries

def Joined.queries : Joined → List Clauses
  | .base s => s.queries
  | .join left _ right _ => left.queries ++ right.queries

end

mutual

theorem Source.print_chunks : ∀ s : Source, Chunk.print s.chunks = printAll s.parts
  | .table t => by simp [Source.chunks, Source.parts, Chunk.parts]
  | .subquery name q inner => by
    have h := q.print_chunks inner.sources (inner.print_chunks inner.sources)
    simp [Source.chunks, Source.parts, Chunk.parts, h]

theorem Joined.print_chunks (sources : List Source) :
    ∀ j : Joined, Chunk.print (j.chunks sources) = printAll (j.parts sources)
  | .base s => by rw [Joined.chunks, Joined.parts, s.print_chunks]
  | .join left kind right on => by
    simp [Joined.chunks, Joined.parts, Chunk.parts, left.print_chunks, right.print_chunks]

end

variable {schema : Schema}

theorem Table.columns_ne_nil (t : Table) : t.columns ≠ [] := by
  have h := t.wellFormed
  unfold fault? at h
  by_cases hf : t.fields.isEmpty
  · rw [if_pos hf] at h
    cases h
  · simpa [columns] using hf

theorem Joined.sources_ne_nil : ∀ j : Joined, j.sources ≠ []
  | .base s => by simp [Joined.sources]
  | .join left kind right on => by simp [Joined.sources]

theorem Clauses.projectionParts_ne_nil {q : Clauses} {sources : List Source}
    (hs : ∀ s ∈ sources.head?, s.exposed.columns ≠ []) (hne : sources ≠ []) :
    q.projectionParts sources ≠ [] ↔ q.Projects := by
  unfold projectionParts Projects
  cases q.columns with
  | some refs => simp
  | none =>
    obtain ⟨s, rest, rfl⟩ := List.exists_cons_of_ne_nil hne
    simpa using hs s rfl

theorem Clauses.Checked.exposes_ne_nil {q : Clauses} {j : Joined} (h : q.Checked j)
    (hq : q.Projects) (hs : ∀ s ∈ j.sources.head?, s.exposed.columns ≠ []) :
    q.exposes j.scope ≠ [] := by
  have hcolumns := h.columns
  unfold Projects at hq
  unfold exposes
  cases hc : q.columns with
  | some refs =>
    rw [hc] at hq hcolumns
    obtain ⟨r, rest, rfl⟩ := List.exists_cons_of_ne_nil fun he => hq (congrArg some he)
    obtain ⟨c, hr⟩ := hcolumns r List.mem_cons_self
    have hsome : (j.scope.resolve r).toOption = some c := by rw [hr]; rfl
    simp [hsome]
  | none =>
    obtain ⟨s, rest, hcons⟩ := List.exists_cons_of_ne_nil j.sources_ne_nil
    rw [hcons] at hs
    simpa [j.scope_eq, hcons] using hs s rfl

mutual

theorem Source.Grounded.columns_ne_nil : ∀ {s : Source}, s.Grounded schema →
    (∀ q ∈ s.queries, q.Projects) → s.exposed.columns ≠ []
  | .table t, _, _ => by
    rw [Source.exposed]
    exact t.columns_ne_nil
  | .subquery name q inner, h, hq => by
    rw [Source.Grounded] at h
    rw [Source.queries, List.forall_mem_cons] at hq
    rw [Source.exposed]
    exact h.2.exposes_ne_nil hq.1 (Joined.Grounded.columns_ne_nil h.1 hq.2)

theorem Joined.Grounded.columns_ne_nil : ∀ {j : Joined}, j.Grounded schema →
    (∀ q ∈ j.queries, q.Projects) → ∀ s ∈ j.sources.head?, s.exposed.columns ≠ []
  | .base s, h, hq => by
    rw [Joined.Grounded] at h
    rw [Joined.queries] at hq
    rintro _ ⟨⟩
    exact Source.Grounded.columns_ne_nil h hq
  | .join left kind right on, h, hq => by
    rw [Joined.Grounded] at h
    rw [Joined.queries, List.forall_mem_append] at hq
    intro s hs
    have hhead : (left.sources ++ [right]).head? = left.sources.head? :=
      List.head?_append_of_ne_nil _ left.sources_ne_nil
    rw [Joined.sources, hhead] at hs
    exact Joined.Grounded.columns_ne_nil h.1 hq.1 s hs

end

mutual

theorem Source.Grounded.allFull_chunks : ∀ {s : Source}, s.Grounded schema →
    (Chunk.AllFull s.chunks ↔ ∀ q ∈ s.queries, q.Projects)
  | .table t, _ => by simp [Source.chunks, Source.queries, Chunk.Full]
  | .subquery name q inner, h => by
    rw [Source.Grounded] at h
    have hinner := Joined.Grounded.allFull_chunks h.1 inner.sources
    have hq (hp : ∀ q ∈ inner.queries, q.Projects) : q.projectionParts inner.sources ≠ [] ↔ _ :=
      Clauses.projectionParts_ne_nil (Joined.Grounded.columns_ne_nil h.1 hp) inner.sources_ne_nil
    simp only [Source.chunks, Source.queries, Chunk.allFull_append, Chunk.allFull_cons,
      Clauses.allFull_chunks, hinner, Chunk.Full, Chunk.allFull_nil, true_and, and_true,
      List.forall_mem_cons]
    exact and_congr_left hq

theorem Joined.Grounded.allFull_chunks : ∀ {j : Joined}, j.Grounded schema →
    ∀ sources, (Chunk.AllFull (j.chunks sources) ↔ ∀ q ∈ j.queries, q.Projects)
  | .base s, h, sources => by
    rw [Joined.Grounded] at h
    rw [Joined.chunks, Joined.queries]
    exact Source.Grounded.allFull_chunks h
  | .join left kind right on, h, sources => by
    rw [Joined.Grounded] at h
    have hleft := Joined.Grounded.allFull_chunks h.1 sources
    have hright := Source.Grounded.allFull_chunks h.2
    simp only [Joined.chunks, Joined.queries, Chunk.allFull_append, Chunk.allFull_cons, hleft,
      hright, Chunk.Full, Chunk.allFull_map_part, true_and, and_true, List.forall_mem_append]

end

namespace Select

def queries (q : Select) : List Clauses := q.clauses :: q.sources.queries

def queryChunks (q : Select) : List Chunk :=
  q.clauses.chunks q.sources.sources (q.sources.chunks q.sources.sources)

def chunks (q : Select) : List Chunk := q.queryChunks ++ [.part (.words ";")]

/-- The queries whose rows are counted: the rows of a window as such, and those that meet the
condition otherwise. -/
def counted (q : Select) : List Clauses :=
  if q.clauses.isWindow then q.queries else q.sources.queries

def countChunks (q : Select) : List Chunk :=
  if q.clauses.isWindow then
    .part (.words "SELECT ") :: .items [[.words "COUNT(*)"]] :: .part (.words " FROM (") ::
      q.queryChunks ++ [.part (.words ");")]
  else
    q.clauses.countChunks q.sources.sources (q.sources.chunks q.sources.sources) ++
      [.part (.words ";")]

theorem print_queryChunks (q : Select) : Chunk.print q.queryChunks = printAll q.queryParts :=
  q.clauses.print_chunks _ (q.sources.print_chunks _)

theorem print_chunks (q : Select) : Chunk.print q.chunks = printAll q.parts := by
  simp [chunks, Select.parts, Chunk.parts, print_queryChunks]

theorem print_countChunks (q : Select) : Chunk.print q.countChunks = printAll q.countParts := by
  have hwords : Sql.ofText "SELECT " ++ (Sql.ofText "COUNT(*)" ++ Sql.ofText " FROM (") =
      .ofText "SELECT COUNT(*) FROM (" := rfl
  unfold countChunks countParts
  split_ifs
  · simp [Chunk.parts, listed, print_queryChunks, Part.print, ← hwords, Sql.append_assoc]
  · simp [Chunk.parts, q.clauses.print_countChunks _ (q.sources.print_chunks _)]

theorem allFull_queryChunks {q : Select} (h : q.sources.Grounded schema) :
    Chunk.AllFull q.queryChunks ↔ ∀ c ∈ q.queries, c.Projects := by
  have hq (hp : ∀ c ∈ q.sources.queries, c.Projects) :
      q.clauses.projectionParts q.sources.sources ≠ [] ↔ _ :=
    Clauses.projectionParts_ne_nil (Joined.Grounded.columns_ne_nil h hp) q.sources.sources_ne_nil
  rw [queryChunks, Clauses.allFull_chunks, Joined.Grounded.allFull_chunks h, queries,
    List.forall_mem_cons]
  exact and_congr_left hq

theorem allFull_chunks {q : Select} (h : q.sources.Grounded schema) :
    Chunk.AllFull q.chunks ↔ ∀ c ∈ q.queries, c.Projects := by
  simp only [chunks, Chunk.allFull_append, allFull_queryChunks h, Chunk.allFull_cons, Chunk.Full,
    Chunk.allFull_nil, and_true]

theorem allFull_countChunks {q : Select} (h : q.sources.Grounded schema) :
    Chunk.AllFull q.countChunks ↔ ∀ c ∈ q.counted, c.Projects := by
  unfold countChunks counted
  split_ifs
  · simp [allFull_queryChunks h, Chunk.Full]
  · simp only [Chunk.allFull_append, Clauses.allFull_countChunks,
      Joined.Grounded.allFull_chunks h, Chunk.allFull_cons, Chunk.Full, Chunk.allFull_nil, and_true]

end Select

namespace Insert

def targetChunks (t : Table) (target : List String) : List Chunk :=
  if target.isEmpty then []
  else [.part (.words " ("), .items (target.map fun name => [named t name]), .part (.words ")")]

def conflictChunks (t : Table) (clause : OnConflict) : List Chunk :=
  .part (.words " ON CONFLICT") :: targetChunks t clause.target ++
    if clause.action = .nothing then [.part (.words " DO NOTHING")]
    else
      [.part (.words " DO UPDATE SET "), .items ((overwrittenNames t clause).map fun name =>
        [named t name, .words " = excluded.", named t name])]

def sourceChunks (q : Insert) : List Chunk :=
  if q.table.inserted.isEmpty then [.part (.words " DEFAULT VALUES")]
  else
    [.part (.words " ("), .items (q.table.inserted.map fun c => [named q.table c.name]),
      .part (.words ") VALUES "), .tuples (q.rows.map fun row =>
        (q.table.inserted.zip row).map fun (c, v) => [.value [.table q.table] (.plain c.name) v])]

def chunks (q : Insert) : List Chunk :=
  .part (.words "INSERT INTO ") :: .part (.table q.table) :: q.sourceChunks ++
    ((q.onConflict.map (conflictChunks q.table)).getD []) ++ [.part (.words ";")]

def Filled (q : Insert) : Prop := ∀ row ∈ q.rows, row.length = q.table.inserted.length

theorem print_targetChunks (t : Table) (target : List String) :
    Chunk.print (targetChunks t target) = printAll (targetParts t target) := by
  unfold targetChunks targetParts
  split_ifs <;> simp [Chunk.parts]

theorem print_conflictChunks (t : Table) (clause : OnConflict) :
    Chunk.print (conflictChunks t clause) = printAll (conflictParts t clause) := by
  unfold conflictChunks conflictParts
  split_ifs <;> simp [Chunk.parts, print_targetChunks]

theorem print_sourceChunks (q : Insert) :
    Chunk.print q.sourceChunks = printAll q.sourceParts := by
  have htuple : (fun row => tupleParts q.table row) = fun row => .words "(" :: listed
      ((q.table.inserted.zip row).map fun (c, v) => [.value [.table q.table] (.plain c.name) v]) ++
      [.words ")"] := rfl
  unfold sourceChunks sourceParts
  split_ifs
  · simp [Chunk.parts]
  · simp [Chunk.parts, htuple, Function.comp_def]

theorem print_chunks (q : Insert) : Chunk.print q.chunks = printAll q.parts := by
  cases hc : q.onConflict <;>
    simp [chunks, Insert.parts, Chunk.parts, print_sourceChunks, print_conflictChunks, hc]

theorem allFull_targetChunks (t : Table) (target : List String) :
    Chunk.AllFull (targetChunks t target) := by
  unfold targetChunks
  split_ifs with h
  · exact Chunk.allFull_nil
  · simpa [Chunk.Full] using h

theorem allFull_conflictChunks {t : Table} {clause : OnConflict} {text : String}
    (h : conflictText t clause = .ok text) : Chunk.AllFull (conflictChunks t clause) := by
  obtain ⟨-, -, hupdate, -⟩ := conflictText_eq_ok h
  unfold conflictChunks
  split_ifs with ha
  · simp [allFull_targetChunks, Chunk.Full]
  · simp [allFull_targetChunks, Chunk.Full, (hupdate ha).2]

theorem allFull_sourceChunks {q : Insert} (hr : q.rows ≠ []) (hf : q.Filled) :
    Chunk.AllFull q.sourceChunks := by
  unfold sourceChunks
  split_ifs with he
  · simp [Chunk.Full]
  · have hne : q.table.inserted ≠ [] := fun h => he (by rw [h]; rfl)
    have htuple : ∀ row ∈ q.rows, q.table.inserted.zip row ≠ [] := fun row hrow hzip => by
      have hlength := congrArg List.length hzip
      rw [List.length_zip, hf row hrow, Nat.min_self] at hlength
      exact hne (List.length_eq_zero_iff.1 hlength)
    simpa [Chunk.Full, hr, hne] using htuple

theorem allFull_chunks {q : Insert} (hf : q.Filled) {sql : Sql} (h : q.build = .ok sql) :
    Chunk.AllFull q.chunks := by
  obtain ⟨hr, _, _, -, hconflict, -⟩ := build_eq_ok h
  have hsource := allFull_sourceChunks hr hf
  cases hc : q.onConflict with
  | none => simp [chunks, hsource, hc, Chunk.Full]
  | some clause =>
    rw [hc] at hconflict
    simp [chunks, hsource, hc, allFull_conflictChunks hconflict, Chunk.Full]

end Insert

namespace Update

def chunks (q : Update) : List Chunk :=
  .part (.words "UPDATE ") :: .part (.table q.table) :: .part (.words " SET ") ::
      .items (q.assignments.map fun (name, v) => assignmentParts q.table name v) ::
      (filtering [.table q.table] q.condition).map .part ++ [.part (.words ";")]

theorem print_chunks (q : Update) : Chunk.print q.chunks = printAll q.parts := by
  simp [chunks, Update.parts, Chunk.parts]

theorem allFull_chunks {q : Update} {sql : Sql} (h : q.build = .ok sql) :
    Chunk.AllFull q.chunks := by
  have hne := (build_eq_ok h).1
  simp [chunks, Chunk.Full, hne]

end Update

end RecordSql
