import RecordSql.Proofs.Statement.Spelled
import RecordSql.Proofs.Statement.Tokens
import RecordSql.Proofs.Table.Declaration

/-! The primary keys in the text that creates a table. A declaration is held against the number of
its columns that are keys, and the text has a clause for every constraint, so that it has one key at
most exactly if no column is declared a key twice. AUTOINCREMENT ends such a clause, and the column
that the clause is of is an INTEGER. -/

namespace RecordSql

def keyClauses : List Token → Nat
  | [] => 0
  | t :: ts =>
    (if t = keyword "PRIMARY" ∧ ts.head? = some (keyword "KEY") then 1 else 0) + keyClauses ts

/-- The words of a key's clause, and what parts one column from the next. -/
def marks : List Token :=
  [keyword "PRIMARY", keyword "KEY", keyword "AUTOINCREMENT", .symbol ',']

def Unmarked (ts : List Token) : Prop := ∀ t ∈ ts, t ∉ marks

instance (ts : List Token) : Decidable (Unmarked ts) := by unfold Unmarked; infer_instance

section

variable {sep front back xs ys : List Token} {xss : List (List Token)} {a : Token}

theorem keyClauses_append (h : ys.head? ≠ some (keyword "KEY")) :
    keyClauses (xs ++ ys) = keyClauses xs + keyClauses ys := by
  induction xs with
  | nil => simp [keyClauses]
  | cons x rest ih =>
    have hhead : (rest ++ ys).head? = some (keyword "KEY") ↔
        rest.head? = some (keyword "KEY") := by
      cases rest with
      | nil => simpa using h
      | cons => rfl
    rw [List.cons_append, keyClauses, keyClauses, ih, Nat.add_assoc]
    simp only [hhead]

theorem keyClauses_cons (h : a ≠ keyword "PRIMARY") : keyClauses (a :: xs) = keyClauses xs := by
  rw [keyClauses, if_neg (fun hkey => h hkey.1), Nat.zero_add]

theorem keyClauses_append_of_notMem (h : keyword "PRIMARY" ∉ xs) :
    keyClauses (xs ++ ys) = keyClauses ys := by
  induction xs with
  | nil => rfl
  | cons x rest ih =>
    rw [List.mem_cons, not_or] at h
    rw [List.cons_append, keyClauses_cons (Ne.symm h.1), ih h.2]

theorem head?_append_ne (hxs : xs.head? ≠ some a) (hys : ys.head? ≠ some a) :
    (xs ++ ys).head? ≠ some a := by
  rw [List.head?_append]
  cases hx : xs.head? with
  | none => simpa using hys
  | some t => simpa [hx] using hxs

theorem keyClauses_intercalate (hsep : sep.head? ≠ some (keyword "KEY"))
    (hnone : keyClauses sep = 0) (h : ∀ xs ∈ xss, xs.head? ≠ some (keyword "KEY")) :
    (sep.intercalate xss).head? ≠ some (keyword "KEY") ∧
      keyClauses (sep.intercalate xss) = (xss.map keyClauses).sum := by
  induction xss with
  | nil => simp [keyClauses]
  | cons xs rest ih =>
    obtain ⟨hxs, hrest⟩ := List.forall_mem_cons.1 h
    cases rest with
    | nil => simpa using hxs
    | cons ys rest =>
      obtain ⟨hhead, hsum⟩ := ih hrest
      have htail : (sep ++ sep.intercalate (ys :: rest)).head? ≠ some (keyword "KEY") :=
        head?_append_ne hsep hhead
      rw [List.intercalate_cons_cons, List.append_assoc]
      refine ⟨head?_append_ne hxs htail, ?_⟩
      rw [keyClauses_append htail, keyClauses_append hhead, hnone, Nat.zero_add, hsum]
      rfl

theorem Unmarked.notMem (h : Unmarked xs) (ha : a ∈ marks) : a ∉ xs := fun hm => h a hm ha

theorem Unmarked.head?_ne (h : Unmarked xs) : xs.head? ≠ some (keyword "KEY") :=
  fun he => h _ (List.mem_of_head? he) (by decide)

theorem Unmarked.keyClauses_eq (h : Unmarked xs) : keyClauses xs = 0 := by
  have hnil : keyClauses (xs ++ []) = keyClauses [] :=
    keyClauses_append_of_notMem (h.notMem (by decide))
  rwa [List.append_nil] at hnil

theorem unmarked_append : Unmarked (xs ++ ys) ↔ Unmarked xs ∧ Unmarked ys :=
  List.forall_mem_append

theorem unmarked_quoted {mark : Char} {text : List Char} :
    Unmarked (.quoted mark text :: xs) ↔ Unmarked xs :=
  List.forall_mem_cons.trans (and_iff_right (by simp [marks, keyword]))

theorem split_append (h : xs ++ ys = front ++ a :: back) :
    (∃ rest, xs = front ++ a :: rest) ∨
      ∃ inner, front = xs ++ inner ∧ ys = inner ++ a :: back := by
  rcases List.append_eq_append_iff.1 h with ⟨inner, rfl, hys⟩ | ⟨outer, rfl, hback⟩
  · exact .inr ⟨inner, rfl, hys⟩
  · cases outer with
    | nil => exact .inr ⟨[], by simp, by simpa using hback.symm⟩
    | cons b rest =>
      obtain rfl : a = b := (List.cons.inj hback).1
      exact .inl ⟨rest, rfl⟩

theorem exists_of_intercalate (ha : a ∉ sep) (h : sep.intercalate xss = front ++ a :: back) :
    ∃ inner rest, inner ++ a :: rest ∈ xss ∧ inner <:+ front := by
  induction xss generalizing front with
  | nil => simp at h
  | cons xs rest ih =>
    cases rest with
    | nil =>
      rw [List.intercalate_singleton] at h
      exact ⟨front, back, List.mem_singleton.2 h.symm, List.suffix_rfl⟩
    | cons ys rest =>
      rw [List.intercalate_cons_cons, List.append_assoc] at h
      rcases split_append h with ⟨after, rfl⟩ | ⟨tail, rfl, htail⟩
      · exact ⟨front, after, List.mem_cons_self, List.suffix_rfl⟩
      rcases split_append htail with ⟨after, hsep⟩ | ⟨last, rfl, hlast⟩
      · exact absurd (by simp [hsep]) ha
      · obtain ⟨inner, after, hmem, hsuffix⟩ := ih hlast
        refine ⟨inner, after, List.mem_cons_of_mem _ hmem, ?_⟩
        exact List.suffix_append_of_suffix (List.suffix_append_of_suffix hsuffix)

theorem notMem_intercalate (ha : a ∉ sep) (h : ∀ xs ∈ xss, a ∉ xs) : a ∉ sep.intercalate xss := by
  intro hmem
  obtain ⟨front, back, hsplit⟩ := List.mem_iff_append.1 hmem
  obtain ⟨inner, rest, hitem, -⟩ := exists_of_intercalate ha hsplit
  exact h _ hitem (by simp)

theorem nil_intercalate_cons (xs : List Token) (xss : List (List Token)) :
    [].intercalate (xs :: xss) = xs ++ [].intercalate xss := by
  cases xss with
  | nil => simp
  | cons ys rest => rw [List.intercalate_cons_cons, List.append_nil]

end

open RecordSql.Part

namespace Constraint

def keyTokens (conflict : ConflictPolicy) : List Token :=
  ["PRIMARY", "KEY", "ON", "CONFLICT", conflict.sql].map keyword

theorem tokens_primaryKey (conflict : ConflictPolicy) (autoincrement : Bool) :
    tokens (primaryKey conflict autoincrement).parts =
      keyTokens conflict ++ if autoincrement then [keyword "AUTOINCREMENT"] else [] := by
  cases conflict <;> cases autoincrement <;> rfl

theorem primaryKey_or_unmarked (k : Constraint) :
    (∃ conflict autoincrement, k = primaryKey conflict autoincrement) ∨
      k.isPrimaryKey = false ∧ Unmarked (tokens k.parts) := by
  have hpolicy (p : ConflictPolicy) : Unmarked (scan p.sql) := by cases p <;> decide
  have haction (a : ReferentialAction) : Unmarked (scan a.sql) := by cases a <;> decide
  have hnil : Unmarked [] := List.forall_mem_nil _
  cases k with
  | primaryKey conflict autoincrement => exact .inl ⟨conflict, autoincrement, rfl⟩
  | notNull conflict =>
    have hwords : Unmarked (scan "NOT NULL ON CONFLICT ") := by decide
    exact .inr ⟨rfl, unmarked_append.2 ⟨hwords, unmarked_append.2 ⟨hpolicy conflict, hnil⟩⟩⟩
  | unique conflict =>
    have hwords : Unmarked (scan "UNIQUE ON CONFLICT ") := by decide
    exact .inr ⟨rfl, unmarked_append.2 ⟨hwords, unmarked_append.2 ⟨hpolicy conflict, hnil⟩⟩⟩
  | foreignKey reference onUpdate onDelete =>
    have hwords : Unmarked (scan "REFERENCES ") ∧ Unmarked (scan " (") ∧
        Unmarked (scan ") ON UPDATE ") ∧ Unmarked (scan " ON DELETE ") := by decide
    refine .inr ⟨rfl, ?_⟩
    simp only [parts, tokens_words, tokens_given, tokens_nil, unmarked_append, unmarked_quoted]
    exact ⟨hwords.1, hwords.2.1, hwords.2.2.1, haction onUpdate, hwords.2.2.2, haction onDelete,
      hnil⟩

structure Clause (k : Constraint) (ts : List Token) : Prop where
  head : ts.head? ≠ some (keyword "KEY")
  keys : keyClauses ts = if k.isPrimaryKey then 1 else 0
  comma : .symbol ',' ∉ ts
  /-- AUTOINCREMENT is the end of a key's clause. -/
  numbered : ∀ front back, ts = front ++ keyword "AUTOINCREMENT" :: back →
    ∃ conflict, k = primaryKey conflict true ∧ front = keyTokens conflict

theorem clause_parts (k : Constraint) : Clause k (tokens k.parts) := by
  rcases k.primaryKey_or_unmarked with ⟨conflict, autoincrement, rfl⟩ | ⟨hkey, hunmarked⟩
  · rw [tokens_primaryKey]
    refine ⟨by simp [keyTokens, keyword], ?_, ?_, fun front back h => ?_⟩
    · cases autoincrement <;> cases conflict <;> rfl
    · cases autoincrement <;> cases conflict <;> decide
    · have hnone : keyword "AUTOINCREMENT" ∉ keyTokens conflict := by cases conflict <;> decide
      rcases split_append h with ⟨rest, hrest⟩ | ⟨inner, rfl, hinner⟩
      · exact absurd (by simp [hrest]) hnone
      cases autoincrement with
      | false => simp at hinner
      | true =>
        cases inner with
        | nil => exact ⟨conflict, rfl, List.append_nil _⟩
        | cons => simp at hinner
  · refine ⟨hunmarked.head?_ne, ?_, hunmarked.notMem (by decide), fun front back h => ?_⟩
    · rw [hunmarked.keyClauses_eq, hkey]
      rfl
    · exact absurd (by simp [h]) (hunmarked.notMem (a := keyword "AUTOINCREMENT") (by decide))

theorem sum_keyClauses (ks : List Constraint) :
    ((ks.map fun k => tokens k.parts).map keyClauses).sum = ks.countP isPrimaryKey := by
  induction ks with
  | nil => rfl
  | cons k rest ih =>
    rw [List.map_cons, List.map_cons, List.sum_cons, ih, k.clause_parts.keys, List.countP_cons,
      Nat.add_comm]

end Constraint

namespace Column

def clauseTokens (c : Column) : List Token :=
  [].intercalate (c.clauses.map fun k => tokens k.parts)

theorem tokens_parts (c : Column) :
    tokens c.parts =
      .quoted '\x60' c.name.toList :: keyword c.storage.sql :: c.clauseTokens := by
  have hblank : scan " " = [] := rfl
  have hstorage : scan (" " ++ c.storage.sql) = [keyword c.storage.sql] := by
    cases c.storage <;> rfl
  rw [parts, tokens_separated, hblank, List.map_cons, nil_intercalate_cons, tokens_given,
    tokens_words, hstorage, List.map_map]
  rfl

theorem countP_clauses (c : Column) :
    c.clauses.countP Constraint.isPrimaryKey = c.constraints.countP Constraint.isPrimaryKey := by
  have hnotNull : (c.notNullPolicy?.map Constraint.notNull).toList.countP
      Constraint.isPrimaryKey = 0 := by
    cases c.notNullPolicy? <;> rfl
  have hothers (k : Constraint) : (k.isPrimaryKey && !k.isNotNull) = k.isPrimaryKey := by
    cases k <;> rfl
  rw [clauses, List.countP_append, hnotNull, List.countP_filter, Nat.zero_add]
  simp only [hothers]

theorem mem_constraints {c : Column} {k : Constraint} (h : k ∈ c.clauses) (hk : k.isPrimaryKey) :
    k ∈ c.constraints := by
  rcases List.mem_append.1 h with hnotNull | hothers
  · obtain ⟨conflict, -, rfl⟩ : ∃ conflict, c.notNullPolicy? = some conflict ∧
        .notNull conflict = k := by simpa using hnotNull
    cases hk
  · exact List.mem_of_mem_filter hothers

theorem keyClauses_parts (c : Column) :
    keyClauses (tokens c.parts) = c.constraints.countP Constraint.isPrimaryKey := by
  have hstorage : keyword c.storage.sql ≠ keyword "PRIMARY" := by cases c.storage <;> decide
  have hname : Token.quoted '\x60' c.name.toList ≠ keyword "PRIMARY" := Token.noConfusion
  have hnil : ([] : List Token).head? ≠ some (keyword "KEY") := by decide
  have hsum : keyClauses c.clauseTokens =
      ((c.clauses.map fun k => tokens k.parts).map keyClauses).sum :=
    (keyClauses_intercalate hnil rfl (List.forall_mem_map.2 fun k _ => k.clause_parts.head)).2
  rw [tokens_parts, keyClauses_cons hname, keyClauses_cons hstorage, hsum,
    Constraint.sum_keyClauses, countP_clauses]

theorem comma_notMem_clauseTokens (c : Column) : .symbol ',' ∉ c.clauseTokens :=
  notMem_intercalate List.not_mem_nil (List.forall_mem_map.2 fun k _ => k.clause_parts.comma)

theorem exists_of_autoincrement {c : Column} {front back : List Token}
    (h : tokens c.parts = front ++ keyword "AUTOINCREMENT" :: back) :
    ∃ conflict between, .primaryKey conflict true ∈ c.constraints ∧ .symbol ',' ∉ between ∧
      front = .quoted '\x60' c.name.toList :: keyword c.storage.sql :: between ++
        Constraint.keyTokens conflict := by
  have hnone : keyword "AUTOINCREMENT" ∉
      [.quoted '\x60' c.name.toList, keyword c.storage.sql] := by
    cases c.storage <;> simp [keyword, StorageClass.sql]
  have hparts : [.quoted '\x60' c.name.toList, keyword c.storage.sql] ++ c.clauseTokens =
      front ++ keyword "AUTOINCREMENT" :: back := c.tokens_parts.symm.trans h
  rcases split_append hparts with ⟨rest, hrest⟩ | ⟨front, rfl, hclauses⟩
  · exact absurd (hrest ▸ List.mem_append_right _ List.mem_cons_self) hnone
  have hcomma : .symbol ',' ∉ front := by
    intro hmem
    exact c.comma_notMem_clauseTokens (by simp [hclauses, hmem])
  obtain ⟨inner, rest, hmem, between, rfl⟩ := exists_of_intercalate List.not_mem_nil hclauses
  obtain ⟨k, hk, hparts⟩ := List.mem_map.1 hmem
  obtain ⟨conflict, rfl, rfl⟩ := k.clause_parts.numbered _ _ hparts
  refine ⟨conflict, between, mem_constraints hk rfl, ?_, rfl⟩
  exact fun hm => hcomma (List.mem_append_left _ hm)

end Column

def Field.keyCount (f : Field) : Nat := f.constraints.countP Constraint.isPrimaryKey

namespace Table

def tokens (t : Table) (ifNotExists : Bool) : List Token :=
  (t.segments ifNotExists).flatMap Segment.tokens

def headTokens (ifNotExists : Bool) : List Token :=
  (["CREATE", "TABLE"] ++ if ifNotExists then ["IF", "NOT", "EXISTS"] else []).map keyword

def bodyTokens (t : Table) : List Token := Part.tokens t.bodyParts

variable {t : Table}

theorem tokens_eq (t : Table) (ifNotExists : Bool) :
    t.tokens ifNotExists = headTokens ifNotExists ++ .word t.name.toList :: t.bodyTokens := by
  cases ifNotExists <;> rfl

theorem bodyTokens_eq (t : Table) :
    t.bodyTokens = .symbol '(' ::
      [.symbol ','].intercalate (t.columns.map fun c => Part.tokens c.parts) ++
        [.symbol ')', .symbol ';'] := by
  have hopen : scan " (\n" = [.symbol '('] := rfl
  have hsep : scan ",\n" = [.symbol ','] := rfl
  have hclose : scan "\n);\n" = [.symbol ')', .symbol ';'] := rfl
  have hindent (c : Column) : Part.tokens (.words "    " :: c.parts) = Part.tokens c.parts := rfl
  rw [bodyTokens, bodyParts, tokens_append, tokens_words, tokens_separated, tokens_words, hopen,
    hsep, hclose, List.map_map]
  simp only [Function.comp_def, hindent]
  rfl

theorem wellFormed_of_declare {name recordType : String} {fields : List Field}
    {defaults : (f : Field) → f.type.Carrier}
    (h : declare name recordType fields defaults = .ok t) : WellFormed fields := by
  rcases wellFormed_or_refused name fields with hwell | ⟨fault, hfault⟩
  · exact hwell
  · rw [declare_of_refused hfault] at h
    cases h

theorem keyClauses_bodyTokens (t : Table) :
    keyClauses t.bodyTokens = (t.fields.map Field.keyCount).sum := by
  have hcolumns : (t.columns.map fun c => Part.tokens c.parts).map keyClauses =
      t.fields.map Field.keyCount := by
    rw [List.map_map]
    exact t.map_columns fun f i => (f.column i).keyClauses_parts
  have hhead (c : Column) : (Part.tokens c.parts).head? ≠ some (keyword "KEY") := by
    rw [Column.tokens_parts]
    simp [keyword]
  have hsum : keyClauses ([.symbol ','].intercalate (t.columns.map fun c => Part.tokens c.parts)) =
      ((t.columns.map fun c => Part.tokens c.parts).map keyClauses).sum :=
    (keyClauses_intercalate (by decide) rfl (List.forall_mem_map.2 fun c _ => hhead c)).2
  have hclose : keyClauses [.symbol ')', .symbol ';'] = 0 := rfl
  have hopen : Token.symbol '(' ≠ keyword "PRIMARY" := by decide
  rw [bodyTokens_eq, List.cons_append, keyClauses_cons hopen, keyClauses_append (by decide),
    hsum, hcolumns, hclose, Nat.add_zero]

theorem keyClauses_tokens (t : Table) (ifNotExists : Bool) :
    keyClauses (t.tokens ifNotExists) = (t.fields.map Field.keyCount).sum := by
  have hhead : keyword "PRIMARY" ∉ headTokens ifNotExists := by cases ifNotExists <;> decide
  -- a table can be called PRIMARY, but KEY does not follow its name
  have hopen : t.bodyTokens.head? ≠ some (keyword "KEY") := by
    rw [bodyTokens_eq]
    simp [keyword]
  rw [tokens_eq, keyClauses_append_of_notMem hhead, keyClauses,
    if_neg (fun hkey => hopen hkey.2), Nat.zero_add, keyClauses_bodyTokens]

theorem sum_keyCount_le {fields : List Field} (h : WellFormed fields) :
    (fields.map Field.keyCount).sum ≤ 1 ↔ ∀ f ∈ fields, f.keyCount ≤ 1 := by
  have hkeyed (f : Field) : f.Keyed ↔ f.keyCount ≠ 0 := by
    rw [← Field.isPrimaryKey_iff, Field.isPrimaryKey, Field.keyCount, List.any_eq_true, Ne,
      List.countP_eq_zero]
    simp
  have hpairs := h.oneKey
  simp only [hkeyed] at hpairs
  clear h
  induction fields with
  | nil => simp
  | cons f rest ih =>
    obtain ⟨hf, hrest⟩ := List.pairwise_cons.1 hpairs
    rw [List.map_cons, List.sum_cons, List.forall_mem_cons]
    by_cases hzero : f.keyCount = 0
    · rw [hzero, Nat.zero_add]
      exact (ih hrest).trans (and_iff_right (Nat.zero_le 1)).symm
    · -- no other column is a key
      have hothers : ∀ g ∈ rest, g.keyCount = 0 := fun g hg =>
        Classical.not_not.1 fun hne => hf g hg ⟨hzero, hne⟩
      have hsum : (rest.map Field.keyCount).sum = 0 :=
        List.sum_eq_zero_iff_forall_eq_nat.2 (List.forall_mem_map.2 hothers)
      rw [hsum, Nat.add_zero]
      exact (and_iff_left fun g hg => by simp [hothers g hg]).symm

structure Keys (fields : List Field) (t : Table) (ifNotExists : Bool) : Prop where
  /-- Where names suit their places, this is how the text is read. -/
  read : (∀ s ∈ t.segments ifNotExists, s.Suits) →
    scan (t.creation ifNotExists) = t.tokens ifNotExists
  /-- Every constraint is written, also one that stands beside another of its kind. -/
  counted : keyClauses (t.tokens ifNotExists) = (fields.map Field.keyCount).sum
  single : keyClauses (t.tokens ifNotExists) ≤ 1 ↔ ∀ f ∈ fields, f.keyCount ≤ 1
  split : t.tokens ifNotExists = headTokens ifNotExists ++ .word t.name.toList :: t.bodyTokens
  /-- Behind the name of the table, AUTOINCREMENT ends the key's clause of an INTEGER column. -/
  numbered : ∀ front back, t.bodyTokens = front ++ keyword "AUTOINCREMENT" :: back →
    ∃ c ∈ t.columns, c.storage = .integer ∧ ∃ conflict between, .symbol ',' ∉ between ∧
      .quoted '\x60' c.name.toList :: keyword "INTEGER" :: between ++
        Constraint.keyTokens conflict <:+ front

theorem numbered_of_bodyTokens {front back : List Token} (hwell : WellFormed t.fields)
    (h : t.bodyTokens = front ++ keyword "AUTOINCREMENT" :: back) :
    ∃ c ∈ t.columns, c.storage = .integer ∧ ∃ conflict between, .symbol ',' ∉ between ∧
      .quoted '\x60' c.name.toList :: keyword "INTEGER" :: between ++
        Constraint.keyTokens conflict <:+ front := by
  have hopen : keyword "AUTOINCREMENT" ∉ [Token.symbol '('] := by decide
  have hclose : keyword "AUTOINCREMENT" ∉ [Token.symbol ')', .symbol ';'] := by decide
  have hbody : [.symbol '('] ++ [.symbol ','].intercalate
      (t.columns.map fun c => Part.tokens c.parts) ++ [.symbol ')', .symbol ';'] =
        front ++ keyword "AUTOINCREMENT" :: back := t.bodyTokens_eq.symm.trans h
  rcases split_append hbody with ⟨rest, hitems⟩ | ⟨inner, -, hinner⟩
  · rcases split_append hitems with ⟨rest, hrest⟩ | ⟨items, rfl, hcolumns⟩
    · exact absurd (hrest ▸ List.mem_append_right _ List.mem_cons_self) hopen
    obtain ⟨inner, after, hmem, hsuffix⟩ := exists_of_intercalate (by decide) hcolumns
    obtain ⟨c, hc, hparts⟩ := List.mem_map.1 hmem
    obtain ⟨conflict, between, hauto, hcomma, rfl⟩ := Column.exists_of_autoincrement hparts
    have hstorage : c.storage = .integer := by
      obtain ⟨f, hf, hcolumn⟩ := exists_field hc
      rw [← hcolumn] at hauto ⊢
      exact hwell.numbered f (List.mem_of_getElem? hf) ⟨conflict, hauto⟩
    rw [hstorage] at hsuffix
    exact ⟨c, hc, hstorage, conflict, between, hcomma, List.suffix_append_of_suffix hsuffix⟩
  · exact absurd (hinner ▸ List.mem_append_right _ List.mem_cons_self) hclose

/-- The keys of a declared table. -/
theorem keys_of_declare {name recordType : String} {fields : List Field}
    {defaults : (f : Field) → f.type.Carrier}
    (h : declare name recordType fields defaults = .ok t) (ifNotExists : Bool) :
    Keys fields t ifNotExists := by
  have hwell := wellFormed_of_declare h
  obtain ⟨-, -, rfl⟩ := declare_eq_ok h
  exact {
    read := (t.spelled_creation ifNotExists).whole
    counted := t.keyClauses_tokens ifNotExists
    single := by rw [keyClauses_tokens, sum_keyCount_le hwell]
    split := t.tokens_eq ifNotExists
    numbered := fun front back => numbered_of_bodyTokens hwell }

end Table

namespace Lockers

def number : Field := ⟨"number", ⟨.integer .i64, false⟩, [.unique .abort, .primaryKey .fail true]⟩

def keyholder : Field := ⟨"key holder", ⟨.text, true⟩, []⟩

theorem keys_lockers :
    ∃ t, Table.declare "lockers" "Locker" [number, keyholder] = .ok t ∧
      Table.Keys [number, keyholder] t true ∧ keyClauses (scan (t.creation true)) = 1 := by
  have hdeclared : Table.declare "lockers" "Locker" [number, keyholder] =
      .ok ⟨"lockers", "Locker", [number, keyholder], rfl, _⟩ := rfl
  have hkeys := Table.keys_of_declare hdeclared true
  refine ⟨_, hdeclared, hkeys, ?_⟩
  rw [hkeys.read (by decide), hkeys.counted]
  rfl

def twice : Table where
  name := "lockers"
  recordType := "Locker"
  fields :=
    [⟨"number", ⟨.integer .i64, false⟩, [.primaryKey .abort false, .primaryKey .fail true]⟩]
  wellFormed := rfl

theorem not_single_twice :
    (¬∀ (name recordType : String) (fields : List Field) (t : Table) (ifNotExists : Bool),
      Table.declare name recordType fields = .ok t →
      (∀ s ∈ t.segments ifNotExists, s.Suits) →
      keyClauses (scan (t.creation ifNotExists)) ≤ 1) ∧
    twice.creation false = "CREATE TABLE lockers (\n    `number` INTEGER " ++
      "NOT NULL ON CONFLICT ABORT PRIMARY KEY ON CONFLICT ABORT " ++
        "PRIMARY KEY ON CONFLICT FAIL AUTOINCREMENT\n);\n" := by
  have hsuits : ∀ s ∈ twice.segments false, s.Suits := by decide
  have htext := (twice.spelled_creation false).whole hsuits
  have hcount : keyClauses (twice.tokens false) = 2 := twice.keyClauses_tokens false
  refine ⟨fun h => ?_, by decide⟩
  have hone := h "lockers" "Locker" twice.fields twice false rfl hsuits
  rw [htext] at hone
  exact absurd (hcount ▸ hone) (by decide)

end Lockers

end RecordSql
