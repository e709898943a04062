import RecordSql.Proofs.Statement.Insertion
import RecordSql.Proofs.Statement.Tokens

/-! Whether an INSERT that builds is one. Its tokens are held against the grammar of the statement:
columns and tuples of as many placeholders, which a conflict clause can follow, or default values,
which none can. A table of which the engine assigns every column has default values, and a clause
that its INSERT is given is written behind them all the same. -/

namespace RecordSql

namespace Grammar

inductive Listed (item : List Token → Prop) : Nat → List Token → Prop where
  | one {ts : List Token} : item ts → Listed item 1 ts
  | more {n : Nat} {ts rest : List Token} : item ts → Listed item n rest →
      Listed item (n + 1) (ts ++ .symbol ',' :: rest)

inductive Enclosed (content : List Token → Prop) : List Token → Prop where
  | of {ts : List Token} : content ts → Enclosed content (.symbol '(' :: ts ++ [.symbol ')'])

inductive Name : List Token → Prop where
  | of {t : Token} : t.name?.isSome → Name [t]

def Columns (n : Nat) : List Token → Prop := Enclosed (Listed Name n)

def Tuple (n : Nat) : List Token → Prop := Enclosed (Listed (· = [.hole none]) n)

inductive Assignment : List Token → Prop where
  | of {column source : Token} : column.name?.isSome → source.name?.isSome →
      Assignment [column, .symbol '=', keyword "excluded", .symbol '.', source]

inductive Target : List Token → Prop where
  | any : Target []
  | columns {n : Nat} {ts : List Token} : Columns n ts → Target ts

inductive Resolution : List Token → Prop where
  | nothing : Resolution [keyword "DO", keyword "NOTHING"]
  | update {n : Nat} {ts : List Token} : Listed Assignment n ts →
      Resolution (keyword "DO" :: keyword "UPDATE" :: keyword "SET" :: ts)

inductive Conflict : List Token → Prop where
  | of {target resolution : List Token} : Target target → Resolution resolution →
      Conflict (keyword "ON" :: keyword "CONFLICT" :: target ++ resolution)

inductive Source : List Token → Prop where
  | values {n m : Nat} {columns tuples : List Token} : Columns n columns →
      Listed (Tuple n) m tuples → Source (columns ++ keyword "VALUES" :: tuples)
  | upsert {n m : Nat} {columns tuples conflict : List Token} : Columns n columns →
      Listed (Tuple n) m tuples → Conflict conflict →
      Source (columns ++ keyword "VALUES" :: tuples ++ conflict)
  | defaults : Source [keyword "DEFAULT", keyword "VALUES"]

inductive Insertion : List Token → Prop where
  | of {table : Token} {source : List Token} : table.name?.isSome → Source source →
      Insertion (keyword "INSERT" :: keyword "INTO" :: table :: source ++ [.symbol ';'])

theorem insertion_iff {table : Token} {source : List Token} :
    Insertion (keyword "INSERT" :: keyword "INTO" :: table :: source ++ [.symbol ';']) ↔
      table.name?.isSome ∧ Source source := by
  refine ⟨fun h => ?_, fun ⟨ht, hs⟩ => .of ht hs⟩
  generalize he : keyword "INSERT" :: keyword "INTO" :: table :: source ++ [.symbol ';'] = ts at h
  cases h with
  | of ht hs =>
    obtain ⟨rfl, rfl⟩ : table = _ ∧ source = _ := by simpa using he
    exact ⟨ht, hs⟩

theorem Source.of_default {ts : List Token} (h : Source (keyword "DEFAULT" :: ts)) :
    ts = [keyword "VALUES"] := by
  generalize he : keyword "DEFAULT" :: ts = source at h
  cases h with
  | values hcolumns _ =>
    cases hcolumns
    cases he
  | upsert hcolumns _ _ =>
    cases hcolumns
    cases he
  | defaults => exact (List.cons.inj he).2

end Grammar

open RecordSql.Part

theorem Part.listed_tokens {item : List Token → Prop} {pss : List (List Part)} (hne : pss ≠ [])
    (h : ∀ ps ∈ pss, item (tokens ps)) : Grammar.Listed item pss.length (tokens (listed pss)) := by
  induction pss with
  | nil => exact absurd rfl hne
  | cons ps rest ih =>
    obtain ⟨hps, hrest⟩ := List.forall_mem_cons.1 h
    cases rest with
    | nil => exact .one hps
    | cons qs rest =>
      have htokens : tokens (listed (ps :: qs :: rest)) =
          tokens ps ++ .symbol ',' :: tokens (listed (qs :: rest)) := tokens_append ..
      rw [htokens]
      exact .more hps (ih (List.cons_ne_nil _ _) hrest)

namespace Insert

variable {t : Table}

theorem columns_tokens {names : List String} (hne : names ≠ []) :
    Grammar.Columns names.length
      (.symbol '(' :: tokens (listed (names.map fun n => [named t n])) ++ [.symbol ')']) := by
  have hnames : Grammar.Listed Grammar.Name (names.map fun n => [named t n]).length
      (tokens (listed (names.map fun n => [named t n]))) :=
    listed_tokens (by simpa using hne) (List.forall_mem_map.2 fun n _ => .of rfl)
  rw [List.length_map] at hnames
  exact .of hnames

theorem tuple_tokens (hne : t.inserted ≠ []) (r : Record) :
    Grammar.Tuple t.inserted.length (tokens (tupleParts t (row t r))) := by
  let values : List (List Part) :=
    (t.inserted.zip (row t r)).map fun p => [.value [.table t] (.plain p.1.name) p.2]
  have hlength : values.length = t.inserted.length := by simp [values, zip_row]
  have hvalues : values ≠ [] := by simpa [values, zip_row] using hne
  have hholes : Grammar.Listed (· = [.hole none]) values.length (tokens (listed values)) :=
    listed_tokens hvalues (List.forall_mem_map.2 fun _ _ => rfl)
  have htokens : tokens (tupleParts t (row t r)) =
      .symbol '(' :: tokens (listed values) ++ [.symbol ')'] := tokens_append ..
  rw [hlength] at hholes
  rw [htokens]
  exact .of hholes

theorem target_tokens (target : List String) :
    Grammar.Target (tokens (targetParts t target)) := by
  by_cases hempty : target = []
  · rw [hempty]
    exact .any
  · have htokens : tokens (targetParts t target) = .symbol '(' ::
        tokens (listed (target.map fun n => [named t n])) ++ [.symbol ')'] := by
      rw [targetParts, if_neg (mt List.isEmpty_iff.1 hempty)]
      exact tokens_append ..
    rw [htokens]
    exact .columns (columns_tokens hempty)

theorem conflict_tokens {clause : OnConflict} {text : String}
    (h : conflictText t clause = .ok text) :
    Grammar.Conflict (tokens (conflictParts t clause)) := by
  obtain ⟨-, -, hupdate, -⟩ := conflictText_eq_ok h
  have htarget := target_tokens (t := t) clause.target
  unfold conflictParts
  by_cases haction : clause.action = .nothing
  · rw [if_pos haction, tokens_append]
    exact .of htarget .nothing
  · let items : List (List Part) := (overwrittenNames t clause).map fun n =>
      [named t n, .words " = excluded.", named t n]
    have hassigned : Grammar.Listed Grammar.Assignment items.length (tokens (listed items)) :=
      listed_tokens (by simpa [items] using (hupdate haction).2)
        (List.forall_mem_map.2 fun n _ => .of rfl rfl)
    rw [if_neg haction, tokens_append]
    exact .of htarget (.update hassigned)

theorem source_tokens {q : Insert} {records : List Record} (hcolumns : q.table.inserted ≠ [])
    (hrecords : records ≠ []) (hrows : q.rows = records.map (row q.table)) :
    ∃ columns tuples, tokens q.sourceParts = columns ++ keyword "VALUES" :: tuples ∧
      Grammar.Columns q.table.inserted.length columns ∧
      Grammar.Listed (Grammar.Tuple q.table.inserted.length) records.length tuples := by
  have hne : q.table.inserted.map Column.name ≠ [] := by simpa using hcolumns
  have hnames := columns_tokens (t := q.table) hne
  rw [List.length_map, List.map_map] at hnames
  have htuples : Grammar.Listed (Grammar.Tuple q.table.inserted.length)
      (q.rows.map (tupleParts q.table)).length
      (tokens (listed (q.rows.map (tupleParts q.table)))) :=
    listed_tokens (by simpa [hrows] using hrecords)
      (by simpa [hrows] using fun r _ => tuple_tokens hcolumns r)
  rw [List.length_map, hrows, List.length_map, ← hrows] at htuples
  refine ⟨_, _, ?_, hnames, htuples⟩
  have hopen : scan " (" = [.symbol '('] := rfl
  have hclose : scan ") VALUES " = [.symbol ')', keyword "VALUES"] := rfl
  rw [sourceParts, if_neg (mt List.isEmpty_iff.1 hcolumns), tokens_append, tokens_words,
    tokens_words, hopen, hclose]
  simp [Function.comp_def]

theorem isSource_iff {q : Insert} {records : List Record} {sql : Sql} (h : q.build = .ok sql)
    (hrows : q.rows = records.map (row q.table)) :
    Grammar.Source
        (tokens q.sourceParts ++ tokens ((q.onConflict.map (conflictParts q.table)).getD [])) ↔
      q.table.inserted ≠ [] ∨ q.onConflict = none := by
  obtain ⟨hne, _, conflict, -, hconflict, -⟩ := build_eq_ok h
  have hrecords : records ≠ [] := fun he => hne (by rw [hrows, he]; rfl)
  by_cases hcolumns : q.table.inserted = []
  · have hdefaults : tokens q.sourceParts = [keyword "DEFAULT", keyword "VALUES"] := by
      rw [sourceParts, if_pos (List.isEmpty_iff.2 hcolumns)]
      rfl
    rw [hdefaults]
    cases hclause : q.onConflict with
    | none => exact iff_of_true .defaults (.inr rfl)
    | some clause =>
      refine iff_of_false (fun hsource => ?_) (by simp [hcolumns])
      have htail := hsource.of_default
      have hon : tokens (conflictParts q.table clause) = [] := by simpa using htail
      rw [conflictParts] at hon
      cases hon
  · refine iff_of_true ?_ (.inl hcolumns)
    obtain ⟨columns, tuples, hsource, hnames, htuples⟩ := source_tokens hcolumns hrecords hrows
    rw [hsource]
    cases hclause : q.onConflict with
    | none =>
      have hnil : tokens ((none.map (conflictParts q.table)).getD []) = [] := rfl
      rw [hnil, List.append_nil]
      exact .values hnames htuples
    | some clause =>
      rw [hclause] at hconflict
      exact .upsert hnames htuples (conflict_tokens hconflict)

theorem suit_named {names : List String} (h : ∀ n ∈ names, '\x60' ∉ n.toList) :
    Suit (listed (names.map fun n => [named t n])) :=
  suit_listed (List.forall_mem_map.2 fun n hn => suit_plain.2 ⟨h n hn, suit_nil⟩)

theorem suit_tupleParts (t : Table) (values : List Value) : Suit (tupleParts t values) := by
  have hvalues : Suit (listed ((t.inserted.zip values).map fun p =>
      [.value [.table t] (.plain p.1.name) p.2])) :=
    suit_listed (List.forall_mem_map.2 fun _ _ => suit_value.2 suit_nil)
  exact suit_words.2 (suit_append.2 ⟨hvalues, suit_words.2 suit_nil⟩)

theorem suit_sourceParts {q : Insert} (h : ∀ c ∈ q.table.columns, '\x60' ∉ c.name.toList) :
    Suit q.sourceParts := by
  unfold sourceParts
  split_ifs
  · simp
  · have hnames : Suit (listed (q.table.inserted.map fun c => [named q.table c.name])) :=
      suit_listed (List.forall_mem_map.2 fun c hc =>
        suit_plain.2 ⟨h c (List.mem_of_mem_filter hc), suit_nil⟩)
    have htuples : Suit (listed (q.rows.map (tupleParts q.table))) :=
      suit_listed (List.forall_mem_map.2 fun values _ => suit_tupleParts q.table values)
    simpa using And.intro hnames htuples

theorem suit_conflictParts {clause : OnConflict} {text : String}
    (h : ∀ c ∈ t.columns, '\x60' ∉ c.name.toList) (htext : conflictText t clause = .ok text) :
    Suit (conflictParts t clause) := by
  obtain ⟨htarget, hassigned, -⟩ := conflictText_eq_ok htext
  have hplain (names : List String) (hnames : ∀ n ∈ names, ∃ c ∈ t.columns, c.name = n) :
      ∀ n ∈ names, '\x60' ∉ n.toList := by
    intro n hn
    obtain ⟨c, hc, rfl⟩ := hnames n hn
    exact h c hc
  have hcolumns : Suit (targetParts t clause.target) := by
    unfold targetParts
    split_ifs
    · exact suit_nil
    · simpa using suit_named (hplain _ htarget)
  unfold conflictParts
  split_ifs
  · simpa using hcolumns
  · have hitems : Suit (listed ((overwrittenNames t clause).map fun n =>
        [named t n, .words " = excluded.", named t n])) := by
      refine suit_listed (List.forall_mem_map.2 fun n hn => ?_)
      have hn := hplain _ hassigned n hn
      exact suit_plain.2 ⟨hn, suit_words.2 (suit_plain.2 ⟨hn, suit_nil⟩)⟩
    simpa using And.intro hcolumns hitems

theorem suit_parts {q : Insert} {sql : Sql} (h : q.build = .ok sql)
    (htable : '\x60' ∉ q.table.name.toList)
    (hcolumns : ∀ c ∈ q.table.columns, '\x60' ∉ c.name.toList) : Suit q.parts := by
  obtain ⟨-, _, conflict, -, hconflict, -⟩ := build_eq_ok h
  have hclause : Suit ((q.onConflict.map (conflictParts q.table)).getD []) := by
    cases ho : q.onConflict with
    | none => exact suit_nil
    | some clause =>
      rw [ho] at hconflict
      exact suit_conflictParts hcolumns hconflict
  have hsource := suit_sourceParts hcolumns
  simp [parts, htable, hsource, hclause]

end Insert

namespace Builder

/-- An INSERT of records is a sentence, unless a clause stands behind default values. -/
theorem sentence_iff {b : Builder Insert} {records : List Record} {sql : Sql}
    (hrows : b.content.rows = records.map (Insert.row b.content.table))
    (htable : '\x60' ∉ b.content.table.name.toList)
    (hcolumns : ∀ c ∈ b.content.table.columns, '\x60' ∉ c.name.toList)
    (h : b.build = .ok sql) :
    Grammar.Insertion (scan sql.text) ↔
      b.content.table.inserted ≠ [] ∨ b.content.onConflict = none := by
  have hbuild : b.content.build = .ok sql := (build_eq_ok.1 h).2
  have htokens : tokens b.content.parts = keyword "INSERT" :: keyword "INTO" ::
      .quoted '\x60' b.content.table.name.toList ::
        (tokens b.content.sourceParts ++
          tokens ((b.content.onConflict.map (Insert.conflictParts b.content.table)).getD [])) ++
      [.symbol ';'] := by
    rw [Insert.parts, tokens_append, tokens_append]
    rfl
  rw [Insert.build_eq_printAll hbuild,
    b.content.apart_parts.scan_eq (Insert.suit_parts hbuild htable hcolumns), htokens,
    Grammar.insertion_iff, Insert.isSource_iff hbuild hrows]
  exact and_iff_right rfl

end Builder

namespace Polls

def table : Table where
  name := "polls"
  recordType := "Poll"
  fields :=
    [⟨"id", ⟨.integer .i64, false⟩, [.primaryKey .abort true]⟩,
      ⟨"title", ⟨.text, false⟩, [.unique .abort]⟩, ⟨"long title", ⟨.text, false⟩, []⟩]
  wellFormed := rfl

def record (title longTitle : String) : Record :=
  [⟨⟨.integer .i64, false⟩, Scalar.initial (.integer .i64)⟩, ⟨⟨.text, false⟩, title⟩,
    ⟨⟨.text, false⟩, longTitle⟩]

def records : List Record := [record "lunch" "Where to have lunch", record "tea" "Who makes tea"]

def upsert : Builder Insert where
  content :=
    { table
      rows := records.map (Insert.row table)
      onConflict := some ⟨["title"], .updateInserted⟩ }

theorem insertion_upsert :
    ∃ sql, upsert.build = .ok sql ∧ Grammar.Insertion (scan sql.text) := by
  have htable : '\x60' ∉ table.name.toList := by decide
  have hcolumns : ∀ c ∈ table.columns, '\x60' ∉ c.name.toList := by decide
  have hinserted : table.inserted ≠ [] := by decide
  have hrows : upsert.content.rows = records.map (Insert.row upsert.content.table) := rfl
  exact ⟨_, rfl, (Builder.sentence_iff hrows htable hcolumns rfl).2 (.inl hinserted)⟩

end Polls

namespace Serials

def table : Table where
  name := "serials"
  recordType := "Serial"
  fields := [⟨"number", ⟨.integer .i64, false⟩, [.primaryKey .abort true]⟩]
  wellFormed := rfl

def draw : Builder Insert where
  content :=
    { table
      rows := [table.initial].map (Insert.row table)
      onConflict := some ⟨[], .nothing⟩ }

/-- A clause behind default values. -/
theorem not_insertion_draw :
    (¬∀ (b : Builder Insert) (records : List Record) (sql : Sql),
      b.content.rows = records.map (Insert.row b.content.table) →
      '\x60' ∉ b.content.table.name.toList →
      (∀ c ∈ b.content.table.columns, '\x60' ∉ c.name.toList) →
      b.build = .ok sql → Grammar.Insertion (scan sql.text)) ∧
    draw.build = .ok ⟨"INSERT INTO `serials` DEFAULT VALUES ON CONFLICT DO NOTHING;", []⟩ := by
  have hbuild :
      draw.build = .ok ⟨"INSERT INTO `serials` DEFAULT VALUES ON CONFLICT DO NOTHING;", []⟩ := rfl
  have htable : '\x60' ∉ table.name.toList := by decide
  have hcolumns : ∀ c ∈ table.columns, '\x60' ∉ c.name.toList := by decide
  have hscan : scan "INSERT INTO `serials` DEFAULT VALUES ON CONFLICT DO NOTHING;" =
      keyword "INSERT" :: keyword "INTO" :: .quoted '\x60' "serials".toList ::
        ["DEFAULT", "VALUES", "ON", "CONFLICT", "DO", "NOTHING"].map keyword ++ [.symbol ';'] := by
    decide
  refine ⟨fun h => ?_, hbuild⟩
  have hsentence := h draw [table.initial] _ rfl htable hcolumns hbuild
  rw [hscan, Grammar.insertion_iff] at hsentence
  exact absurd hsentence.2.of_default (by decide)

end Serials

end RecordSql
