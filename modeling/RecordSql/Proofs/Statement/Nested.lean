import RecordSql.Proofs.Statement.Lists

/-! One query in three shapes. A query, its count and the source that is made of it are checked
alike and have the same parameters; the source stands in an outer query as a block of its own, and
exposes what the query projects. -/

namespace RecordSql

/-- What a query projects, as texts with the columns that they denote: the references that it lists,
or every column of its first source. -/
inductive Clauses.Projection (q : Clauses) (scope : Scope) : List (String × Column) → Prop where
  | listed {refs : List ColumnRef} {pairs : List (String × Column)} : q.columns = some refs →
      List.Forall₂ (fun r p => p.1 = r.sql ∧ scope.resolve r = .ok p.2) refs pairs →
      Projection q scope pairs
  | all {e : Exposed} {rest : Scope} : q.columns = none → scope = e :: rest →
      Projection q scope (e.columns.map fun c => (qualified e.name c.name, c))

namespace Joined

inductive At (s : Source) : Joined → Nat → Sql → Sql → Prop where
  | base : At s (.base s) 0 .empty .empty
  | earlier {left : Joined} {kind : JoinKind} {right : Source} {on : Condition} {i : Nat}
      {before after : Sql} : At s left i before after →
      At s (.join left kind right on) i before
        (after ++ .ofText (" " ++ kind.sql ++ " ") ++ right.render ++ .ofText " ON " ++ on.render)
  | joined {left : Joined} {kind : JoinKind} {on : Condition} :
      At s (.join left kind s on) left.sources.length
        (left.render ++ .ofText (" " ++ kind.sql ++ " ")) (.ofText " ON " ++ on.render)

variable {s : Source} {j : Joined} {i : Nat} {before after : Sql}

theorem At.render_eq (h : At s j i before after) : j.render = before ++ s.render ++ after := by
  induction h with
  | base => simp [render]
  | earlier _ ih => simp only [render, ih, Sql.append_assoc]
  | joined => simp only [render, Sql.append_assoc]

theorem exists_at : ∀ (j : Joined) (i : Nat), j.sources[i]? = some s →
    ∃ before after, At s j i before after
  | .base s', i, h => by
    obtain ⟨hi, rfl⟩ := List.getElem?_eq_some_iff.1 h
    obtain rfl : i = 0 := by simpa [sources] using hi
    exact ⟨_, _, .base⟩
  | .join left kind right on, i, h => by
    rw [sources] at h
    rcases Nat.lt_trichotomy i left.sources.length with hlt | rfl | hgt
    · rw [List.getElem?_append_left hlt] at h
      obtain ⟨before, after, hat⟩ := exists_at left i h
      exact ⟨_, _, .earlier hat⟩
    · obtain rfl : right = s := by simpa using h
      exact ⟨_, _, .joined⟩
    · have hlength : i < (left.sources ++ [right]).length := (List.getElem?_eq_some_iff.1 h).1
      rw [List.length_append, List.length_singleton] at hlength
      omega

end Joined

namespace Clauses

variable {q : Clauses} {scope : Scope} {pairs : List (String × Column)}

theorem Projection.projection_eq (h : q.Projection scope pairs) :
    q.projection scope = pairs.map (·.1) := by
  cases h with
  | @listed refs _ hcolumns hpairs =>
    have htexts : refs.map ColumnRef.sql = pairs.map (·.1) := by
      clear hcolumns
      induction hpairs with
      | nil => rfl
      | cons hpair _ ih => rw [List.map_cons, List.map_cons, hpair.1, ih]
    rw [projection, hcolumns, ← htexts]
  | all hcolumns hscope =>
    rw [projection, hcolumns, hscope, List.map_map]
    rfl

theorem Projection.exposes_eq (h : q.Projection scope pairs) :
    q.exposes scope = pairs.map (·.2) := by
  cases h with
  | @listed refs _ hcolumns hpairs =>
    have hresolved : refs.filterMap (fun r => (scope.resolve r).toOption) = pairs.map (·.2) := by
      clear hcolumns
      induction hpairs with
      | nil => rfl
      | cons hpair _ ih => rw [List.filterMap_cons, hpair.2, List.map_cons, ← ih]; rfl
    rw [exposes, hcolumns, ← hresolved]
  | @all e rest hcolumns hscope =>
    have hsame : (e.columns.map fun c => (qualified e.name c.name, c)).map (·.2) = e.columns := by
      rw [List.map_map]
      exact List.map_id _
    rw [exposes, hcolumns, hscope, hsame]
    rfl

theorem exists_listed {refs : List ColumnRef} (h : ∀ r ∈ refs, ∃ c, scope.resolve r = .ok c) :
    ∃ pairs : List (String × Column),
      List.Forall₂ (fun r p => p.1 = r.sql ∧ scope.resolve r = .ok p.2) refs pairs := by
  induction refs with
  | nil => exact ⟨[], .nil⟩
  | cons r refs ih =>
    obtain ⟨⟨c, hc⟩, hrefs⟩ := List.forall_mem_cons.1 h
    obtain ⟨pairs, hpairs⟩ := ih hrefs
    exact ⟨(r.sql, c) :: pairs, .cons ⟨rfl, hc⟩ hpairs⟩

theorem Checked.exists_projection {j : Joined} (h : q.Checked j) :
    ∃ pairs, q.Projection j.scope pairs := by
  cases hcolumns : q.columns with
  | some refs =>
    have hresolves := h.columns
    rw [hcolumns] at hresolves
    obtain ⟨pairs, hpairs⟩ := exists_listed hresolves
    exact ⟨pairs, .listed hcolumns hpairs⟩
  | none =>
    have hne : j.scope ≠ [] := by
      rw [Joined.scope_eq, Ne, List.map_eq_nil_iff]
      exact j.sources_ne_nil
    obtain ⟨e, rest, hscope⟩ := List.exists_cons_of_ne_nil hne
    exact ⟨_, .all hcolumns hscope⟩

end Clauses

namespace Select

def filtered (q : Select) : Sql := .ofText " FROM " ++ q.sources.render ++ q.clauses.whereSql

def front (q : Select) : String :=
  "SELECT " ++ q.clauses.distinctText ++ commaSeparated (q.clauses.projection q.sources.scope) ++
    " FROM "

def behind (q : Select) : Sql :=
  q.clauses.whereSql ++ .ofText (q.clauses.orderText ++ q.clauses.limitText)

variable {q : Select} {pairs : List (String × Column)} {s : Source} {i : Nat} {before after : Sql}

theorem sql_eq (h : q.clauses.Projection q.sources.scope pairs) :
    q.sql = .ofText ("SELECT " ++ q.clauses.distinctText ++ commaSeparated (pairs.map (·.1))) ++
      q.filtered ++ .ofText (q.clauses.orderText ++ q.clauses.limitText) := by
  simp only [sql, Clauses.render, filtered, h.projection_eq, Sql.ofText_append, Sql.append_assoc]

theorem sql_eq_of_not_isWindow (h : q.clauses.Projection q.sources.scope pairs)
    (hw : ¬q.clauses.isWindow) :
    q.sql = .ofText ("SELECT " ++ commaSeparated (pairs.map (·.1))) ++ q.filtered ++
      .ofText q.clauses.orderText := by
  simp only [Clauses.isWindow, Bool.or_eq_true, not_or, Bool.not_eq_true,
    Option.isSome_eq_false_iff, Option.isNone_iff_eq_none] at hw
  obtain ⟨⟨hdistinct, hlimit⟩, hoffset⟩ := hw
  have hd : q.clauses.distinctText = "" := by simp [Clauses.distinctText, hdistinct]
  have hl : q.clauses.limitText = "" := by simp [Clauses.limitText, hlimit, hoffset]
  rw [sql_eq h, hd, hl, String.append_empty, String.append_empty]

/-- A source is a block in the text and the parameters of the query that it stands in. -/
theorem sql_at (h : Joined.At s q.sources i before after) :
    q.sql = .ofText q.front ++ before ++ s.render ++ after ++ q.behind := by
  simp only [sql, Clauses.render, front, behind, h.render_eq, Sql.append_assoc]

theorem count_eq (q : Select) :
    q.clauses.renderCount q.sources.render = .ofText "SELECT COUNT(*)" ++ q.filtered := by
  rw [filtered, ← Sql.append_assoc, ← Sql.append_assoc, ← Sql.ofText_append]
  rfl

theorem count_at (h : Joined.At s q.sources i before after) :
    q.clauses.renderCount q.sources.render =
      .ofText "SELECT COUNT(*) FROM " ++ before ++ s.render ++ after ++ q.clauses.whereSql := by
  simp only [Clauses.renderCount, h.render_eq, Sql.append_assoc]

theorem fails_of_check (q : Select) {e : Error} (h : q.check = .error e) :
    q.build = .error e ∧ q.buildCount = .error e ∧ ∀ name, q.subquery name = .error e := by
  refine ⟨?_, ?_, fun name => ?_⟩
  · rw [build, h]
    rfl
  · rw [buildCount, h]
    rfl
  · rw [subquery, h]
    rfl

end Select

namespace Builder

variable {b : Builder Select} {e : Error}

def check (b : Builder Select) : Except Error Unit := do
  b.slot.check
  b.content.check

theorem fails_of_check (h : b.check = .error e) :
    b.build = .error e ∧ b.buildCount = .error e ∧ ∀ name, b.subquery name = .error e := by
  unfold check at h
  unfold build buildCount subquery
  cases hslot : b.slot.check with
  | error e' =>
    rw [hslot] at h
    cases h
    exact ⟨rfl, rfl, fun _ => rfl⟩
  | ok _ =>
    rw [hslot] at h
    exact b.content.fails_of_check h

theorem build_of_check (h : b.check = .ok ()) : b.build = .ok (b.content.sql ++ .ofText ";") := by
  obtain ⟨_, hslot, hcheck⟩ := bind_eq_ok.1 h
  exact bind_eq_ok.2 ⟨_, hslot, bind_eq_ok.2 ⟨_, hcheck, rfl⟩⟩

theorem subquery_of_check (h : b.check = .ok ()) (name : String) :
    b.subquery name = .ok ⟨name, b.content.clauses, b.content.sources⟩ := by
  obtain ⟨_, hslot, hcheck⟩ := bind_eq_ok.1 h
  exact bind_eq_ok.2 ⟨_, hslot, bind_eq_ok.2 ⟨_, hcheck, rfl⟩⟩

theorem buildCount_of_check (h : b.check = .ok ()) :
    b.buildCount = .ok (if b.content.clauses.isWindow then
      .ofText "SELECT COUNT(*) FROM (" ++ b.content.sql ++ .ofText ");"
    else b.content.clauses.renderCount b.content.sources.render ++ .ofText ";") := by
  obtain ⟨_, hslot, hcheck⟩ := bind_eq_ok.1 h
  refine bind_eq_ok.2 ⟨_, hslot, bind_eq_ok.2 ⟨_, hcheck, ?_⟩⟩
  split_ifs
  · rfl
  · rfl

/-- A block of text and parameters stands between what is before and behind it in the query, the
count and the nested query of a builder. -/
structure Embeds (outer : Builder Select) (before block after : Sql) : Prop where
  built : ∀ sql, outer.build = .ok sql →
    sql = .ofText outer.content.front ++ before ++ block ++ after ++ outer.content.behind ++
      .ofText ";"
  counted : ∀ sql, outer.buildCount = .ok sql →
    sql = if outer.content.clauses.isWindow then
        .ofText ("SELECT COUNT(*) FROM (" ++ outer.content.front) ++ before ++ block ++ after ++
          outer.content.behind ++ .ofText ");"
      else
        .ofText "SELECT COUNT(*) FROM " ++ before ++ block ++ after ++
          outer.content.clauses.whereSql ++ .ofText ";"
  nested : ∀ name sub, outer.subquery name = .ok sub →
    sub.sql = .ofText outer.content.front ++ before ++ block ++ after ++ outer.content.behind

theorem embeds {outer : Builder Select} {s : Source} {i : Nat} {before after : Sql}
    (h : Joined.At s outer.content.sources i before after) :
    outer.Embeds before s.render after := by
  have hsql := Select.sql_at h
  refine ⟨fun sql hbuild => ?_, fun sql hcount => ?_, fun name sub hsub => ?_⟩
  · obtain ⟨_, hslot, hbuild⟩ := bind_eq_ok.1 hbuild
    obtain ⟨_, hcheck, hbuild⟩ := bind_eq_ok.1 hbuild
    cases hbuild
    rw [hsql]
  · obtain ⟨_, hslot, hcount⟩ := bind_eq_ok.1 hcount
    obtain ⟨_, hcheck, hcount⟩ := bind_eq_ok.1 hcount
    split_ifs at hcount ⊢ with hw
    · cases hcount
      rw [hsql, Sql.ofText_append]
      simp only [Sql.append_assoc]
    · cases hcount
      rw [Select.count_at h]
  · obtain ⟨_, hslot, hsub⟩ := bind_eq_ok.1 hsub
    obtain ⟨_, hcheck, hsub⟩ := bind_eq_ok.1 hsub
    cases hsub
    exact hsql

structure Nests (sub : Subquery) (name : String) (query : Sql) (columns : List Column) : Prop where
  name_eq : sub.name = name
  sql_eq : sub.sql = query
  columns_eq : sub.columns = columns
  embeds : ∀ (outer : Builder Select) (i : Nat),
    outer.content.sources.sources[i]? = some sub.source →
      outer.content.sources.scope[i]? = some ⟨name, columns⟩ ∧
        ∃ before after, Joined.At sub.source outer.content.sources i before after ∧
          outer.Embeds before ⟨"(" ++ query.text ++ ") AS " ++ quoted name, query.params⟩ after

theorem nests {name : String} {pairs : List (String × Column)}
    (h : b.content.clauses.Projection b.content.sources.scope pairs) :
    Nests ⟨name, b.content.clauses, b.content.sources⟩ name b.content.sql (pairs.map (·.2)) where
  name_eq := rfl
  sql_eq := rfl
  columns_eq := h.exposes_eq
  embeds outer i hi := by
    have hexposed : outer.content.sources.scope[i]? = some ⟨name, pairs.map (·.2)⟩ := by
      rw [Joined.scope_eq, List.getElem?_map, hi, ← h.exposes_eq]
      rfl
    obtain ⟨before, after, hat⟩ := Joined.exists_at outer.content.sources i hi
    have hblock : (Source.subquery name b.content.clauses b.content.sources).render =
        ⟨"(" ++ b.content.sql.text ++ ") AS " ++ quoted name, b.content.sql.params⟩ := by
      refine Sql.eq_of ?_ ?_
      · simp only [Source.render, Sql.parenthesized, Sql.ofText, Sql.text_append]
        have hword : ") AS " = ")" ++ " AS " := rfl
        rw [hword]
        simp only [String.append_assoc]
        rfl
      · simp [Source.render, Sql.parenthesized, Sql.ofText, Select.sql]
    exact ⟨hexposed, before, after, hat, hblock ▸ embeds hat⟩

structure OneQuery (b : Builder Select) (query : Sql) (pairs : List (String × Column)) : Prop where
  projects : b.content.clauses.Projection b.content.sources.scope pairs
  text_eq : query.text = "SELECT " ++ b.content.clauses.distinctText ++
    commaSeparated (pairs.map (·.1)) ++ b.content.filtered.text ++
      (b.content.clauses.orderText ++ b.content.clauses.limitText)
  built : b.build = .ok ⟨query.text ++ ";", query.params⟩
  windowed : b.content.clauses.isWindow →
    b.buildCount = .ok ⟨"SELECT COUNT(*) FROM (" ++ query.text ++ ");", query.params⟩
  counted : ¬b.content.clauses.isWindow →
    query.text = "SELECT " ++ commaSeparated (pairs.map (·.1)) ++ b.content.filtered.text ++
        b.content.clauses.orderText ∧
      b.buildCount = .ok ⟨"SELECT COUNT(*)" ++ b.content.filtered.text ++ ";", query.params⟩
  nested : ∀ name, ∃ sub, b.subquery name = .ok sub ∧ Nests sub name query (pairs.map (·.2))

/-- Query, count and nested query of a builder fail alike or are one query: the parameters are the
same, the count is around the whole query or has its sources and its condition, and the query is a
block of every other in which it is a source. -/
theorem oneQuery (b : Builder Select) :
    (∃ e, b.build = .error e ∧ b.buildCount = .error e ∧ ∀ name, b.subquery name = .error e) ∨
      ∃ query pairs, b.OneQuery query pairs := by
  cases hcheck : b.check with
  | error e => exact .inl ⟨e, fails_of_check hcheck⟩
  | ok _ =>
    obtain ⟨_, -, hcontent⟩ := bind_eq_ok.1 hcheck
    obtain ⟨pairs, hpairs⟩ := (Select.check_eq_ok.1 hcontent).exists_projection
    refine .inr ⟨b.content.sql, pairs, hpairs, ?_, ?_, fun hw => ?_, fun hw => ?_, fun name => ?_⟩
    · exact congrArg Sql.text (Select.sql_eq hpairs)
    · rw [build_of_check hcheck]
      exact congrArg Except.ok (Sql.eq_of rfl (List.append_nil _))
    · rw [buildCount_of_check hcheck, if_pos hw]
      refine congrArg Except.ok (Sql.eq_of ?_ ?_)
      · simp [Sql.ofText]
      · simp [Sql.ofText]
    · have hsql := Select.sql_eq_of_not_isWindow hpairs hw
      have hparams : b.content.sql.params = b.content.filtered.params := by
        rw [hsql]
        simp [Sql.ofText]
      rw [buildCount_of_check hcheck, if_neg hw, Select.count_eq, hparams]
      refine ⟨by rw [hsql]; rfl, congrArg Except.ok (Sql.eq_of rfl ?_)⟩
      simp [Sql.ofText]
    · exact ⟨_, subquery_of_check hcheck name, nests hpairs⟩

end Builder

namespace Ferries

def table : Table where
  name := "ferries"
  recordType := "Ferry"
  fields := [⟨"id", ⟨.integer .i64, false⟩, []⟩, ⟨"line", ⟨.text, false⟩, []⟩]
  wellFormed := by decide

def early : Builder Select :=
  { content :=
      { table, sources := .base (.table table)
        clauses :=
          { condition := some (.compare (.plain "line") .eq (.text "north")), limit := some 3 } } }

def others (sub : Subquery) : Builder Select :=
  { content :=
      { table
        sources :=
          .join (.base (.table table)) .left sub.source
            (.columns (.ofTable "ferries" "id") .ne (.ofTable "early" "id")) } }

theorem oneQuery_ferries :
    ∃ query pairs sub, early.OneQuery query pairs ∧ early.subquery "early" = .ok sub ∧
      query.params = [.text "north"] ∧
      early.buildCount = .ok ⟨"SELECT COUNT(*) FROM (" ++ query.text ++ ");", [.text "north"]⟩ ∧
      ∃ before after, (others sub).Embeds before
        ⟨"(" ++ query.text ++ ") AS " ++ quoted "early", [.text "north"]⟩ after := by
  have hbuild : ∃ sql, early.build = .ok sql ∧ sql.params = [.text "north"] := ⟨_, rfl, rfl⟩
  obtain ⟨sql, hsql, hparams⟩ := hbuild
  rcases Builder.oneQuery early with ⟨e, herror, -⟩ | ⟨query, pairs, hone⟩
  · rw [hsql] at herror
    cases herror
  have hquery : query.params = [.text "north"] := by
    have hbuilt := hone.built
    rw [hsql] at hbuilt
    cases hbuilt
    exact hparams
  obtain ⟨sub, hsub, hnests⟩ := hone.nested "early"
  obtain ⟨-, before, after, -, hembeds⟩ := hnests.embeds (others sub) 1 rfl
  have hcount := hone.windowed rfl
  rw [hquery] at hcount hembeds
  exact ⟨query, pairs, sub, hone, hsub, hquery, hcount, before, after, hembeds⟩

end Ferries

end RecordSql
