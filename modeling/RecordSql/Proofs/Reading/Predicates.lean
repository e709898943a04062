import RecordSql.Proofs.Reading.Boolean
import RecordSql.Proofs.Statement.Placeholders

/-! The conditions on columns that the library writes itself are predicates: each is read as one,
with all of its tokens. -/

namespace RecordSql

theorem Mode.quoted_chars (mark : Char) (text : List Char) {cs : List Char} (h : mark ∉ cs) :
    (quoted mark text).tokens (cs ++ [mark]) = [.quoted mark (text ++ cs)] ∧
      (quoted mark text).after (cs ++ [mark]) = .blank := by
  induction cs generalizing text with
  | nil => simp [tokens, after, step]
  | cons c cs ih =>
    rw [List.mem_cons, not_or] at h
    have hs : (quoted mark text).step c = (quoted mark (text ++ [c]), []) := by
      simp [step, Ne.symm h.1]
    obtain ⟨ht, ha⟩ := ih (text ++ [c]) h.2
    rw [List.cons_append, tokens, after_cons, hs, ht, ha]
    simp

theorem lex_quoted {name : String} (h : '\x60' ∉ name.toList) :
    lex (quoted name) = [.quoted '\x60' name.toList] ∧ endOf (quoted name) = .blank := by
  obtain ⟨ht, ha⟩ := Mode.quoted_chars '\x60' [] h
  have hl : (quoted name).toList = '\x60' :: (name.toList ++ ['\x60']) := by
    simp [quoted, String.toList_append]
  have hs : Mode.step .blank '\x60' = (.quoted '\x60' [], []) := by decide
  unfold lex endOf
  rw [hl, Mode.tokens, Mode.after_cons, hs, ht, ha]
  exact ⟨rfl, rfl⟩

def ColumnRef.tokens (r : ColumnRef) : List Token :=
  match r.table with
  | some table => [.quoted '\x60' table.toList, .symbol '.', .quoted '\x60' r.column.toList]
  | none => [.quoted '\x60' r.column.toList]

theorem ColumnRef.lex_sql {r : ColumnRef} (h : r.Tidy) :
    lex r.sql = r.tokens ∧ endOf r.sql = .blank := by
  obtain ⟨hlc, hec⟩ := lex_quoted h.2
  unfold sql tokens
  cases ht : r.table with
  | none => exact ⟨hlc, hec⟩
  | some table =>
    obtain ⟨hlt, het⟩ := lex_quoted (h.1 table ht)
    obtain ⟨hld, hed⟩ := lex_append_of_blank het "."
    have hdot : lex "." = [.symbol '.'] ∧ endOf "." = .blank := by decide
    obtain ⟨hl, he⟩ := lex_append_of_blank (hed.trans hdot.2) (quoted r.column)
    constructor
    · change lex (quoted table ++ "." ++ quoted r.column) = _
      rw [hl, hld, hlt, hdot.1, hlc]
      rfl
    · exact he.trans hec

theorem ColumnRef.closed_sql {r : ColumnRef} (h : r.Tidy) :
    (Sql.ofText r.sql).Closed ∧ (Sql.ofText r.sql).tokens = r.tokens := by
  obtain ⟨hl, he⟩ := lex_sql h
  have hl' : lex (Sql.ofText r.sql).text = r.tokens := hl
  have he' : endOf (Sql.ofText r.sql).text = .blank := he
  refine ⟨⟨?_, ?_⟩, ?_⟩
  · rw [he']
    rfl
  · rw [hl']
    unfold tokens
    cases r.table <;> rfl
  · rw [Sql.tokens, hl']
    unfold tokens
    cases r.table <;> rfl

theorem ColumnRef.tokens_append {r : ColumnRef} (h : r.Tidy) (rest : Sql) :
    (Sql.ofText r.sql ++ rest).tokens = r.tokens ++ rest.tokens := by
  obtain ⟨hc, ht⟩ := closed_sql h
  have he : endOf (Sql.ofText r.sql).text = .blank := (lex_sql h).2
  rw [Sql.tokens_append_of_blank he hc, ht]

structure Sql.Completes (rest : Sql) : Prop where
  closed : rest.Closed
  pieces : ∃ ps, pieces? rest.tokens = some ps ∧ segment {} ps = some [[ps]] ∧
    ps.flatMap Piece.tokens = rest.tokens

theorem pieces?_map {ts : List Token} (h : ∀ t ∈ ts, ¬t.IsParenthesis) :
    pieces? ts = some (ts.map .token) := by
  induction ts with
  | nil => rfl
  | cons t ts ih =>
    obtain ⟨ht, hts⟩ := List.forall_mem_cons.1 h
    exact pieces?_cons ht (ih hts)

theorem flatMap_map_token (ts : List Token) : (ts.map .token).flatMap Piece.tokens = ts := by
  induction ts with
  | nil => rfl
  | cons t ts ih => exact congrArg (t :: ·) ih

theorem segment_cons {p : Piece} (hp : p.keyword? = none) {ps : List Piece}
    {f : List Piece} (h : segment {} ps = some [[f]]) : segment {} (p :: ps) = some [[p :: f]] := by
  have hr : Pending.role {} p.keyword? = .inside {} := by rw [hp]; rfl
  simp only [segment, hr, h]
  rfl

theorem readPieces_predicate {t : Token} (ht : t.keyword? = none) {ps : List Piece}
    (h : segment {} (.token t :: ps) = some [[.token t :: ps]]) :
    readPieces (.token t :: ps) = some [[.predicate (t :: ps.flatMap Piece.tokens)]] := by
  have hk : (Piece.token t).keyword? = none := ht
  have hq : startsQuery (.token t :: ps) = false := by simp [startsQuery, hk]
  have hf : factor? (.token t :: ps) = some (.predicate (t :: ps.flatMap Piece.tokens)) := by
    simp [factor?, hk, Piece.tokens]
  simp [readPieces, hq, h, hf]

theorem ColumnRef.reading_append {r : ColumnRef} (h : r.Tidy) {rest : Sql}
    (hrest : rest.Completes) :
    (Sql.ofText r.sql ++ rest).reading = some [[.predicate (Sql.ofText r.sql ++ rest).tokens]] := by
  obtain ⟨hc, -⟩ := closed_sql h
  obtain ⟨ps, hps, hseg, hflat⟩ := hrest.pieces
  have he : endOf (Sql.ofText r.sql).text = .blank := (lex_sql h).2
  have htokens := tokens_append h rest
  -- the tokens of the column are neither parentheses nor keywords, so nothing is divided there
  have hcol : ∀ t ∈ r.tokens, ¬t.IsParenthesis := by
    unfold tokens
    cases r.table <;> simp [Token.IsParenthesis]
  refine Sql.reading_eq_some.2
    ⟨hc.append_of_blank he hrest.closed, r.tokens.map .token ++ ps, ?_, ?_⟩
  · rw [htokens]
    exact pieces?_append (pieces?_map hcol) hps
  · rw [htokens, ← hflat]
    unfold tokens
    cases r.table with
    | none => exact readPieces_predicate rfl (segment_cons rfl hseg)
    | some table =>
      exact readPieces_predicate rfl (segment_cons rfl (segment_cons rfl (segment_cons rfl hseg)))

theorem Sql.completes_of {rest : Sql} {ts : List Token} (he : (endOf rest.text).isClosed)
    (hl : lex rest.text = ts) (hn : unfilled ts = rest.params.length)
    (hp : ∀ t ∈ bindAll ts rest.params, ¬t.IsParenthesis)
    (hs : segment {} ((bindAll ts rest.params).map .token) =
      some [[(bindAll ts rest.params).map .token]]) : rest.Completes where
  closed := ⟨he, hl ▸ hn⟩
  pieces := by
    rw [tokens, hl]
    exact ⟨_, pieces?_map hp, hs, flatMap_map_token _⟩

def valueTokens : List Value → List Token
  | [] => []
  | [v] => [.hole (some v)]
  | v :: rest => .hole (some v) :: .symbol ',' :: valueTokens rest

theorem not_isParenthesis_of_mem_valueTokens {values : List Value} :
    ∀ t ∈ valueTokens values, ¬t.IsParenthesis := by
  induction values with
  | nil => exact fun t ht => absurd ht List.not_mem_nil
  | cons v rest ih =>
    cases rest with
    | nil => simp [valueTokens, Token.IsParenthesis]
    | cons w rest =>
      have hv : ¬(Token.hole (some v)).IsParenthesis := by simp [Token.IsParenthesis]
      have hc : ¬(Token.symbol ',').IsParenthesis := by simp [Token.IsParenthesis]
      exact List.forall_mem_cons.2 ⟨hv, List.forall_mem_cons.2 ⟨hc, ih⟩⟩

theorem Sql.holes_tokens (values : List Value) :
    (holes values).Closed ∧ endOf (holes values).text = .blank ∧
      (holes values).tokens = valueTokens values := by
  unfold holes
  induction values with
  | nil =>
    have he : endOf "" = .blank := by decide
    exact ⟨⟨rfl, rfl⟩, he, rfl⟩
  | cons v rest ih =>
    cases rest with
    | nil =>
      have he : endOf "?" = .blank := by decide
      have hl : lex "?" = [.hole none] := by decide
      have hc : (hole v).Closed := ⟨congrArg Mode.isClosed he, congrArg unfilled hl⟩
      exact ⟨hc, he, congrArg (bindAll · [v]) hl⟩
    -- a comma and a blank stand between two holes, so no token runs on into the next
    | cons w rest =>
      obtain ⟨hc, he, ht⟩ := ih
      have hb : endOf ("?" ++ ", ") = .blank := by decide
      have hl : lex ("?" ++ ", ") = [.hole none, .symbol ','] := by decide
      have hv : (hole v ++ ofText ", ").Closed :=
        ⟨congrArg Mode.isClosed hb, congrArg unfilled hl⟩
      have hvt : (hole v ++ ofText ", ").tokens = bindAll [.hole none, .symbol ','] [v] :=
        congrArg (bindAll · [v]) hl
      refine ⟨hv.append_of_blank hb hc, (lex_append_of_blank hb _).2.trans he, ?_⟩
      change (hole v ++ ofText ", " ++ commaSeparated ((w :: rest).map hole)).tokens = _
      rw [tokens_append_of_blank hb hv, hvt, ht]
      rfl

theorem Sql.completes_holes (values : List Value) {words : String} {ws : List Token}
    (he : endOf words = .blank) (hl : lex words = ws) (hn : unfilled ws = 0)
    (hp : ∀ t ∈ bindAll ws [], ¬t.IsParenthesis)
    (hs : ∀ ts inner, segment {} ((bindAll ws []).map .token ++ [.group ts inner]) =
      some [[(bindAll ws []).map .token ++ [.group ts inner]]]) :
    (ofText words ++ parenthesized (holes values)).Completes := by
  obtain ⟨hvc, -, hvt⟩ := holes_tokens values
  have hvp : ∀ t ∈ (holes values).tokens, ¬t.IsParenthesis := by
    rw [hvt]
    exact not_isParenthesis_of_mem_valueTokens
  obtain ⟨hpt, hpc⟩ := tokens_parenthesized hvc
  have hw : (ofText words).Closed := ⟨congrArg Mode.isClosed he, hl ▸ hn⟩
  have hwt : (ofText words).tokens = bindAll ws [] := congrArg (bindAll · []) hl
  -- what is read inside the parentheses does not matter: they follow other tokens
  have hpieces := pieces?_append (pieces?_map hp) (pieces?_parenthesized (pieces?_map hvp))
  refine ⟨hw.append_of_blank he hpc, ?_⟩
  rw [tokens_append_of_blank he hw, hwt, hpt]
  refine ⟨_, hpieces, hs _ _, ?_⟩
  rw [List.flatMap_append, flatMap_map_token, enclose]
  simp [Piece.tokens, flatMap_map_token]

def Comparison.tokens : Comparison → List Token
  | .eq => [.symbol '=']
  | .ne => [.symbol '!', .symbol '=']
  | .lt => [.symbol '<']
  | .le => [.symbol '<', .symbol '=']
  | .gt => [.symbol '>']
  | .ge => [.symbol '>', .symbol '=']
  | .like => [.word "LIKE".toList]

namespace Condition

open Sql

theorem render_compare (r : ColumnRef) (op : Comparison) (v : Value) :
    (compare r op v).render = .ofText r.sql ++ (.ofText (" " ++ op.sql ++ " ") ++ .hole v) := by
  simp only [render, String.append_assoc, ofText_append, Sql.append_assoc]

theorem render_columns (r : ColumnRef) (op : Comparison) (other : ColumnRef) :
    (columns r op other).render =
      .ofText r.sql ++ (.ofText (" " ++ op.sql ++ " ") ++ .ofText other.sql) := by
  simp only [render, String.append_assoc, ofText_append, Sql.append_assoc]

theorem render_nullCheck (r : ColumnRef) (isNull : Bool) :
    (nullCheck r isNull).render =
      .ofText r.sql ++ .ofText (if isNull then " IS NULL" else " IS NOT NULL") := rfl

theorem render_between (r : ColumnRef) (low high : Value) (negated : Bool) :
    (between r low high negated).render = .ofText r.sql ++
      (.ofText (if negated then " NOT BETWEEN " else " BETWEEN ") ++ .hole low ++
        .ofText " AND " ++ .hole high) := by
  simp only [render, ofText_append, Sql.append_assoc]

theorem render_inList (r : ColumnRef) (values : List Value) (negated : Bool) :
    (inList r values negated).render = .ofText r.sql ++
      (.ofText (if negated then " NOT IN " else " IN ") ++ .parenthesized (.holes values)) := by
  simp only [render, ofText_append, Sql.append_assoc]

variable {r : ColumnRef} (h : r.Tidy)

include h

theorem reading_compare (op : Comparison) (v : Value) :
    (compare r op v).render.reading = some [[.predicate (compare r op v).render.tokens]] := by
  have he : (endOf (" " ++ op.sql ++ " " ++ "?")).isClosed := by cases op <;> decide
  have hl : lex (" " ++ op.sql ++ " " ++ "?") = op.tokens ++ [.hole none] := by
    cases op <;> decide
  rw [render_compare]
  refine r.reading_append h (completes_of he hl ?_ ?_ ?_)
  · cases op <;> rfl
  · cases op <;> simp [Comparison.tokens, hole, ofText, bindAll, Token.IsParenthesis]
  · cases op <;> rfl

theorem reading_columns (op : Comparison) {other : ColumnRef} (ho : other.Tidy) :
    (columns r op other).render.reading =
      some [[.predicate (columns r op other).render.tokens]] := by
  have hb : endOf (" " ++ op.sql ++ " ") = .blank := by cases op <;> decide
  have hl : lex (" " ++ op.sql ++ " ") = op.tokens := by cases op <;> decide
  obtain ⟨hlo, heo⟩ := other.lex_sql ho
  obtain ⟨hlex, hend⟩ := lex_append_of_blank hb other.sql
  have he : (endOf (" " ++ op.sql ++ " " ++ other.sql)).isClosed := by rw [hend, heo]; rfl
  rw [hl, hlo, ColumnRef.tokens] at hlex
  rw [render_columns]
  cases ht : other.table with
  | none =>
    rw [ht] at hlex
    refine r.reading_append h (completes_of he hlex ?_ ?_ ?_)
    · cases op <;> rfl
    · cases op <;> simp [Comparison.tokens, ofText, bindAll, Token.IsParenthesis]
    · cases op <;> rfl
  | some table =>
    rw [ht] at hlex
    refine r.reading_append h (completes_of he hlex ?_ ?_ ?_)
    · cases op <;> rfl
    · cases op <;> simp [Comparison.tokens, ofText, bindAll, Token.IsParenthesis]
    · cases op <;> rfl

theorem reading_nullCheck (isNull : Bool) :
    (nullCheck r isNull).render.reading =
      some [[.predicate (nullCheck r isNull).render.tokens]] := by
  rw [render_nullCheck]
  cases isNull with
  | true =>
    have hl : lex " IS NULL" = [.word "IS".toList, .word "NULL".toList] := by decide
    refine r.reading_append h (completes_of rfl hl rfl ?_ rfl)
    simp [bindAll, Token.IsParenthesis]
  | false =>
    have hl : lex " IS NOT NULL" =
        [.word "IS".toList, .word "NOT".toList, .word "NULL".toList] := by
      decide
    refine r.reading_append h (completes_of rfl hl rfl ?_ rfl)
    simp [bindAll, Token.IsParenthesis]

theorem reading_between (low high : Value) (negated : Bool) :
    (between r low high negated).render.reading =
      some [[.predicate (between r low high negated).render.tokens]] := by
  rw [render_between]
  cases negated with
  | true =>
    have he : (endOf (" NOT BETWEEN " ++ "?" ++ " AND " ++ "?")).isClosed := by decide
    have hl : lex (" NOT BETWEEN " ++ "?" ++ " AND " ++ "?") = [.word "NOT".toList,
        .word "BETWEEN".toList, .hole none, .word "AND".toList, .hole none] := by decide
    refine r.reading_append h (completes_of he hl rfl ?_ rfl)
    simp [ofText, hole, bindAll, Token.IsParenthesis]
  | false =>
    have he : (endOf (" BETWEEN " ++ "?" ++ " AND " ++ "?")).isClosed := by decide
    have hl : lex (" BETWEEN " ++ "?" ++ " AND " ++ "?") = [.word "BETWEEN".toList, .hole none,
        .word "AND".toList, .hole none] := by decide
    refine r.reading_append h (completes_of he hl rfl ?_ rfl)
    simp [ofText, hole, bindAll, Token.IsParenthesis]

theorem reading_inList (values : List Value) (negated : Bool) :
    (inList r values negated).render.reading =
      some [[.predicate (inList r values negated).render.tokens]] := by
  rw [render_inList]
  cases negated with
  | true =>
    have he : endOf " NOT IN " = .blank := by decide
    have hl : lex " NOT IN " = [.word "NOT".toList, .word "IN".toList] := by decide
    refine r.reading_append h (completes_holes values he hl rfl ?_ fun _ _ => rfl)
    simp [bindAll, Token.IsParenthesis]
  | false =>
    have he : endOf " IN " = .blank := by decide
    have hl : lex " IN " = [.word "IN".toList] := by decide
    refine r.reading_append h (completes_holes values he hl rfl ?_ fun _ _ => rfl)
    simp [bindAll, Token.IsParenthesis]

end Condition

end RecordSql
