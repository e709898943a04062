import RecordSql.Proofs.Reading.Conditions

/-! Conditions read back as trees. A reading is made a tree as SQL groups it, and its predicates are
read token by token: a column, an operator and what the operator needs. The text of a condition
without raw parts, with its values, is read as that condition and as no other. -/

namespace RecordSql

def Token.folded : Token → Token
  | .word text => .word (text.map Char.toUpper)
  | t => t

def Token.ofWord (word : String) : Token := .word word.toList

def ColumnRef.read? : List Token → Option (ColumnRef × List Token)
  | .quoted '\x60' table :: .symbol '.' :: .quoted '\x60' column :: rest =>
    some (⟨some (String.ofList table), String.ofList column⟩, rest)
  | .quoted '\x60' column :: rest => some (⟨none, String.ofList column⟩, rest)
  | _ => none

inductive Operator where
  | comparison (op : Comparison)
  | nullCheck (isNull : Bool)
  | inList (negated : Bool)
  | between (negated : Bool)
deriving DecidableEq

namespace Operator

def tokens : Operator → List Token
  | .comparison op => op.tokens
  | .nullCheck isNull =>
    (if isNull then ["IS", "NULL"] else ["IS", "NOT", "NULL"]).map .ofWord
  | .inList negated => (if negated then ["NOT", "IN"] else ["IN"]).map .ofWord
  | .between negated => (if negated then ["NOT", "BETWEEN"] else ["BETWEEN"]).map .ofWord

def all : List Operator :=
  [.comparison .le, .comparison .ge, .comparison .lt, .comparison .gt, .comparison .eq,
    .comparison .ne, .comparison .like, .nullCheck true, .nullCheck false, .inList true,
    .inList false, .between true, .between false]

def read? (ts : List Token) : Option (Operator × List Token) :=
  all.findSome? fun o => (o.tokens.isPrefixOf? ts).map fun rest => (o, rest)

end Operator

def readValues? : List Token → Option (List Value)
  | [.hole (some v), .symbol ')'] => some [v]
  | .hole (some v) :: .symbol ',' :: rest => (readValues? rest).map (v :: ·)
  | _ => none

namespace Condition

def complete? (column : ColumnRef) : Operator → List Token → Option Condition
  | .comparison op, [.hole (some v)] => some (.compare column op v)
  | .comparison op, ts =>
    match ColumnRef.read? ts with
    | some (other, []) => some (.columns column op other)
    | _ => none
  | .nullCheck isNull, [] => some (.nullCheck column isNull)
  | .inList negated, [.symbol '(', .symbol ')'] => some (.inList column [] negated)
  | .inList negated, .symbol '(' :: ts => (readValues? ts).map (.inList column · negated)
  | .between negated, [.hole (some low), .word ['A', 'N', 'D'], .hole (some high)] =>
    some (.between column low high negated)
  | _, _ => none

def ofPredicate? (ts : List Token) : Option Condition := do
  let (column, ts) ← ColumnRef.read? (ts.map Token.folded)
  let (o, ts) ← Operator.read? ts
  complete? column o ts

end Condition

mutual

def Factor.condition? : Factor → Option Condition
  | .predicate ts => Condition.ofPredicate? ts
  | .group inner => (anyConditions? inner).bind (Condition.join .or)
  | .negated f => f.condition?.map .not

def allConditions? : List Factor → Option (List Condition)
  | [] => some []
  | f :: fs => f.condition?.bind fun c => (allConditions? fs).map (c :: ·)

def anyConditions? : Reading → Option (List Condition)
  | [] => some []
  | a :: r =>
    ((allConditions? a).bind (Condition.join .and)).bind fun c => (anyConditions? r).map (c :: ·)

end

/-- Read a condition from the whole of a text with a value for each of its placeholders. -/
def Sql.condition? (sql : Sql) : Option Condition :=
  sql.reading.bind fun r => (anyConditions? r).bind (Condition.join .or)

theorem ColumnRef.read?_tokens (r : ColumnRef) {rest : List Token}
    (h : rest.head? ≠ some (.symbol '.')) : read? (r.tokens ++ rest) = some (r, rest) := by
  obtain ⟨table, column⟩ := r
  cases table with
  | some table => simp [tokens, read?]
  | none =>
    cases rest with
    | nil => simp [tokens, read?]
    -- the name alone is a column unless a point makes it a table
    | cons t rest =>
      have ht : t ≠ .symbol '.' := fun he => h (congrArg some he)
      change read? (.quoted '\x60' column.toList :: t :: rest) = _
      unfold read?
      split
      · next heq =>
        cases heq
        exact absurd rfl ht
      · next heq =>
        cases heq
        simp
      · next heq => exact absurd rfl (heq _ _)

theorem Operator.read?_tokens (o : Operator) {rest : List Token}
    (h : rest.head? ≠ some (.symbol '=')) : read? (o.tokens ++ rest) = some (o, rest) := by
  cases rest with
  | nil => cases o <;> rename_i x <;> cases x <;> decide
  | cons t rest =>
    have ht : t ≠ .symbol '=' := fun he => h (congrArg some he)
    have hne : ((.symbol '=' : Token) == t) = false := by simp [Ne.symm ht]
    cases o with
    | comparison op =>
      cases op <;> simp [read?, all, tokens, Comparison.tokens, List.isPrefixOf?, hne]
    | nullCheck isNull => cases isNull <;> rfl
    | inList negated => cases negated <;> rfl
    | between negated => cases negated <;> rfl

theorem Token.map_folded_column (r : ColumnRef) : r.tokens.map folded = r.tokens := by
  unfold ColumnRef.tokens
  cases r.table <;> rfl

theorem Token.map_folded_operator (o : Operator) : o.tokens.map folded = o.tokens := by
  cases o <;> rename_i x <;> cases x <;> decide

theorem Token.map_folded_values (values : List Value) :
    (valueTokens values).map folded = valueTokens values := by
  induction values with
  | nil => rfl
  | cons v rest ih =>
    cases rest with
    | nil => rfl
    | cons w rest => exact congrArg (fun ts => .hole (some v) :: .symbol ',' :: ts) ih

theorem readValues?_valueTokens {values : List Value} (h : values ≠ []) :
    readValues? (valueTokens values ++ [.symbol ')']) = some values := by
  induction values with
  | nil => exact absurd rfl h
  | cons v rest ih =>
    cases rest with
    | nil => rfl
    | cons w rest =>
      have hrest := ih (List.cons_ne_nil w rest)
      change (readValues? (valueTokens (w :: rest) ++ [.symbol ')'])).map (v :: ·) = _
      rw [hrest]
      rfl

namespace Condition

/-- A condition without raw parts whose names hold no backtick. -/
def Structured : Condition → Prop
  | .compare r _ _ => r.Tidy
  | .columns left _ right => left.Tidy ∧ right.Tidy
  | .logical _ left right => left.Structured ∧ right.Structured
  | .not inner => inner.Structured
  | .nullCheck r _ => r.Tidy
  | .inList r _ _ => r.Tidy
  | .between r _ _ _ => r.Tidy
  | .raw .. => False

instance : DecidablePred Structured
  | .compare r _ _ => inferInstanceAs (Decidable r.Tidy)
  | .columns left _ right => inferInstanceAs (Decidable (left.Tidy ∧ right.Tidy))
  | .logical _ left right =>
    have : Decidable left.Structured := instDecidablePredStructured left
    have : Decidable right.Structured := instDecidablePredStructured right
    inferInstanceAs (Decidable (left.Structured ∧ right.Structured))
  | .not inner => instDecidablePredStructured inner
  | .nullCheck r _ => inferInstanceAs (Decidable r.Tidy)
  | .inList r _ _ => inferInstanceAs (Decidable r.Tidy)
  | .between r _ _ _ => inferInstanceAs (Decidable r.Tidy)
  | .raw .. => isFalse id

theorem Structured.complete {e : Condition} (h : e.Structured) : e.Complete := by
  induction e with
  | logical op left right ihl ihr => exact ⟨ihl h.1, ihr h.2⟩
  | not inner ih => exact ih h
  | raw sql params => exact absurd h id
  | compare | columns | nullCheck | inList | between => exact h

theorem complete?_values (column : ColumnRef) (values : List Value) (negated : Bool) :
    complete? column (.inList negated) (.symbol '(' :: valueTokens values ++ [.symbol ')']) =
      some (.inList column values negated) := by
  cases values with
  | nil => rfl
  | cons v rest =>
    have hread := readValues?_valueTokens (List.cons_ne_nil v rest)
    have hcomplete : complete? column (.inList negated)
        (.symbol '(' :: valueTokens (v :: rest) ++ [.symbol ')']) =
          (readValues? (valueTokens (v :: rest) ++ [.symbol ')'])).map
            (.inList column · negated) := by
      cases rest <;> rfl
    rw [hcomplete, hread]
    rfl

structure Operand (ts : List Token) : Prop where
  folded : ts.map Token.folded = ts
  apart : ts.head? ≠ some (.symbol '=')

theorem ofPredicate?_tokens {r : ColumnRef} (o : Operator) {ts : List Token} (h : Operand ts) :
    ofPredicate? (r.tokens ++ (o.tokens ++ ts)) = complete? r o ts := by
  have hfold : (r.tokens ++ (o.tokens ++ ts)).map Token.folded = r.tokens ++ (o.tokens ++ ts) := by
    rw [List.map_append, List.map_append, Token.map_folded_column, Token.map_folded_operator,
      h.folded]
  have hdot : (o.tokens ++ ts).head? ≠ some (.symbol '.') := by
    cases o <;> rename_i x <;> cases x <;> simp [Operator.tokens, Comparison.tokens, Token.ofWord]
  rw [ofPredicate?, hfold, r.read?_tokens hdot]
  simp [o.read?_tokens h.apart]

section

variable {r : ColumnRef} (h : r.Tidy)

include h

theorem predicate_compare (op : Comparison) (v : Value) :
    ofPredicate? (compare r op v).render.tokens = some (compare r op v) := by
  have hl : lex (" " ++ op.sql ++ " " ++ "?") = op.tokens ++ [.hole none] := by
    cases op <;> decide
  have ht : (Sql.ofText (" " ++ op.sql ++ " ") ++ .hole v).tokens =
      (Operator.comparison op).tokens ++ [.hole (some v)] := by
    change bindAll (lex (" " ++ op.sql ++ " " ++ "?")) [v] = _
    rw [hl]
    cases op <;> rfl
  rw [render_compare, r.tokens_append h, ht]
  exact ofPredicate?_tokens _ ⟨rfl, by simp⟩

theorem predicate_columns (op : Comparison) {other : ColumnRef} (ho : other.Tidy) :
    ofPredicate? (columns r op other).render.tokens = some (columns r op other) := by
  have hb : endOf (Sql.ofText (" " ++ op.sql ++ " ")).text = .blank := by cases op <;> decide
  have hc : (Sql.ofText (" " ++ op.sql ++ " ")).Closed := by cases op <;> decide
  have hl : (Sql.ofText (" " ++ op.sql ++ " ")).tokens = (Operator.comparison op).tokens := by
    cases op <;> decide
  have hapart : other.tokens.head? ≠ some (.symbol '=') := by
    unfold ColumnRef.tokens
    cases other.table <;> simp
  have hoperand : Operand other.tokens := ⟨Token.map_folded_column other, hapart⟩
  have hread : ColumnRef.read? other.tokens = some (other, []) := by
    have hend : ([] : List Token).head? ≠ some (.symbol '.') := by simp
    simpa using other.read?_tokens hend
  have hcomplete : complete? r (.comparison op) other.tokens = some (.columns r op other) := by
    rw [complete?, hread]
    intro v hv
    cases ht : other.table <;> simp [ColumnRef.tokens, ht] at hv
  rw [render_columns, r.tokens_append h, Sql.tokens_append_of_blank hb hc, hl,
    (other.closed_sql ho).2, ofPredicate?_tokens _ hoperand, hcomplete]

theorem predicate_nullCheck (isNull : Bool) :
    ofPredicate? (nullCheck r isNull).render.tokens = some (nullCheck r isNull) := by
  have ht : (Sql.ofText (if isNull then " IS NULL" else " IS NOT NULL")).tokens =
      (Operator.nullCheck isNull).tokens ++ [] := by
    cases isNull <;> decide
  rw [render_nullCheck, r.tokens_append h, ht]
  exact ofPredicate?_tokens _ ⟨rfl, by simp⟩

theorem predicate_between (low high : Value) (negated : Bool) :
    ofPredicate? (between r low high negated).render.tokens =
      some (between r low high negated) := by
  have hl : lex ((if negated then " NOT BETWEEN " else " BETWEEN ") ++ "?" ++ " AND " ++ "?") =
      (Operator.between negated).tokens ++ [.hole none, .ofWord "AND", .hole none] := by
    cases negated <;> decide
  have ht : (Sql.ofText (if negated then " NOT BETWEEN " else " BETWEEN ") ++ .hole low ++
      .ofText " AND " ++ .hole high).tokens = (Operator.between negated).tokens ++
        [.hole (some low), .ofWord "AND", .hole (some high)] := by
    change bindAll (lex ((if negated then " NOT BETWEEN " else " BETWEEN ") ++ "?" ++ " AND " ++
      "?")) [low, high] = _
    rw [hl]
    cases negated <;> rfl
  rw [render_between, r.tokens_append h, ht]
  exact ofPredicate?_tokens _ ⟨rfl, by simp⟩

theorem predicate_inList (values : List Value) (negated : Bool) :
    ofPredicate? (inList r values negated).render.tokens = some (inList r values negated) := by
  have hb : endOf (Sql.ofText (if negated then " NOT IN " else " IN ")).text = .blank := by
    cases negated <;> decide
  have hc : (Sql.ofText (if negated then " NOT IN " else " IN ")).Closed := by
    cases negated <;> decide
  have hl : (Sql.ofText (if negated then " NOT IN " else " IN ")).tokens =
      (Operator.inList negated).tokens := by
    cases negated <;> decide
  obtain ⟨hvc, -, hvt⟩ := Sql.holes_tokens values
  have hoperand : Operand (.symbol '(' :: valueTokens values ++ [.symbol ')']) :=
    ⟨by simp [Token.map_folded_values, Token.folded], by simp⟩
  rw [render_inList, r.tokens_append h, Sql.tokens_append_of_blank hb hc, hl,
    (Sql.tokens_parenthesized hvc).1, hvt, ofPredicate?_tokens _ hoperand]
  exact complete?_values r values negated

end

/-- A condition without raw parts is read as one factor, which is that condition. -/
theorem Structured.factor {e : Condition} (h : e.Structured) :
    ∃ f, e.alternatives = [[f]] ∧ f.condition? = some e := by
  -- each side of a connective is one factor, as the connectives inside it stand in parentheses
  induction e with
  | compare r op v => exact ⟨_, rfl, by rw [Factor.condition?, predicate_compare h]⟩
  | columns left op right =>
    exact ⟨_, rfl, by rw [Factor.condition?, predicate_columns h.1 op h.2]⟩
  | nullCheck r isNull => exact ⟨_, rfl, by rw [Factor.condition?, predicate_nullCheck h]⟩
  | inList r values negated => exact ⟨_, rfl, by rw [Factor.condition?, predicate_inList h]⟩
  | between r low high negated => exact ⟨_, rfl, by rw [Factor.condition?, predicate_between h]⟩
  | raw sql params => exact absurd h id
  | not inner ih =>
    obtain ⟨f, ha, hf⟩ := ih h
    refine ⟨_, rfl, ?_⟩
    simp [Factor.condition?, ha, anyConditions?, allConditions?, hf, join]
  | logical op left right ihl ihr =>
    obtain ⟨f, hl, hf⟩ := ihl h.1
    obtain ⟨g, hr, hg⟩ := ihr h.2
    refine ⟨_, rfl, ?_⟩
    rw [hl, hr]
    cases op with
    | and =>
      have hlink : Connective.and.link [[f]] [[g]] = [[f, g]] := rfl
      simp [Factor.condition?, hlink, anyConditions?, allConditions?, hf, hg, join]
    | or => simp [Factor.condition?, anyConditions?, allConditions?, hf, hg, join]

theorem Structured.reading {e : Condition} (h : e.Structured) :
    ∃ f, e.render.reading = some [[f]] ∧ f.condition? = some e := by
  obtain ⟨f, ha, hf⟩ := h.factor
  exact ⟨f, by rw [reading_render h.complete, ha], hf⟩

theorem Structured.condition?_render {e : Condition} (h : e.Structured) :
    e.render.condition? = some e := by
  obtain ⟨f, hr, hf⟩ := h.reading
  rw [Sql.condition?, hr]
  simp [anyConditions?, allConditions?, hf, join]

/-- Reading the text of a condition with its values gives the condition back, with no value left
over, so no other condition has both of them. -/
theorem Structured.reads_back {e : Condition} (h : e.Structured) :
    e.render.condition? = some e ∧
      (∀ more : Params, more ≠ [] →
        (Sql.mk e.render.text (e.render.params ++ more)).condition? = none) ∧
      ∀ e' : Condition, e'.Structured → e'.render.text = e.render.text →
        e'.render.params = e.render.params → e' = e := by
  have hread := h.condition?_render
  refine ⟨hread, fun more hmore => ?_, fun e' h' htext hparams => ?_⟩
  · have hfilled := (Sql.reading_eq_some.1 (reading_render h.complete)).1.filled
    have hopen : ¬(Sql.mk e.render.text (e.render.params ++ more)).Closed := by
      intro hclosed
      have hlength := hclosed.filled
      rw [hfilled, List.length_append, Nat.left_eq_add] at hlength
      exact hmore (List.eq_nil_of_length_eq_zero hlength)
    rw [Sql.condition?, Sql.reading, if_neg hopen]
    rfl
  · have hsql : e'.render = e.render := Sql.eq_of htext hparams
    have hread' := h'.condition?_render
    rw [hsql, hread] at hread'
    exact (Option.some.inj hread').symm

def mixed : Condition :=
  .logical .and
    (.logical .or (.compare (.plain "a") .ge (.ofBool true))
      (.not (.between (.ofTable "t" "b c") .null (.text "AND ?") true)))
    (.logical .and (.inList (.plain "order") [.ofBool false, .null] false)
      (.columns (.ofTable "t" "a") .lt (.plain "b")))

def regrouped : Condition :=
  .logical .or (.compare (.plain "a") .ge (.ofBool true))
    (.logical .and
      (.not (.between (.ofTable "t" "b c") .null (.text "AND ?") true))
      (.logical .and (.inList (.plain "order") [.ofBool false, .null] false)
        (.columns (.ofTable "t" "a") .lt (.plain "b"))))

theorem mixed_reads_back :
    mixed.render.text = "((`a` >= ? OR NOT (`t`.`b c` NOT BETWEEN ? AND ?)) AND " ++
        "(`order` IN (?, ?) AND `t`.`a` < `b`))" ∧
      mixed.render.condition? = some mixed ∧
      (Sql.mk mixed.render.text (mixed.render.params ++ [.null])).condition? = none ∧
      (regrouped.render.params = mixed.render.params ∧
        regrouped.render.text ≠ mixed.render.text) := by
  have h : mixed.Structured := by decide
  have h' : regrouped.Structured := by decide
  have hparams : regrouped.render.params = mixed.render.params := by decide
  obtain ⟨hread, hmore, hunique⟩ := h.reads_back
  refine ⟨by decide, hread, hmore [.null] (List.cons_ne_nil _ _), hparams, fun htext => ?_⟩
  exact absurd (hunique regrouped h' htext hparams) (by decide)

end Condition

end RecordSql
