import Mathlib.Data.List.Basic
import RecordSql.Condition.Basic

/-! The tokens of SQL text: words, quoted names and texts, placeholders and single symbols. A text
is read one character at a time, so that a text after another one is read from where that one
ended. -/

namespace RecordSql

inductive Token where
  | word (text : List Char)
  | quoted (mark : Char) (text : List Char)
  | symbol (c : Char)
  /-- A placeholder, with its value once there is one. -/
  | hole (v : Option Value)
deriving DecidableEq

inductive Mode where
  | blank
  | word (text : List Char)
  | quoted (mark : Char) (text : List Char)
  /-- After a character that could begin a comment. -/
  | dash
  | slash
  | line
  | block
  /-- After an asterisk in a block comment. -/
  | star
deriving DecidableEq

namespace Mode

def isBlank (c : Char) : Bool := c = ' ' || c = '\t' || c = '\n' || c = '\r' || c = '\x0c'

def isWord (c : Char) : Bool := c.isAlphanum || c = '_' || c = '$' || 128 ≤ c.toNat

def closing? (c : Char) : Option Char :=
  if c = '\'' || c = '"' || c = '\x60' then some c else if c = '[' then some ']' else none

def start (c : Char) : Mode × List Token :=
  if isBlank c then (.blank, [])
  else if isWord c then (.word [c], [])
  else
    match closing? c with
    | some mark => (.quoted mark [], [])
    | none =>
      if c = '?' then (.blank, [.hole none])
      else if c = '-' then (.dash, [])
      else if c = '/' then (.slash, [])
      else (.blank, [.symbol c])

def finish : Mode → List Token
  | .word text => [.word text]
  | .dash => [.symbol '-']
  | .slash => [.symbol '/']
  | _ => []

def isClosed : Mode → Bool
  | .blank | .word _ | .dash | .slash => true
  | _ => false

def flush (m : Mode) (c : Char) : Mode × List Token := ((start c).1, m.finish ++ (start c).2)

def step : Mode → Char → Mode × List Token
  | .blank, c => start c
  | .word text, c => if isWord c then (.word (text ++ [c]), []) else flush (.word text) c
  | .quoted mark text, c =>
    if c = mark then (.blank, [.quoted mark text]) else (.quoted mark (text ++ [c]), [])
  | .dash, c => if c = '-' then (.line, []) else flush .dash c
  | .slash, c => if c = '*' then (.block, []) else flush .slash c
  | .line, c => (if c = '\n' then .blank else .line, [])
  | .block, c => (if c = '*' then .star else .block, [])
  | .star, c => (if c = '/' then .blank else if c = '*' then .star else .block, [])

def after (m : Mode) (cs : List Char) : Mode := cs.foldl (fun m c => (m.step c).1) m

def tokens : Mode → List Char → List Token
  | _, [] => []
  | m, c :: cs => (m.step c).2 ++ tokens (m.step c).1 cs

@[simp] theorem after_cons (m : Mode) (c : Char) (cs : List Char) :
    m.after (c :: cs) = (m.step c).1.after cs := rfl

theorem after_append (m : Mode) (cs ds : List Char) :
    m.after (cs ++ ds) = (m.after cs).after ds := List.foldl_append ..

theorem tokens_append (m : Mode) (cs ds : List Char) :
    m.tokens (cs ++ ds) = m.tokens cs ++ (m.after cs).tokens ds := by
  induction cs generalizing m with
  | nil => rfl
  | cons c cs ih =>
    rw [List.cons_append, tokens, tokens, ih, List.append_assoc]
    rfl

def isDelimiter (c : Char) : Bool := c = ' ' || c = ')'

theorem step_delimiter {m : Mode} (hm : m.isClosed) {c : Char} (hc : isDelimiter c) :
    m.step c = flush m c := by
  have hc' : c = ' ' ∨ c = ')' := by simpa [isDelimiter] using hc
  cases m with
  | blank => simp [step, flush, finish]
  | word text => rcases hc' with rfl | rfl <;> rfl
  | dash => rcases hc' with rfl | rfl <;> rfl
  | slash => rcases hc' with rfl | rfl <;> rfl
  | quoted | line | block | star => cases hm

end Mode

def lex (text : String) : List Token :=
  Mode.tokens .blank text.toList ++ (Mode.after .blank text.toList).finish

def endOf (text : String) : Mode := Mode.after .blank text.toList

/-- A text that can follow any other one. -/
def Delimited (text : String) : Prop := text.toList.head?.any Mode.isDelimiter

instance (text : String) : Decidable (Delimited text) := inferInstanceAs (Decidable (_ = true))

theorem lex_append_of_blank {s : String} (h : endOf s = .blank) (t : String) :
    lex (s ++ t) = lex s ++ lex t ∧ endOf (s ++ t) = endOf t := by
  unfold endOf at h ⊢
  unfold lex
  rw [String.toList_append, Mode.tokens_append, Mode.after_append, h]
  simp [Mode.finish]

theorem lex_append_of_delimited {s t : String} (h : (endOf s).isClosed) (ht : Delimited t) :
    lex (s ++ t) = lex s ++ lex t ∧ endOf (s ++ t) = endOf t := by
  unfold endOf at h ⊢
  unfold Delimited at ht
  unfold lex
  rw [String.toList_append, Mode.tokens_append, Mode.after_append]
  cases hc : t.toList with
  | nil =>
    rw [hc] at ht
    cases ht
  | cons c cs =>
    rw [hc] at ht
    have hs := Mode.step_delimiter h (c := c) ht
    -- the first character ends the last token of `s`, which it leaves as the end of `s` would
    generalize Mode.after .blank s.toList = m at h hs ⊢
    rw [Mode.tokens, Mode.tokens, Mode.after_cons, Mode.after_cons, hs]
    simp [Mode.flush, Mode.step]

def unfilled (ts : List Token) : Nat := ts.count (.hole none)

def bindAll : List Token → Params → List Token
  | [], _ => []
  | .hole none :: ts, v :: vs => .hole (some v) :: bindAll ts vs
  | t :: ts, vs => t :: bindAll ts vs

theorem bindAll_cons_of_ne {t : Token} (h : t ≠ .hole none) (ts : List Token) (vs : Params) :
    bindAll (t :: ts) vs = t :: bindAll ts vs := by
  cases t with
  | hole v =>
    cases v with
    | none => exact absurd rfl h
    | some v => rfl
  | word | quoted | symbol => rfl

theorem bindAll_append {ts : List Token} {vs : Params} (h : unfilled ts = vs.length)
    (us : List Token) (ws : Params) :
    bindAll (ts ++ us) (vs ++ ws) = bindAll ts vs ++ bindAll us ws := by
  induction ts generalizing vs with
  | nil =>
    rw [List.eq_nil_of_length_eq_zero h.symm]
    rfl
  | cons t ts ih =>
    by_cases ht : t = .hole none
    · subst ht
      rw [unfilled, List.count_cons_self] at h
      cases vs with
      | nil => cases h
      | cons v vs => exact congrArg _ (ih (Nat.succ.inj h))
    · rw [unfilled, List.count_cons_of_ne ht] at h
      rw [List.cons_append, bindAll_cons_of_ne ht, bindAll_cons_of_ne ht, ih h]
      rfl

namespace Sql

def tokens (sql : Sql) : List Token := bindAll (lex sql.text) sql.params

/-- SQL that leaves neither a quote nor a comment open, with a value for each placeholder. -/
structure Closed (sql : Sql) : Prop where
  ends : (endOf sql.text).isClosed
  filled : unfilled (lex sql.text) = sql.params.length

instance (sql : Sql) : Decidable sql.Closed :=
  decidable_of_iff ((endOf sql.text).isClosed ∧ unfilled (lex sql.text) = sql.params.length)
    ⟨fun h => ⟨h.1, h.2⟩, fun h => ⟨h.1, h.2⟩⟩

theorem tokens_append_of {a b : Sql} (hl : lex (a.text ++ b.text) = lex a.text ++ lex b.text)
    (ha : a.Closed) : (a ++ b).tokens = a.tokens ++ b.tokens := by
  unfold tokens
  rw [text_append, params_append, hl, bindAll_append ha.filled]

theorem Closed.append_of {a b : Sql} (hl : lex (a.text ++ b.text) = lex a.text ++ lex b.text)
    (he : endOf (a.text ++ b.text) = endOf b.text) (ha : a.Closed) (hb : b.Closed) :
    (a ++ b).Closed where
  ends := by
    rw [text_append, he]
    exact hb.ends
  filled := by
    rw [text_append, hl, params_append, List.length_append, ← ha.filled, ← hb.filled]
    exact List.count_append

variable {a b : Sql}

theorem tokens_append_of_blank (h : endOf a.text = .blank) (ha : a.Closed) :
    (a ++ b).tokens = a.tokens ++ b.tokens :=
  tokens_append_of (lex_append_of_blank h b.text).1 ha

theorem Closed.append_of_blank (h : endOf a.text = .blank) (ha : a.Closed) (hb : b.Closed) :
    (a ++ b).Closed :=
  have hl := lex_append_of_blank h b.text
  .append_of hl.1 hl.2 ha hb

theorem tokens_append_of_delimited (ha : a.Closed) (h : Delimited b.text) :
    (a ++ b).tokens = a.tokens ++ b.tokens :=
  tokens_append_of (lex_append_of_delimited ha.ends h).1 ha

theorem Closed.append_of_delimited (ha : a.Closed) (hb : b.Closed) (h : Delimited b.text) :
    (a ++ b).Closed :=
  have hl := lex_append_of_delimited ha.ends h
  .append_of hl.1 hl.2 ha hb

theorem tokens_parenthesized (h : a.Closed) :
    a.parenthesized.tokens = .symbol '(' :: a.tokens ++ [.symbol ')'] ∧ a.parenthesized.Closed := by
  have ho : (ofText "(").Closed := by decide
  have hb : endOf (ofText "(").text = .blank := by decide
  have hoa := ho.append_of_blank hb h
  have hd : Delimited (ofText ")").text := by decide
  refine ⟨?_, hoa.append_of_delimited (by decide) hd⟩
  rw [parenthesized, tokens_append_of_delimited hoa hd, tokens_append_of_blank hb ho]
  rfl

theorem tokens_connected (ha : a.Closed) (hb : b.Closed) (op : Connective) :
    (a ++ .ofText (" " ++ op.sql ++ " ") ++ b).tokens =
      a.tokens ++ .word op.sql.toList :: b.tokens ∧
      (a ++ .ofText (" " ++ op.sql ++ " ") ++ b).Closed := by
  have ho : (ofText (" " ++ op.sql ++ " ")).Closed := by cases op <;> decide
  have hd : Delimited (ofText (" " ++ op.sql ++ " ")).text := by cases op <;> decide
  have ht : (ofText (" " ++ op.sql ++ " ")).tokens = [.word op.sql.toList] := by
    cases op <;> decide
  have hao := ha.append_of_delimited ho hd
  have hbl : endOf (a ++ ofText (" " ++ op.sql ++ " ")).text = .blank := by
    rw [text_append, (lex_append_of_delimited ha.ends hd).2]
    cases op <;> decide
  refine ⟨?_, hao.append_of_blank hbl hb⟩
  rw [tokens_append_of_blank hbl hao, tokens_append_of_delimited ha hd, ht, List.append_assoc]
  rfl

theorem tokens_negated (h : a.Closed) :
    (ofText "NOT " ++ a).tokens = .word "NOT".toList :: a.tokens ∧ (ofText "NOT " ++ a).Closed := by
  have hn : (ofText "NOT ").Closed := by decide
  have hb : endOf (ofText "NOT ").text = .blank := by decide
  refine ⟨?_, hn.append_of_blank hb h⟩
  rw [tokens_append_of_blank hb hn]
  rfl

end Sql

end RecordSql
