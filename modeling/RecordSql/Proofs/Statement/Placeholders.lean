import RecordSql.Proofs.Statement.Declared

/-! The placeholders of a statement and its values belong together: filling the one with the other,
in order and outside quotes, writes every value in its own place. -/

namespace RecordSql

namespace Placeholder

def quoteAfter (quote : Option Char) (cs : List Char) : Option Char := cs.foldl next quote

def fillFrom (lit : Value → String) : Option Char → List Char → Params → List Char
  | _, [], _ => []
  | quote, c :: cs, [] => c :: fillFrom lit (next quote c) cs []
  | quote, c :: cs, v :: vs =>
    if isPlaceholder quote c then (lit v).toList ++ fillFrom lit (next quote c) cs vs
    else c :: fillFrom lit (next quote c) cs (v :: vs)

def fill (lit : Value → String) (sql : Sql) : String :=
  String.ofList (fillFrom lit none sql.text.toList sql.params)

@[simp] theorem quoteAfter_nil (quote : Option Char) : quoteAfter quote [] = quote := rfl

@[simp] theorem quoteAfter_cons (quote : Option Char) (c : Char) (cs : List Char) :
    quoteAfter quote (c :: cs) = quoteAfter (next quote c) cs := rfl

theorem quoteAfter_append (quote : Option Char) (cs ds : List Char) :
    quoteAfter quote (cs ++ ds) = quoteAfter (quoteAfter quote cs) ds := List.foldl_append ..

theorem countFrom_append (quote : Option Char) (cs ds : List Char) :
    countFrom quote (cs ++ ds) = countFrom quote cs + countFrom (quoteAfter quote cs) ds := by
  induction cs generalizing quote with
  | nil => simp [countFrom]
  | cons c cs ih => simp [countFrom, ih, Nat.add_assoc]

theorem fillFrom_append (lit : Value → String) {quote : Option Char} {cs : List Char}
    {vs : Params} (h : countFrom quote cs = vs.length) (ds : List Char) (ws : Params) :
    fillFrom lit quote (cs ++ ds) (vs ++ ws) =
      fillFrom lit quote cs vs ++ fillFrom lit (quoteAfter quote cs) ds ws := by
  induction cs generalizing quote vs with
  | nil =>
    rw [countFrom] at h
    rw [List.eq_nil_of_length_eq_zero h.symm]
    rfl
  | cons c cs ih =>
    rw [countFrom] at h
    cases hp : isPlaceholder quote c with
    | true =>
      rw [hp, if_pos rfl] at h
      cases vs with
      -- the value belongs to this placeholder, so the count goes on without both
      | nil => simp at h
      | cons v vs =>
        have hc : countFrom (next quote c) cs = vs.length := by simp at h; omega
        simp [fillFrom, hp, ih hc]
    | false =>
      have hc : countFrom (next quote c) cs = vs.length := by simpa [hp] using h
      cases vs with
      | nil =>
        have hi := ih hc
        rw [List.nil_append] at hi
        cases ws with
        | nil => simp [fillFrom, hi]
        | cons w ws => simp [fillFrom, hp, hi]
      | cons v vs =>
        have hi := ih hc
        rw [List.cons_append] at hi
        simp [fillFrom, hp, hi]

end Placeholder

open Placeholder

structure Sql.Aligned (sql : Sql) : Prop where
  closed : quoteAfter none sql.text.toList = none
  count : Placeholder.count sql.text = sql.params.length

namespace Sql.Aligned

theorem append {a b : Sql} (ha : a.Aligned) (hb : b.Aligned) : (a ++ b).Aligned where
  closed := by
    rw [text_append, String.toList_append, quoteAfter_append, ha.closed, hb.closed]
  count := by
    rw [Placeholder.count, text_append, String.toList_append, countFrom_append, ha.closed,
      params_append, List.length_append]
    exact congrArg₂ _ ha.count hb.count

theorem fill_append (lit : Value → String) {a : Sql} (ha : a.Aligned) (b : Sql) :
    fill lit (a ++ b) = fill lit a ++ fill lit b := by
  unfold fill
  rw [text_append, String.toList_append, params_append, fillFrom_append lit ha.count, ha.closed,
    String.ofList_append]

end Sql.Aligned

structure Still (text : String) : Prop where
  closed : quoteAfter none text.toList = none
  count : Placeholder.count text = 0

theorem Still.append {s t : String} (hs : Still s) (ht : Still t) : Still (s ++ t) where
  closed := by rw [String.toList_append, quoteAfter_append, hs.closed, ht.closed]
  count := by
    rw [Placeholder.count, String.toList_append, countFrom_append, hs.closed]
    exact congrArg₂ (· + ·) hs.count ht.count

theorem Still.aligned {text : String} (h : Still text) : (Sql.ofText text).Aligned :=
  ⟨h.closed, h.count⟩

theorem still_of_plain {text : String} (h : Plain text) : Still text := by
  unfold Plain at h
  suffices hs : quoteAfter none text.toList = none ∧ countFrom none text.toList = 0 from
    ⟨hs.1, hs.2⟩
  generalize text.toList = cs at h
  induction cs with
  | nil => exact ⟨rfl, rfl⟩
  | cons c cs ih =>
    obtain ⟨⟨hc, hq⟩, hcs⟩ := List.forall_mem_cons.1 h
    have hn : next none c = none := by simp [next, hq]
    have hp : isPlaceholder none c = false := by simp [isPlaceholder, hc]
    rw [quoteAfter_cons, countFrom, hn, hp]
    simpa using ih hcs

def doubled (mark : Char) (held : List Char) : List Char :=
  held.flatMap fun c => if c = mark then [mark, mark] else [c]

@[simp] theorem doubled_nil (mark : Char) : doubled mark [] = [] := rfl

@[simp] theorem doubled_mark (mark : Char) (held : List Char) :
    doubled mark (mark :: held) = mark :: mark :: doubled mark held := by
  simp [doubled]

@[simp] theorem doubled_cons {mark c : Char} (hc : c ≠ mark) (held : List Char) :
    doubled mark (c :: held) = c :: doubled mark held := by
  simp [doubled, hc]

theorem doubled_append (mark : Char) (held more : List Char) :
    doubled mark (held ++ more) = doubled mark held ++ doubled mark more := List.flatMap_append

theorem doubled_of_notMem {mark : Char} {held : List Char} (h : mark ∉ held) :
    doubled mark held = held := by
  induction held with
  | nil => rfl
  | cons c held ih =>
    rw [List.mem_cons, not_or] at h
    rw [doubled_cons (Ne.symm h.1), ih h.2]

theorem isPlaceholder_of_isQuote {mark : Char} (hm : isQuote mark) (quote : Option Char) :
    isPlaceholder quote mark = false := by
  have hne : mark ≠ '?' := by
    rintro rfl
    cases hm
  simp [isPlaceholder, hne]

/-- Inside a literal nothing counts. Between the two halves of a doubled mark the literal is left,
but only the second half of it is read there. -/
theorem quoted_doubled {mark : Char} (hm : isQuote mark) (held : List Char) :
    quoteAfter (some mark) (doubled mark held) = some mark ∧
      countFrom (some mark) (doubled mark held) = 0 := by
  induction held with
  | nil => exact ⟨rfl, rfl⟩
  | cons c held ih =>
    by_cases hc : c = mark
    · subst hc
      have hleft : next (some c) c = none := if_pos rfl
      have hback : next none c = some c := if_pos hm
      rw [doubled_mark, quoteAfter_cons, quoteAfter_cons, countFrom, countFrom, hleft, hback]
      simpa [isPlaceholder_of_isQuote hm] using ih
    · have hn : next (some mark) c = some mark := if_neg hc
      rw [doubled_cons hc, quoteAfter_cons, countFrom, hn]
      simpa [isPlaceholder] using ih

theorem still_quoted {name : String} (h : '\x60' ∉ name.toList) : Still (quoted name) := by
  have hm : isQuote '\x60' := by decide
  obtain ⟨hq, hc⟩ := quoted_doubled hm name.toList
  rw [doubled_of_notMem h] at hq hc
  have ht : (quoted name).toList = '\x60' :: (name.toList ++ ['\x60']) := by
    simp [quoted, String.toList_append]
  have hn : next none '\x60' = some '\x60' := by decide
  constructor
  · rw [ht, quoteAfter_cons, hn, quoteAfter_append, hq]
    decide
  · rw [Placeholder.count, ht, countFrom, hn, countFrom_append, hq, hc]
    decide

def ColumnRef.Tidy (r : ColumnRef) : Prop :=
  (∀ table ∈ r.table, '\x60' ∉ table.toList) ∧ '\x60' ∉ r.column.toList

instance (r : ColumnRef) : Decidable r.Tidy := inferInstanceAs (Decidable (_ ∧ _))

theorem ColumnRef.Tidy.still {r : ColumnRef} (h : r.Tidy) : Still r.sql := by
  have hdot : Still "." := still_of_plain (by decide)
  unfold ColumnRef.sql
  cases ht : r.table with
  | some table => exact ((still_quoted (h.1 table ht)).append hdot).append (still_quoted h.2)
  | none => exact still_quoted h.2

theorem aligned_hole (v : Value) : (Sql.hole v).Aligned where
  closed := by
    change quoteAfter none "?".toList = none
    decide
  count := by
    change Placeholder.count "?" = 1
    decide

@[simp] theorem fill_ofText (lit : Value → String) (text : String) :
    fill lit (.ofText text) = text := by
  have h (quote : Option Char) (cs : List Char) : fillFrom lit quote cs [] = cs := by
    induction cs generalizing quote with
    | nil => rfl
    | cons c cs ih => simp [fillFrom, ih]
  simp [fill, Sql.ofText, h]

@[simp] theorem fill_hole (lit : Value → String) (v : Value) : fill lit (.hole v) = lit v := by
  have hp : isPlaceholder none '?' = true := by decide
  simp [fill, Sql.hole, fillFrom, hp]

namespace Part

def Tidy : Part → Prop
  | .words _ => True
  | .table t => '\x60' ∉ t.name.toList
  | .given name => '\x60' ∉ name.toList
  | .column _ r => r.Tidy
  | .value .. => True
  | .raw sql _ => quoteAfter none sql.toList = none

instance : DecidablePred Tidy
  | .words _ => isTrue trivial
  | .table t => inferInstanceAs (Decidable ('\x60' ∉ t.name.toList))
  | .given name => inferInstanceAs (Decidable ('\x60' ∉ name.toList))
  | .column _ r => inferInstanceAs (Decidable r.Tidy)
  | .value .. => isTrue trivial
  | .raw sql _ => inferInstanceAs (Decidable (quoteAfter none sql.toList = none))

/-- A part with its value written in its place; a raw part with its own values at its own
placeholders. -/
def inline (lit : Value → String) : Part → String
  | .words text => text
  | .table t => quoted t.name
  | .given name => quoted name
  | .column _ r => r.sql
  | .value _ _ v => lit v
  | .raw sql params => fill lit ⟨sql, params⟩

def inlineAll (lit : Value → String) (ps : List Part) : String :=
  ps.foldr (fun p s => p.inline lit ++ s) ""

theorem Tidy.aligned {schema : Schema} {p : Part} (h : p.Tidy) (hd : p.Declared schema) :
    p.print.Aligned := by
  cases p with
  | words text => exact (still_of_plain hd).aligned
  | table t => exact (still_quoted h).aligned
  | given name => exact (still_quoted h).aligned
  | column sources r => exact (ColumnRef.Tidy.still h).aligned
  | value sources r v => exact aligned_hole v
  | raw sql params => exact ⟨h, hd⟩

theorem fill_print (lit : Value → String) (p : Part) : fill lit p.print = p.inline lit := by
  cases p <;> simp [print, inline]

theorem aligned_printAll {schema : Schema} {ps : List Part} (hd : ∀ p ∈ ps, p.Declared schema)
    (ht : ∀ p ∈ ps, p.Tidy) :
    (printAll ps).Aligned ∧ ∀ lit, fill lit (printAll ps) = inlineAll lit ps := by
  induction ps with
  | nil => exact ⟨(still_of_plain (by decide)).aligned, fun lit => fill_ofText lit ""⟩
  | cons p ps ih =>
    obtain ⟨hdp, hdps⟩ := List.forall_mem_cons.1 hd
    obtain ⟨htp, htps⟩ := List.forall_mem_cons.1 ht
    obtain ⟨ha, hf⟩ := ih hdps htps
    have hp := htp.aligned hdp
    refine ⟨hp.append ha, fun lit => ?_⟩
    rw [printAll_cons, hp.fill_append, hf, fill_print]
    rfl

end Part

end RecordSql
