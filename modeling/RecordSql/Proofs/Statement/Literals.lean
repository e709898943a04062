import RecordSql.Proofs.Statement.Placeholders

/-! Literals in SQL text. A quote opens a literal, and what closes it is the next one of the same
kind that is not doubled; without one, the literal goes on to the end of the text. Whether a quote
is doubled is seen at the character behind it. The placeholders are counted without looking at that
character, and still they are the question marks outside the literals. -/

namespace RecordSql.Placeholder

inductive Piece where
  | plain (c : Char)
  | literal (mark : Char) (held : List Char)
  /-- A literal that nothing closes. -/
  | unended (mark : Char) (held : List Char)
deriving DecidableEq

def Piece.isClosed : Piece → Bool
  | .plain _ | .literal .. => true
  | .unended .. => false

/-- How a text falls into pieces. Behind a literal that is closed stands no other mark of its kind:
the two would be one that the literal holds. -/
inductive Lexes : List Char → List Piece → Prop
  | nil : Lexes [] []
  | plain {c : Char} {cs : List Char} {ps : List Piece} (hc : isQuote c = false)
    (hcs : Lexes cs ps) : Lexes (c :: cs) (.plain c :: ps)
  | literal {mark : Char} {held cs : List Char} {ps : List Piece} (hm : isQuote mark)
    (hnext : cs.head? ≠ some mark) (hcs : Lexes cs ps) :
    Lexes (mark :: (doubled mark held ++ mark :: cs)) (.literal mark held :: ps)
  | unended {mark : Char} {held : List Char} (hm : isQuote mark) :
    Lexes (mark :: doubled mark held) [.unended mark held]

def piecesFrom : Option (Char × List Char) → List Char → List Piece
  | none, [] => []
  | none, c :: cs =>
    if isQuote c then piecesFrom (some (c, [])) cs else .plain c :: piecesFrom none cs
  | some (mark, held), [] => [.unended mark held]
  | some (mark, held), [c] =>
    if c = mark then [.literal mark held] else [.unended mark (held ++ [c])]
  | some (mark, held), c :: d :: cs =>
    if c = mark then
      if d = mark then piecesFrom (some (mark, held ++ [mark])) cs
      else .literal mark held :: piecesFrom none (d :: cs)
    else piecesFrom (some (mark, held ++ [c])) (d :: cs)

def pieces (sql : String) : List Piece := piecesFrom none sql.toList

def opening : Option (Char × List Char) → List Char
  | none => []
  | some (mark, held) => mark :: doubled mark held

theorem lexes_piecesFrom {opened : Option (Char × List Char)} (ho : ∀ l ∈ opened, isQuote l.1)
    (cs : List Char) : Lexes (opening opened ++ cs) (piecesFrom opened cs) := by
  fun_induction piecesFrom opened cs with
  | case1 => exact .nil
  | case2 c cs hc ih => exact ih (by simpa using hc)
  | case3 c cs hc ih => exact .plain (by simpa using hc) (ih ho)
  | case4 mark held =>
    have hm : isQuote mark := ho _ rfl
    simpa [opening] using Lexes.unended hm
  | case5 mark held => exact .literal (ho _ rfl) (by simp) .nil
  | case6 mark held c hc =>
    have h : Lexes (mark :: doubled mark (held ++ [c])) _ := .unended (ho _ rfl)
    simpa [opening, doubled_append, doubled_cons hc] using h
  -- the mark is doubled, so the literal holds it
  | case7 mark held cs ih => simpa [opening, doubled_append] using ih (by simpa using ho)
  -- another character stands behind the mark, so it closes the literal
  | case8 mark held d cs hd ih => exact .literal (ho _ rfl) (by simpa using hd) (ih (by simp))
  | case9 mark held c d cs hc ih =>
    simpa [opening, doubled_append, doubled_cons hc] using ih (by simpa using ho)

theorem piecesFrom_held {mark c : Char} (hc : c ≠ mark) (held cs : List Char) :
    piecesFrom (some (mark, held)) (c :: cs) = piecesFrom (some (mark, held ++ [c])) cs := by
  cases cs <;> simp [piecesFrom, hc]

theorem piecesFrom_closing (mark : Char) (held : List Char) {cs : List Char}
    (h : cs.head? ≠ some mark) :
    piecesFrom (some (mark, held)) (mark :: cs) = .literal mark held :: piecesFrom none cs := by
  cases cs with
  | nil => simp [piecesFrom]
  | cons d cs =>
    have hd : d ≠ mark := by simpa using h
    simp [piecesFrom, hd]

theorem piecesFrom_doubled (mark : Char) (held more rest : List Char) :
    piecesFrom (some (mark, held)) (doubled mark more ++ rest) =
      piecesFrom (some (mark, held ++ more)) rest := by
  induction more generalizing held with
  | nil => simp
  | cons c more ih =>
    by_cases hc : c = mark
    · subst hc
      simp [piecesFrom, ih]
    · simp [doubled_cons hc, piecesFrom_held hc, ih]

theorem Lexes.eq_piecesFrom {cs : List Char} {ps : List Piece} (h : Lexes cs ps) :
    piecesFrom none cs = ps := by
  induction h with
  | nil => rfl
  | plain hc _ ih => simp [piecesFrom, hc, ih]
  | @literal mark held cs ps hm hnext _ ih =>
    rw [piecesFrom, if_pos hm, piecesFrom_doubled, piecesFrom_closing mark _ hnext, ih,
      List.nil_append]
  | @unended mark held hm =>
    have h := piecesFrom_doubled mark [] held []
    rw [piecesFrom, if_pos hm]
    simpa [piecesFrom] using h

/-- Every text falls into pieces in one way. -/
theorem lexes_iff {sql : String} {ps : List Piece} : Lexes sql.toList ps ↔ pieces sql = ps := by
  refine ⟨Lexes.eq_piecesFrom, ?_⟩
  rintro rfl
  have hnone : ∀ l ∈ (none : Option (Char × List Char)), isQuote l.1 := by simp
  exact lexes_piecesFrom hnone sql.toList

theorem Lexes.counted {cs : List Char} {ps : List Piece} (h : Lexes cs ps) :
    countFrom none cs = ps.count (.plain '?') ∧
      (quoteAfter none cs = none ↔ ∀ p ∈ ps, p.isClosed) := by
  induction h with
  | nil => exact ⟨rfl, by simp⟩
  | @plain c cs ps hc _ ih =>
    obtain ⟨hcount, hclosed⟩ := ih
    have hn : next none c = none := by simp [next, hc]
    constructor
    · rw [countFrom, hn, hcount]
      by_cases hq : c = '?' <;> simp [isPlaceholder, hq, Nat.add_comm]
    · rw [quoteAfter_cons, hn, hclosed]
      simp [Piece.isClosed]
  | @literal mark held cs ps hm _ _ ih =>
    obtain ⟨hcount, hclosed⟩ := ih
    obtain ⟨hquote, hnone⟩ := quoted_doubled hm held
    have hopen : next none mark = some mark := if_pos hm
    have hclose : next (some mark) mark = none := if_pos rfl
    constructor
    · rw [countFrom, hopen, countFrom_append, hnone, hquote, countFrom, hclose, hcount]
      simp [isPlaceholder_of_isQuote hm]
    · rw [quoteAfter_cons, hopen, quoteAfter_append, hquote, quoteAfter_cons, hclose, hclosed]
      simp [Piece.isClosed]
  | @unended mark held hm =>
    obtain ⟨hquote, hnone⟩ := quoted_doubled hm held
    have hopen : next none mark = some mark := if_pos hm
    constructor
    · rw [countFrom, hopen, hnone]
      simp [isPlaceholder_of_isQuote hm]
    · rw [quoteAfter_cons, hopen, hquote]
      simp [Piece.isClosed]

/-- The placeholders that are counted in a text are the question marks outside its literals, and a
text that leaves no literal open keeps its own count whatever follows, even where what follows goes
on with its last literal. -/
theorem count_outsideLiterals (sql : String) :
    (∀ ps, Lexes sql.toList ps ↔ pieces sql = ps) ∧
    count sql = (pieces sql).count (.plain '?') ∧
    ((∀ p ∈ pieces sql, p.isClosed) → ∀ more, count (sql ++ more) = count sql + count more) := by
  have hlexes : Lexes sql.toList (pieces sql) := lexes_iff.2 rfl
  refine ⟨fun ps => lexes_iff, hlexes.counted.1, fun hclosed more => ?_⟩
  have hquote : quoteAfter none sql.toList = none := hlexes.counted.2.2 hclosed
  rw [count, String.toList_append, countFrom_append, hquote]
  rfl

theorem count_joinedLiterals :
    pieces ("`a` = 'it''s'" ++ "'?' OR `b` = ?") ≠
        pieces "`a` = 'it''s'" ++ pieces "'?' OR `b` = ?" ∧
      (∀ p ∈ pieces "`a` = 'it''s'", p.isClosed) ∧
      count ("`a` = 'it''s'" ++ "'?' OR `b` = ?") =
        count "`a` = 'it''s'" + count "'?' OR `b` = ?" :=
  have hclosed : ∀ p ∈ pieces "`a` = 'it''s'", p.isClosed := by decide
  ⟨by decide, hclosed, (count_outsideLiterals "`a` = 'it''s'").2.2 hclosed "'?' OR `b` = ?"⟩

end RecordSql.Placeholder
