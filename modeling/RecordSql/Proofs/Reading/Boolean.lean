import RecordSql.Proofs.Reading.Tokens

/-! Boolean conditions in SQL text. OR binds weaker than AND, AND weaker than NOT, and NOT weaker
than anything a predicate is made of. Parentheses group; the AND of a BETWEEN and all that stands
in a CASE belong to the predicate around them, and a nested query is a predicate of its own. -/

namespace RecordSql

inductive Keyword where
  | and
  | or
  | not
  | between
  | caseOpen
  | caseClose
  | query
deriving DecidableEq

def keywords : List (String × Keyword) :=
  [("AND", .and), ("OR", .or), ("NOT", .not), ("BETWEEN", .between), ("CASE", .caseOpen),
    ("END", .caseClose), ("SELECT", .query), ("VALUES", .query), ("WITH", .query)]

def Token.keyword? : Token → Option Keyword
  | .word text =>
    (keywords.find? fun k => k.1.toList = text.map Char.toUpper).map Prod.snd
  | _ => none

/-- A condition of a conjunction. What is neither NOT nor a group is a predicate, true, false or
unknown of a row as a whole. -/
inductive Factor where
  | predicate (tokens : List Token)
  | group (inner : List (List Factor))
  | negated (inner : Factor)

abbrev Reading := List (List Factor)

inductive Piece where
  | token (t : Token)
  | group (tokens : List Token) (inner : Option Reading)

namespace Piece

def tokens : Piece → List Token
  | .token t => [t]
  | .group ts _ => ts

def keyword? : Piece → Option Keyword
  | .token t => t.keyword?
  | .group .. => none

end Piece

/-- The two ways of putting alternatives of conjunctions one after the other: AND makes one
conjunction of those next to it, OR leaves all of them apart. -/
def Connective.link {α : Type} : Connective → List (List α) → List (List α) → List (List α)
  | .or, r, s => r ++ s
  | .and, [], s => s
  | .and, [a], [] => [a]
  | .and, [a], b :: s => (a ++ b) :: s
  | .and, a :: b :: r, s => a :: link .and (b :: r) s

structure Pending where
  cases : Nat := 0
  betweens : Nat := 0
deriving DecidableEq

inductive Role where
  | inside (pending : Pending)
  | connective (op : Connective)
  | stray

def Pending.role (pending : Pending) (k : Option Keyword) : Role :=
  if pending.cases = 0 then
    match k with
    | some .and =>
      if pending.betweens = 0 then .connective .and
      else .inside { pending with betweens := pending.betweens - 1 }
    | some .or => if pending.betweens = 0 then .connective .or else .stray
    | some .between => .inside { pending with betweens := pending.betweens + 1 }
    | some .caseOpen => .inside { pending with cases := 1 }
    | _ => .inside pending
  else
    -- inside a CASE nothing counts but where it ends
    match k with
    | some .caseOpen => .inside { pending with cases := pending.cases + 1 }
    | some .caseClose => .inside { pending with cases := pending.cases - 1 }
    | _ => .inside pending

def within (p : Piece) : List (List (List Piece)) → List (List (List Piece))
  | (f :: fs) :: rest => ((p :: f) :: fs) :: rest
  | r => r

def segment : Pending → List Piece → Option (List (List (List Piece)))
  | pending, [] => if pending = {} then some [[[]]] else none
  | pending, p :: ps =>
    match pending.role p.keyword? with
    | .inside pending => (segment pending ps).map (within p)
    | .connective op => (segment {} ps).map (op.link [[[]]])
    | .stray => none

def factor? : List Piece → Option Factor
  | [] => none
  | p :: ps =>
    -- NOT takes all that follows it, and a group on its own is none of a predicate's
    if p.keyword? = some .not then (factor? ps).map .negated
    else
      match p, ps with
      | .group _ inner, [] => inner.map .group
      | p, ps => some (.predicate ((p :: ps).flatMap Piece.tokens))

def startsQuery (ps : List Piece) : Bool := ps.head?.bind Piece.keyword? = some .query

def readPieces (ps : List Piece) : Option Reading :=
  if startsQuery ps then none else (segment {} ps).bind fun r => r.mapM fun a => a.mapM factor?

def enclose (ps : List Piece) : Piece :=
  let ts := .symbol '(' :: ps.flatMap Piece.tokens ++ [.symbol ')']
  .group ts (if startsQuery ps then some [[.predicate ts]] else readPieces ps)

def leave (level : List Piece) : List (List Piece) → Option (List (List Piece))
  | [] => none
  | around :: outer => some ((around ++ [enclose level]) :: outer)

def nestStep : List (List Piece) → Token → Option (List (List Piece))
  | [], _ => none
  | level :: outer, t =>
    if t = .symbol '(' then some ([] :: level :: outer)
    else if t = .symbol ')' then leave level outer
    else some ((level ++ [.token t]) :: outer)

def nest (levels : List (List Piece)) (ts : List Token) : Option (List (List Piece)) :=
  ts.foldlM nestStep levels

def pieces? (ts : List Token) : Option (List Piece) :=
  match nest [[]] ts with
  | some [ps] => some ps
  | _ => none

def Sql.reading (sql : Sql) : Option Reading :=
  if sql.Closed then (pieces? sql.tokens).bind readPieces else none

namespace Connective

variable {α : Type} (op op' : Connective)

@[simp] theorem link_or (r s : List (List α)) : Connective.or.link r s = r ++ s := by
  rw [link]

theorem link_cons (a : List α) {r : List (List α)} (h : r ≠ []) (s : List (List α)) :
    op.link (a :: r) s = a :: op.link r s := by
  cases r with
  | nil => exact absurd rfl h
  | cons b r => cases op <;> rfl

theorem link_assoc (a : List α) {r : List (List α)} (h : r ≠ []) (s : List (List α)) :
    op'.link (op.link [a] r) s = op.link [a] (op'.link r s) := by
  cases r with
  | nil => exact absurd rfl h
  | cons b r =>
    cases op with
    | or => exact op'.link_cons a h s
    | and =>
      cases r with
      | cons c r => cases op' <;> rfl
      | nil =>
        cases op' with
        | or => rfl
        | and =>
          cases s with
          | nil => rfl
          | cons c s => exact congrArg (· :: s) (List.append_assoc a b c)

theorem and_link_cons {r : List (List α)} (h : r ≠ []) (a : List α) (s : List (List α)) :
    Connective.and.link r (a :: s) = Connective.and.link r [a] ++ s := by
  induction r with
  | nil => exact absurd rfl h
  | cons b r ih =>
    cases r with
    | nil => rfl
    | cons c r =>
      rw [link_cons _ b (List.cons_ne_nil c r), link_cons _ b (List.cons_ne_nil c r),
        ih (List.cons_ne_nil c r)]
      rfl

theorem mapM_link {β : Type} {f : α → Option β} {r s : List (List α)} {r' s' : List (List β)}
    (hr : r.mapM (fun a => a.mapM f) = some r') (hs : s.mapM (fun a => a.mapM f) = some s') :
    (op.link r s).mapM (fun a => a.mapM f) = some (op.link r' s') := by
  cases op with
  | or => simp [hr, hs]
  -- only the last element on the left meets one on the right
  | and =>
    induction r generalizing r' with
    | nil =>
      cases hr
      exact hs
    | cons a r ih =>
      obtain ⟨a', ha, t', ht, rfl⟩ : ∃ a', a.mapM f = some a' ∧
          ∃ t', r.mapM (fun a => a.mapM f) = some t' ∧ a' :: t' = r' := by
        simpa [Option.bind_eq_some_iff] using hr
      cases r with
      | cons b r =>
        have ht' : t' ≠ [] := by
          rintro rfl
          simp [Option.bind_eq_some_iff] at ht
        rw [link_cons _ a (List.cons_ne_nil b r), link_cons _ a' ht']
        simp [ha, ih ht]
      | nil =>
        cases ht
        cases s with
        | nil =>
          cases hs
          exact hr
        | cons c s =>
          obtain ⟨c', hc, s', hs', rfl⟩ : ∃ c', c.mapM f = some c' ∧
              ∃ t', s.mapM (fun a => a.mapM f) = some t' ∧ c' :: t' = s' := by
            simpa [Option.bind_eq_some_iff] using hs
          simp [link, ha, hc, hs']

def keyword : Connective → Keyword
  | .and => .and
  | .or => .or

end Connective

def Shaped (r : List (List (List Piece))) : Prop := ∃ f fs rest, r = (f :: fs) :: rest

theorem Shaped.ne_nil {r : List (List (List Piece))} (h : Shaped r) : r ≠ [] := by
  obtain ⟨f, fs, rest, rfl⟩ := h
  exact List.cons_ne_nil _ _

theorem link_within (op : Connective) (p : Piece) {r : List (List (List Piece))} (h : Shaped r)
    (s : List (List (List Piece))) : op.link (within p r) s = within p (op.link r s) := by
  obtain ⟨f, fs, rest, rfl⟩ := h
  cases rest with
  | cons a rest => cases op <;> rfl
  | nil =>
    cases op with
    | or => rfl
    | and => cases s <;> rfl

theorem segment_shaped {pending : Pending} {ps : List Piece} {r : List (List (List Piece))}
    (h : segment pending ps = some r) : Shaped r := by
  induction ps generalizing pending r with
  | nil =>
    rw [segment] at h
    split at h
    · cases h
      exact ⟨[], [], [], rfl⟩
    · cases h
  | cons p ps ih =>
    rw [segment] at h
    split at h
    · obtain ⟨r', hr', rfl⟩ := Option.map_eq_some_iff.1 h
      obtain ⟨f, fs, rest, rfl⟩ := ih hr'
      exact ⟨p :: f, fs, rest, rfl⟩
    · next op _ =>
      obtain ⟨r', hr', rfl⟩ := Option.map_eq_some_iff.1 h
      obtain ⟨f, fs, rest, rfl⟩ := ih hr'
      cases op with
      | and => exact ⟨[], f :: fs, rest, rfl⟩
      | or => exact ⟨[], [], (f :: fs) :: rest, rfl⟩
    · cases h

theorem segment_link {op : Connective} {p : Piece} (hp : p.keyword? = some op.keyword)
    {pending : Pending} {xs ys : List Piece} {r s : List (List (List Piece))}
    (hx : segment pending xs = some r) (hy : segment {} ys = some s) :
    segment pending (xs ++ p :: ys) = some (op.link r s) := by
  -- along the pieces before the connective; only at their end is it known that nothing is open
  induction xs generalizing pending r with
  | nil =>
    rw [segment] at hx
    split at hx
    · next hpending =>
      cases hx
      subst hpending
      have hr : Pending.role {} p.keyword? = .connective op := by rw [hp]; cases op <;> rfl
      rw [List.nil_append, segment, hr]
      simp [hy]
    · cases hx
  | cons x xs ih =>
    rw [segment] at hx
    rw [List.cons_append, segment]
    cases hrole : pending.role x.keyword? with
    | inside pending' =>
      rw [hrole] at hx
      obtain ⟨r', hr', rfl⟩ := Option.map_eq_some_iff.1 hx
      simp only [ih hr', Option.map_some, link_within op x (segment_shaped hr') s]
    | connective op' =>
      rw [hrole] at hx
      obtain ⟨r', hr', rfl⟩ := Option.map_eq_some_iff.1 hx
      simp only [ih hr', Option.map_some, op'.link_assoc op [[]] (segment_shaped hr').ne_nil s]
    | stray =>
      rw [hrole] at hx
      cases hx

/-- What is read before and after a connective is read so with it between them. -/
theorem readPieces_link {op : Connective} {p : Piece} (hp : p.keyword? = some op.keyword)
    {xs ys : List Piece} {r s : Reading} (hx : readPieces xs = some r)
    (hy : readPieces ys = some s) : readPieces (xs ++ p :: ys) = some (op.link r s) := by
  unfold readPieces at hx hy ⊢
  split at hx
  · cases hx
  next hq =>
  split at hy
  · cases hy
  obtain ⟨r', hr', hr⟩ := Option.bind_eq_some_iff.1 hx
  obtain ⟨s', hs', hs⟩ := Option.bind_eq_some_iff.1 hy
  -- the first piece decides, and what was read has one
  have hne : startsQuery (xs ++ p :: ys) = startsQuery xs := by
    cases xs with
    | nil =>
      cases hr'
      cases hr
    | cons x xs => rfl
  rw [hne, if_neg hq, segment_link hp hr' hs']
  exact op.mapM_link hr hs

theorem readPieces_enclose {ps : List Piece} {r : Reading} (h : readPieces ps = some r) :
    readPieces [enclose ps] = some [[.group r]] := by
  have hq : ¬startsQuery ps := by
    intro hq
    rw [readPieces, if_pos hq] at h
    cases h
  have he : enclose ps = .group (.symbol '(' :: ps.flatMap Piece.tokens ++ [.symbol ')']) r := by
    rw [enclose, if_neg hq, h]
  rw [he]
  rfl

theorem mapM_eq_singleton {α β : Type} {f : α → Option β} {xs : List α} {y : β}
    (h : xs.mapM f = some [y]) : ∃ x, xs = [x] ∧ f x = some y := by
  cases xs with
  | nil => cases h
  | cons x xs =>
    obtain ⟨y', hy, ys, hys, heq⟩ :
        ∃ y', f x = some y' ∧ ∃ ys, xs.mapM f = some ys ∧ y' :: ys = [y] := by
      simpa [Option.bind_eq_some_iff] using h
    obtain ⟨rfl, rfl⟩ := List.cons.inj heq
    cases xs with
    | nil => exact ⟨x, rfl, hy⟩
    | cons x' xs => simp [Option.bind_eq_some_iff] at hys

theorem readPieces_not {p : Piece} (hk : p.keyword? = some .not) {ps : List Piece} {f : Factor}
    (h : readPieces ps = some [[f]]) : readPieces (p :: ps) = some [[.negated f]] := by
  unfold readPieces at h
  split at h
  · cases h
  obtain ⟨segments, hsegments, hf⟩ := Option.bind_eq_some_iff.1 h
  obtain ⟨a, rfl, ha⟩ := mapM_eq_singleton hf
  obtain ⟨qs, rfl, hqs⟩ := mapM_eq_singleton ha
  have hq : startsQuery (p :: ps) = false := by simp [startsQuery, hk]
  have hrole : Pending.role {} (some .not) = .inside {} := rfl
  have hs : segment {} (p :: ps) = some [[p :: qs]] := by
    simp only [segment, hk, hrole, hsegments]
    rfl
  have hfactor : factor? (p :: qs) = some (.negated f) := by simp [factor?, hk, hqs]
  simp [readPieces, hq, hs, hfactor]

def onto (level : List Piece) (outer : List (List Piece)) : List (List Piece) → List (List Piece)
  | [] => outer
  | [l] => (level ++ l) :: outer
  | l :: l' :: ls => l :: onto level outer (l' :: ls)

theorem onto_cons (level : List Piece) (outer : List (List Piece)) (l : List Piece)
    {ls : List (List Piece)} (h : ls ≠ []) :
    onto level outer (l :: ls) = l :: onto level outer ls := by
  cases ls with
  | nil => exact absurd rfl h
  | cons l' ls => rfl

theorem nestStep_onto (level : List Piece) (outer : List (List Piece)) {ls ls' : List (List Piece)}
    {t : Token} (h : nestStep ls t = some ls') :
    nestStep (onto level outer ls) t = some (onto level outer ls') ∧ ls' ≠ [] := by
  cases ls with
  | nil => cases h
  | cons l ls =>
    -- the outermost level alone has something before it, so it matters whether `l` is that one
    rw [nestStep] at h
    by_cases ho : t = .symbol '('
    · rw [if_pos ho] at h
      cases h
      refine ⟨?_, List.cons_ne_nil _ _⟩
      rw [onto_cons _ _ _ (List.cons_ne_nil l ls)]
      cases ls <;> simp [nestStep, onto, ho]
    · rw [if_neg ho] at h
      by_cases hc : t = .symbol ')'
      · rw [if_pos hc] at h
        cases ls with
        | nil => cases h
        | cons l' ls =>
          cases h
          refine ⟨?_, List.cons_ne_nil _ _⟩
          rw [onto_cons _ _ _ (List.cons_ne_nil l' ls)]
          cases ls <;> simp [nestStep, leave, onto, hc]
      · rw [if_neg hc] at h
        cases h
        refine ⟨?_, List.cons_ne_nil _ _⟩
        cases ls <;> simp [nestStep, onto, ho, hc]

theorem nest_onto (level : List Piece) (outer : List (List Piece)) {ts : List Token}
    {ls ls' : List (List Piece)} (h : nest ls ts = some ls') :
    nest (onto level outer ls) ts = some (onto level outer ls') := by
  induction ts generalizing ls with
  | nil =>
    cases h
    rfl
  | cons t ts ih =>
    obtain ⟨ls₁, hs, hrest⟩ := Option.bind_eq_some_iff.1 h
    exact Option.bind_eq_some_iff.2 ⟨_, (nestStep_onto level outer hs).1, ih hrest⟩

theorem nest_append (ls : List (List Piece)) (ts us : List Token) :
    nest ls (ts ++ us) = (nest ls ts).bind fun ls => nest ls us := List.foldlM_append

theorem pieces?_eq_some {ts : List Token} {ps : List Piece} :
    pieces? ts = some ps ↔ nest [[]] ts = some [ps] := by
  unfold pieces?
  split
  · next h => simp [h]
  · next h =>
    refine ⟨nofun, fun hn => absurd hn (h ps)⟩

/-- Tokens in which every parenthesis is closed are read alike at every level. -/
theorem nest_of_pieces? {ts : List Token} {ps : List Piece} (h : pieces? ts = some ps)
    (level : List Piece) (outer : List (List Piece)) :
    nest (level :: outer) ts = some ((level ++ ps) :: outer) := by
  have hn := nest_onto level outer (pieces?_eq_some.1 h)
  simpa [onto] using hn

def Token.IsParenthesis (t : Token) : Prop := t = .symbol '(' ∨ t = .symbol ')'

theorem nest_cons {t : Token} (ht : ¬t.IsParenthesis) (level : List Piece)
    (outer : List (List Piece)) (ts : List Token) :
    nest (level :: outer) (t :: ts) = nest ((level ++ [.token t]) :: outer) ts := by
  obtain ⟨ho, hc⟩ := not_or.1 ht
  simp [nest, nestStep, ho, hc]

theorem pieces?_cons {t : Token} (ht : ¬t.IsParenthesis) {ts : List Token} {ps : List Piece}
    (h : pieces? ts = some ps) : pieces? (t :: ts) = some (.token t :: ps) := by
  rw [pieces?_eq_some, nest_cons ht]
  exact nest_of_pieces? h _ _

theorem pieces?_append {ts us : List Token} {ps qs : List Piece} (ht : pieces? ts = some ps)
    (hu : pieces? us = some qs) : pieces? (ts ++ us) = some (ps ++ qs) := by
  rw [pieces?_eq_some, nest_append, pieces?_eq_some.1 ht]
  exact nest_of_pieces? hu _ _

theorem pieces?_parenthesized {ts : List Token} {ps : List Piece} (h : pieces? ts = some ps) :
    pieces? (.symbol '(' :: ts ++ [.symbol ')']) = some [enclose ps] := by
  have ho : nest [[]] (.symbol '(' :: ts) = some [ps, []] := nest_of_pieces? h [] [[]]
  rw [pieces?_eq_some, nest_append, ho]
  rfl

namespace Sql

variable {a b : Sql} {r s : Reading}

theorem reading_eq_some :
    a.reading = some r ↔ a.Closed ∧ ∃ ps, pieces? a.tokens = some ps ∧ readPieces ps = some r := by
  unfold reading
  split
  · next h => simp [h, Option.bind_eq_some_iff]
  · next h => simp [h]

theorem reading_parenthesized (h : a.reading = some r) :
    a.parenthesized.reading = some [[.group r]] := by
  obtain ⟨hc, ps, hps, hr⟩ := reading_eq_some.1 h
  obtain ⟨htokens, hclosed⟩ := tokens_parenthesized hc
  rw [reading_eq_some]
  refine ⟨hclosed, _, ?_, readPieces_enclose hr⟩
  rw [htokens]
  exact pieces?_parenthesized hps

theorem reading_connected (ha : a.reading = some r) (hb : b.reading = some s) (op : Connective) :
    (a ++ .ofText (" " ++ op.sql ++ " ") ++ b).reading = some (op.link r s) := by
  obtain ⟨hac, ps, hps, hr⟩ := reading_eq_some.1 ha
  obtain ⟨hbc, qs, hqs, hs⟩ := reading_eq_some.1 hb
  have ht : ¬Token.IsParenthesis (.word op.sql.toList) := by simp [Token.IsParenthesis]
  have hk : (Piece.token (.word op.sql.toList)).keyword? = some op.keyword := by
    cases op <;> decide
  obtain ⟨htokens, hclosed⟩ := tokens_connected hac hbc op
  rw [reading_eq_some]
  refine ⟨hclosed, _, ?_, readPieces_link hk hr hs⟩
  rw [htokens]
  exact pieces?_append hps (pieces?_cons ht hqs)

theorem reading_negated {f : Factor} (h : a.reading = some [[f]]) :
    (ofText "NOT " ++ a).reading = some [[.negated f]] := by
  obtain ⟨hc, ps, hps, hr⟩ := reading_eq_some.1 h
  obtain ⟨htokens, hclosed⟩ := tokens_negated hc
  rw [reading_eq_some]
  have hk : (Piece.token (.word "NOT".toList)).keyword? = some .not := by decide
  refine ⟨hclosed, _, ?_, readPieces_not hk hr⟩
  rw [htokens]
  exact pieces?_cons (by simp [Token.IsParenthesis]) hps

end Sql

end RecordSql
