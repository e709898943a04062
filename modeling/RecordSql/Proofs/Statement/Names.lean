import Mathlib.Data.Nat.Digits.Defs
import RecordSql.Proofs.Reading.Names
import RecordSql.Proofs.Statement.Declared

/-! The places of names in the text of a statement. Each is read as the name when the spelling of
the place suits it; when all of them do, the text is read segment by segment, so that what names are
decides nothing but the names. The words between them hold no quotes: no name hides there. -/

namespace RecordSql

def Unquoted (w : String) : Prop := ∀ ch ∈ w.toList, Placeholder.isQuote ch = false

-- only the characters of the text are gone through, as for a plain text
instance (w : String) : Decidable (Unquoted w) :=
  List.decidableBAll (fun ch => Placeholder.isQuote ch = false) w.toList

theorem Unquoted.append {v w : String} (hv : Unquoted v) (hw : Unquoted w) :
    Unquoted (v ++ w) := by
  intro ch h
  rw [String.toList_append] at h
  exact (List.mem_append.1 h).elim (hv ch) (hw ch)

theorem Plain.unquoted {w : String} (h : Plain w) : Unquoted w := fun ch hc => (h ch hc).2

structure Opens (w : String) : Prop where
  unquoted : Unquoted w
  ends : scanEnd w = .start

structure Closes (w : String) : Prop where
  unquoted : Unquoted w
  closed : (scanEnd w).isClosed
  parted : Parted w

structure Links (w : String) : Prop extends Opens w where
  parted : Parted w
  nonempty : w.toList ≠ []

instance (w : String) : Decidable (Opens w) :=
  decidable_of_iff (Unquoted w ∧ scanEnd w = .start) ⟨fun h => ⟨h.1, h.2⟩, fun h => ⟨h.1, h.2⟩⟩

instance (w : String) : Decidable (Closes w) :=
  decidable_of_iff (Unquoted w ∧ (scanEnd w).isClosed ∧ Parted w)
    ⟨fun h => ⟨h.1, h.2.1, h.2.2⟩, fun h => ⟨h.1, h.2, h.3⟩⟩

instance (w : String) : Decidable (Links w) :=
  decidable_of_iff (Opens w ∧ Parted w ∧ w.toList ≠ [])
    ⟨fun h => ⟨h.1, h.2.1, h.2.2⟩, fun h => ⟨h.1, h.2, h.3⟩⟩

inductive Segment where
  | words (text : String)
  | place (spelling : Spelling) (name : String)
  | raw (text : String)

namespace Segment

def write : Segment → String
  | .words text => text
  | .place spelling name => spelling.write name
  | .raw text => text

def tokens : Segment → List Token
  | .words text => scan text
  | .place spelling name => [spelling.token name]
  | .raw text => scan text

def Suits : Segment → Prop
  | .words _ => True
  | .place spelling name => spelling.Suits name
  | .raw text => (scanEnd text).isClosed

instance : DecidablePred Suits
  | .words _ => isTrue trivial
  | .place spelling name => inferInstanceAs (Decidable (spelling.Suits name))
  | .raw text => inferInstanceAs (Decidable ((scanEnd text).isClosed = true))

def text (segs : List Segment) : String := segs.foldr (fun s t => s.write ++ t) ""

@[simp] theorem text_nil : text [] = "" := rfl

@[simp] theorem text_cons (s : Segment) (segs : List Segment) :
    text (s :: segs) = s.write ++ text segs := rfl

@[simp] theorem text_append (xs ys : List Segment) : text (xs ++ ys) = text xs ++ text ys := by
  induction xs with
  | nil => simp
  | cons x xs ih => simp [ih, String.append_assoc]

structure Apart (segs : List Segment) : Prop where
  fixed : ∀ w, .words w ∈ segs → Unquoted w
  read : (∀ s ∈ segs, s.Suits) →
    scan (text segs) = segs.flatMap tokens ∧ (scanEnd (text segs)).isClosed

theorem apart_nil : Apart [] where
  fixed _ h := absurd h List.not_mem_nil
  read _ := ⟨rfl, rfl⟩

theorem apart_singleton {s : Segment}
    (h : ∀ w, s = .words w → Unquoted w ∧ (scanEnd w).isClosed) : Apart [s] where
  fixed w hw := (h w (List.mem_singleton.1 hw).symm).1
  read hs := by
    replace hs := hs s (List.mem_singleton_self s)
    rw [text_cons, text_nil, String.append_empty, List.flatMap_singleton]
    cases s with
    | words w => exact ⟨rfl, (h w rfl).2⟩
    | place spelling name => exact Spelling.Suits.scan_write hs
    | raw text => exact ⟨rfl, hs⟩

theorem apart_words {w : String} (hu : Unquoted w) (hc : (scanEnd w).isClosed) :
    Apart [.words w] :=
  apart_singleton fun _ he => Segment.words.inj he ▸ ⟨hu, hc⟩

theorem Apart.append_of {xs ys : List Segment} (hx : Apart xs) (hy : Apart ys)
    (h : (scanEnd (text xs)).isClosed →
      scan (text xs ++ text ys) = scan (text xs) ++ scan (text ys) ∧
        ((text ys).toList ≠ [] → scanEnd (text xs ++ text ys) = scanEnd (text ys))) :
    Apart (xs ++ ys) where
  fixed w hw := (List.mem_append.1 hw).elim (hx.fixed w) (hy.fixed w)
  read hs := by
    obtain ⟨hxs, hys⟩ := List.forall_mem_append.1 hs
    obtain ⟨hxt, hxc⟩ := hx.read hxs
    obtain ⟨hyt, hyc⟩ := hy.read hys
    obtain ⟨ht, he⟩ := h hxc
    rw [text_append, List.flatMap_append, ht, hxt, hyt]
    refine ⟨rfl, ?_⟩
    by_cases hne : (text ys).toList = []
    · rwa [String.toList_eq_nil_iff.1 hne, String.append_empty]
    · rwa [he hne]

theorem Apart.append {xs ys : List Segment} (hx : Apart xs) (hy : Apart ys)
    (h : Parted (text ys)) : Apart (xs ++ ys) :=
  hx.append_of hy fun hc => scan_append_of_parted hc h

theorem Apart.opened {w : String} (hw : Opens w) {xs : List Segment} (h : Apart xs) :
    Apart (.words w :: xs) := by
  have hc : (scanEnd w).isClosed := by rw [hw.ends]; rfl
  refine (apart_words hw.unquoted hc).append_of h fun _ => scan_append_of_start ?_ _
  rw [text_cons, text_nil, String.append_empty]
  exact hw.ends

/-- What is known of a text with the names in it: the places of the names, each of which is read as
its name exactly when that is right for it, what is fixed, which quotes nothing, and what the whole
of the text is read as if all the names are right. -/
structure Spelled (segs : List Segment) (text : String) : Prop where
  printed : text = Segment.text segs
  fixed : ∀ w, .words w ∈ segs → Unquoted w
  places : ∀ spelling name, .place spelling name ∈ segs →
    (ReadsAs (spelling.write name) name ↔ spelling.Suits name)
  whole : (∀ s ∈ segs, s.Suits) → scan text = segs.flatMap tokens

theorem Apart.spelled {segs : List Segment} (h : Apart segs) {text : String}
    (ht : text = Segment.text segs) : Spelled segs text where
  printed := ht
  fixed := h.fixed
  places _ _ _ := Spelling.readsAs_write_iff
  whole hs := ht ▸ (h.read hs).1

end Segment

open Segment (text)

theorem Parted.append {s : String} (h : Parted s) (hne : s.toList ≠ []) (t : String) :
    Parted (s ++ t) := by
  unfold Parted at h ⊢
  rwa [String.toList_append, List.head?_append_of_ne_nil _ hne]

theorem word_toString (n : Nat) :
    (toString n).toList ≠ [] ∧ ∀ c ∈ (toString n).toList, Mode.isWord c := by
  have hd : (toString n).toList = Nat.toDigits 10 n := by simp [toString, Nat.repr]
  rw [hd]
  refine ⟨Nat.toDigits_ne_nil, fun c hc => ?_⟩
  have hdigit : c.isDigit := Nat.isDigit_of_mem_toDigits (by decide) (by decide) hc
  simp [Mode.isWord, Char.isAlphanum, hdigit]

theorem Links.numbered {w : String} (hw : Links w) (n : Nat) : Closes (w ++ toString n) where
  unquoted := hw.unquoted.append (plain_toString n).unquoted
  closed := by
    obtain ⟨hne, hword⟩ := word_toString n
    rw [(scan_append_of_start hw.ends _).2 hne, (scan_word hne hword).2]
    rfl
  parted := hw.parted.append hw.nonempty _

theorem Closes.linked {v w : String} (hv : Closes v) (hne : v.toList ≠ []) (hw : Links w) :
    Links (v ++ w) where
  unquoted := hv.unquoted.append hw.unquoted
  ends := ((scan_append_of_parted hv.closed hw.parted).2 hw.nonempty).trans hw.ends
  parted := hv.parted.append hne _
  nonempty := by
    rw [String.toList_append]
    exact List.append_ne_nil_of_left_ne_nil hne _

def ColumnRef.segments (r : ColumnRef) : List Segment :=
  r.table.elim [] (fun table => [.place .quoted table, .words "."]) ++ [.place .quoted r.column]

namespace Part

def segments : Part → List Segment
  | .words text => [.words text]
  | .table t => [.place .quoted t.name]
  | .given name => [.place .quoted name]
  | .column _ r => r.segments
  | .value .. => [.words "?"]
  | .raw sql _ => [.raw sql]

theorem text_segments (p : Part) : text p.segments = p.print.text := by
  cases p with
  | column sources r =>
    simp only [segments, ColumnRef.segments, print, ColumnRef.sql]
    cases r.table <;>
      simp [Segment.write, Spelling.write, Sql.ofText, qualified, String.append_assoc]
  | _ => simp [segments, print, Segment.write, Spelling.write, Sql.ofText, Sql.hole]

theorem text_flatMap_segments (ps : List Part) :
    text (ps.flatMap segments) = (printAll ps).text := by
  induction ps with
  | nil => rfl
  | cons p ps ih => simp [text_segments, ih]

def Apart (ps : List Part) : Prop := Segment.Apart (ps.flatMap segments)

theorem apart_nil : Apart [] := Segment.apart_nil

theorem Apart.append {ps qs : List Part} (hp : Apart ps) (hq : Apart qs)
    (h : Parted (printAll qs).text) : Apart (ps ++ qs) := by
  rw [← text_flatMap_segments] at h
  unfold Apart
  rw [List.flatMap_append]
  exact Segment.Apart.append hp hq h

theorem Apart.opened {w : String} (hw : Opens w) {ps : List Part} (h : Apart ps) :
    Apart (.words w :: ps) := Segment.Apart.opened hw h

theorem Apart.linked {ps qs : List Part} {w : String} (hp : Apart ps) (hw : Links w)
    (hq : Apart qs) : Apart (ps ++ .words w :: qs) :=
  hp.append (hq.opened hw.toOpens) (hw.parted.append hw.nonempty _)

theorem apart_words {w : String} (hu : Unquoted w) (hc : (scanEnd w).isClosed) :
    Apart [.words w] := Segment.apart_words hu hc

theorem Apart.ended {ps : List Part} {w : String} (hp : Apart ps) (hw : Closes w) :
    Apart (ps ++ [.words w]) := by
  refine hp.append (apart_words hw.unquoted hw.closed) ?_
  simpa [print, Sql.ofText, Sql.empty] using hw.parted

theorem apart_given (name : String) : Apart [.given name] := Segment.apart_singleton nofun

theorem apart_table (t : Table) : Apart [.table t] := Segment.apart_singleton nofun

theorem apart_raw (sql : String) (params : Params) : Apart [.raw sql params] :=
  Segment.apart_singleton nofun

theorem apart_value (sources : List Source) (r : ColumnRef) (v : Value) :
    Apart [.value sources r v] := Segment.apart_words (by decide) rfl

theorem apart_column (sources : List Source) (r : ColumnRef) : Apart [.column sources r] := by
  have hname (name : String) : Segment.Apart [.place .quoted name] := Segment.apart_singleton nofun
  unfold Apart
  rw [List.flatMap_singleton, segments, ColumnRef.segments]
  cases r.table with
  | none => exact hname r.column
  | some table =>
    have hdot : Links "." := by decide
    exact (hname table).append ((hname r.column).opened hdot.toOpens)
      (hdot.parted.append hdot.nonempty _)

def separated (sep : String) : List (List Part) → List Part
  | [] => []
  | [ps] => ps
  | ps :: rest => ps ++ .words sep :: separated sep rest

theorem listed_eq_separated (pss : List (List Part)) : listed pss = separated ", " pss := by
  induction pss with
  | nil => rfl
  | cons ps rest ih =>
    cases rest with
    | nil => rfl
    | cons qs rest => exact congrArg (fun l => ps ++ .words ", " :: l) ih

theorem text_printAll_separated (sep : String) (pss : List (List Part)) :
    (printAll (separated sep pss)).text =
      sep.intercalate (pss.map fun ps => (printAll ps).text) := by
  induction pss with
  | nil => rfl
  | cons ps rest ih =>
    cases rest with
    | nil => rfl
    | cons qs rest =>
      have hs : separated sep (ps :: qs :: rest) = ps ++ .words sep :: separated sep (qs :: rest) :=
        rfl
      rw [hs, printAll_append, printAll_cons, Sql.text_append, Sql.text_append, ih]
      simp [String.intercalate_cons_cons, print, Sql.ofText, String.append_assoc]

theorem apart_separated {sep : String} (hsep : Links sep) {pss : List (List Part)}
    (h : ∀ ps ∈ pss, Apart ps) : Apart (separated sep pss) := by
  induction pss with
  | nil => exact apart_nil
  | cons ps rest ih =>
    obtain ⟨hp, hrest⟩ := List.forall_mem_cons.1 h
    cases rest with
    | nil => exact hp
    | cons qs rest => exact hp.linked hsep (ih hrest)

theorem apart_listed {pss : List (List Part)} (h : ∀ ps ∈ pss, Apart ps) : Apart (listed pss) := by
  rw [listed_eq_separated]
  exact apart_separated (by decide) h

end Part

open RecordSql.Part

theorem Condition.apart_parts (sources : List Source) (e : Condition) :
    Apart (e.parts sources) := by
  have hopen : Opens "(" := by decide
  have hclose : Closes ")" := by decide
  induction e with
  | compare r op v =>
    have hop : Links (" " ++ op.sql ++ " ") := by cases op <;> decide
    exact (apart_column sources r).linked hop (apart_value sources r v)
  | columns left op right =>
    have hop : Links (" " ++ op.sql ++ " ") := by cases op <;> decide
    exact (apart_column sources left).linked hop (apart_column sources right)
  | logical op left right ihl ihr =>
    have hop : Links (" " ++ op.sql ++ " ") := by cases op <;> decide
    exact ((ihl.opened hopen).linked hop ihr).ended hclose
  | not inner ih =>
    have hn : Opens "NOT " := by decide
    exact ((ih.opened hopen).opened hn).ended hclose
  | nullCheck r isNull =>
    cases isNull
    · exact (apart_column sources r).ended (by decide)
    · exact (apart_column sources r).ended (by decide)
  | inList r values negated =>
    have hin : Links (if negated then " NOT IN " else " IN ") := by cases negated <;> decide
    have hl : Apart (listed (values.map fun v => [.value sources r v])) :=
      apart_listed (List.forall_mem_map.2 fun v _ => apart_value sources r v)
    exact ((apart_column sources r).linked hin (hl.opened hopen)).ended hclose
  | between r low high negated =>
    have hb : Links (if negated then " NOT BETWEEN " else " BETWEEN ") := by
      cases negated <;> decide
    have ha : Links " AND " := by decide
    exact ((apart_column sources r).linked hb (apart_value sources r low)).linked ha
      (apart_value sources r high)
  | raw sql params => exact apart_raw sql params

theorem Part.Apart.filtering {ps : List Part} (h : Apart ps) (sources : List Source)
    (e : Option Condition) : Apart (ps ++ Part.filtering sources e) := by
  cases e with
  | none => rwa [Part.filtering, List.append_nil]
  | some e => exact h.linked (by decide) (e.apart_parts sources)

namespace Clauses

theorem apart_projectionParts (q : Clauses) (sources : List Source) :
    ∀ ps ∈ q.projectionParts sources, Apart ps := by
  unfold projectionParts
  cases q.columns with
  | some refs => exact List.forall_mem_map.2 fun r _ => apart_column sources r
  | none =>
    cases sources with
    | nil => nofun
    | cons s rest => exact List.forall_mem_map.2 fun c _ => apart_column _ _

theorem apart_orderParts (q : Clauses) (sources : List Source) {ps : List Part} (h : Apart ps) :
    Apart (ps ++ q.orderParts sources) := by
  unfold orderParts
  split_ifs
  · rwa [List.append_nil]
  · refine h.linked (by decide) (apart_listed (List.forall_mem_map.2 ?_))
    rintro ⟨r, d⟩ -
    cases d
    · exact (apart_column sources r).ended (by decide)
    · exact (apart_column sources r).ended (by decide)

theorem closes_limitText (q : Clauses) : Closes q.limitText := by
  have hl : Links " LIMIT " := by decide
  have ho : Links " OFFSET " := by decide
  have hm : Links " LIMIT -1 OFFSET " := by decide
  unfold limitText
  cases q.limit with
  | none =>
    cases q.offset with
    | none => decide
    | some offset => exact hm.numbered offset
  | some limit =>
    cases q.offset with
    | none => exact hl.numbered limit
    | some offset =>
      have hne : (" LIMIT " ++ toString limit).toList ≠ [] := by
        rw [String.toList_append]
        exact List.append_ne_nil_of_left_ne_nil hl.nonempty _
      exact ((hl.numbered limit).linked hne ho).numbered offset

theorem apart_parts (q : Clauses) (sources : List Source) {from_ : List Part} (h : Apart from_) :
    Apart (q.parts sources from_) := by
  have hd : Opens q.distinctText := by
    unfold distinctText
    split_ifs <;> decide
  have hs : Opens "SELECT " := by decide
  have hf : Links " FROM " := by decide
  have hp := apart_listed (q.apart_projectionParts sources)
  have hfrom := (((hp.opened hd).opened hs).linked hf h).filtering sources q.condition
  exact (q.apart_orderParts sources hfrom).ended q.closes_limitText

theorem apart_countParts (q : Clauses) (sources : List Source) {from_ : List Part}
    (h : Apart from_) : Apart (q.countParts sources from_) :=
  have hs : Opens "SELECT COUNT(*) FROM " := by decide
  (h.opened hs).filtering sources q.condition

end Clauses

mutual

theorem Source.apart_parts : ∀ s : Source, Apart s.parts
  | .table t => by
    rw [Source.parts]
    exact apart_table t
  | .subquery name q inner => by
    have ho : Opens "(" := by decide
    have hc : Links ")" := by decide
    have ha : Opens " AS " := by decide
    have hq := q.apart_parts inner.sources (inner.apart_parts inner.sources)
    rw [Source.parts]
    exact (hq.opened ho).linked hc ((apart_given name).opened ha)

theorem Joined.apart_parts (sources : List Source) : ∀ j : Joined, Apart (j.parts sources)
  | .base s => by
    rw [Joined.parts]
    exact s.apart_parts
  | .join left kind right on => by
    have hk : Links (" " ++ kind.sql ++ " ") := by cases kind <;> decide
    have ho : Links " ON " := by decide
    rw [Joined.parts]
    exact ((left.apart_parts sources).linked hk right.apart_parts).linked ho
      (on.apart_parts sources)

end

namespace Select

theorem apart_queryParts (q : Select) : Apart q.queryParts :=
  q.clauses.apart_parts _ (q.sources.apart_parts _)

theorem apart_parts (q : Select) : Apart q.parts :=
  q.apart_queryParts.ended (by decide)

theorem apart_countParts (q : Select) : Apart q.countParts := by
  have hs : Opens "SELECT COUNT(*) FROM (" := by decide
  unfold countParts
  split_ifs
  · exact (q.apart_queryParts.opened hs).ended (by decide)
  · exact (q.clauses.apart_countParts _ (q.sources.apart_parts _)).ended (by decide)

end Select

namespace Insert

theorem apart_named (t : Table) (name : String) : Apart [named t name] := apart_column _ _

theorem apart_conflictParts (t : Table) (clause : OnConflict) :
    Apart (conflictParts t clause) := by
  have hw : Apart [.words " ON CONFLICT"] := apart_words (by decide) (by decide)
  have ht : Apart (.words " ON CONFLICT" :: targetParts t clause.target) := by
    unfold targetParts
    split_ifs
    · exact hw
    · have hl : Apart (listed (clause.target.map fun name => [named t name])) :=
        apart_listed (List.forall_mem_map.2 fun name _ => apart_named t name)
      exact (hw.linked (by decide) hl).ended (by decide)
  unfold conflictParts
  split_ifs
  · exact ht.ended (by decide)
  · refine ht.linked (by decide) (apart_listed (List.forall_mem_map.2 fun name _ => ?_))
    exact (apart_named t name).linked (by decide) (apart_named t name)

theorem apart_tupleParts (t : Table) (row : List Value) : Apart (tupleParts t row) := by
  have ho : Opens "(" := by decide
  refine ((apart_listed (List.forall_mem_map.2 ?_)).opened ho).ended (by decide)
  rintro ⟨c, v⟩ -
  exact apart_value _ _ v

theorem apart_parts (q : Insert) : Apart q.parts := by
  have hi : Opens "INSERT INTO " := by decide
  have htable := (apart_table q.table).opened hi
  have hsource : Apart (.words "INSERT INTO " :: .table q.table :: q.sourceParts) := by
    unfold sourceParts
    split_ifs
    · exact htable.ended (by decide)
    · have hn : Apart (listed (q.table.inserted.map fun c => [named q.table c.name])) :=
        apart_listed (List.forall_mem_map.2 fun c _ => apart_named q.table c.name)
      have hr : Apart (listed (q.rows.map (tupleParts q.table))) :=
        apart_listed (List.forall_mem_map.2 fun row _ => apart_tupleParts q.table row)
      exact (htable.linked (by decide) hn).linked (by decide) hr
  have hall : Apart (.words "INSERT INTO " :: .table q.table :: q.sourceParts ++
      (q.onConflict.map (conflictParts q.table)).getD []) := by
    cases q.onConflict with
    | none => exact hsource.append apart_nil rfl
    | some clause =>
      refine hsource.append (apart_conflictParts q.table clause) ?_
      exact Parted.append (s := " ON CONFLICT") (by decide) (by decide) _
  exact hall.ended (by decide)

end Insert

namespace Update

theorem apart_parts (q : Update) : Apart q.parts := by
  have hu : Opens "UPDATE " := by decide
  refine ((((apart_table q.table).opened hu).linked (w := " SET ") (by decide)
    (apart_listed (List.forall_mem_map.2 ?_))).filtering _ q.condition).ended (by decide)
  rintro ⟨name, v⟩ -
  exact (apart_column _ _).linked (by decide) (apart_value _ _ v)

end Update

namespace Delete

theorem apart_parts (q : Delete) : Apart q.parts :=
  have hd : Opens "DELETE FROM " := by decide
  (((apart_table q.table).opened hd).filtering _ q.condition).ended (by decide)

end Delete

theorem AnyBuilder.apart_parts : ∀ b : AnyBuilder, Apart b.parts
  | .select b => b.content.apart_parts
  | .insert b => b.content.apart_parts
  | .update b => b.content.apart_parts
  | .delete b => b.content.apart_parts

end RecordSql
