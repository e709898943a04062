import RecordSql.Proofs.Statement.Names

/-! The tokens of a statement, part by part. A name in its place is one token whatever the name is;
where every name suits its place, these are the tokens that the text is read as. -/

namespace RecordSql

def keyword (text : String) : Token := .word text.toList

namespace Part

variable {p : Part} {ps qs : List Part}

def tokens (ps : List Part) : List Token := (ps.flatMap segments).flatMap Segment.tokens

def Suit (ps : List Part) : Prop := ∀ s ∈ ps.flatMap segments, s.Suits

theorem Apart.scan_eq (h : Apart ps) (hs : Suit ps) : scan (printAll ps).text = tokens ps := by
  have hread := (Segment.Apart.read h hs).1
  rwa [text_flatMap_segments] at hread

@[simp] theorem tokens_nil : tokens [] = [] := rfl

@[simp] theorem tokens_append (ps qs : List Part) : tokens (ps ++ qs) = tokens ps ++ tokens qs := by
  simp [tokens]

@[simp] theorem tokens_words (text : String) (ps : List Part) :
    tokens (.words text :: ps) = scan text ++ tokens ps := rfl

@[simp] theorem tokens_given (name : String) (ps : List Part) :
    tokens (.given name :: ps) = .quoted '\x60' name.toList :: tokens ps := rfl

theorem tokens_separated (sep : String) (pss : List (List Part)) :
    tokens (separated sep pss) = (scan sep).intercalate (pss.map tokens) := by
  induction pss with
  | nil => rfl
  | cons ps rest ih =>
    cases rest with
    | nil => exact List.intercalate_singleton.symm
    | cons qs rest =>
      have hseparated : separated sep (ps :: qs :: rest) =
          ps ++ .words sep :: separated sep (qs :: rest) := rfl
      rw [hseparated, tokens_append, tokens_words, ih, List.map_cons, List.map_cons,
        List.map_cons, List.intercalate_cons_cons, List.append_assoc]

@[simp] theorem suit_nil : Suit [] := nofun

@[simp] theorem suit_append : Suit (ps ++ qs) ↔ Suit ps ∧ Suit qs := by
  simp only [Suit, List.flatMap_append, List.forall_mem_append]

@[simp] theorem suit_words {text : String} : Suit (.words text :: ps) ↔ Suit ps :=
  List.forall_mem_cons.trans (and_iff_right trivial)

@[simp] theorem suit_table {t : Table} :
    Suit (.table t :: ps) ↔ '\x60' ∉ t.name.toList ∧ Suit ps := List.forall_mem_cons

@[simp] theorem suit_plain {sources : List Source} {name : String} :
    Suit (.column sources (.plain name) :: ps) ↔ '\x60' ∉ name.toList ∧ Suit ps :=
  List.forall_mem_cons

@[simp] theorem suit_value {sources : List Source} {r : ColumnRef} {v : Value} :
    Suit (.value sources r v :: ps) ↔ Suit ps :=
  List.forall_mem_cons.trans (and_iff_right trivial)

theorem suit_listed {pss : List (List Part)} (h : ∀ ps ∈ pss, Suit ps) : Suit (listed pss) := by
  induction pss with
  | nil => exact suit_nil
  | cons ps rest ih =>
    obtain ⟨hps, hrest⟩ := List.forall_mem_cons.1 h
    cases rest with
    | nil => exact hps
    | cons qs rest => exact suit_append.2 ⟨hps, suit_words.2 (ih hrest)⟩

end Part

end RecordSql
