import RecordSql.Proofs.Json.Numeral
import RecordSql.Proofs.Text.Hex

/-! What is written is scanned as its tokens: a text up to its closing quote, a word or a numeral up
to the mark that follows it. -/

namespace RecordSql.Json

mutual

def tokens : Json → List Token
  | .null => [.scalar .null]
  | .bool b => [.scalar (.bool b)]
  | .integer i => [.scalar (.integer i)]
  | .real x => [.scalar (.real x)]
  | .text s => [.text s]
  | .array items => .openArray :: itemTokens items ++ [.closeArray]
  | .object fields => .openObject :: fieldTokens fields ++ [.closeObject]

def itemTokens : List Json → List Token
  | [] => []
  | [j] => tokens j
  | j :: k :: rest => tokens j ++ .comma :: itemTokens (k :: rest)

def fieldTokens : List (String × Json) → List Token
  | [] => []
  | [(key, j)] => .text key :: .colon :: tokens j
  | (key, j) :: f :: rest => .text key :: .colon :: tokens j ++ .comma :: fieldTokens (f :: rest)

end

namespace Token

variable {mode mode' : Mode} {c : Char} {t : Token} {ts ts' : List Token} {cs cs' rest : List Char}

theorem scan_cons (h : step mode c = some (ts, mode')) (cs : List Char) :
    scan mode (c :: cs) = (scan mode' cs).map (ts ++ ·) := by
  rw [scan, h]
  exact Option.map_eq_bind.symm

theorem scan_silent (h : step mode c = some ([], mode')) (cs : List Char) :
    scan mode (c :: cs) = scan mode' cs := by
  rw [scan_cons h]
  cases scan mode' cs <;> rfl

theorem scan_none (h : step mode c = none) (cs : List Char) : scan mode (c :: cs) = none := by
  rw [scan, h]
  rfl

theorem step_between (c : Char) : step .between c = start c := rfl

structure Gathers (mode : List Char → Mode) (belongs : Char → Bool)
    (ofChars? : List Char → Option Token) : Prop where
  inside : ∀ front c, belongs c → step (mode front) c = some ([], mode (c :: front))
  outside : ∀ front c, ¬belongs c → step (mode front) c =
    (ofChars? front.reverse).bind fun t => (start c).map fun r => (t :: r.1, r.2)
  finish : ∀ front, finish (mode front) = (ofChars? front.reverse).map ([·])

theorem gathers_word : Gathers .word Char.isAlpha ofWord? where
  inside front c h := by simp [step, h]
  outside front c h := by
    simp only [step, h]
    cases ofWord? front.reverse <;> cases start c <;> rfl
  finish _ := rfl

theorem gathers_numeral : Gathers .numeral isNumeral ofNumeral? where
  inside front c h := by simp [step, h]
  outside front c h := by
    simp only [step, h]
    cases ofNumeral? front.reverse <;> cases start c <;> rfl
  finish _ := rfl

section Gathers

variable {kind : List Char → Mode} {belongs : Char → Bool} {ofChars? : List Char → Option Token}

theorem Gathers.scan_outside (g : Gathers kind belongs ofChars?) {front : List Char}
    (ht : ofChars? front.reverse = some t) (hrest : ∀ c ∈ rest.head?, ¬belongs c) :
    scan (kind front) rest = (scan .between rest).map (t :: ·) := by
  cases rest with
  | nil =>
    rw [scan, g.finish, ht]
    rfl
  | cons c rest =>
    have hstep := g.outside front c (hrest c rfl)
    rw [ht, Option.bind_some] at hstep
    cases hc : start c with
    | none =>
      rw [hc] at hstep
      rw [← step_between] at hc
      rw [scan_none hstep, scan_none hc]
      rfl
    | some r =>
      rw [hc, Option.map_some] at hstep
      rw [← step_between] at hc
      rw [scan_cons hstep, scan_cons hc, Option.map_map]
      rfl

theorem Gathers.scan_append (g : Gathers kind belongs ofChars?) {front : List Char}
    (hcs : ∀ c ∈ cs, belongs c) (ht : ofChars? (front.reverse ++ cs) = some t)
    (hrest : ∀ c ∈ rest.head?, ¬belongs c) :
    scan (kind front) (cs ++ rest) = (scan .between rest).map (t :: ·) := by
  induction cs generalizing front with
  | nil => exact g.scan_outside (by simpa using ht) hrest
  | cons c cs ih =>
    obtain ⟨hc, hcs⟩ := List.forall_mem_cons.1 hcs
    rw [List.cons_append, scan_silent (g.inside front c hc)]
    exact ih hcs (by simpa using ht)

/-- A text that starts with nothing that a word or a numeral could go on with. -/
def Ends (rest : List Char) : Prop := ∀ c ∈ rest.head?, ¬c.isAlpha ∧ ¬isNumeral c

theorem ends_cons (ha : ¬c.isAlpha) (hn : ¬isNumeral c) : Ends (c :: rest) := by
  rintro _ ⟨⟩
  exact ⟨ha, hn⟩

def Scans (cs : List Char) (ts : List Token) : Prop :=
  ∀ rest, Ends rest → scan .between (cs ++ rest) = (scan .between rest).map (ts ++ ·)

theorem Scans.nil : Scans [] [] := fun rest _ => by
  cases h : scan .between rest <;> simp [h]

theorem Scans.append (h : Scans cs ts) (h' : Scans cs' ts')
    (he : ∀ rest, Ends rest → Ends (cs' ++ rest)) : Scans (cs ++ cs') (ts ++ ts') := by
  intro rest hrest
  rw [List.append_assoc, h _ (he rest hrest), h' rest hrest, Option.map_map]
  congr 1
  funext more
  exact (List.append_assoc ts ts' more).symm

theorem Scans.mark (hc : start c = some ([t], .between)) (h : Scans cs ts) :
    Scans (c :: cs) (t :: ts) := by
  intro rest hrest
  rw [← step_between] at hc
  rw [List.cons_append, scan_cons hc, h rest hrest, Option.map_map]
  rfl

theorem Scans.join (h : Scans cs ts) (hc : start c = some ([t], .between))
    (ha : ¬c.isAlpha) (hn : ¬isNumeral c) (h' : Scans cs' ts') :
    Scans (cs ++ c :: cs') (ts ++ t :: ts') :=
  h.append (h'.mark hc) fun _ _ => ends_cons ha hn

theorem Gathers.scans (g : Gathers kind belongs ofChars?)
    (hc : start c = some ([], kind [c])) (hcs : ∀ d ∈ cs, belongs d)
    (hends : ∀ rest, Ends rest → ∀ d ∈ rest.head?, ¬belongs d)
    (ht : ofChars? (c :: cs) = some t) : Scans (c :: cs) [t] := by
  intro rest hrest
  rw [← step_between] at hc
  rw [List.cons_append, scan_silent hc]
  exact g.scan_append hcs ht (hends rest hrest)

end Gathers

theorem scans_word (hc : start c = some ([], .word [c])) (hcs : ∀ d ∈ cs, d.isAlpha)
    (ht : ofWord? (c :: cs) = some t) : Scans (c :: cs) [t] :=
  gathers_word.scans hc hcs (fun _ h d hd => (h d hd).1) ht

theorem scans_numeral (hc : start c = some ([], .numeral [c])) (hcs : ∀ d ∈ cs, isNumeral d)
    (ht : ofNumeral? (c :: cs) = some t) : Scans (c :: cs) [t] :=
  gathers_numeral.scans hc hcs (fun _ h d hd => (h d hd).2) ht

section Texts

variable {front : List Char}

theorem scan_unit {n : Nat} (h : n < 0xd800) :
    scan (.unit front none []) (Hex.fixed 4 n ++ cs) = scan (.text (Char.ofNat n :: front)) cs := by
  obtain ⟨a, b, c, d, hdigits⟩ : ∃ a b c d, Hex.fixed 4 n = [a, b, c, d] := ⟨_, _, _, _, rfl⟩
  have hvalue : Hex.value? [a, b, c, d] = some n := hdigits ▸ Hex.value?_fixed (by
    show n < 65536
    omega)
  rw [hdigits]
  have hlast : step (.unit front none [a, b, c]) d = some ([], .text (Char.ofNat n :: front)) := by
    have hhigh : ¬0xd800 ≤ n := by omega
    have hlow : ¬0xdc00 ≤ n := by omega
    simp [step, hvalue, unit?, hhigh, hlow]
  exact (scan_silent rfl _).trans <| (scan_silent rfl _).trans <|
    (scan_silent rfl _).trans (scan_silent hlast cs)

theorem scan_unescape {letter : Char} (hu : letter ≠ 'u') (h : unescape? letter = some c) :
    scan (.text front) ('\\' :: letter :: cs) = scan (.text (c :: front)) cs := by
  have hletter : step (.escape front) letter = some ([], .text (c :: front)) := by
    simp [step, hu, h]
  exact (scan_silent rfl _).trans (scan_silent hletter cs)

theorem scan_escape (c : Char) :
    scan (.text front) (escape c ++ cs) = scan (.text (c :: front)) cs := by
  unfold escape
  split
  · exact scan_unescape (by decide) rfl
  · exact scan_unescape (by decide) rfl
  · exact scan_unescape (by decide) rfl
  · exact scan_unescape (by decide) rfl
  · exact scan_unescape (by decide) rfl
  · exact scan_unescape (by decide) rfl
  · exact scan_unescape (by decide) rfl
  next hquote hslash _ _ _ _ _ =>
    split
    · next hcontrol =>
      have hunit : scan (.unit front none []) (Hex.fixed 4 c.toNat ++ cs) =
          scan (.text (Char.ofNat c.toNat :: front)) cs := scan_unit (by omega)
      rw [Char.ofNat_toNat] at hunit
      exact (scan_silent rfl _).trans ((scan_silent rfl _).trans hunit)
    · next hcontrol =>
      refine scan_silent ?_ cs
      have hquote : c ≠ '"' := hquote
      have hslash : c ≠ '\\' := hslash
      simp [step, hcontrol, hquote, hslash]

theorem scan_escapes (cs : List Char) :
    scan (.text front) (cs.flatMap escape ++ rest) = scan (.text (cs.reverse ++ front)) rest := by
  induction cs generalizing front with
  | nil => rfl
  | cons c cs ih => rw [List.flatMap_cons, List.append_assoc, scan_escape, ih]; simp

theorem scans_writeText (s : String) : Scans (writeText s) [.text s] := by
  intro rest _
  have hopen : step .between '"' = some ([], .text []) := rfl
  have hclose : step (.text s.toList.reverse) '"' = some ([.text s], .between) := by
    simp [step]
  rw [writeText, List.cons_append, List.cons_append, List.append_assoc, scan_silent hopen,
    scan_escapes, List.append_nil]
  exact scan_cons hclose rest

end Texts

theorem start_of_isDigit (h : Decimal.isDigit c) : start c = some ([], .numeral [c]) := by
  have hc : 48 ≤ c.toNat ∧ c.toNat ≤ 57 := by simpa [Decimal.isDigit] using h
  have hne (d : Char) (hd : d.toNat < 48 ∨ 57 < d.toNat) : c ≠ d := by
    rintro rfl
    omega
  have hblank : isBlank c = false := by
    simp only [isBlank, hne ' ' (by decide), hne '\n' (by decide), hne '\t' (by decide),
      hne '\r' (by decide), decide_false, Bool.or_false]
  simp [start, hblank, h, hne '[' (by decide), hne ']' (by decide), hne '\x7b' (by decide),
    hne '\x7d' (by decide), hne ',' (by decide), hne ':' (by decide), hne '"' (by decide)]

theorem isNumeral_of_isDigit (h : Decimal.isDigit c) : isNumeral c := by simp [isNumeral, h]

theorem scans_writeInteger {i : Int} (h : IsWord i) :
    Scans (writeInteger i) [.scalar (.integer i)] := by
  have hread := ofNumeral?_writeInteger h
  have hdigits : ∀ c ∈ Decimal.digits i.natAbs, Decimal.isDigit c := Decimal.isDigit_of_mem_digits
  by_cases hi : i < 0
  · rw [writeInteger, if_pos hi] at hread ⊢
    exact scans_numeral rfl (fun c hc => isNumeral_of_isDigit (hdigits c hc)) hread
  · rw [writeInteger, if_neg hi] at hread ⊢
    cases hd : Decimal.digits i.natAbs with
    | nil => exact absurd hd (Decimal.digits_ne_nil _)
    | cons c cs =>
      rw [hd] at hread hdigits
      obtain ⟨hc, hcs⟩ := List.forall_mem_cons.1 hdigits
      exact scans_numeral (start_of_isDigit hc) (fun d hd => isNumeral_of_isDigit (hcs d hd)) hread

theorem scans_writeItems {items : List Json} (h : ∀ j ∈ items, Scans (write j) (tokens j)) :
    Scans (writeItems items) (itemTokens items) := by
  induction items with
  | nil => exact Scans.nil
  | cons j items ih =>
    obtain ⟨hj, hitems⟩ := List.forall_mem_cons.1 h
    cases items with
    | nil => exact hj
    | cons k items => exact hj.join rfl (by decide) (by decide) (ih hitems)

theorem scans_writeFields {fields : Fields} (h : ∀ f ∈ fields, Scans (write f.2) (tokens f.2)) :
    Scans (writeFields fields) (fieldTokens fields) := by
  induction fields with
  | nil => exact Scans.nil
  | cons f fields ih =>
    obtain ⟨key, j⟩ := f
    obtain ⟨hj, hfields⟩ := List.forall_mem_cons.1 h
    have hfield : Scans (writeText key ++ ':' :: write j) ([.text key] ++ .colon :: tokens j) :=
      (scans_writeText key).join rfl (by decide) (by decide) hj
    cases fields with
    | nil => exact hfield
    | cons g fields =>
      have hrest : Scans (writeFields (g :: fields)) _ := ih hfields
      exact hfield.join rfl (by decide) (by decide) hrest

/-- What is written is scanned as the tokens that it was written with. -/
theorem scans_write {n : Nat} {j : Json} (h : Fits n j) : Scans (write j) (tokens j) := by
  induction h with
  | null => exact scans_word rfl (List.all_eq_true.1 rfl) rfl
  | bool n b => cases b <;> exact scans_word rfl (List.all_eq_true.1 rfl) rfl
  | integer n hi => exact scans_writeInteger hi
  | text n s => exact scans_writeText s
  | array _ ih =>
    exact .mark rfl ((scans_writeItems ih).join rfl (by decide) (by decide) .nil)
  | object _ _ ih =>
    exact .mark rfl ((scans_writeFields ih).join rfl (by decide) (by decide) .nil)

end Token

end RecordSql.Json
