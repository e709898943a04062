import RecordSql.Proofs.Calendar.Time

/-! The spellings of dates and of times of day. A year has up to four digits, or a sign and any
number of them, and the other fields have one digit or two. Every spelling is read as what it
spells, and what is written is one of them. -/

namespace RecordSql

open Decimal

theorem Blank.not_isBlank {c : Char} (h : isDigit c) : ¬isBlank c := by
  simp [isDigit] at h
  simp [isBlank, CharRanges.contains, ranges]
  omega

theorem Blank.skip_digits {front : List Char} (hd : ∀ c ∈ front, isDigit c) (hf : front ≠ [])
    (rest : List Char) : skip (front ++ rest) = front ++ rest := by
  cases front with
  | nil => exact absurd rfl hf
  | cons c front =>
    have hc : ¬isBlank c := not_isBlank (hd c List.mem_cons_self)
    exact List.dropWhile_cons_of_neg hc

theorem Decimal.head?_separated {c : Char} (h : ¬isDigit c) (cs : List Char) :
    ∀ d ∈ (c :: cs).head?, ¬isDigit d := by
  rintro d ⟨⟩
  exact h

namespace Date

inductive SpellsYear : List Char → Int → Prop
  | plain {ds : List Char} : (∀ c ∈ ds, isDigit c) → ds ≠ [] → ds.length ≤ 4 →
    SpellsYear ds (value ds)
  | positive {ds : List Char} : (∀ c ∈ ds, isDigit c) → ds ≠ [] → SpellsYear ('+' :: ds) (value ds)
  | negative {ds : List Char} : (∀ c ∈ ds, isDigit c) → ds ≠ [] →
    SpellsYear ('-' :: ds) (-(value ds : Int))

structure SpellsField (cs : List Char) (n : Nat) : Prop where
  digits : ∀ c ∈ cs, isDigit c
  least : 1 ≤ cs.length
  most : cs.length ≤ 2
  value_eq : value cs = n

theorem readYear_of_isDigit {c : Char} (h : isDigit c) (cs : List Char) :
    readYear (c :: cs) = (take? 1 4 (c :: cs)).map fun (n, rest) => ((n : Int), rest) := by
  unfold readYear
  split
  · next heq =>
    cases heq
    exact absurd h (by decide)
  · next heq =>
    cases heq
    exact absurd h (by decide)
  · rfl

variable {front rest : List Char}

theorem SpellsYear.read {year : Int} (h : SpellsYear front year)
    (hr : ∀ c ∈ rest.head?, ¬isDigit c) :
    readYear (Blank.skip (front ++ rest)) = some (year, rest) := by
  cases h with
  | plain hd hf hlength =>
    rw [Blank.skip_digits hd hf]
    cases front with
    | nil => exact absurd rfl hf
    | cons c front =>
      have htake := take?_append hd (Nat.le_add_left 1 _) hlength (.inr hr)
      rw [List.cons_append] at htake ⊢
      rw [readYear_of_isDigit (hd c List.mem_cons_self), htake]
      rfl
  | @positive ds hd hf =>
    have hskip : Blank.skip ('+' :: ds ++ rest) = '+' :: (ds ++ rest) := rfl
    rw [hskip, readYear, takeAll?_append hd hf hr]
    rfl
  | @negative ds hd hf =>
    have hskip : Blank.skip ('-' :: ds ++ rest) = '-' :: (ds ++ rest) := rfl
    rw [hskip, readYear, takeAll?_append hd hf hr]
    rfl

theorem SpellsField.read {n : Nat} (h : SpellsField front n) (hr : ∀ c ∈ rest.head?, ¬isDigit c) :
    readField (front ++ rest) = some (n, rest) := by
  have hf : front ≠ [] := List.ne_nil_of_length_pos h.least
  rw [readField, Blank.skip_digits h.digits hf, take?_append h.digits h.least h.most (.inr hr),
    h.value_eq]

theorem spellsYear_yearText (year : Int) : SpellsYear (yearText year) year := by
  unfold yearText
  split
  · next h =>
    have hlt : year.toNat < Nat.pow 10 4 := by
      show year.toNat < 10000
      omega
    have hspells := SpellsYear.plain (fun c => isDigit_of_mem_fixed)
      (List.ne_nil_of_length_pos (by simp)) (Nat.le_of_eq (length_fixed 4 year.toNat))
    rwa [value_fixed hlt, Int.toNat_of_nonneg h.1] at hspells
  · have hd : ∀ c ∈ padded 4 year.natAbs, isDigit c := isDigit_of_mem_padded
    have hf : padded 4 year.natAbs ≠ [] := padded_ne_nil (by decide) _
    split
    · next hneg =>
      have hvalue : -(value (padded 4 year.natAbs) : Int) = year := by
        rw [value_padded]
        omega
      have hspells := SpellsYear.negative hd hf
      rwa [hvalue] at hspells
    · next hpos =>
      have hvalue : (value (padded 4 year.natAbs) : Int) = year := by
        rw [value_padded]
        omega
      have hspells := SpellsYear.positive hd hf
      rwa [hvalue] at hspells

theorem spellsField_fixed {n : Nat} (h : n < Nat.pow 10 2) : SpellsField (fixed 2 n) n where
  digits _ := isDigit_of_mem_fixed
  least := by simp
  most := by simp
  value_eq := value_fixed h

inductive Spells : List Char → Date → Prop
  | mk {year month day : List Char} {d : Date} : SpellsYear year d.year →
    SpellsField month d.month → SpellsField day d.day →
    Spells (year ++ '-' :: (month ++ '-' :: day)) d

theorem Spells.read {d : Date} (h : Spells front d) (hr : ∀ c ∈ rest.head?, ¬isDigit c) :
    Date.read (front ++ rest) = some (d, rest) := by
  obtain ⟨hy, hm, hd⟩ := h
  have hsep := head?_separated (c := '-') (by decide)
  simp only [List.append_assoc, List.cons_append]
  unfold Date.read
  simp only [hy.read (hsep _), expect_self, hm.read (hsep _), hd.read hr, ofYmd?_self,
    Option.bind_eq_bind, Option.bind_some, pure]

theorem spells_text (d : Date) : Spells d.text d := by
  have h := Spells.mk (spellsYear_yearText d.year) (spellsField_fixed d.month_lt)
    (spellsField_fixed d.day_lt)
  simpa [text] using h

theorem Spells.ofText? {d : Date} (h : Spells front d) : ofText? front = some d := by
  have hread : Date.read (front ++ []) = some (d, []) := h.read nofun
  rw [List.append_nil] at hread
  simp [Date.ofText?, hread]

end Date

namespace Time

open Date (SpellsField)

/-- A leap second is spelled as second 60, so it has a spelling after second 59 only. -/
inductive Spells : List Char → Time → Prop
  | mk {hour minute second fraction : List Char} {t : Time} : ¬t.Concealed →
    SpellsField hour t.hour → SpellsField minute t.minute → SpellsField second t.shownSecond →
    SpellsFraction fraction t.shownNano →
    Spells (hour ++ ':' :: (minute ++ ':' :: (second ++ fraction))) t

theorem SpellsFraction.head? {cs : List Char} {nano : Nat} (h : SpellsFraction cs nano) :
    ∀ c ∈ cs.head?, ¬isDigit c := by
  cases h with
  | absent => nofun
  | digits => exact head?_separated (by decide) _

theorem Spells.read {cs : List Char} {t : Time} (h : Spells cs t) :
    Time.read cs = some (t, []) := by
  obtain ⟨ht, hh, hm, hs, hf⟩ := h
  have hsep := head?_separated (c := ':') (by decide)
  have hfraction := hf.readFraction (show EndsFraction [] from nofun)
  rw [List.append_nil] at hfraction
  unfold Time.read
  simp only [hh.read (hsep _), Date.expect_self, hm.read (hsep _), hs.read hf.head?, hfraction,
    ofShown?_self ht, Option.bind_eq_bind, Option.bind_some, pure]

theorem spells_text (t : Time) : Spells t.text t.shown := by
  have h := Spells.mk t.not_concealed_shown (Date.spellsField_fixed t.shown.hour_lt)
    (Date.spellsField_fixed t.shown.minute_lt) (Date.spellsField_fixed t.shown.shownSecond_lt)
    (spellsFraction_fraction t.shown.shownNano_lt)
  rw [← text_shown]
  simpa [text] using h

theorem not_concealed_of_read {cs rest : List Char} {t : Time} (h : Time.read cs = some (t, rest)) :
    ¬t.Concealed := by
  simp only [Time.read, Option.bind_eq_bind, Option.bind_eq_some_iff, Prod.exists] at h
  obtain ⟨hour, _, -, _, -, minute, _, -, _, -, second, _, -, nano, _, -, time, ht, h⟩ := h
  cases h
  exact not_concealed_of_ofShown? ht

end Time

theorem Time.Spells.skip {cs : List Char} {t : Time} (h : Spells cs t) : Blank.skip cs = cs := by
  obtain ⟨-, hh, -, -, -⟩ := h
  exact Blank.skip_digits hh.digits (List.ne_nil_of_length_pos hh.least) _

namespace DateTime

inductive Spells : List Char → DateTime → Prop
  | mk {date time : List Char} {t : DateTime} : Date.Spells date t.date → Time.Spells time t.time →
    Spells (date ++ ' ' :: time) t

theorem Spells.ofText? {cs : List Char} {t : DateTime} (h : Spells cs t) :
    ofText? cs = some t := by
  obtain @⟨date, time, t, hd, ht⟩ := h
  have hdate := hd.read (head?_separated (c := ' ') (by decide) time)
  have hskip : Blank.skip (' ' :: time) = time := ht.skip
  simp [DateTime.ofText?, hdate, hskip, ht.read]

/-- The date-time that the text of `t` is read as. -/
def shown (t : DateTime) : DateTime := ⟨t.date, t.time.shown⟩

theorem shown_eq_self_iff {t : DateTime} : t.shown = t ↔ ¬t.time.Concealed := by
  obtain ⟨date, time⟩ := t
  rw [shown, DateTime.mk.injEq, and_iff_right rfl, Time.shown_eq_self_iff]

theorem spells_text (t : DateTime) : Spells t.text t.shown :=
  .mk t.date.spells_text t.time.spells_text

theorem shown_of_ofText? {cs : List Char} {t : DateTime} (h : ofText? cs = some t) :
    t.shown = t := by
  simp only [DateTime.ofText?, Option.bind_eq_bind, Option.bind_eq_some_iff, Prod.exists] at h
  obtain ⟨date, _, -, time, _, ht, h⟩ := h
  split at h
  · cases h
    exact shown_eq_self_iff.2 (Time.not_concealed_of_read ht)
  · cases h

end DateTime

end RecordSql
