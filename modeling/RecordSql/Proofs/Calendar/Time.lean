import RecordSql.Calendar.Time
import RecordSql.Proofs.Text.Decimal

/-! The text of dates and times of day read back: the year in four digits, the other fields in two,
and the fraction in the fewest digits that are exact. -/

namespace RecordSql

open Decimal

namespace Date

theorem ofYmd?_self (d : Date) : ofYmd? d.year d.month d.day = some d := dif_pos d.isDate

theorem ofYmd?_eq_some {year : Int} {month day : Nat} {d : Date}
    (h : ofYmd? year month day = some d) : d.year = year ∧ d.month = month ∧ d.day = day := by
  rw [ofYmd?] at h
  split at h
  · cases h
    exact ⟨rfl, rfl, rfl⟩
  · cases h

theorem daysIn_le (year : Int) (month : Nat) : Calendar.daysIn year month ≤ 31 := by
  unfold Calendar.daysIn
  split
  · split <;> decide
  all_goals decide

theorem month_lt (d : Date) : d.month < Nat.pow 10 2 := by
  have ⟨_, _, _, h, _, _⟩ := d.isDate
  show d.month < 100
  omega

theorem day_lt (d : Date) : d.day < Nat.pow 10 2 := by
  have ⟨_, _, _, _, _, h⟩ := d.isDate
  have := daysIn_le d.year d.month
  show d.day < 100
  omega

theorem expect_self (c : Char) (rest : List Char) : expect c (c :: rest) = some rest := if_pos rfl

theorem ofYmd?_of_eq {d : Date} {year : Int} {month day : Nat} (hy : d.year = year)
    (hm : d.month = month) (hd : d.day = day) : ofYmd? year month day = some d := by
  subst hy hm hd
  exact ofYmd?_self d

theorem next?_year {d e : Date} (h : d.next? = some e) :
    e.year = d.year ∨ (ofYmd? d.year 12 31 = some d ∧ ofYmd? (d.year + 1) 1 1 = some e) := by
  obtain ⟨-, -, -, hm, -, hd⟩ := d.isDate
  unfold next? at h
  split at h
  · exact .inl (ofYmd?_eq_some h).1
  next hlast =>
    split at h
    · exact .inl (ofYmd?_eq_some h).1
    next hdec =>
      have hm : d.month = 12 := by omega
      rw [hm] at hlast hd
      have hd : d.day = 31 := Nat.le_antisymm hd (Nat.not_lt.1 hlast)
      exact .inr ⟨ofYmd?_of_eq rfl hm hd, h⟩

theorem previous?_year {d e : Date} (h : d.previous? = some e) :
    e.year = d.year ∨ (ofYmd? d.year 1 1 = some d ∧ ofYmd? (d.year - 1) 12 31 = some e) := by
  obtain ⟨-, -, hm, -, hd, -⟩ := d.isDate
  unfold previous? at h
  split at h
  · exact .inl (ofYmd?_eq_some h).1
  · split at h
    · exact .inl (ofYmd?_eq_some h).1
    · exact .inr ⟨ofYmd?_of_eq rfl (by omega) (by omega), h⟩

end Date

namespace Time

theorem ofHms?_self (t : Time) : ofHms? t.hour t.minute t.second t.nano = some t := dif_pos t.isTime

theorem ofHms?_of_eq {t : Time} {second nano : Nat} (hs : t.second = second)
    (hn : t.nano = nano) : ofHms? t.hour t.minute second nano = some t := by
  subst hs hn
  exact ofHms?_self t

theorem ofHms?_eq_some {hour minute second nano : Nat} {t : Time}
    (h : ofHms? hour minute second nano = some t) : t.second = second ∧ t.nano = nano := by
  rw [ofHms?] at h
  split at h
  · cases h
    exact ⟨rfl, rfl⟩
  · cases h

/-- A leap second after another second than the last of a minute: its text shows the next second,
which there is as well. -/
def Concealed (t : Time) : Prop := 1000000000 ≤ t.nano ∧ t.second ≠ 59

instance (t : Time) : Decidable t.Concealed := by unfold Concealed; infer_instance

def shown (t : Time) : Time :=
  if h : t.Concealed then
    ⟨t.hour, t.minute, t.second + 1, t.nano - 1000000000, by
      obtain ⟨hh, hm, hs, hn⟩ := t.isTime
      obtain ⟨-, hlast⟩ := h
      omega⟩
  else t

variable {t : Time}

theorem shown_of_not (h : ¬t.Concealed) : t.shown = t := dif_neg h

theorem shown_eq_self_iff : t.shown = t ↔ ¬t.Concealed := by
  refine ⟨fun heq h => ?_, shown_of_not⟩
  have hsecond : t.shown.second = t.second + 1 := by rw [shown, dif_pos h]
  rw [heq] at hsecond
  omega

theorem shownSecond_of_lt (h : t.nano < 1000000000) : t.shownSecond = t.second := by
  unfold shownSecond
  omega

theorem shownNano_of_lt (h : t.nano < 1000000000) : t.shownNano = t.nano := Nat.mod_eq_of_lt h

theorem shownSecond_of_le (h : 1000000000 ≤ t.nano) : t.shownSecond = t.second + 1 := by
  have := t.isTime
  unfold shownSecond
  omega

theorem shownNano_of_le (h : 1000000000 ≤ t.nano) : t.shownNano = t.nano - 1000000000 := by
  have := t.isTime
  unfold shownNano
  omega

theorem shownNano_lt (t : Time) : t.shownNano < 1000000000 := Nat.mod_lt _ (by decide)

theorem ofShown?_shown (t : Time) :
    ofShown? t.hour t.minute t.shownSecond t.shownNano = some t.shown := by
  obtain ⟨-, -, hs, -⟩ := t.isTime
  rw [ofShown?, if_neg (Nat.not_le.2 t.shownNano_lt)]
  by_cases hn : 1000000000 ≤ t.nano
  · rw [shownSecond_of_le hn, shownNano_of_le hn]
    by_cases hlast : t.second = 59
    · have hnot : ¬t.Concealed := fun h => h.2 hlast
      rw [if_pos (by omega), shown_of_not hnot]
      exact ofHms?_of_eq hlast (by omega)
    · rw [if_neg (by omega), shown, dif_pos ⟨hn, hlast⟩]
      exact ofHms?_self ⟨t.hour, t.minute, t.second + 1, t.nano - 1000000000, _⟩
  · have hlt := Nat.not_le.1 hn
    have hnot : ¬t.Concealed := fun h => hn h.1
    rw [shownSecond_of_lt hlt, shownNano_of_lt hlt, if_neg (by omega), shown_of_not hnot]
    exact ofHms?_self t

theorem not_concealed_of_ofShown? {hour minute second nano : Nat}
    (h : ofShown? hour minute second nano = some t) : ¬t.Concealed := by
  rw [ofShown?] at h
  rintro ⟨hn, hlast⟩
  split at h
  · cases h
  split at h
  · exact hlast (ofHms?_eq_some h).1
  · have := (ofHms?_eq_some h).2
    omega

theorem not_concealed_shown (t : Time) : ¬t.shown.Concealed :=
  not_concealed_of_ofShown? t.ofShown?_shown

theorem ofShown?_self (h : ¬t.Concealed) :
    ofShown? t.hour t.minute t.shownSecond t.shownNano = some t := by
  rw [ofShown?_shown, shown_of_not h]

/-- The second that is shown in place of a leap second has the same text. -/
theorem text_shown (t : Time) : t.shown.text = t.text := by
  by_cases h : t.Concealed
  · have hn := h.1
    have hsecond : t.second + 1 + (t.nano - 1000000000) / 1000000000 = t.shownSecond := by
      unfold shownSecond
      omega
    have hnano : (t.nano - 1000000000) % 1000000000 = t.shownNano := by
      unfold shownNano
      omega
    rw [shown, dif_pos h, text, text, ← hsecond, ← hnano]
    rfl
  · rw [shown_of_not h]

theorem hour_lt (t : Time) : t.hour < Nat.pow 10 2 := by
  have := t.isTime
  show t.hour < 100
  omega

theorem minute_lt (t : Time) : t.minute < Nat.pow 10 2 := by
  have := t.isTime
  show t.minute < 100
  omega

theorem shownSecond_lt (t : Time) : t.shownSecond < Nat.pow 10 2 := by
  have := t.isTime
  show t.second + t.nano / 1000000000 < 100
  omega

def EndsFraction (rest : List Char) : Prop := ∀ c ∈ rest.head?, ¬isDigit c ∧ c ≠ '.'

theorem EndsFraction.dropWhile {rest : List Char} (h : EndsFraction rest) :
    rest.dropWhile isDigit = rest := by
  cases rest with
  | nil => rfl
  | cons c rest => simp [(h c rfl).1]

theorem EndsFraction.readFraction {rest : List Char} (h : EndsFraction rest) :
    readFraction rest = some (0, rest) := by
  unfold Time.readFraction
  split
  · exact absurd rfl (h '.' rfl).2
  · rfl

inductive SpellsFraction : List Char → Nat → Prop
  | absent : SpellsFraction [] 0
  | digits {ds : List Char} : (∀ c ∈ ds, isDigit c) → ds ≠ [] → ds.length ≤ 9 →
    SpellsFraction ('.' :: ds) (value ds * Nat.pow 10 (9 - ds.length))

theorem SpellsFraction.readFraction {front rest : List Char} {nano : Nat}
    (h : SpellsFraction front nano) (hr : EndsFraction rest) :
    readFraction (front ++ rest) = some (nano, rest) := by
  cases h with
  | absent => exact hr.readFraction
  | @digits ds hd hne hlength =>
    have hrun : run 9 (ds ++ rest) = (ds, rest) :=
      run_append hd hlength (.inr fun c hc => (hr c hc).1)
    simp [Time.readFraction, hrun, hne, hr.dropWhile]

theorem spellsFraction_fixed {width n nano : Nat} (hw : 0 < width) (hw' : width ≤ 9)
    (hn : n < Nat.pow 10 width) (heq : n * Nat.pow 10 (9 - width) = nano) :
    SpellsFraction ('.' :: fixed width n) nano := by
  have hne : fixed width n ≠ [] := List.ne_nil_of_length_pos (by simpa using hw)
  have h := SpellsFraction.digits (fun c => isDigit_of_mem_fixed) hne (by simpa using hw')
  rwa [value_fixed hn, length_fixed, heq] at h

theorem spellsFraction_fraction {nano : Nat} (hn : nano < 1000000000) :
    SpellsFraction (fraction nano) nano := by
  unfold fraction
  split
  · next h0 => exact h0 ▸ .absent
  split
  · have hlt : nano / 1000000 < 1000 := by omega
    have heq : nano / 1000000 * 1000000 = nano := by omega
    exact spellsFraction_fixed (by decide) (by decide) hlt heq
  split
  · have hlt : nano / 1000 < 1000000 := by omega
    have heq : nano / 1000 * 1000 = nano := by omega
    exact spellsFraction_fixed (by decide) (by decide) hlt heq
  · exact spellsFraction_fixed (by decide) (by decide) hn (Nat.mul_one nano)

theorem readFraction_fraction {nano : Nat} {rest : List Char} (hn : nano < 1000000000)
    (hr : EndsFraction rest) : readFraction (fraction nano ++ rest) = some (nano, rest) :=
  (spellsFraction_fraction hn).readFraction hr

end Time

end RecordSql
