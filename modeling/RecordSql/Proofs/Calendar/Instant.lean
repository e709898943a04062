import RecordSql.Scalar
import RecordSql.Proofs.Calendar.Time

/-! Instants stored and loaded again. A text is read in any offset and kept in UTC, so the year that
is written can be one before or after the years that are read. -/

namespace RecordSql.Instant

open Decimal

def FourDigit (year : Int) : Prop := 0 ≤ year ∧ year ≤ 9999

instance (year : Int) : Decidable (FourDigit year) := by unfold FourDigit; infer_instance

theorem readPair_fixed {n : Nat} (h : n < Nat.pow 10 2) (rest : List Char) :
    readPair (fixed 2 n ++ rest) = some (n, rest) := take?_fixed (by decide) h rest

theorem readSeparator_T (rest : List Char) : readSeparator ('T' :: rest) = some rest := rfl

theorem bind_of {α β : Type} {x : Option α} {a : α} {f : α → Option β} {b : β} (hx : x = some a)
    (hf : f a = some b) : x >>= f = some b := Option.bind_eq_some_iff.2 ⟨a, hx, hf⟩

theorem readLocal_text {here : DateTime} {rest : List Char} (hy : FourDigit here.date.year)
    (ht : ¬here.time.Concealed) (hr : Time.EndsFraction rest) :
    readLocal (here.date.text ++ 'T' :: here.time.text ++ rest) = some (here, rest) := by
  obtain ⟨d, t⟩ := here
  have hy : 0 ≤ d.year ∧ d.year ≤ 9999 := hy
  have hyear : (d.year.toNat : Int) = d.year := Int.toNat_of_nonneg hy.1
  have hlt : d.year.toNat < Nat.pow 10 4 := by
    show d.year.toNat < 10000
    omega
  have hdate : Date.ofYmd? d.year.toNat d.month d.day = some d := by
    rw [hyear]
    exact d.ofYmd?_self
  have htext : d.text ++ 'T' :: t.text ++ rest = fixed 4 d.year.toNat ++ '-' :: (fixed 2 d.month ++
      '-' :: (fixed 2 d.day ++ 'T' :: (fixed 2 t.hour ++ ':' :: (fixed 2 t.minute ++
        ':' :: (fixed 2 t.shownSecond ++ (Time.fraction t.shownNano ++ rest)))))) := by
    simp [Date.text, Time.text, Date.yearText, hy]
  rw [htext]
  exact bind_of (take?_fixed (Nat.le_refl 4) hlt _) <|
    bind_of (Date.expect_self '-' _) <| bind_of (readPair_fixed d.month_lt _) <|
    bind_of (Date.expect_self '-' _) <| bind_of (readPair_fixed d.day_lt _) <|
    bind_of (readSeparator_T _) <| bind_of (readPair_fixed t.hour_lt _) <|
    bind_of (Date.expect_self ':' _) <| bind_of (readPair_fixed t.minute_lt _) <|
    bind_of (Date.expect_self ':' _) <| bind_of (readPair_fixed t.shownSecond_lt _) <|
    bind_of (Time.readFraction_fraction t.shownNano_lt hr) <|
    bind_of hdate <| bind_of (Time.ofShown?_self ht) rfl

/-- A date and a time are read as such: the date by its year in four digits, the time as a clock
shows it. -/
theorem readLocal_eq_some {here : DateTime} {cs rest : List Char}
    (h : readLocal cs = some (here, rest)) :
    (∃ (year month day : Nat), year < 10000 ∧ Date.ofYmd? year month day = some here.date) ∧
      ∃ hour minute second nano, Time.ofShown? hour minute second nano = some here.time := by
  dsimp only [readLocal, Option.bind_eq_bind] at h
  -- each bind is taken apart before what it continues with is looked at
  simp only [↓Option.bind_eq_some_iff, ↓Prod.exists] at h
  obtain ⟨year, _, hy, _, _, month, _, -, _, -, day, _, -, _, -, hour, _, -, _, -, minute, _, -,
    _, -, second, _, -, nano, _, -, date, hd, time, ht, h⟩ := h
  cases h
  exact ⟨⟨year, month, day, take?_lt hy, hd⟩, hour, minute, second, nano, ht⟩

theorem readLocal_year {here : DateTime} {cs rest : List Char}
    (h : readLocal cs = some (here, rest)) : FourDigit here.date.year := by
  obtain ⟨⟨year, _, _, hlt, hd⟩, -⟩ := readLocal_eq_some h
  rw [(Date.ofYmd?_eq_some hd).1]
  exact ⟨by omega, by omega⟩

theorem not_concealed_of_readLocal {here : DateTime} {cs rest : List Char}
    (h : readLocal cs = some (here, rest)) : ¬here.time.Concealed := by
  obtain ⟨-, _, _, _, _, ht⟩ := readLocal_eq_some h
  exact Time.not_concealed_of_ofShown? ht

theorem readOffset_utc : readOffset ['+', '0', '0', ':', '0', '0'] = some (0, []) := by decide

theorem ofLocal?_utc (here : DateTime) : ofLocal? here 0 = some ⟨here⟩ := by
  obtain ⟨d, t⟩ := here
  have := t.isTime
  have hneg : ¬60 * (t.hour : Int) + t.minute - 0 < 0 := by omega
  have hday : 60 * (t.hour : Int) + t.minute - 0 < 1440 := by omega
  have hmod : ((60 * (t.hour : Int) + t.minute - 0) % 1440).toNat = 60 * t.hour + t.minute := by
    omega
  have hhour : (60 * t.hour + t.minute) / 60 = t.hour := by omega
  have hminute : (60 * t.hour + t.minute) % 60 = t.minute := by omega
  simp only [ofLocal?, if_neg hneg, if_pos hday, hmod, hhour, hminute, t.ofHms?_self,
    Option.bind_eq_bind, Option.bind_some, pure]

theorem ofText?_text {i : Instant} (hy : FourDigit i.utc.date.year)
    (ht : ¬i.utc.time.Concealed) : ofText? i.text = some i := by
  have hr : Time.EndsFraction ['+', '0', '0', ':', '0', '0'] := by
    rintro c ⟨⟩
    decide
  have hlocal := readLocal_text hy ht hr
  simp only [ofText?, text, hlocal, readOffset_utc, Option.bind_eq_bind, Option.bind_some,
    ofLocal?_utc, List.isEmpty_nil, if_true]

theorem ofText?_text_of_not {i : Instant} (hy : ¬FourDigit i.utc.date.year) :
    ofText? i.text = none := by
  have hsign : ∀ rest, take? 4 4 ((if i.utc.date.year < 0 then '-' else '+') :: rest) = none := by
    intro rest
    split <;> rfl
  have hy : ¬(0 ≤ i.utc.date.year ∧ i.utc.date.year ≤ 9999) := hy
  simp only [ofText?, text, Date.text, Date.yearText, if_neg hy, List.cons_append, readLocal, hsign,
    Option.bind_eq_bind, Option.bind_none]

theorem parts_of_bind {x : Option Date} {y : Option Time} {i : Instant}
    (h : (x.bind fun date => y.bind fun time => some ⟨⟨date, time⟩⟩) = some i) :
    x = some i.utc.date ∧ y = some i.utc.time := by
  obtain ⟨date, hd, h⟩ := Option.bind_eq_some_iff.1 h
  obtain ⟨time, ht, h⟩ := Option.bind_eq_some_iff.1 h
  cases h
  exact ⟨hd, ht⟩

/-- An offset moves the date by a day at most, so the year changes only between the last day of one
and the first of the next. -/
theorem ofLocal?_year {here : DateTime} {offset : Int} {i : Instant}
    (h : ofLocal? here offset = some i) :
    i.utc.date.year = here.date.year ∨
      (Date.ofYmd? here.date.year 12 31 = some here.date ∧
        Date.ofYmd? (here.date.year + 1) 1 1 = some i.utc.date) ∨
      (Date.ofYmd? here.date.year 1 1 = some here.date ∧
        Date.ofYmd? (here.date.year - 1) 12 31 = some i.utc.date) := by
  simp only [ofLocal?, Option.bind_eq_bind] at h
  split at h
  · exact (Date.previous?_year (parts_of_bind h).1).imp id .inr
  · split at h
    · exact .inl (by rw [Option.some.inj (parts_of_bind h).1])
    · exact (Date.next?_year (parts_of_bind h).1).imp id .inl

theorem ofText?_eq_some {cs : List Char} {i : Instant} (h : ofText? cs = some i) :
    ∃ here rest offset, readLocal cs = some (here, rest) ∧ readOffset rest = some (offset, []) ∧
      ofLocal? here offset = some i := by
  simp only [ofText?, Option.bind_eq_bind, Option.bind_eq_some_iff] at h
  obtain ⟨⟨here, rest⟩, hl, ⟨offset, rest'⟩, ho, h⟩ := h
  split at h
  next hnil =>
    obtain rfl : rest' = [] := List.isEmpty_iff.1 hnil
    exact ⟨here, rest, offset, hl, ho, h⟩
  · cases h

theorem ofLocal?_time {here : DateTime} {offset : Int} {i : Instant}
    (h : ofLocal? here offset = some i) :
    ∃ hour minute, Time.ofHms? hour minute here.time.second here.time.nano = some i.utc.time := by
  simp only [ofLocal?, Option.bind_eq_bind] at h
  split at h
  · exact ⟨_, _, (parts_of_bind h).2⟩
  · split at h
    all_goals exact ⟨_, _, (parts_of_bind h).2⟩

theorem not_concealed_of_ofLocal? {here : DateTime} {offset : Int} {i : Instant}
    (h : ofLocal? here offset = some i) (ht : ¬here.time.Concealed) : ¬i.utc.time.Concealed := by
  obtain ⟨_, _, htime⟩ := ofLocal?_time h
  obtain ⟨hsecond, hnano⟩ := Time.ofHms?_eq_some htime
  rwa [Time.Concealed, hsecond, hnano]

/-- An instant that was loaded loads again from what it is stored as, if its year in UTC has four
digits. Otherwise its text shows the last day of 9999 or the first of 0, its offset leads out of
that year, and what it is stored as does not load. -/
theorem reloads {s : String} {i : Instant} (h : Scalar.decode .instant (.text s) = some i) :
    (FourDigit i.utc.date.year →
      Scalar.decode .instant (Scalar.encode .instant i) = some i) ∧
    (¬FourDigit i.utc.date.year →
      Scalar.decode .instant (Scalar.encode .instant i) = none ∧
      ∃ here rest, readLocal s.toList = some (here, rest) ∧
        ((Date.ofYmd? 9999 12 31 = some here.date ∧ Date.ofYmd? 10000 1 1 = some i.utc.date) ∨
          (Date.ofYmd? 0 1 1 = some here.date ∧ Date.ofYmd? (-1) 12 31 = some i.utc.date))) := by
  have h : ofText? s.toList = some i := h
  have hstored : Scalar.decode .instant (Scalar.encode .instant i) = ofText? i.text :=
    congrArg ofText? String.toList_ofList
  rw [hstored]
  obtain ⟨here, rest, offset, hl, -, hi⟩ := ofText?_eq_some h
  have ht := not_concealed_of_ofLocal? hi (not_concealed_of_readLocal hl)
  refine ⟨fun hy => ofText?_text hy ht, fun hy => ⟨ofText?_text_of_not hy, ?_⟩⟩
  have hhere := readLocal_year hl
  refine ⟨here, rest, hl, ?_⟩
  obtain heq | ⟨hlast, hfirst⟩ | ⟨hfirst, hlast⟩ := ofLocal?_year hi
  · exact absurd (heq ▸ hhere) hy
  · have hyear := (Date.ofYmd?_eq_some hfirst).1
    have hend : here.date.year = 9999 := by
      unfold FourDigit at hy hhere
      omega
    rw [hend] at hlast hfirst
    exact .inl ⟨hlast, hfirst⟩
  · have hyear := (Date.ofYmd?_eq_some hlast).1
    have hend : here.date.year = 0 := by
      unfold FourDigit at hy hhere
      omega
    rw [hend] at hlast hfirst
    exact .inr ⟨hfirst, hlast⟩

def afterFourDigits : Instant := ⟨⟨⟨10000, 1, 1, by decide⟩, ⟨0, 59, 59, 0, by decide⟩⟩⟩

theorem decode_lastHour :
    Scalar.decode .instant (.text "9999-12-31T23:59:59-01:00") = some afterFourDigits := by
  show ofText? "9999-12-31T23:59:59-01:00".toList = some afterFourDigits
  decide +kernel

theorem reloads_lastHour :
    ¬FourDigit afterFourDigits.utc.date.year ∧
      Scalar.decode .instant (Scalar.encode .instant afterFourDigits) = none :=
  have hy : ¬FourDigit afterFourDigits.utc.date.year := by decide
  ⟨hy, ((reloads decode_lastHour).2 hy).1⟩

/-- Loading a text and storing what was loaded need not give a text that loads. -/
theorem not_reloads_lastHour :
    ¬∀ (s : String) (i : Instant), Scalar.decode .instant (.text s) = some i →
      Scalar.decode .instant (Scalar.encode .instant i) = some i := by
  intro h
  have hnone : ofText? afterFourDigits.text = none := by decide +kernel
  have hsome : ofText? (String.ofList afterFourDigits.text).toList = some afterFourDigits :=
    h _ _ decode_lastHour
  rw [String.toList_ofList, hnone] at hsome
  cases hsome

end RecordSql.Instant
