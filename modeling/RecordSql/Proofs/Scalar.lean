import RecordSql.Proofs.Calendar.Spelling
import RecordSql.Proofs.Uuid
import RecordSql.Scalar

/-! Dates, date-times and identifiers in TEXT. What a value is stored as is a spelling of what is
shown of it, and every spelling loads, so a value comes back from where it was stored if all of it
is shown. A text that was loaded is settled once it is stored again. -/

namespace RecordSql.Scalar

structure Settles (s : Scalar) (Spells : List Char → s.Carrier → Prop)
    (shown : s.Carrier → s.Carrier) : Prop where
  /-- What comes back from the text that a value is stored as is what is shown of it. -/
  stored : ∀ x, ∃ text, s.encode x = .text text ∧ Spells text.toList (shown x) ∧
    s.decode (.text text) = some (shown x)
  spelled : ∀ text x, Spells text.toList x → s.decode (.text text) = some x
  /-- A text that loads is stored as one that loads to the same value and is stored unchanged. -/
  settled : ∀ text x, s.decode (.text text) = some x → ∃ text', s.encode x = .text text' ∧
    s.decode (.text text') = some x ∧ ∀ x', s.decode (.text text') = some x' →
      s.encode x' = .text text'

variable {s : Scalar} {Spells : List Char → s.Carrier → Prop} {shown : s.Carrier → s.Carrier}

theorem Settles.of_spells {write : s.Carrier → List Char}
    (he : ∀ x, s.encode x = .text (String.ofList (write x)))
    (hw : ∀ x, Spells (write x) (shown x))
    (hr : ∀ text x, Spells text.toList x → s.decode (.text text) = some x)
    (hs : ∀ text x, s.decode (.text text) = some x → shown x = x) : Settles s Spells shown := by
  have hstored (x : s.Carrier) : Spells (String.ofList (write x)).toList (shown x) := by
    rw [String.toList_ofList]
    exact hw x
  refine ⟨fun x => ⟨_, he x, hstored x, hr _ _ (hstored x)⟩, hr, fun text x hx => ?_⟩
  have hback := hr _ _ (hstored x)
  rw [hs text x hx] at hback
  refine ⟨_, he x, hback, fun x' hx' => ?_⟩
  rw [← Option.some.inj (hback.symm.trans hx'), he]

theorem Settles.decode_encode_iff (h : Settles s Spells shown) (x : s.Carrier) :
    s.decode (s.encode x) = some x ↔ shown x = x := by
  obtain ⟨text, he, -, hd⟩ := h.stored x
  rw [he, hd, Option.some_inj]

theorem settles_date : Settles .date Date.Spells id :=
  .of_spells (fun _ => rfl) Date.spells_text (fun _ _ h => h.ofText?) fun _ _ _ => rfl

theorem settles_uuid : Settles .uuid Uuid.Spells id :=
  .of_spells (fun _ => rfl) Uuid.spells_text (fun _ _ h => h.ofText?) fun _ _ _ => rfl

theorem settles_dateTime : Settles .dateTime DateTime.Spells DateTime.shown :=
  .of_spells (fun _ => rfl) DateTime.spells_text (fun _ _ h => h.ofText?) fun _ _ h =>
    DateTime.shown_of_ofText? h

/-- Dates and identifiers come back from where they were stored, and so do date-times but for a leap
second after another second than 59, which comes back as the second that its text shows. -/
theorem settles_texts :
    Settles .date Date.Spells id ∧ Settles .uuid Uuid.Spells id ∧
      Settles .dateTime DateTime.Spells DateTime.shown ∧
      ∀ t : DateTime, Scalar.decode .dateTime (Scalar.encode .dateTime t) = some t ↔
        ¬t.time.Concealed :=
  ⟨settles_date, settles_uuid, settles_dateTime, fun t =>
    (settles_dateTime.decode_encode_iff t).trans DateTime.shown_eq_self_iff⟩

def leapSecond : DateTime := ⟨⟨2015, 6, 30, by decide⟩, ⟨23, 56, 4, 1333333333, by decide⟩⟩

/-- Not every date-time comes back from the text that it is stored as. -/
theorem not_returns_leapSecond :
    Scalar.encode .dateTime leapSecond = .text "2015-06-30 23:56:05.333333333" ∧
      ¬∀ t : DateTime, Scalar.decode .dateTime (Scalar.encode .dateTime t) = some t := by
  refine ⟨by decide +kernel, fun h => ?_⟩
  have heq : DateTime.shown leapSecond = leapSecond :=
    (settles_dateTime.decode_encode_iff leapSecond).1 (h leapSecond)
  exact DateTime.shown_eq_self_iff.1 heq (by decide)

end RecordSql.Scalar
