import Mathlib.Data.List.TakeDrop
import Mathlib.Data.List.TakeWhile
import RecordSql.Json.Token
import RecordSql.Json.Writer
import RecordSql.Proofs.Json.Document
import RecordSql.Proofs.Text.Decimal

/-! Integers as they are spelled. Such a numeral denotes the integer that it shows, exactly, and
what an integer is written as is one. -/

namespace RecordSql.Json

open Decimal

inductive IntegerLiteral : List Char → Prop
  | positive {ds : List Char} : (∀ c ∈ ds, isDigit c) → value ds < 0x10000000000000000 →
    IntegerLiteral ds
  | negative {ds : List Char} : (∀ c ∈ ds, isDigit c) → 0 < value ds →
    value ds ≤ 0x8000000000000000 → IntegerLiteral ('-' :: ds)

namespace Numeral

variable {ds : List Char}

theorem splitDigits_of_isDigit (hd : ∀ c ∈ ds, isDigit c) : splitDigits ds = (ds, []) := by
  have htake : ds.takeWhile isDigit = ds := List.takeWhile_eq_self_iff.2 hd
  have hdrop : ds.dropWhile isDigit = [] := List.dropWhile_eq_nil_iff.2 hd
  rw [splitDigits, List.span_eq_takeWhile_dropWhile, htake, hdrop]

theorem readWhole_eq_some (hd : ∀ c ∈ ds, isDigit c) {r : List Char × List Char}
    (h : readWhole ds = some r) : r = (ds, []) := by
  unfold readWhole at h
  rw [splitDigits_of_isDigit hd] at h
  split at h <;> simp_all

theorem readWhole_digits (n : Nat) : readWhole (digits n) = some (digits n, []) := by
  rcases Nat.eq_zero_or_pos n with rfl | hn
  · rfl
  unfold readWhole
  rw [splitDigits_of_isDigit isDigit_of_mem_digits]
  have hhead := head?_digits_ne hn
  split
  · next h => exact absurd (congrArg Prod.fst h) (digits_ne_nil n)
  · next h => exact absurd (congrArg (·.1.head?) h) hhead
  · next h => exact absurd (congrArg (·.1.head?) h) hhead
  · next h => exact congrArg some h.symm

theorem ofText?_of_isDigit (hd : ∀ c ∈ ds, isDigit c) :
    ofText? ds = (readWhole ds).map fun _ => ⟨false, ds, none, none⟩ := by
  unfold ofText?
  split
  next negative cs hsplit =>
    split at hsplit
    · exact absurd (hd '-' List.mem_cons_self) (by decide)
    · obtain ⟨rfl, rfl⟩ := Prod.mk.inj hsplit
      cases h : readWhole ds with
      | none => simp
      | some r =>
        obtain rfl := readWhole_eq_some hd h
        simp [readFraction, readExponent]

theorem ofText?_negative (hd : ∀ c ∈ ds, isDigit c) :
    ofText? ('-' :: ds) = (readWhole ds).map fun _ => ⟨true, ds, none, none⟩ := by
  unfold ofText?
  cases h : readWhole ds with
  | none => simp [h]
  | some r =>
    obtain rfl := readWhole_eq_some hd h
    simp [h, readFraction, readExponent]

theorem number?_positive (h : value ds < 0x10000000000000000) :
    number? ⟨false, ds, none, none⟩ = some (.integer (value ds)) := by
  simp [number?, h]

theorem number?_negative (h : 0 < value ds) (h' : value ds ≤ 0x8000000000000000) :
    number? ⟨true, ds, none, none⟩ = some (.integer (-(value ds : Int))) := by
  simp [number?, h, h']

end Numeral

def Token.Whole (t : Token) : Prop := ∀ j, t = .scalar j → ∀ n, Fits n j

theorem Token.whole_integer {i : Int} (h : IsWord i) : Whole (.scalar (.integer i)) := by
  rintro _ ⟨⟩ n
  exact .integer n h

theorem IntegerLiteral.whole {cs : List Char} (h : IntegerLiteral cs) {t : Token}
    (ht : Token.ofNumeral? cs = some t) : t.Whole := by
  unfold Token.ofNumeral? at ht
  cases h with
  | positive hd hlt =>
    rw [Numeral.ofText?_of_isDigit hd] at ht
    cases hw : Numeral.readWhole cs with
    | none => rw [hw] at ht; cases ht
    | some r =>
      rw [hw, Option.map_some, Option.bind_some, Numeral.number?_positive hlt] at ht
      cases ht
      exact Token.whole_integer ⟨by omega, by omega⟩
  | @negative ds hd hpos hle =>
    rw [Numeral.ofText?_negative hd] at ht
    cases hw : Numeral.readWhole ds with
    | none => rw [hw] at ht; cases ht
    | some r =>
      rw [hw, Option.map_some, Option.bind_some, Numeral.number?_negative hpos hle] at ht
      cases ht
      exact Token.whole_integer ⟨by omega, by omega⟩

theorem ofNumeral?_writeInteger {i : Int} (h : IsWord i) :
    Token.ofNumeral? (writeInteger i) = some (.scalar (.integer i)) := by
  obtain ⟨hleast, hmost⟩ := h
  have hd : ∀ c ∈ digits i.natAbs, isDigit c := isDigit_of_mem_digits
  have hvalue : value (digits i.natAbs) = i.natAbs := value_digits _
  unfold writeInteger Token.ofNumeral?
  split
  · next hneg =>
    have hpos : 0 < value (digits i.natAbs) := by omega
    have hle : value (digits i.natAbs) ≤ 0x8000000000000000 := by omega
    have hi : -(value (digits i.natAbs) : Int) = i := by omega
    rw [Numeral.ofText?_negative hd, Numeral.readWhole_digits, Option.map_some, Option.bind_some,
      Numeral.number?_negative hpos hle, hi, Option.map_some]
  · next hneg =>
    have hlt : value (digits i.natAbs) < 0x10000000000000000 := by omega
    have hi : (value (digits i.natAbs) : Int) = i := by omega
    rw [Numeral.ofText?_of_isDigit hd, Numeral.readWhole_digits, Option.map_some, Option.bind_some,
      Numeral.number?_positive hlt, hi, Option.map_some]

end RecordSql.Json
