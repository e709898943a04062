import RecordSql.Text.Hex

/-! Hexadecimal numerals read back, digit by digit. -/

namespace RecordSql.Hex

theorem digitValue?_digit {d : Nat} (h : d < 16) : digitValue? (digit d) = some d := by
  revert d
  decide

theorem value?_append (cs : List Char) (c : Char) :
    value? (cs ++ [c]) = (value? cs).bind fun n => (digitValue? c).map (16 * n + ·) := by
  simp [value?]

theorem value?_fixed {width n : Nat} (h : n < Nat.pow 16 width) :
    value? (fixed width n) = some n := by
  induction width generalizing n with
  | zero =>
    have h : n < 1 := h
    rw [Nat.lt_one_iff.1 h]
    rfl
  | succ width ih =>
    have h : n < Nat.pow 16 width * 16 := h
    have hfront : value? (fixed width (n / 16)) = some (n / 16) := ih (by omega)
    have hvalue : 16 * (n / 16) + n % 16 = n := by omega
    rw [fixed, value?_append, hfront, Option.bind_some,
      digitValue?_digit (Nat.mod_lt _ (by decide)), Option.map_some, hvalue]

end RecordSql.Hex
