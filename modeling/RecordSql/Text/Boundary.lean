/-! Texts that are cut at an offset in bytes. The offset is looked for from a limit backwards, one
byte after the other, until it is not inside a character. -/

namespace RecordSql.Boundary

/-- The last offset up to a limit where a character begins or the text ends. -/
def stepBack (s : String) : Nat → Nat
  | 0 => 0
  | n + 1 => if String.Pos.Raw.isValid s ⟨n + 1⟩ then n + 1 else stepBack s n

theorem isValid_stepBack (s : String) (limit : Nat) :
    String.Pos.Raw.IsValid s ⟨stepBack s limit⟩ := by
  induction limit with
  | zero => exact String.Pos.Raw.isValid_zero
  | succ n ih =>
    rw [stepBack]
    split
    next h => exact String.Pos.Raw.isValid_eq_true_iff.1 h
    next => exact ih

/-- The text up to a limit. It is sliced at a position of its own, never inside a character. -/
def cut (s : String) (limit : Nat) : String :=
  if s.utf8ByteSize ≤ limit then s
  else (s.sliceTo ⟨⟨stepBack s limit⟩, isValid_stepBack s limit⟩).copy

end RecordSql.Boundary
