import RecordSql.Text.Printable.Ranges

/-! Characters that a text can show as they are. -/

namespace RecordSql.Printable

def isPrintable (c : Char) : Bool :=
  if c.toNat < 127 then 32 ≤ c.toNat
  else if c.toNat < 65536 then
    !(CharRanges.contains hidden c || CharRanges.contains extenders c)
  else !(CharRanges.contains upperHidden c || CharRanges.contains upperExtenders c)

end RecordSql.Printable
