import RecordSql.Text.Identifier.Ranges

/-! The characters of identifiers. -/

namespace RecordSql.Identifier

def isStart (c : Char) : Bool :=
  c = '_' || CharRanges.contains (if c.toNat < 65536 then starts else upperStarts) c

def isPart (c : Char) : Bool :=
  isStart c || CharRanges.contains (if c.toNat < 65536 then parts else upperParts) c

end RecordSql.Identifier
