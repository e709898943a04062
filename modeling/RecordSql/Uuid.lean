import RecordSql.Text.Hex

/-! Universally unique identifiers: 32 hexadecimal digits, written in groups of 8, 4, 4, 4 and
12. -/

namespace RecordSql

structure Uuid where
  digits : List (Fin 16)
  length_eq : digits.length = 32
deriving DecidableEq

namespace Uuid

def nil : Uuid := ⟨List.replicate 32 0, by simp⟩

def digitText (ds : List (Fin 16)) : List Char := ds.map fun d => Hex.digit d.val

def text (u : Uuid) : List Char :=
  let ds := digitText u.digits
  ds.take 8 ++ '-' :: (ds.drop 8).take 4 ++ '-' :: (ds.drop 12).take 4 ++
    '-' :: (ds.drop 16).take 4 ++ '-' :: ds.drop 20

def digit? (c : Char) : Option (Fin 16) := do
  let d ← Hex.digitValue? c
  if h : d < 16 then some ⟨d, h⟩ else none

def ofDigits? (cs : List Char) : Option Uuid := do
  let ds ← cs.mapM digit?
  if h : ds.length = 32 then some ⟨ds, h⟩ else none

def unhyphenated? (cs : List Char) : Option (List Char) :=
  if cs.length = 36 ∧ [cs[8]?, cs[13]?, cs[18]?, cs[23]?].all (· = some '-') then
    some (cs.take 8 ++ (cs.drop 9).take 4 ++ (cs.drop 14).take 4 ++ (cs.drop 19).take 4 ++
      cs.drop 24)
  else none

/-- Take off the braces of a text of 38 characters or the name space, in either case, of one of
45. -/
def unwrapped (cs : List Char) : List Char :=
  if cs.length = 38 ∧ cs.head? = some '\x7b' ∧ cs.getLast? = some '\x7d' then cs.tail.dropLast
  else if cs.length = 45 ∧ (cs.take 9).map Char.toLower = "urn:uuid:".toList then cs.drop 9
  else cs

/-- Read 32 digits in a row, the hyphenated form, or that form in braces or after `urn:uuid:`. -/
def ofText? (cs : List Char) : Option Uuid :=
  if cs.length = 32 then ofDigits? cs else (unhyphenated? (unwrapped cs)).bind ofDigits?

end Uuid

end RecordSql
