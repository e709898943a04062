import RecordSql.Json.Basic
import RecordSql.Numeric.Shortest
import RecordSql.Text.Hex

/-! The compact text of a JSON document: no blanks, keys in order, and only quotes, backslashes and
control characters escaped. -/

namespace RecordSql.Json

def escape (c : Char) : List Char :=
  match c with
  | '"' => ['\\', '"']
  | '\\' => ['\\', '\\']
  | '\n' => ['\\', 'n']
  | '\r' => ['\\', 'r']
  | '\t' => ['\\', 't']
  | '\x08' => ['\\', 'b']
  | '\x0c' => ['\\', 'f']
  | c => if c.toNat < 32 then '\\' :: 'u' :: Hex.fixed 4 c.toNat else [c]

def writeText (s : String) : List Char := '"' :: s.toList.flatMap escape ++ ['"']

def writeInteger (i : Int) : List Char :=
  if i < 0 then '-' :: Decimal.digits i.natAbs else Decimal.digits i.natAbs

mutual

def write : Json → List Char
  | .null => ['n', 'u', 'l', 'l']
  | .bool true => ['t', 'r', 'u', 'e']
  | .bool false => ['f', 'a', 'l', 's', 'e']
  | .integer i => writeInteger i
  | .real x => Shortest.text x
  | .text s => writeText s
  | .array items => '[' :: writeItems items ++ [']']
  | .object fields => '\x7b' :: writeFields fields ++ ['\x7d']

def writeItems : List Json → List Char
  | [] => []
  | [j] => write j
  | j :: k :: rest => write j ++ ',' :: writeItems (k :: rest)

def writeFields : List (String × Json) → List Char
  | [] => []
  | [(key, j)] => writeText key ++ ':' :: write j
  | (key, j) :: f :: rest => writeText key ++ ':' :: write j ++ ',' :: writeFields (f :: rest)

end

def compact (j : Json) : String := String.ofList (write j)

end RecordSql.Json
