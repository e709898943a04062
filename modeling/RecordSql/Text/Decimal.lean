/-! Decimal numerals over lists of characters: writing with a fixed or least width, and reading a
bounded run of digits from the front of a text. -/

namespace RecordSql.Decimal

def digit (d : Nat) : Char := Char.ofNat (48 + d)

def isDigit (c : Char) : Bool := 48 ≤ c.toNat && c.toNat ≤ 57

def digitValue (c : Char) : Nat := c.toNat - 48

def fixed : Nat → Nat → List Char
  | 0, _ => []
  | width + 1, n => fixed width (n / 10) ++ [digit (n % 10)]

def digits (n : Nat) : List Char := Nat.toDigits 10 n

def padded (width n : Nat) : List Char :=
  if n < Nat.pow 10 width then fixed width n else digits n

def value (cs : List Char) : Nat := cs.foldl (fun n c => 10 * n + digitValue c) 0

/-- Split off the longest run of digits, of at most `most` characters. -/
def run : Nat → List Char → List Char × List Char
  | 0, cs => ([], cs)
  | _ + 1, [] => ([], [])
  | most + 1, c :: cs =>
    if isDigit c then ((c :: (run most cs).1), (run most cs).2) else ([], c :: cs)

def take? (least most : Nat) (cs : List Char) : Option (Nat × List Char) :=
  let (front, rest) := run most cs
  if front.length < least then none else some (value front, rest)

def takeAll? (cs : List Char) : Option (Nat × List Char) := take? 1 cs.length cs

end RecordSql.Decimal
