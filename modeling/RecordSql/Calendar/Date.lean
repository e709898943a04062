import RecordSql.Text.Blank
import RecordSql.Text.Decimal

/-! Dates of the proleptic Gregorian calendar and their text `YYYY-MM-DD`. -/

namespace RecordSql

namespace Calendar

def isLeap (year : Int) : Bool := year % 4 = 0 && (year % 100 ≠ 0 || year % 400 = 0)

def daysIn (year : Int) (month : Nat) : Nat :=
  match month with
  | 2 => if isLeap year then 29 else 28
  | 4 | 6 | 9 | 11 => 30
  | _ => 31

def firstYear : Int := -262143

def lastYear : Int := 262142

def IsDate (year : Int) (month day : Nat) : Prop :=
  firstYear ≤ year ∧ year ≤ lastYear ∧ 1 ≤ month ∧ month ≤ 12 ∧ 1 ≤ day ∧ day ≤ daysIn year month

instance (year : Int) (month day : Nat) : Decidable (IsDate year month day) := by
  unfold IsDate; infer_instance

end Calendar

structure Date where
  year : Int
  month : Nat
  day : Nat
  isDate : Calendar.IsDate year month day
deriving DecidableEq

namespace Date

open Calendar

def ofYmd? (year : Int) (month day : Nat) : Option Date :=
  if h : IsDate year month day then some ⟨year, month, day, h⟩ else none

def epoch : Date := ⟨1970, 1, 1, by decide⟩

def next? (d : Date) : Option Date :=
  if d.day < daysIn d.year d.month then ofYmd? d.year d.month (d.day + 1)
  else if d.month < 12 then ofYmd? d.year (d.month + 1) 1
  else ofYmd? (d.year + 1) 1 1

def previous? (d : Date) : Option Date :=
  if 1 < d.day then ofYmd? d.year d.month (d.day - 1)
  else if 1 < d.month then ofYmd? d.year (d.month - 1) (daysIn d.year (d.month - 1))
  else ofYmd? (d.year - 1) 12 31

/-- Four digits, and a sign where four digits do not suffice. -/
def yearText (year : Int) : List Char :=
  if 0 ≤ year ∧ year ≤ 9999 then Decimal.fixed 4 year.toNat
  else (if year < 0 then '-' else '+') :: Decimal.padded 4 year.natAbs

def text (d : Date) : List Char :=
  yearText d.year ++ '-' :: Decimal.fixed 2 d.month ++ '-' :: Decimal.fixed 2 d.day

/-- One to four digits, or a sign and any number of digits. -/
def readYear : List Char → Option (Int × List Char)
  | '-' :: cs => (Decimal.takeAll? cs).map fun (n, rest) => (-(n : Int), rest)
  | '+' :: cs => (Decimal.takeAll? cs).map fun (n, rest) => ((n : Int), rest)
  | cs => (Decimal.take? 1 4 cs).map fun (n, rest) => ((n : Int), rest)

def readField (cs : List Char) : Option (Nat × List Char) := Decimal.take? 1 2 (Blank.skip cs)

def expect (c : Char) : List Char → Option (List Char)
  | d :: rest => if d = c then some rest else none
  | [] => none

def read (cs : List Char) : Option (Date × List Char) := do
  let (year, cs) ← readYear (Blank.skip cs)
  let (month, cs) ← readField (← expect '-' cs)
  let (day, cs) ← readField (← expect '-' cs)
  return (← ofYmd? year month day, cs)

def ofText? (cs : List Char) : Option Date := do
  let (date, rest) ← read cs
  if rest.isEmpty then some date else none

end Date

end RecordSql
