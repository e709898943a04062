import RecordSql.Calendar.Date

/-! Times of day to the nanosecond and date-times without a zone, written `YYYY-MM-DD HH:MM:SS` and
a fraction. The nanoseconds of a leap second go on from 1000000000, after any second; its text shows
the next second, which is second 60 after second 59. -/

namespace RecordSql

structure Time where
  hour : Nat
  minute : Nat
  second : Nat
  nano : Nat
  isTime : hour < 24 ∧ minute < 60 ∧ second < 60 ∧ nano < 2000000000
deriving DecidableEq

namespace Time

def ofHms? (hour minute second nano : Nat) : Option Time :=
  if h : hour < 24 ∧ minute < 60 ∧ second < 60 ∧ nano < 2000000000 then
    some ⟨hour, minute, second, nano, h⟩
  else none

/-- The time that a text shows. Second 60 is the leap second after second 59. -/
def ofShown? (hour minute second nano : Nat) : Option Time :=
  if 1000000000 ≤ nano then none
  else if second = 60 then ofHms? hour minute 59 (1000000000 + nano)
  else ofHms? hour minute second nano

def midnight : Time := ⟨0, 0, 0, 0, by decide⟩

/-- No digits, or three, six or nine: the fewest that are exact. -/
def fraction (nano : Nat) : List Char :=
  if nano = 0 then []
  else if nano % 1000000 = 0 then '.' :: Decimal.fixed 3 (nano / 1000000)
  else if nano % 1000 = 0 then '.' :: Decimal.fixed 6 (nano / 1000)
  else '.' :: Decimal.fixed 9 nano

def shownSecond (t : Time) : Nat := t.second + t.nano / 1000000000

def shownNano (t : Time) : Nat := t.nano % 1000000000

def text (t : Time) : List Char :=
  Decimal.fixed 2 t.hour ++ ':' :: Decimal.fixed 2 t.minute ++
    ':' :: Decimal.fixed 2 t.shownSecond ++ fraction t.shownNano

/-- Nothing, or a point and at least one digit; digits after the ninth do not count. -/
def readFraction : List Char → Option (Nat × List Char)
  | '.' :: cs =>
    let (front, rest) := Decimal.run 9 cs
    if front.isEmpty then none
    else some (Decimal.value front * Nat.pow 10 (9 - front.length), rest.dropWhile Decimal.isDigit)
  | cs => some (0, cs)

def read (cs : List Char) : Option (Time × List Char) := do
  let (hour, cs) ← Date.readField cs
  let (minute, cs) ← Date.readField (← Date.expect ':' cs)
  let (second, cs) ← Date.readField (← Date.expect ':' cs)
  let (nano, cs) ← readFraction cs
  return (← ofShown? hour minute second nano, cs)

end Time

structure DateTime where
  date : Date
  time : Time
deriving DecidableEq

namespace DateTime

def epoch : DateTime := ⟨Date.epoch, Time.midnight⟩

def text (t : DateTime) : List Char := t.date.text ++ ' ' :: t.time.text

def ofText? (cs : List Char) : Option DateTime := do
  let (date, cs) ← Date.read cs
  let (time, rest) ← Time.read (Blank.skip cs)
  if rest.isEmpty then some ⟨date, time⟩ else none

end DateTime

end RecordSql
