import RecordSql.Calendar.Time

/-! Instants, kept in UTC and exchanged in the text of RFC 3339: any offset is read, and the offset
`+00:00` is written. -/

namespace RecordSql

structure Instant where
  utc : DateTime
deriving DecidableEq

namespace Instant

def epoch : Instant := ⟨DateTime.epoch⟩

def text (i : Instant) : List Char :=
  i.utc.date.text ++ 'T' :: i.utc.time.text ++ ['+', '0', '0', ':', '0', '0']

def readPair (cs : List Char) : Option (Nat × List Char) := Decimal.take? 2 2 cs

def readOffsetMinutes (cs : List Char) : Option (Nat × List Char) := do
  let (hours, cs) ← readPair cs
  let (minutes, cs) ← readPair (← Date.expect ':' cs)
  if hours < 24 && minutes < 60 then some (60 * hours + minutes, cs) else none

/-- Minutes east of UTC. The minus sign may be U+002D or U+2212. -/
def readOffset : List Char → Option (Int × List Char)
  | 'Z' :: cs => some (0, cs)
  | 'z' :: cs => some (0, cs)
  | '+' :: cs => (readOffsetMinutes cs).map fun (m, rest) => ((m : Int), rest)
  | '-' :: cs => (readOffsetMinutes cs).map fun (m, rest) => (-(m : Int), rest)
  | '\u2212' :: cs => (readOffsetMinutes cs).map fun (m, rest) => (-(m : Int), rest)
  | _ => none

def readSeparator : List Char → Option (List Char)
  | 'T' :: cs => some cs
  | 't' :: cs => some cs
  | ' ' :: cs => some cs
  | _ => none

def readLocal (cs : List Char) : Option (DateTime × List Char) := do
  let (year, cs) ← Decimal.take? 4 4 cs
  let (month, cs) ← readPair (← Date.expect '-' cs)
  let (day, cs) ← readPair (← Date.expect '-' cs)
  let (hour, cs) ← readPair (← readSeparator cs)
  let (minute, cs) ← readPair (← Date.expect ':' cs)
  let (second, cs) ← readPair (← Date.expect ':' cs)
  let (nano, cs) ← Time.readFraction cs
  let date ← Date.ofYmd? year month day
  let time ← Time.ofShown? hour minute second nano
  return (⟨date, time⟩, cs)

/-- The instant at which a clock `offset` minutes east of UTC shows the given date and time. -/
def ofLocal? (here : DateTime) (offset : Int) : Option Instant := do
  let minutes : Int := 60 * here.time.hour + here.time.minute - offset
  let date ←
    if minutes < 0 then here.date.previous?
    else if minutes < 1440 then some here.date
    else here.date.next?
  let inDay := (minutes % 1440).toNat
  let time ← Time.ofHms? (inDay / 60) (inDay % 60) here.time.second here.time.nano
  return ⟨⟨date, time⟩⟩

def ofText? (cs : List Char) : Option Instant := do
  let (here, cs) ← readLocal cs
  let (offset, rest) ← readOffset cs
  if rest.isEmpty then ofLocal? here offset else none

end Instant

end RecordSql
