import RecordSql.Numeric.Binary
import RecordSql.Text.Decimal

/-! The shortest decimal text of a double precision number: the fewest digits that read back as the
same number, of those the nearest to it, laid out positionally for exponents from -5 to 15. -/

namespace RecordSql.Shortest

structure Interval where
  low : Nat
  value : Nat
  high : Nat
  den : Nat
  closed : Bool

/-- The numbers that round to the finite positive number with significand `m` and exponent `e`.
Below a power of two the neighbour is half as far. -/
def interval (m : Nat) (e : Int) : Interval :=
  let near := m = Binary.double.hidden && Binary.double.least < e
  let (unit, den) := Binary.shiftQuotient 1 1 (e - 2)
  ⟨unit * (4 * m - if near then 1 else 2), unit * (4 * m), unit * (4 * m + 2), den, m % 2 = 0⟩

def Interval.holds (i : Interval) (d : Nat) (k : Int) : Bool :=
  let (n, s) :=
    if 0 ≤ k then (d * Nat.pow 10 k.toNat * i.den, 1)
    else (d * i.den, Nat.pow 10 (-k).toNat)
  if i.closed then i.low * s ≤ n && n ≤ i.high * s else i.low * s < n && n < i.high * s

def decimalExponent (value den : Nat) : Int :=
  if den ≤ value then ((Decimal.digits (value / den)).length : Int) - 1
  else
    let guess := (Decimal.digits (den / value)).length
    if den ≤ value * Nat.pow 10 (guess - 1) then -(guess - 1 : Nat) else -(guess : Int)

/-- The neighbour of the value on the grid of `count` digits that lies in the interval and is
nearer. -/
def Interval.onGrid (i : Interval) (top : Int) (count : Nat) : Option (Nat × Int) :=
  let k := top - (count - 1 : Nat)
  let (n, d) :=
    if 0 ≤ k then (i.value, i.den * Nat.pow 10 k.toNat)
    else (i.value * Nat.pow 10 (-k).toNat, i.den)
  let below := n / d
  let upper := 2 * (n % d) > d || (2 * (n % d) == d && below % 2 == 1)
  match i.holds below k, i.holds (below + 1) k with
  | true, true => some (if upper then below + 1 else below, k)
  | true, false => some (below, k)
  | false, true => some (below + 1, k)
  | false, false => none

/-- Digits and exponent of the unit of the last one. -/
def decimal (m : Nat) (e : Int) : Nat × Int :=
  let i := interval m e
  let top := decimalExponent i.value i.den
  ((List.range 17).findSome? fun n => i.onGrid top (n + 1)).getD (0, 0)

def layout (digits : List Char) (top : Int) : List Char :=
  if -5 ≤ top && top ≤ 15 then
    if top < 0 then '0' :: '.' :: (List.replicate (-top - 1).toNat '0' ++ digits)
    else
      let whole := top.toNat + 1
      if digits.length ≤ whole then
        digits ++ List.replicate (whole - digits.length) '0' ++ ['.', '0']
      else digits.take whole ++ '.' :: digits.drop whole
  else
    let fraction := if digits.length ≤ 1 then [] else '.' :: digits.drop 1
    let sign := if top < 0 then '-' else '+'
    digits.take 1 ++ fraction ++ 'e' :: sign :: Decimal.digits top.natAbs

def trim (digits : List Char) : List Char := (digits.reverse.dropWhile (· = '0')).reverse

def text (x : Binary64) : List Char :=
  let sign := if x.negative then ['-'] else []
  if x.isZero then sign ++ ['0', '.', '0']
  else
    let (m, e) := x.decode
    let (d, k) := decimal m e
    let ds := Decimal.digits d
    sign ++ layout (trim ds) (k + (ds.length - 1 : Nat))

end RecordSql.Shortest
