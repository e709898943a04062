import RecordSql.Json.Basic
import RecordSql.Text.Decimal

/-! JSON numerals: their grammar, and the number each one denotes. An integer that fits a word of 64
bits, with or without sign, stays exact. Any other numeral is the number of its leading digits that
fit such a word, scaled once by a power of ten; what is too large denotes nothing. -/

namespace RecordSql.Json

structure Numeral where
  negative : Bool
  whole : List Char
  fraction : Option (List Char)
  exponent : Option Int

namespace Numeral

def splitDigits (cs : List Char) : List Char × List Char := cs.span Decimal.isDigit

def readWhole (cs : List Char) : Option (List Char × List Char) :=
  match splitDigits cs with
  | ([], _) => none
  | (['0'], rest) => some (['0'], rest)
  | ('0' :: _, _) => none
  | (ds, rest) => some (ds, rest)

def readFraction : List Char → Option (Option (List Char) × List Char)
  | '.' :: cs =>
    match splitDigits cs with
    | ([], _) => none
    | (ds, rest) => some (some ds, rest)
  | cs => some (none, cs)

def readSign : List Char → Bool × List Char
  | '-' :: cs => (true, cs)
  | '+' :: cs => (false, cs)
  | cs => (false, cs)

def readExponent : List Char → Option (Option Int × List Char)
  | c :: cs =>
    if c = 'e' ∨ c = 'E' then
      let (negative, cs) := readSign cs
      match splitDigits cs with
      | ([], _) => none
      | (ds, rest) =>
        let e : Int := Decimal.value ds
        some (some (if negative then -e else e), rest)
    else some (none, c :: cs)
  | [] => some (none, [])

def ofText? (cs : List Char) : Option Numeral := do
  let (negative, cs) := match cs with
    | '-' :: rest => (true, rest)
    | cs => (false, cs)
  let (whole, cs) ← readWhole cs
  let (fraction, cs) ← readFraction cs
  let (exponent, cs) ← readExponent cs
  if cs.isEmpty then some ⟨negative, whole, fraction, exponent⟩ else none

/-- Append digits to a number while it fits 64 bits; the digits that are left over come second. -/
def accumulate : Nat → List Char → Nat × List Char
  | n, [] => (n, [])
  | n, c :: cs =>
    let m := 10 * n + Decimal.digitValue c
    if m < 0x10000000000000000 then accumulate m cs else (n, c :: cs)

def powerOfTen (k : Nat) : Binary64 := Binary64.ofNat (Nat.pow 10 k)

/-- `significand * 10 ^ exponent` with one rounding of the significand and one of the product, or
quotient; far below the least number one more division comes first. -/
def scale (significand : Nat) (exponent : Int) : Option Binary64 :=
  let f := Binary64.ofNat significand
  if exponent.natAbs ≤ 308 then
    if 0 ≤ exponent then
      let product := f.mul (powerOfTen exponent.toNat)
      if product.isInfinite then none else some product
    else some (f.div (powerOfTen exponent.natAbs))
  else if f.isZero then some f
  else if 0 ≤ exponent then none
  else if (exponent + 308).natAbs ≤ 308 then
    some ((f.div (powerOfTen 308)).div (powerOfTen (exponent + 308).natAbs))
  else some Binary64.zero

def signed (negative : Bool) (x : Binary64) : Binary64 := if negative then x.neg else x

def real? (n : Numeral) : Option Json := do
  let (significand, dropped) := accumulate 0 n.whole
  let digits := n.fraction.getD []
  let (significand, unread) := accumulate significand digits
  let point : Int := (dropped.length : Int) - (digits.length - unread.length : Nat)
  let x ← scale significand (point + n.exponent.getD 0)
  return .real (signed n.negative x)

def number? (n : Numeral) : Option Json :=
  match n.fraction, n.exponent with
  | none, none =>
    let v := Decimal.value n.whole
    if !n.negative && v < 0x10000000000000000 then some (.integer v)
    else if n.negative && 0 < v && v ≤ 0x8000000000000000 then some (.integer (-(v : Int)))
    else if n.negative && v < 0x10000000000000000 then some (.real (Binary64.ofNat v).neg)
    else n.real?
  | _, _ => n.real?

end Numeral

end RecordSql.Json
