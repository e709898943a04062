/-! Binary interchange formats: words of 64 and 32 bits read as sign, exponent and significand, and
the rounding of exact quotients to the nearest representable number. -/

namespace RecordSql

namespace Binary

/-- A binary format: `precision` significand bits, the least exponent of a unit in the last place,
and the width of the exponent field. -/
structure Format where
  precision : Nat
  least : Int
  exponentBits : Nat

def double : Format := ⟨53, -1074, 11⟩

def single : Format := ⟨24, -149, 8⟩

namespace Format

def hidden (f : Format) : Nat := Nat.pow 2 (f.precision - 1)

def infinity (f : Format) : Nat := (Nat.pow 2 f.exponentBits - 1) * f.hidden

def decode (f : Format) (bits : Nat) : Nat × Int :=
  let field := bits / f.hidden
  if field = 0 then (bits, f.least) else (f.hidden + bits % f.hidden, f.least + (field - 1 : Nat))

end Format

def roundDiv (num den : Nat) : Nat :=
  let q := num / den
  let twice := 2 * (num % den)
  if twice < den then q else if den < twice then q + 1 else q + q % 2

def shiftQuotient (num den : Nat) (shift : Int) : Nat × Nat :=
  if 0 ≤ shift then (num * Nat.pow 2 shift.toNat, den) else (num, den * Nat.pow 2 (-shift).toNat)

/-- The exponent `e` with `2 ^ e ≤ num / den < 2 ^ (e + 1)`, for positive `num` and `den`. -/
def exponent (num den : Nat) : Int :=
  let e : Int := (Nat.log2 num : Int) - (Nat.log2 den : Int)
  let (n, d) := shiftQuotient num den (-e)
  if d ≤ n then e else e - 1

/-- The magnitude bits of the number nearest to `num / den`; a significand that rounds up to the
next power of two carries into the exponent field, and what is too large becomes infinity. -/
def Format.ofQuotient (f : Format) (num den : Nat) : Nat :=
  if num = 0 then 0
  else
    let e := max (exponent num den - (f.precision - 1 : Nat)) f.least
    let (n, d) := shiftQuotient num den (-e)
    min (((e - f.least).toNat) * f.hidden + roundDiv n d) f.infinity

end Binary

structure Binary64 where
  bits : UInt64
deriving DecidableEq, Inhabited

structure Binary32 where
  bits : UInt32
deriving DecidableEq, Inhabited

namespace Binary64

def negative (x : Binary64) : Bool := 0x8000000000000000 ≤ x.bits.toNat

def magnitude (x : Binary64) : Nat := x.bits.toNat % 0x8000000000000000

def ofMagnitude (negative : Bool) (magnitude : Nat) : Binary64 :=
  ⟨UInt64.ofNat (if negative then 0x8000000000000000 + magnitude else magnitude)⟩

def isNaN (x : Binary64) : Bool := Binary.double.infinity < x.magnitude

def isInfinite (x : Binary64) : Bool := x.magnitude = Binary.double.infinity

def isZero (x : Binary64) : Bool := x.magnitude = 0

def nan : Binary64 := ⟨0x7ff8000000000000⟩

def zero : Binary64 := ⟨0⟩

def neg (x : Binary64) : Binary64 := ofMagnitude (!x.negative) x.magnitude

def decode (x : Binary64) : Nat × Int := Binary.double.decode x.magnitude

def ofQuotient (negative : Bool) (num den : Nat) : Binary64 :=
  ofMagnitude negative (Binary.double.ofQuotient num den)

def ofInt (i : Int) : Binary64 := ofQuotient (i < 0) i.natAbs 1

def ofNat (n : Nat) : Binary64 := ofQuotient false n 1

def mul (x y : Binary64) : Binary64 :=
  let (m, e) := x.decode
  let (n, k) := y.decode
  let (num, den) := Binary.shiftQuotient (m * n) 1 (e + k)
  ofQuotient (x.negative != y.negative) num den

def div (x y : Binary64) : Binary64 :=
  let (m, e) := x.decode
  let (n, k) := y.decode
  let (num, den) := Binary.shiftQuotient m n (e - k)
  ofQuotient (x.negative != y.negative) num den

def same (x y : Binary64) : Bool :=
  !x.isNaN && !y.isNaN && (x.bits = y.bits || (x.isZero && y.isZero))

def toBinary32 (x : Binary64) : Binary32 :=
  let sign := if x.negative then 0x80000000 else 0
  let magnitude :=
    if x.isNaN then Binary.single.infinity + 0x400000
    else if x.isInfinite then Binary.single.infinity
    else
      let (m, e) := x.decode
      let (num, den) := Binary.shiftQuotient m 1 e
      Binary.single.ofQuotient num den
  ⟨UInt32.ofNat (sign + magnitude)⟩

end Binary64

namespace Binary32

def negative (x : Binary32) : Bool := 0x80000000 ≤ x.bits.toNat

def magnitude (x : Binary32) : Nat := x.bits.toNat % 0x80000000

def zero : Binary32 := ⟨0⟩

def toBinary64 (x : Binary32) : Binary64 :=
  let inf := Binary.single.infinity
  if inf < x.magnitude then Binary64.nan
  else if x.magnitude = inf then Binary64.ofMagnitude x.negative Binary.double.infinity
  else
    let (m, e) := Binary.single.decode x.magnitude
    let (num, den) := Binary.shiftQuotient m 1 e
    Binary64.ofQuotient x.negative num den

end Binary32

end RecordSql
