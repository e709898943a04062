import RecordSql.Text.Decimal
import RecordSql.Text.Hex
import RecordSql.Text.Identifier

/-! Literals at the front of a text: numbers, and what stands between quotes. A reader of a literal
gives the text that follows it. -/

namespace RecordSql.Derive.Literal

def afterSuffix (cs : List Char) : List Char :=
  if cs.head?.any Identifier.isStart then cs.dropWhile Identifier.isPart else cs

inductive Content where
  | text
  | bytes
  | terminated
deriving DecidableEq

def Content.admits : Content → Char → Bool
  | .text, _ => true
  | .bytes, c => c.toNat < 128
  | .terminated, c => c ≠ '\x00'

def Content.byte? (content : Content) (digits : List Char) : Option Char := do
  let n ← Hex.value? digits
  match content with
  | .text => if n < 128 then some (Char.ofNat n) else none
  | .bytes => some (Char.ofNat n)
  | .terminated => if n = 0 then none else some (Char.ofNat n)

def Content.point? (content : Content) (digits : List Char) : Option Char := do
  let n ← if digits.isEmpty || 6 < digits.length then none else Hex.value? digits
  let c ← if n < 0xd800 || (0xdfff < n && n < 0x110000) then some (Char.ofNat n) else none
  if content.admits c then some c else none

inductive Mode where
  | plain
  | carriage
  | escape
  | byte (front : List Char)
  | point
  | digits (front : List Char)
  | fold
  | foldCarriage
deriving DecidableEq

namespace Mode

def plainStep (content : Content) (c : Char) : Option (List Char × Mode) :=
  if c = '\\' then some ([], .escape)
  else if c = '\r' then some ([], .carriage)
  else if content.admits c then some ([c], .plain)
  else none

def escapeStep (content : Content) (c : Char) : Option (List Char × Mode) :=
  match c with
  | 'n' => some (['\n'], .plain)
  | 'r' => some (['\r'], .plain)
  | 't' => some (['\t'], .plain)
  | '\\' => some (['\\'], .plain)
  | '"' => some (['"'], .plain)
  | '\'' => some (['\''], .plain)
  | '0' => if content.admits '\x00' then some (['\x00'], .plain) else none
  | 'x' => some ([], .byte [])
  | 'u' => if content = .bytes then none else some ([], .point)
  | '\n' => some ([], .fold)
  | '\r' => some ([], .foldCarriage)
  | _ => none

/-- The characters that the next one adds to the value, and what follows it. A line that ends in a
backslash goes on at the first character of the next line that is no blank. -/
def step (content : Content) : Mode → Char → Option (List Char × Mode)
  | .plain, c => plainStep content c
  | .carriage, c => if c = '\n' then some (['\n'], .plain) else none
  | .escape, c => escapeStep content c
  | .byte [], c => some ([], .byte [c])
  | .byte (d :: _), c => (content.byte? [d, c]).map fun c => ([c], .plain)
  | .point, c => if c = '\x7b' then some ([], .digits []) else none
  | .digits front, c =>
    if c = '\x7d' then (content.point? front).map fun c => ([c], .plain)
    else if c = '_' && !front.isEmpty then some ([], .digits front)
    else some ([], .digits (front ++ [c]))
  | .fold, c =>
    if c = ' ' || c = '\n' || c = '\t' then some ([], .fold)
    else if c = '\r' then some ([], .foldCarriage)
    else plainStep content c
  | .foldCarriage, c => if c = '\n' then some ([], .fold) else none

def closes : Mode → Bool
  | .plain => true
  | .fold => true
  | _ => false

end Mode

def quoted? (content : Content) : Mode → List Char → Option (List Char × List Char)
  | _, [] => none
  | mode, c :: rest =>
    if c = '"' && mode.closes then some ([], rest)
    else do
      let (front, mode) ← mode.step content c
      let (value, rest) ← quoted? content mode rest
      return (front ++ value, rest)

def rawTail? (content : Content) (signs : List Char) : List Char → Option (List Char × List Char)
  | [] => none
  | '\r' :: '\n' :: rest =>
    (rawTail? content signs rest).map fun (value, rest) => ('\r' :: '\n' :: value, rest)
  | c :: rest =>
    if c = '"' && signs.isPrefixOf rest then some ([], rest.drop signs.length)
    else if c = '\r' || !content.admits c then none
    else (rawTail? content signs rest).map fun (value, rest) => (c :: value, rest)

/-- A literal without escapes, from its number signs on. There are at most 255 of them. -/
def raw? (content : Content) (cs : List Char) : Option (List Char × List Char) :=
  match cs.dropWhile (· = '#') with
  | '"' :: rest =>
    let signs := cs.takeWhile (· = '#')
    if signs.length < 256 then rawTail? content signs rest else none
  | _ => none

def afterEscape? (content : Content) : Mode → List Char → Option (List Char)
  | .plain, cs => some cs
  | .fold, _ => none
  | .foldCarriage, _ => none
  | _, [] => none
  | mode, c :: rest => do
    let (_, mode) ← mode.step content c
    afterEscape? content mode rest

def afterCharacter? (content : Content) (cs : List Char) : Option (List Char) := do
  let rest ← match cs with
    | [] => none
    | '\\' :: rest => afterEscape? content .escape rest
    | c :: rest => if content.admits c then some rest else none
  match rest with
  | '\'' :: rest => some rest
  | _ => none

def afterDigits (cs : List Char) : List Char := cs.dropWhile fun c => Decimal.isDigit c || c = '_'

def afterExponent? : Bool → Bool → List Char → Option (List Char)
  | _, valued, [] => if valued then some [] else none
  | signed, valued, c :: rest =>
    if Decimal.isDigit c then afterExponent? signed true rest
    else if c = '_' then afterExponent? signed valued rest
    else if valued then some (c :: rest)
    else if (c = '+' || c = '-') && !signed then afterExponent? true false rest
    else none

def isExponent (c : Char) : Bool := c = 'e' || c = 'E'

/-- What stands after a number with a point or an exponent. A point is none of the number's if
another point or a word follows it. -/
def afterFraction? (cs : List Char) : Option (List Char) :=
  match afterDigits cs with
  | '.' :: rest =>
    if rest.head?.any fun c => c = '.' || Identifier.isStart c then none
    else match afterDigits rest with
    | c :: exponent =>
      if isExponent c then some ((afterExponent? false false exponent).getD (c :: exponent))
      else some (c :: exponent)
    | [] => some []
  | c :: exponent => if isExponent c then afterExponent? false false exponent else none
  | [] => none

def base : List Char → Nat × List Char
  | '0' :: 'x' :: rest => (16, rest)
  | '0' :: 'o' :: rest => (8, rest)
  | '0' :: 'b' :: rest => (2, rest)
  | cs => (10, cs)

def afterWhole? (base : Nat) : Bool → List Char → Option (List Char)
  | valued, [] => if valued then some [] else none
  | valued, c :: rest =>
    match Hex.digitValue? c with
    | some d =>
      if d < base then afterWhole? base true rest
      else if Decimal.isDigit c || !valued then none
      else some (c :: rest)
    | none =>
      if c = '_' && (valued || base ≠ 10) then afterWhole? base valued rest
      else if valued then some (c :: rest)
      else none

def afterNumber? (cs : List Char) : Option (List Char) :=
  ((afterFraction? cs).bind complete).or ((afterWhole? (base cs).1 false (base cs).2).bind complete)
where
  complete (rest : List Char) : Option (List Char) :=
    if (afterSuffix rest).head?.any Identifier.isPart then none else some (afterSuffix rest)

end RecordSql.Derive.Literal
