import RecordSql.Json.Numeral
import RecordSql.Text.Hex

/-! The tokens of a JSON text, found by a machine that looks at one character at a time. -/

namespace RecordSql.Json

inductive Token where
  | openArray
  | closeArray
  | openObject
  | closeObject
  | comma
  | colon
  | text (s : String)
  | scalar (j : Json)

namespace Token

/-- What the characters read so far belong to. The characters of a token are kept in reverse. -/
inductive Mode where
  | between
  | word (front : List Char)
  | numeral (front : List Char)
  | text (front : List Char)
  | escape (front : List Char)
  | unit (front : List Char) (high : Option Nat) (digits : List Char)
  | pair (front : List Char) (high : Nat)
  | pairEscape (front : List Char) (high : Nat)

def isBlank (c : Char) : Bool := c = ' ' || c = '\n' || c = '\t' || c = '\r'

def isNumeral (c : Char) : Bool :=
  Decimal.isDigit c || c = '-' || c = '+' || c = '.' || c = 'e' || c = 'E'

def ofWord? (cs : List Char) : Option Token :=
  if cs = ['n', 'u', 'l', 'l'] then some (.scalar .null)
  else if cs = ['t', 'r', 'u', 'e'] then some (.scalar (.bool true))
  else if cs = ['f', 'a', 'l', 's', 'e'] then some (.scalar (.bool false))
  else none

def ofNumeral? (cs : List Char) : Option Token :=
  ((Numeral.ofText? cs).bind Numeral.number?).map .scalar

def start (c : Char) : Option (List Token × Mode) :=
  if isBlank c then some ([], .between)
  else if c = '[' then some ([.openArray], .between)
  else if c = ']' then some ([.closeArray], .between)
  else if c = '\x7b' then some ([.openObject], .between)
  else if c = '\x7d' then some ([.closeObject], .between)
  else if c = ',' then some ([.comma], .between)
  else if c = ':' then some ([.colon], .between)
  else if c = '"' then some ([], .text [])
  else if Decimal.isDigit c || c = '-' then some ([], .numeral [c])
  else if c.isAlpha then some ([], .word [c])
  else none

def unescape? (c : Char) : Option Char :=
  match c with
  | '"' => some '"'
  | '\\' => some '\\'
  | '/' => some '/'
  | 'b' => some '\x08'
  | 'f' => some '\x0c'
  | 'n' => some '\n'
  | 'r' => some '\r'
  | 't' => some '\t'
  | _ => none

/-- Four hexadecimal digits: a character, or one half of a pair that makes a character. -/
def unit? (front : List Char) (high : Option Nat) (n : Nat) : Option Mode :=
  match high with
  | none =>
    if 0xd800 ≤ n && n < 0xdc00 then some (.pair front n)
    else if 0xdc00 ≤ n && n < 0xe000 then none
    else some (.text (Char.ofNat n :: front))
  | some h =>
    if 0xdc00 ≤ n && n < 0xe000 then
      some (.text (Char.ofNat (0x10000 + 0x400 * (h - 0xd800) + (n - 0xdc00)) :: front))
    else none

def step : Mode → Char → Option (List Token × Mode)
  | .between, c => start c
  | .word front, c =>
    if c.isAlpha then some ([], .word (c :: front))
    else do
      let token ← ofWord? front.reverse
      let (tokens, mode) ← start c
      return (token :: tokens, mode)
  | .numeral front, c =>
    if isNumeral c then some ([], .numeral (c :: front))
    else do
      let token ← ofNumeral? front.reverse
      let (tokens, mode) ← start c
      return (token :: tokens, mode)
  | .text front, c =>
    if c = '"' then some ([.text (String.ofList front.reverse)], .between)
    else if c = '\\' then some ([], .escape front)
    else if c.toNat < 32 then none
    else some ([], .text (c :: front))
  | .escape front, c =>
    if c = 'u' then some ([], .unit front none [])
    else (unescape? c).map fun d => ([], .text (d :: front))
  | .unit front high digits, c =>
    if digits.length < 3 then some ([], .unit front high (digits ++ [c]))
    else do
      let n ← Hex.value? (digits ++ [c])
      let mode ← unit? front high n
      return ([], mode)
  | .pair front high, c => if c = '\\' then some ([], .pairEscape front high) else none
  | .pairEscape front high, c => if c = 'u' then some ([], .unit front (some high) []) else none

def finish : Mode → Option (List Token)
  | .between => some []
  | .word front => (ofWord? front.reverse).map ([·])
  | .numeral front => (ofNumeral? front.reverse).map ([·])
  | _ => none

def scan : Mode → List Char → Option (List Token)
  | mode, [] => finish mode
  | mode, c :: cs => do
    let (tokens, mode) ← step mode c
    return tokens ++ (← scan mode cs)

end Token

end RecordSql.Json
