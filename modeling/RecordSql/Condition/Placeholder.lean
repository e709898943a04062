/-! Placeholders in raw SQL: question marks outside quotes. -/

namespace RecordSql.Placeholder

def isQuote (c : Char) : Bool := c = '\'' || c = '"' || c = '\x60'

/-- The quote that is open after a character, given the one that is open before it. A doubled quote
closes and opens again. -/
def next (quote : Option Char) (c : Char) : Option Char :=
  match quote with
  | some q => if c = q then none else some q
  | none => if isQuote c then some c else none

def isPlaceholder (quote : Option Char) (c : Char) : Bool := quote.isNone && c = '?'

def countFrom : Option Char → List Char → Nat
  | _, [] => 0
  | quote, c :: cs => (if isPlaceholder quote c then 1 else 0) + countFrom (next quote c) cs

def count (sql : String) : Nat := countFrom none sql.toList

end RecordSql.Placeholder
