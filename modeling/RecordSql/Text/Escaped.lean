import RecordSql.Text.Hex
import RecordSql.Text.Printable

/-! Texts between double quotes, in which a backslash starts the name of a character that does not
show. -/

namespace RecordSql.Escaped

def char (c : Char) : List Char :=
  match c with
  | '"' => ['\\', '"']
  | '\\' => ['\\', '\\']
  | '\n' => ['\\', 'n']
  | '\r' => ['\\', 'r']
  | '\t' => ['\\', 't']
  | '\x00' => ['\\', '0']
  | c =>
    if Printable.isPrintable c then [c]
    else '\\' :: 'u' :: '\x7b' :: Hex.digits c.toNat ++ ['\x7d']

def quote (s : String) : String := "\"" ++ String.ofList (s.toList.flatMap char) ++ "\""

/-- As `char`, but where an octal digit follows, the zero character has two digits of its own. -/
def literalChars : List Char → List Char
  | [] => []
  | [c] => char c
  | c :: d :: rest =>
    (if c = '\x00' && 48 ≤ d.toNat && d.toNat ≤ 55 then ['\\', 'x', '0', '0'] else char c) ++
      literalChars (d :: rest)

def literal (s : String) : String := "\"" ++ String.ofList (literalChars s.toList) ++ "\""

end RecordSql.Escaped
