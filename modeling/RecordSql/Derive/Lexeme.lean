import RecordSql.Derive.Literal
import RecordSql.Derive.Token
import RecordSql.Text.Blank
import RecordSql.Text.Escaped

/-! Reading the lexemes of a text. Blanks and comments separate them. A comment that documents what
follows it is an attribute. -/

namespace RecordSql.Derive

namespace Lexeme

/-- The marks of the writing direction separate words as blanks do. -/
def isBlank (c : Char) : Bool := Blank.isBlank c || c = '\u200e' || c = '\u200f'

def isMark (c : Char) : Bool := "~!@#$%^&*-=+|;:,<.>/?".toList.contains c

def delimiter? (c : Char) : Option Lexeme :=
  match c with
  | '(' => some (.opening .parenthesis)
  | ')' => some (.closing .parenthesis)
  | '[' => some (.opening .bracket)
  | ']' => some (.closing .bracket)
  | '\x7b' => some (.opening .brace)
  | '\x7d' => some (.closing .brace)
  | _ => none

def upTo (cs rest : List Char) : String := String.ofList (cs.take (cs.length - rest.length))

def text? (cs : List Char) (body : Option (List Char × List Char)) : Option (Token × List Char) :=
  body.map fun (value, rest) =>
    let after := Literal.afterSuffix rest
    (.text ⟨upTo cs after, String.ofList value, upTo rest after⟩, after)

def literal? (cs : List Char) (body : Option (List Char × List Char)) :
    Option (Token × List Char) :=
  body.map fun (_, rest) =>
    let after := Literal.afterSuffix rest
    (.literal (upTo cs after), after)

def reserved : List String := ["_", "super", "self", "Self", "crate"]

def afterName? (cs : List Char) : Option (List Char) :=
  match cs with
  | 'r' :: '#' :: rest =>
    if rest.head?.any Identifier.isStart
        && !reserved.contains (String.ofList (rest.takeWhile Identifier.isPart)) then
      some (rest.dropWhile Identifier.isPart)
    else none
  | _ => if cs.head?.any Identifier.isStart then some (cs.dropWhile Identifier.isPart) else none

def word? (cs : List Char) : Option (Token × List Char) :=
  let rest := cs.dropWhile Identifier.isPart
  match cs.takeWhile Identifier.isPart, rest with
  | ['r'], '"' :: _ => text? cs (Literal.raw? .text rest)
  | ['r'], '#' :: '"' :: _ => text? cs (Literal.raw? .text rest)
  | ['r'], '#' :: '#' :: _ => text? cs (Literal.raw? .text rest)
  | ['b'], '"' :: body => literal? cs (Literal.quoted? .bytes .plain body)
  | ['c'], '"' :: body => literal? cs (Literal.quoted? .terminated .plain body)
  | ['b'], '\'' :: body => literal? cs ((Literal.afterCharacter? .bytes body).map ([], ·))
  | ['b', 'r'], '"' :: _ => literal? cs (Literal.raw? .bytes rest)
  | ['b', 'r'], '#' :: _ => literal? cs (Literal.raw? .bytes rest)
  | ['c', 'r'], '"' :: _ => literal? cs (Literal.raw? .terminated rest)
  | ['c', 'r'], '#' :: _ => literal? cs (Literal.raw? .terminated rest)
  | _, _ => (afterName? cs).map fun rest => (.word (upTo cs rest), rest)

/-- After an apostrophe: a character and another apostrophe, or the name of a lifetime. -/
def apostrophe? (cs body : List Char) : Option (Token × List Char) :=
  match Literal.afterCharacter? .text body with
  | some rest => literal? cs (some ([], rest))
  | none => do
    let rest ← afterName? body
    let raw := "r#".toList.isPrefixOf body
    match rest with
    | '\'' :: _ => none
    | '#' :: _ => if raw then some (.lifetime (upTo cs rest), rest) else none
    | _ => some (.lifetime (upTo cs rest), rest)

def mark? (cs : List Char) : Option (Token × List Char) :=
  match cs with
  | ':' :: ':' :: rest => some (.mark "::", rest)
  | '-' :: '>' :: rest => some (.mark "->", rest)
  | c :: rest => if isMark c then some (.mark (String.singleton c), rest) else none
  | [] => none

/-- What stands between the marks of a comment, which can hold others, and what stands after it. The
number counts the comments that are open. -/
def comment? : Nat → List Char → Option (List Char × List Char)
  | _, [] => none
  | 0, _ => none
  | 1, '*' :: '/' :: rest => some ([], rest)
  | depth + 1, '*' :: '/' :: rest =>
    (comment? depth rest).map fun (s, rest) => ('*' :: '/' :: s, rest)
  | depth, '/' :: '*' :: rest =>
    (comment? (depth + 1) rest).map fun (s, rest) => ('/' :: '*' :: s, rest)
  | depth, c :: rest => (comment? depth rest).map fun (s, rest) => (c :: s, rest)

def line : List Char → List Char × List Char
  | [] => ([], [])
  | '\n' :: rest => ([], '\n' :: rest)
  | '\r' :: '\n' :: rest => ([], '\n' :: rest)
  | c :: rest => (c :: (line rest).1, (line rest).2)

def hasWholeLines : List Char → Bool
  | [] => true
  | '\r' :: '\n' :: rest => hasWholeLines rest
  | c :: rest => c ≠ '\r' && hasWholeLines rest

def documentation? (inner : Bool) (s rest : List Char) : Option (List Lexeme × List Char) :=
  if hasWholeLines s then
    let value := String.ofList s
    some ([.token (.mark "#")] ++ (if inner then [.token (.mark "!")] else []) ++
      [.opening .bracket, .token (.word "doc"), .token (.mark "="),
       .token (.text ⟨Escaped.literal value, value, ""⟩), .closing .bracket], rest)
  else none

def ofComment? (cs : List Char) : Option (List Lexeme × List Char) :=
  match cs with
  | '/' :: '/' :: '/' :: '/' :: rest => some ([], (line rest).2)
  | '/' :: '/' :: '/' :: rest => documentation? false (line rest).1 (line rest).2
  | '/' :: '/' :: '!' :: rest => documentation? true (line rest).1 (line rest).2
  | '/' :: '/' :: rest => some ([], (line rest).2)
  | '/' :: '*' :: '*' :: '/' :: rest => some ([], rest)
  | '/' :: '*' :: '*' :: '*' :: rest => (comment? 1 ('*' :: '*' :: rest)).map fun r => ([], r.2)
  | '/' :: '*' :: '*' :: rest => (comment? 1 rest).bind fun r => documentation? false r.1 r.2
  | '/' :: '*' :: '!' :: rest => (comment? 1 rest).bind fun r => documentation? true r.1 r.2
  | '/' :: '*' :: rest => (comment? 1 rest).map fun r => ([], r.2)
  | _ => none

def token? (cs : List Char) : Option (Token × List Char) :=
  match cs with
  | [] => none
  | c :: rest =>
    if c = '"' then text? cs (Literal.quoted? .text .plain rest)
    else if c = '\'' then apostrophe? cs rest
    else if Decimal.isDigit c then
      (Literal.afterNumber? cs).map fun rest => (.number (upTo cs rest), rest)
    else if Identifier.isStart c then word? cs
    else mark? cs

def next? (cs : List Char) : Option (List Lexeme × List Char) :=
  match cs with
  | [] => none
  | c :: rest =>
    if isBlank c then some ([], rest)
    else if c = '/' && (rest.head? = some '/' || rest.head? = some '*') then ofComment? cs
    else match delimiter? c with
    | some d => some ([d], rest)
    | none => (token? cs).map fun (t, rest) => ([.token t], rest)

def scan : Nat → List Char → Option (List Lexeme)
  | _, [] => some []
  | 0, _ :: _ => none
  | bound + 1, cs => do
    let (lexemes, rest) ← next? cs
    return lexemes ++ (← scan bound rest)

end Lexeme

def Tree.ofText? (s : String) : Option (List Tree) :=
  let cs := match s.toList with
    | '\ufeff' :: rest => rest
    | cs => cs
  (Lexeme.scan cs.length cs).bind Tree.ofLexemes?

end RecordSql.Derive
