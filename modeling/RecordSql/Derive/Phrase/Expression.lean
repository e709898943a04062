import RecordSql.Derive.Literal
import RecordSql.Derive.Phrase.Type
import RecordSql.Text.Decimal
import RecordSql.Text.Hex

/-! Patterns and expressions. The types in them have the form of types, and the position of a field
of a tuple is a number of its own in the base ten. -/

namespace RecordSql.Derive.Writer

def dots : Writer := do
  let front := (← next) ++ (← next)
  if atMark "." (← get) || atMark "=" (← get) then return front ++ (← next) else return front

def atDots : List Tree → Bool
  | .leaf (.mark ".") :: rest => atMark "." rest
  | _ => false

def atArrow : List Tree → Bool
  | .leaf (.mark "=") :: rest => atMark ">" rest
  | _ => false

def atMacro : List Tree → Bool
  | .leaf (.mark "!") :: .group .. :: _ => true
  | _ => false

/-! Patterns -/

def endsPattern (ends : PatternEnd) (ts : List Tree) : Bool :=
  match ends with
  | .whole => false
  | .alternatives => atMark ":" ts || atMark "=" ts || atMark ";" ts || atWordAmong ["in", "if"] ts
  | .parameter => atMark ":" ts || atMark "," ts || atMark "|" ts

def patternPart (inner : Inner) : Writer := do
  match ← get with
  | .group .. :: _ => group (inner (.pattern .whole))
  | .leaf (.mark "::") :: _ => return (← next) ++ (← arguments inner)
  | .leaf (.mark "<") :: _ => return (← qualified inner true).1
  | .leaf (.mark "#") :: _ => attributes
  | .leaf (.mark ".") :: .leaf (.mark ".") :: _ => dots
  | .leaf (.word "const") :: .group .brace _ :: _ => return (← next) ++ (← block inner)
  | .leaf (.word _) :: rest =>
    if atMacro rest then return (← next) ++ (← next) ++ (← next) else next
  | _ => next

def patternWriter (inner : Inner) (ends : PatternEnd) : Writer :=
  many (fun ts => !endsPattern ends ts) (patternPart inner)

/-! Expressions -/

inductive Position where
  | operand
  | tail
  | operator
deriving DecidableEq

def decimal (s : List Char) : String :=
  let (base, digits) := Literal.base s
  let value := (digits.filterMap Hex.digitValue?).foldl (fun n d => base * n + d) 0
  String.ofList (Decimal.digits value)

def positions (s : String) : List String :=
  match s.splitOn "." with
  | [] => []
  | p :: rest =>
    decimal p.toList :: rest.flatMap fun p =>
      "." :: if p.isEmpty then [] else [decimal p.toList]

def member : Writer := do
  match ← get with
  | .leaf (.number s) :: rest =>
    set rest
    if s.endsWith "." then return positions s ++ (← next) else return positions s
  | _ => next

def field (inner : Inner) : Writer := do
  let front := (← next) ++ (← member)
  match ← get with
  | .leaf (.mark "::") :: rest =>
    if opensArguments rest then return front ++ (← next) ++ (← arguments inner) else return front
  | _ => return front

def expressions (inner : Inner) : Writer :=
  many (fun _ => true) do
    return (← inner (.expression true)) ++ (← mark? ",") ++ (← mark? ";")

def fieldValues (inner : Inner) : Writer :=
  many (fun _ => true) do
    let attrs ← attributes
    if atDots (← get) then return attrs ++ (← dots) ++ (← inner (.expression true))
    let name ← member
    let colon ← mark? ":"
    let value ← if colon.isEmpty then pure [] else inner (.expression true)
    return attrs ++ name ++ colon ++ value ++ (← mark? ",")

def closureParameter (inner : Inner) : Writer := do
  let front := (← attributes) ++ (← inner (.pattern .parameter))
  if atMark ":" (← get) then return front ++ (← next) ++ (← inner (.type true)) else return front

def closure (inner : Inner) : Writer := do
  let opening ← next
  let inputs ← listed (atMark "|") (closureParameter inner)
  return opening ++ inputs ++ (← mark? "|") ++ (← result inner true)

def conditional (inner : Inner) : Writer := do
  let first := (← next) ++ (← inner (.expression false)) ++ (← block inner)
  let rest ← many (atWord "else") do
    let word ← next
    if atWord "if" (← get) then
      return word ++ (← next) ++ (← inner (.expression false)) ++ (← block inner)
    else return word ++ (← block inner)
  return first ++ rest

def opensBlock : List Tree → Bool
  | .group .brace _ :: _ => true
  | .leaf (.lifetime _) :: _ => true
  | .leaf (.word "for") :: rest => !atMark "<" rest
  | .leaf (.word w) :: rest =>
    ["if", "match", "loop", "while"].contains w ||
      (["unsafe", "try", "const"].contains w && atGroup .brace rest)
  | _ => false

def consequence (inner : Inner) : Writer := do
  let arrow ← if atArrow (← get) then do pure ((← next) ++ (← next)) else pure []
  return arrow ++ (← inner .step) ++ (← mark? ",")

def alternative (inner : Inner) : Writer := do
  let front := (← attributes) ++ (← inner (.pattern .alternatives))
  let guard ←
    if atWord "if" (← get) then do pure ((← next) ++ (← inner (.expression true))) else pure []
  return front ++ guard ++ (← consequence inner)

def named (inner : Inner) (braces : Bool) (p : List String × Bool) : Writer := do
  let ts ← get
  if p.2 && atMacro ts then return p.1 ++ (← next) ++ (← next)
  else if braces && atGroup .brace ts then return p.1 ++ (← group (fieldValues inner))
  else return p.1

def keyword (inner : Inner) (braces : Bool) (w : String) (rest : List Tree) :
    Writing (List String × Position) := do
  if w = "if" then return (← conditional inner, .operator)
  else if w = "match" then
    let front := (← next) ++ (← inner (.expression false))
    return (front ++ (← groupOf .brace (many (fun _ => true) (alternative inner))), .operator)
  else if w = "while" then
    return ((← next) ++ (← inner (.expression false)) ++ (← block inner), .operator)
  else if w = "for" then
    if atMark "<" rest then return (← binder inner, .operand)
    let front := (← next) ++ (← inner (.pattern .alternatives)) ++ (← word? "in")
    return (front ++ (← inner (.expression false)) ++ (← block inner), .operator)
  else if w = "let" then
    return ((← next) ++ (← inner (.pattern .alternatives)) ++ (← mark? "="), .operand)
  else if ["return", "yield", "become"].contains w then return (← next, .tail)
  else if w = "break" || w = "continue" then
    let word ← next
    let label ← if atLifetime (← get) then next else pure []
    return (word ++ label, if w = "break" then .tail else .operator)
  else if ["loop", "unsafe", "try", "const", "async"].contains w && atGroup .brace rest then
    return ((← next) ++ (← block inner), .operator)
  else if ["move", "static", "const", "async"].contains w then return (← next, .operand)
  else return (← named inner braces (← path inner true), .operator)

def prefixMark (inner : Inner) (braces : Bool) (m : String) (rest : List Tree) :
    Writing (List String × Position) := do
  if m = "&" then
    let mark ← next
    match rest with
    | .leaf (.word "raw") :: .leaf (.word w) :: _ =>
      if w = "const" || w = "mut" then return (mark ++ (← next) ++ (← next), .operand)
      else return (mark, .operand)
    | _ => return (mark ++ (← word? "mut"), .operand)
  else if m = "." && atMark "." rest then return (← dots, .tail)
  else if m = "|" then return (← closure inner, .operand)
  else if m = "<" then return (← named inner braces (← qualified inner true), .operator)
  else if m = "::" then return (← named inner braces (← path inner true), .operator)
  else if m = "#" then return (← attributes, .operand)
  else return (← next, .operand)

def operandPart (inner : Inner) (braces optional : Bool) :
    Writing (Option (List String × Position)) := do
  match ← get with
  | [] => return none
  | .group .brace _ :: _ =>
    if optional && !braces then return none else return some (← block inner, .operator)
  | .group .. :: _ => return some (← group (expressions inner), .operator)
  | .leaf (.lifetime _) :: _ => return some ((← next) ++ (← mark? ":"), .operand)
  | .leaf (.word w) :: rest => return some (← keyword inner braces w rest)
  | .leaf (.mark m) :: rest =>
    if m = "," || m = ";" || (optional && m = "=" && atMark ">" rest) then return none
    else return some (← prefixMark inner braces m rest)
  | _ => return some (← next, .operator)

def operatorPart (inner : Inner) : Writing (Option (List String × Position)) := do
  match ← get with
  | .group .brace _ :: _ => return none
  | .group .. :: _ => return some (← group (expressions inner), .operator)
  | .leaf (.word "as") :: _ => return some ((← next) ++ (← inner (.type false)), .operator)
  | .leaf (.mark m) :: rest =>
    if [",", ";", ":", "::", "#", "->"].contains m || (m = "=" && atMark ">" rest) then return none
    else if m = "." then
      if atMark "." rest then return some (← dots, .tail)
      else return some (← field inner, .operator)
    else if m = "?" then return some (← next, .operator)
    else if (m = "|" || m = "<") && atMark m rest then
      return some ((← next) ++ (← next), .operand)
    else return some (← next, .operand)
  | _ => return none

/-- An expression from a position on. Each part takes a tree, so the number of trees bounds that of
the parts. -/
def expressionFrom (inner : Inner) (braces : Bool) : Nat → Position → Writer
  | 0, _ => return []
  | bound + 1, position => do
    let part ←
      match position with
      | .operand => operandPart inner braces false
      | .tail => operandPart inner braces true
      | .operator => operatorPart inner
    match part with
    | none => return []
    | some (ws, position) => return ws ++ (← expressionFrom inner braces bound position)

def expressionWriter (inner : Inner) (braces : Bool) : Writer := do
  expressionFrom inner braces ((← get).length + 1) .operand

def opensMacro : List Tree → Bool
  | .leaf (.word _) :: rest => opensMacro rest
  | .leaf (.mark "::") :: rest => opensMacro rest
  | .leaf (.mark "!") :: rest => atGroup .brace rest
  | _ => false

def stepWriter (inner : Inner) : Writer := do
  if opensBlock (← get) || opensMacro (← get) then
    let label ← if atLifetime (← get) then do pure ((← next) ++ (← mark? ":")) else pure []
    let first ← operandPart inner true false
    let front := label ++ ((first.map Prod.fst).getD [])
    let ts ← get
    if (atMark "." ts && !atDots ts) || atMark "?" ts then
      return front ++ (← expressionFrom inner true ts.length .operator)
    else return front
  else expressionWriter inner true

end RecordSql.Derive.Writer
