import RecordSql.Derive.Fault
import RecordSql.Derive.Lexeme

/-! An attribute: a path, and in delimiters a list of items with commas between them. An item is a
path with what belongs to it, and each kind of list has a reader that knows its items. -/

namespace RecordSql.Derive

def onFirst (t : Tree) : List (List Tree) → List (List Tree)
  | [] => [[t]]
  | first :: rest => (t :: first) :: rest

def parts : List Tree → List (List Tree)
  | [] => [[]]
  | .leaf (.mark ",") :: rest => [] :: parts rest
  | t :: rest => onFirst t (parts rest)

/-- What follows in a part of a list: its trees, and whether the list ends after them. -/
structure Rest where
  trees : List Tree
  last : Bool

namespace Rest

def missing (r : Rest) (what : Expected) : Fault :=
  if r.trees.isEmpty && r.last then .endOfInput what else .expected what

def pathFrom (last : Bool) : String → List Tree → Except Fault (String × Rest)
  | front, .leaf (.mark "::") :: .leaf (.word w) :: rest => pathFrom last (front ++ "::" ++ w) rest
  | _, .leaf (.mark "::") :: rest => .error (missing ⟨rest, last⟩ .pathWord)
  | front, rest => .ok (front, ⟨rest, last⟩)

def isLiteral : List Tree → Bool
  | .leaf (.text _) :: _ => true
  | .leaf (.number _) :: _ => true
  | .leaf (.literal _) :: _ => true
  | .leaf (.mark "-") :: .leaf (.number _) :: _ => true
  | _ => false

def pathAfter (last : Bool) (front : String) : List Tree → Except Fault (String × Rest)
  | .leaf (.word w) :: rest => pathFrom last (front ++ w) rest
  | [] => .error (if last then .endOfInput .item else .unnamedItem)
  | rest => .error (if isLiteral rest then .literalItem else .unnamedItem)

def path (r : Rest) : Except Fault (String × Rest) :=
  match r.trees with
  | .leaf (.mark "::") :: rest => pathAfter r.last "::" rest
  | rest => pathAfter r.last "" rest

def text (r : Rest) : Except Fault (TextLiteral × Rest) :=
  match r.trees with
  | .leaf (.mark "=") :: .leaf (.text t) :: rest => .ok (t, ⟨rest, r.last⟩)
  | .leaf (.mark "=") :: rest => .error (missing ⟨rest, r.last⟩ .text)
  | _ => .error (.expected .equals)

def group? (r : Rest) : Option (List Tree × Rest) :=
  match r.trees with
  | .group .parenthesis content :: rest => some (content, ⟨rest, r.last⟩)
  | _ => none

end Rest

abbrev ItemReader (α : Type) := String → Rest → Except Fault (α × Rest)

def ItemReader.item (reader : ItemReader α) (r : Rest) : Except Fault α := do
  let (path, r) ← r.path
  let (a, r) ← reader path r
  if r.trees.isEmpty then return a else throw (.expected .comma)

def ItemReader.items (reader : ItemReader α) : List (List Tree) → Except Fault (List α)
  | [] => .ok []
  | [trees] => if trees.isEmpty then .ok [] else do return [← reader.item ⟨trees, true⟩]
  | trees :: rest => do
    let a ← reader.item ⟨trees, false⟩
    return a :: (← reader.items rest)

def ItemReader.arguments (reader : ItemReader α) (content : List Tree) : Except Fault (List α) :=
  if content.isEmpty then .error (.endOfInput .item) else reader.items (parts content)

def ItemReader.optionalArguments (reader : ItemReader α) (r : Rest) :
    Except Fault (List α × Rest) :=
  match r.group? with
  | some (content, r) => do return (← reader.arguments content, r)
  | none => .ok ([], r)

def ItemReader.requiredArguments (reader : ItemReader α) (r : Rest) :
    Except Fault (List α × Rest) :=
  match r.group? with
  | some (content, r) => do return (← reader.arguments content, r)
  | none => .error (r.missing .parentheses)

inductive Arguments where
  | absent
  | assigned
  | listed (content : List Tree)

structure Attribute where
  path : String
  arguments : Arguments

namespace Attribute

def ofText? (s : String) : Option Attribute := do
  let trees ← Tree.ofText? s
  let (path, r) ← (Rest.path ⟨trees, true⟩).toOption
  match r.trees with
  | [] => some ⟨path, .absent⟩
  | .leaf (.mark "=") :: _ :: _ => some ⟨path, .assigned⟩
  | [.group _ content] => some ⟨path, .listed content⟩
  | _ => none

/-- Whether the attribute speaks of tables and columns; others are left to those who know them. -/
def isMapping (a : Attribute) : Bool := a.path = "orm"

def items (reader : ItemReader α) (a : Attribute) : Except Fault (List α) :=
  match a.arguments with
  | .absent => .error .withoutArguments
  | .assigned => .error .withoutParentheses
  | .listed content => reader.items (parts content)

def allItems (reader : ItemReader α) (attributes : List Attribute) : Except Fault (List α) := do
  return (← (attributes.filter isMapping).mapM (items reader)).flatten

end Attribute

end RecordSql.Derive
