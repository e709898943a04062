/-! The tokens of the declaration language, and trees of them, in which matching delimiters hold
what stands between them. -/

namespace RecordSql.Derive

inductive Delimiter where
  | parenthesis
  | bracket
  | brace
deriving DecidableEq, Repr

namespace Delimiter

def opening : Delimiter → String
  | .parenthesis => "("
  | .bracket => "["
  | .brace => "\x7b"

def closing : Delimiter → String
  | .parenthesis => ")"
  | .bracket => "]"
  | .brace => "\x7d"

end Delimiter

structure TextLiteral where
  written : String
  value : String
  suffix : String
deriving DecidableEq, Repr

inductive Token where
  | word (written : String)
  | text (literal : TextLiteral)
  | number (written : String)
  | literal (written : String)
  | lifetime (written : String)
  | mark (written : String)
deriving DecidableEq, Repr

def Token.written : Token → String
  | .word s => s
  | .text t => t.written
  | .number s => s
  | .literal s => s
  | .lifetime s => s
  | .mark s => s

/-- A token, or one side of a pair of delimiters. -/
inductive Lexeme where
  | token (t : Token)
  | opening (d : Delimiter)
  | closing (d : Delimiter)
deriving DecidableEq, Repr

inductive Tree where
  | leaf (t : Token)
  | group (d : Delimiter) (content : List Tree)

namespace Tree

def enclosed (d : Delimiter) (words : List String) : List String :=
  d.opening :: words ++ [d.closing]

mutual

def words : Tree → List String
  | .leaf t => [t.written]
  | .group d content => enclosed d (wordsOf content)

def wordsOf : List Tree → List String
  | [] => []
  | t :: rest => words t ++ wordsOf rest

end

mutual

def size : Tree → Nat
  | .leaf _ => 1
  | .group _ content => 1 + sizeOf content

def sizeOf : List Tree → Nat
  | [] => 0
  | t :: rest => size t + sizeOf rest

end

/-- Trees from lexemes. What is read so far stands in reverse, and so does what stood before each
delimiter that is still open. -/
def build : List (Delimiter × List Tree) → List Tree → List Lexeme → Option (List Tree)
  | [], done, [] => some done.reverse
  | _ :: _, _, [] => none
  | outer, done, .token t :: rest => build outer (.leaf t :: done) rest
  | outer, done, .opening d :: rest => build ((d, done) :: outer) [] rest
  | [], _, .closing _ :: _ => none
  | (d, before) :: outer, done, .closing e :: rest =>
    if d = e then build outer (.group d done.reverse :: before) rest else none

def ofLexemes? (lexemes : List Lexeme) : Option (List Tree) := build [] [] lexemes

def isMark (s : String) : Tree → Bool
  | .leaf (.mark m) => m = s
  | _ => false

def isWord (s : String) : Tree → Bool
  | .leaf (.word w) => w = s
  | _ => false

end Tree

end RecordSql.Derive
