import RecordSql.Derive.Token

/-! Writing phrases of the declaration language in one form. A writer takes trees from the front of
those that are left and gives the words for them. What a writer does not know it leaves, and no tree
gets lost: those that are left in a pair of delimiters are written as they are. -/

namespace RecordSql.Derive

/-- Where a pattern ends: with the list that holds it, or at the marks after a pattern with
alternatives or after one without. -/
inductive PatternEnd where
  | whole
  | alternatives
  | parameter
deriving DecidableEq

inductive Site where
  | module
  | trait
  | implementation
  | foreign
deriving DecidableEq

/-- Whether a declaration has a body or a value where it stands. A trait leaves that open, and what
is foreign has its body elsewhere. -/
def Site.admits (site : Site) (complete : Bool) : Bool :=
  match site with
  | .trait => true
  | .foreign => !complete
  | .module => complete
  | .implementation => complete

/-- The phrases that contain each other. A type and bounds can go on with a plus sign or not, and
braces after a path in an expression belong to the expression or not. A step is an expression that
ends after a block of its own. -/
inductive Phrase where
  | type (plus : Bool)
  | bounds (plus : Bool)
  | pattern (ends : PatternEnd)
  | expression (braces : Bool)
  | step
  | statements
  | items (site : Site)

abbrev Writing (α : Type) := StateM (List Tree) α

abbrev Writer := Writing (List String)

abbrev Inner := Phrase → Writer

/-! What comes next -/

def atMark (s : String) : List Tree → Bool
  | t :: _ => t.isMark s
  | [] => false

def atWord (s : String) : List Tree → Bool
  | t :: _ => t.isWord s
  | [] => false

def atGroup (d : Delimiter) : List Tree → Bool
  | .group e _ :: _ => d = e
  | _ => false

def atLifetime : List Tree → Bool
  | .leaf (.lifetime _) :: _ => true
  | _ => false

def atWordAmong (ws : List String) : List Tree → Bool
  | .leaf (.word w) :: _ => ws.contains w
  | _ => false

namespace Writer

def next : Writer := do
  match ← get with
  | [] => return []
  | t :: rest =>
    set rest
    return t.words

def mark? (s : String) : Writer := do
  if atMark s (← get) then next else return []

def word? (s : String) : Writer := do
  if atWord s (← get) then next else return []

def all : Writer := do
  let ts ← get
  set ([] : List Tree)
  return Tree.wordsOf ts

def takenSince (before : List Tree) : Writer := do
  return Tree.wordsOf (before.take (before.length - (← get).length))

def verbatim (w : Writer) : Writer := do
  let before ← get
  let _ ← w
  takenSince before

def group (w : Writer) : Writer := do
  match ← get with
  | .group d content :: rest =>
    set rest
    let (ws, left) := w.run content
    return Tree.enclosed d (ws ++ Tree.wordsOf left)
  | _ => return []

def groupOf (d : Delimiter) (w : Writer) : Writer := do
  if atGroup d (← get) then group w else return []

def repeated (more : List Tree → Bool) (w : Writer) : Nat → Writer
  | 0 => return []
  | bound + 1 => do
    let before ← get
    if before.isEmpty || !more before then return []
    let ws ← w
    let ws ← if (← get).length < before.length then pure ws else pure (ws ++ (← next))
    return ws ++ (← repeated more w bound)

/-- Write while there is more. Each round takes a tree, so the number of trees bounds that of the
rounds. -/
def many (more : List Tree → Bool) (w : Writer) : Writer := do
  repeated more w (← get).length

def attributes : Writer :=
  many (atMark "#") do return (← next) ++ (← mark? "!") ++ (← groupOf .bracket all)

end Writer

structure Element where
  isLifetime : Bool
  words : List String
  comma : List String

def Element.all (e : Element) : List String := e.words ++ e.comma

def lifetimesFirst (elements : List Element) : List String :=
  let lifetimes := elements.filter Element.isLifetime
  let others := elements.filter fun e => !e.isLifetime
  let between :=
    if others.isEmpty || lifetimes.getLast?.all fun e => !e.comma.isEmpty then [] else [","]
  lifetimes.flatMap Element.all ++ between ++ others.flatMap Element.all

namespace Writer

def elementsFrom (ends : List Tree → Bool) (w : Writing (Bool × List String)) :
    Nat → Writing (List Element)
  | 0 => return []
  | bound + 1 => do
    let ts ← get
    if ts.isEmpty || ends ts then return []
    let (isLifetime, words) ← w
    let comma ← mark? ","
    let e : Element := ⟨isLifetime, words, comma⟩
    if comma.isEmpty then return [e] else return e :: (← elementsFrom ends w bound)

def elements (ends : List Tree → Bool) (w : Writing (Bool × List String)) :
    Writing (List Element) := do
  elementsFrom ends w (← get).length

def listed (ends : List Tree → Bool) (w : Writer) : Writer := do
  return (← elements ends do return (false, ← w)).flatMap Element.all

def listedWhole (w : Writer) : Writer := listed (fun _ => false) w

end Writer

end RecordSql.Derive
