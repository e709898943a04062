import RecordSql.Derive.Phrase.Basic

/-! Types, with the paths, bounds and parameters in them. Of arguments and of parameters between
angle brackets the lifetimes come first, a list of parameters or bounds without any is left out, and
nothing stands between the name of a function trait and its parentheses. -/

namespace RecordSql.Derive.Writer

def opensArguments : List Tree → Bool
  | .leaf (.mark "<") :: .leaf (.mark "=") :: _ => false
  | .leaf (.mark "<") :: _ => true
  | _ => false

def opensBound : List Tree → Bool
  | .leaf (.word w) :: _ => w ≠ "where"
  | .leaf (.lifetime _) :: _ => true
  | .leaf (.mark m) :: _ => m = "::" || m = "?" || m = "~"
  | .group .parenthesis _ :: _ => true
  | .group .bracket _ :: _ => true
  | _ => false

def opensConstant : List Tree → Bool
  | .leaf (.text _) :: _ => true
  | .leaf (.number _) :: _ => true
  | .leaf (.literal _) :: _ => true
  | .leaf (.word w) :: _ => w = "true" || w = "false"
  | .leaf (.mark "-") :: .leaf (.number _) :: _ => true
  | .group .brace _ :: _ => true
  | _ => false

def block (inner : Inner) : Writer := groupOf .brace (inner .statements)

def constant (inner : Inner) : Writer := do
  if atGroup .brace (← get) then block inner else return (← mark? "-") ++ (← next)

def association (inner : Inner) : Writer := do
  if atMark "=" (← get) then
    let mark ← next
    return mark ++ (← if opensConstant (← get) then constant inner else inner (.type true))
  else if atMark ":" (← get) then return (← next) ++ (← inner (.bounds true))
  else return []

def argument (inner : Inner) : Writing (Bool × List String) := do
  match ← get with
  | .leaf (.lifetime _) :: rest =>
    if atMark "+" rest then return (false, ← inner (.type true)) else return (true, ← next)
  | ts =>
    if opensConstant ts then return (false, ← constant inner)
    else return (false, (← inner (.type true)) ++ (← association inner))

def arguments (inner : Inner) : Writer := do
  if opensArguments (← get) then
    let opening ← next
    let es ← elements (atMark ">") (argument inner)
    return opening ++ lifetimesFirst es ++ (← mark? ">")
  else return []

/-- A segment of a path, and whether it has no arguments. In an expression a double colon stands
before them. -/
def segment (inner : Inner) (inExpression : Bool) : Writing (List String × Bool) := do
  let name ← next
  match ← get with
  | .leaf (.mark "::") :: rest =>
    if opensArguments rest then return (name ++ (← next) ++ (← arguments inner), false)
    else return (name, true)
  | _ =>
    let args ← if inExpression then pure [] else arguments inner
    return (name ++ args, args.isEmpty)

def segments (inner : Inner) (inExpression : Bool) :
    Nat → List String × Bool → Writing (List String × Bool)
  | 0, front => return front
  | bound + 1, front => do
    match ← get with
    | .leaf (.mark "::") :: .leaf (.word _) :: _ =>
      let colons ← next
      let (ws, bare) ← segment inner inExpression
      segments inner inExpression bound (front.1 ++ colons ++ ws, bare)
    | _ => return front

def path (inner : Inner) (inExpression : Bool) : Writing (List String × Bool) := do
  let root ← mark? "::"
  let (ws, bare) ← segment inner inExpression
  segments inner inExpression (← get).length (root ++ ws, bare)

def qualified (inner : Inner) (inExpression : Bool) : Writing (List String × Bool) := do
  let opening ← next
  let self ← inner (.type true)
  let trait ←
    if atWord "as" (← get) then do pure ((← next) ++ (← path inner false).1) else pure []
  let closing ← mark? ">"
  segments inner inExpression (← get).length (opening ++ self ++ trait ++ closing, true)

def result (inner : Inner) (plus : Bool) : Writer := do
  if atMark "->" (← get) then return (← next) ++ (← inner (.type plus)) else return []

def signature (inner : Inner) : Writer := do
  match ← get with
  | .leaf (.mark "::") :: .group .parenthesis content :: rest =>
    set (Tree.group .parenthesis content :: rest)
  | _ => pure ()
  if atGroup .parenthesis (← get) then
    return (← group (listedWhole (inner (.type true)))) ++ (← result inner false)
  else return []

def typePath (inner : Inner) : Writing (List String × Bool) := do
  let (ws, bare) ← if atMark "<" (← get) then qualified inner false else path inner false
  let args ← if bare then signature inner else pure []
  return (ws ++ args, bare && args.isEmpty)

def declaredBounds (inner : Inner) : Writer := do
  let colon ← mark? ":"
  if !colon.isEmpty && opensBound (← get) then return colon ++ (← inner (.bounds true))
  else return []

def parameter (inner : Inner) : Writing (Bool × List String) := do
  let attrs ← attributes
  let isLifetime := atLifetime (← get)
  if atWord "const" (← get) then
    let front := attrs ++ (← next) ++ (← next) ++ (← mark? ":") ++ (← inner (.type true))
    if atMark "=" (← get) then return (false, front ++ (← next) ++ (← constant inner))
    else return (false, front)
  else
    let front := attrs ++ (← next) ++ (← declaredBounds inner)
    if atMark "=" (← get) then return (isLifetime, front ++ (← next) ++ (← inner (.type true)))
    else return (isLifetime, front)

def parameters (inner : Inner) : Writer := do
  let opening ← mark? "<"
  if opening.isEmpty then return []
  let es ← elements (atMark ">") (parameter inner)
  let closing ← mark? ">"
  return if es.isEmpty then [] else opening ++ lifetimesFirst es ++ closing

def binder (inner : Inner) : Writer := do
  match ← get with
  | .leaf (.word "for") :: .leaf (.mark "<") :: _ =>
    let front := (← next) ++ (← next)
    let es ← elements (atMark ">") (parameter inner)
    return front ++ es.flatMap Element.all ++ (← mark? ">")
  | _ => return []

def captures : Writer := do
  let front := (← next) ++ (← mark? "<")
  let es ← elements (atMark ">") do return (atLifetime (← get), ← next)
  return front ++ lifetimesFirst es ++ (← mark? ">")

def traitBound (inner : Inner) : Writer := do
  let front ← binder inner
  match ← get with
  | .leaf (.mark "~") :: _ => return front ++ (← verbatim constBound)
  | .leaf (.word "const") :: _ => return front ++ (← verbatim constBound)
  | .group .bracket _ :: _ => return front ++ (← verbatim constBound)
  | _ =>
    let maybe ← mark? "?"
    return front ++ maybe ++ (← binder inner) ++ (← typePath inner).1
where
  constBound : Writer := do
    return (← mark? "~") ++ (← next) ++ (← typePath inner).1

def boundWriter (inner : Inner) : Writer := do
  match ← get with
  | .leaf (.lifetime _) :: _ => next
  | .leaf (.word "use") :: _ => captures
  | .group .parenthesis _ :: _ => group (traitBound inner)
  | _ => traitBound inner

def moreBounds (inner : Inner) (plus : Bool) : Writer :=
  if plus then
    many (atMark "+") do
      let mark ← next
      if opensBound (← get) then return mark ++ (← boundWriter inner) else return mark
  else return []

def boundsWriter (inner : Inner) (plus : Bool) : Writer := do
  if opensBound (← get) then return (← boundWriter inner) ++ (← moreBounds inner plus)
  else return []

def functionArgument (inner : Inner) : Writer := do
  let attrs ← attributes
  let name ←
    match ← get with
    | .leaf (.word _) :: .leaf (.mark ":") :: _ => do pure ((← next) ++ (← next))
    | .leaf (.word "mut") :: .leaf (.word _) :: .leaf (.mark ":") :: _ => do
      pure ((← next) ++ (← next) ++ (← next))
    | _ => pure []
  if atMark "." (← get) then return attrs ++ name ++ (← many (atMark ".") next)
  else return attrs ++ name ++ (← inner (.type true))

def functionType (inner : Inner) : Writer := do
  let front ← many (fun ts => !atGroup .parenthesis ts) next
  return front ++ (← groupOf .parenthesis (listedWhole (functionArgument inner))) ++
    (← result inner false)

def tuple (inner : Inner) : Writer :=
  group (listedWhole do
    if atMark "?" (← get) then traitBound inner else inner (.type true))

def array (inner : Inner) : Writer :=
  group do
    let element ← inner (.type true)
    let semicolon ← mark? ";"
    if semicolon.isEmpty then return element
    else return element ++ semicolon ++ (← inner (.expression true))

def namedType (inner : Inner) (plus : Bool) : Writer := do
  let (ws, bare) ← typePath inner
  match ← get with
  | .leaf (.mark "!") :: .group .. :: _ =>
    if bare then return ws ++ (← next) ++ (← next) else return ws
  | _ => return ws ++ (← moreBounds inner plus)

def typeWriter (inner : Inner) (plus : Bool) : Writer := do
  let front ← binder inner
  match ← get with
  | .group .parenthesis _ :: _ => return front ++ (← tuple inner) ++ (← moreBounds inner plus)
  | .group .bracket _ :: _ => return front ++ (← array inner)
  | .leaf (.mark "&") :: _ =>
    let mark ← next
    let lifetime ← if atLifetime (← get) then next else pure []
    return mark ++ lifetime ++ (← word? "mut") ++ (← inner (.type false))
  | .leaf (.mark "*") :: _ => return (← next) ++ (← next) ++ (← inner (.type false))
  | .leaf (.mark "!") :: _ => next
  | .leaf (.lifetime _) :: _ => boundsWriter inner plus
  | ts =>
    if atWordAmong ["fn", "unsafe", "extern"] ts then return front ++ (← functionType inner)
    else if atWord "dyn" ts then
      return front ++ (← next) ++ (← mark? "*") ++ (← boundsWriter inner plus)
    else if atWord "impl" ts then return front ++ (← next) ++ (← boundsWriter inner plus)
    else return front ++ (← namedType inner plus)

end RecordSql.Derive.Writer
